import Bosconian.EventMachine
import Bosconian.Hdl.StateController
import Bosconian.Hdl.Sprites

/-!
# The end screens

`State` is clocked by the pixels and forced by the live wires `lost` and `win`, while the game
behind the end screen keeps running. The results are about runs in which pixel clocks, frame
ticks and edges of `Reset` come in any order.

* `end_screens_absorbing_iff` — an end screen stays until `Reset` in exactly the runs in which
  no pixel clock finds the second base destroyed behind the losing screen.
* `win_final` — the winning screen means that both bases were hit since `Reset`, and two pixel
  clocks after that it is shown for good.
* `lost_game_stops_iff` — until `Reset` a lost game stays stopped in exactly the runs in which no
  movement key is down at a pixel clock after the pulse of `lost`.
-/

namespace Bosconian

open EventMachine

/-- The screens with no way out in the `Next_state` logic. -/
def Screen.IsEnd (x : Screen) : Prop := x = .win ∨ x = .lose

namespace GameEvent

def IsReset (e : GameEvent) : Prop := e = .posedgeReset

instance (e : GameEvent) : Decidable e.IsReset := by unfold IsReset; infer_instance

def isPixel : GameEvent → Bool
  | .posedgeVgaClk .. => true
  | _ => false

def isFrame : GameEvent → Bool
  | .posedgeFrameClk _ => true
  | _ => false

end GameEvent

namespace StateController

/-! ## The invariant -/

/-- What holds of the controller in every run. -/
structure Settled (s : StateController) : Prop where
  screen : s.state ≠ .pauseLost ∧ s.state ≠ .pauseWin
  held : s.reset = true → s.state = .startScreen ∧ s.moving = false ∧ s.game.win = false
  won : s.state = .win → s.game.win = true ∧ s.game.lost = false

theorem settled_powerUp : Settled powerUp where
  screen := by decide
  held := by decide
  won := by decide

/-- The state register moves to a pause screen only from one. -/
theorem stateNext_screen {s : StateController}
    (h : s.state ≠ .pauseLost ∧ s.state ≠ .pauseWin) :
    s.stateNext ≠ .pauseLost ∧ s.stateNext ≠ .pauseWin := by
  unfold stateNext nextState
  cases hst : s.state <;> simp [hst] at h ⊢ <;> split_ifs <;> simp

/-- Away from `Reset` the title screen is only shown again where it is shown. -/
theorem start_of_stateNext {s : StateController} (hreset : s.reset = false)
    (hnext : s.stateNext = .startScreen) : s.state = .startScreen := by
  by_contra hstate
  revert hnext
  rw [stateNext, hreset, if_neg Bool.false_ne_true]
  split_ifs
  · simp
  · simp
  · cases hs : s.state with
    | startScreen => exact absurd hs hstate
    | _ => simp only [nextState, hs]; (try split_ifs) <;> simp

/-- The winning screen comes from the flags alone. -/
theorem win_of_stateNext {s : StateController} (h : s.Settled) (hnext : s.stateNext = .win) :
    s.game.win = true := by
  by_contra hwin
  have hstate : s.state ≠ .win := fun hst => hwin (h.won hst).1
  have hpause := h.screen.2
  revert hnext
  unfold stateNext nextState
  cases hst : s.state <;> simp [hst, hwin] at hstate hpause ⊢ <;> split_ifs <;> simp

/-- Under an end screen `Reset` is low. -/
theorem Settled.reset_of_isEnd {s : StateController} (h : s.Settled) (hend : s.state.IsEnd) :
    s.reset = false := by
  by_contra hreset
  have hstart := (h.held (by simpa using hreset)).1
  rcases hend with hst | hst <;> rw [hstart] at hst <;> cases hst

theorem Settled.reset_of_win {s : StateController} (h : s.Settled) (hwin : s.game.win = true) :
    s.reset = false := by
  by_contra hreset
  rw [(h.held (by simpa using hreset)).2.2] at hwin
  cases hwin

theorem settled_posedgeVgaClk {s : StateController} (h : s.Settled) (drawX drawY : BitVec 10)
    (keycode : BitVec 8) : (s.posedgeVgaClk drawX drawY keycode).Settled where
  screen := stateNext_screen h.screen
  held := by
    intro hreset
    rw [reset_posedgeVgaClk] at hreset
    have hwin := (h.held hreset).2.2
    refine ⟨?_, ?_, hwin⟩
    · show s.stateNext = .startScreen
      simp [stateNext, hreset]
    · show s.movingNext keycode = false
      simp [movingNext, hreset]
  won := by
    intro hst
    have hwin := win_of_stateNext h hst
    exact ⟨hwin, DisplayGame.lost_posedgeVgaClk_of_win hwin drawX drawY⟩

theorem settled_posedgeFrameClk {s : StateController} (h : s.Settled) (keycode : BitVec 8) :
    (s.posedgeFrameClk keycode).Settled where
  screen := h.screen
  held := by
    intro hreset
    change s.reset = true at hreset
    obtain ⟨hst, hmoving, -⟩ := h.held hreset
    refine ⟨hst, hmoving, ?_⟩
    show (s.game.posedgeFrameClk s.reset s.moving keycode).win = false
    simp [DisplayGame.win, DisplayGame.posedgeFrameClk, DisplayGame.baseHitNext, hreset]
  won := by
    intro hst
    change s.state = .win at hst
    have hreset := h.reset_of_isEnd (.inl hst)
    obtain ⟨hwin, hlost⟩ := h.won hst
    constructor
    · show (s.game.posedgeFrameClk s.reset s.moving keycode).win = true
      rw [hreset]
      exact DisplayGame.win_posedgeFrameClk hwin s.moving keycode
    · show (s.game.posedgeFrameClk s.reset s.moving keycode).lost = false
      rw [DisplayGame.lost_posedgeFrameClk, hlost]

theorem settled_step (roms : Roms) {s : StateController} (h : s.Settled) (e : GameEvent) :
    (step roms s e).Settled := by
  cases e with
  | posedgeVgaClk drawX drawY keycode => exact settled_posedgeVgaClk h drawX drawY keycode
  | negedgeVgaClk drawX drawY => exact ⟨h.screen, h.held, h.won⟩
  | posedgeFrameClk keycode => exact settled_posedgeFrameClk h keycode
  | posedgeReset => exact ⟨by simp [step, posedgeReset], fun _ => ⟨rfl, rfl, rfl⟩, nofun⟩
  | negedgeReset => exact ⟨h.screen, nofun, h.won⟩

theorem settled_run (roms : Roms) (es : List GameEvent) :
    (run (step roms) powerUp es).Settled :=
  run_invariant (P := Settled) (fun _ e h => settled_step roms h e) settled_powerUp es

/-! ## Are the end screens final? -/

/-- No pixel clock finds the losing screen with both bases destroyed and `lost` low. -/
def NotWonAfterLoss (s : StateController) : GameEvent → Prop
  | .posedgeVgaClk .. => s.state = .lose → s.game.win = true → s.game.lost = true
  | _ => True

/-- An end screen survives a step exactly when this is not what the step finds. -/
theorem state_step_iff (roms : Roms) {s : StateController} (h : s.Settled)
    (hend : s.state.IsEnd) {e : GameEvent} (he : ¬ e.IsReset) :
    (step roms s e).state = s.state ↔ s.NotWonAfterLoss e := by
  have hreset := h.reset_of_isEnd hend
  cases e with
  | posedgeVgaClk drawX drawY keycode =>
    show s.stateNext = s.state ↔ (s.state = .lose → s.game.win = true → s.game.lost = true)
    rcases hend with hst | hst
    · obtain ⟨hwin, hlost⟩ := h.won hst
      simp [stateNext, hreset, hst, hwin, hlost]
    · cases hlost : s.game.lost <;> cases hwin : s.game.win <;>
        simp [stateNext, nextState, hreset, hst, hwin, hlost]
  | posedgeReset => exact absurd rfl he
  | negedgeVgaClk drawX drawY => exact iff_of_true rfl trivial
  | posedgeFrameClk keycode => exact iff_of_true rfl trivial
  | negedgeReset => exact iff_of_true rfl trivial

theorem state_held_iff (roms : Roms) {s : StateController} (h : s.Settled) (e : GameEvent) :
    (¬ e.IsReset → s.state.IsEnd → (step roms s e).state = s.state) ↔ s.NotWonAfterLoss e := by
  by_cases he : e.IsReset
  · rw [GameEvent.IsReset] at he
    subst he
    exact iff_of_true (fun hn => absurd rfl hn) trivial
  by_cases hend : s.state.IsEnd
  · rw [← state_step_iff roms h hend he]
    exact ⟨fun hs => hs he hend, fun hs _ _ => hs⟩
  · refine iff_of_true (fun _ hs => absurd hs hend) ?_
    cases e with
    | posedgeVgaClk drawX drawY keycode => exact fun hst => absurd (.inr hst) hend
    | _ => trivial

end StateController

open StateController

/-- **The end screens.** In every run, an end screen once shown is shown until `Reset` exactly
when no pixel clock finds both bases destroyed behind the losing screen and `lost` low. -/
theorem end_screens_absorbing_iff (roms : Roms) (es : List GameEvent) :
    (∀ ds fs, ds ++ fs <+: es → (∀ e ∈ fs, ¬ e.IsReset) →
        (run (step roms) powerUp ds).state.IsEnd →
        (run (step roms) powerUp (ds ++ fs)).state = (run (step roms) powerUp ds).state) ↔
      EachStep (step roms) NotWonAfterLoss powerUp es := by
  rw [held_iff_eachStep (step roms) StateController.state Screen.IsEnd GameEvent.IsReset]
  exact eachStep_congr (J := Settled) (fun _ e h => settled_step roms h e)
    (fun _ e h => state_held_iff roms h e) settled_powerUp es

/-! ### A game won after it was lost -/

/-- One frame after another with the same key. -/
def frames (n : Nat) (keycode : BitVec 8) : List GameEvent :=
  List.replicate n (.posedgeFrameClk keycode)

/-- The pixel `(drawX, drawY)` and what follows it until `State` has seen it. -/
def pixel (drawX drawY : BitVec 10) (keycode : BitVec 8) : List GameEvent :=
  [.negedgeVgaClk drawX drawY, .posedgeVgaClk drawX drawY keycode, .posedgeVgaClk 0 0 keycode,
    .posedgeVgaClk 0 0 keycode]

/-- Down and right to the second base and a shot, until its bullet meets the ship. -/
def losingRun : List GameEvent :=
  .posedgeVgaClk 0 0 0x16 :: frames 95 0x16 ++ frames 84 0x07 ++ frames 1 0x2C ++ frames 6 0x07
    ++ pixel 321 241 0x07

/-- The key is still down: the shot hits the second base, and another one the first. -/
def winningRun : List GameEvent :=
  .posedgeVgaClk 0 0 0x07 :: frames 8 0x07 ++ frames 194 0x1A ++ frames 30 0x04
    ++ frames 2 0x2C ++ frames 54 0x04 ++ [.posedgeVgaClk 0 0 0x04]

/-- The losing screen gives way to the winning one. -/
theorem end_screens_not_absorbing :
    ¬ ∀ ds fs, ds ++ fs <+: losingRun ++ winningRun → (∀ e ∈ fs, ¬ e.IsReset) →
        (run (step sprites) powerUp ds).state.IsEnd →
        (run (step sprites) powerUp (ds ++ fs)).state = (run (step sprites) powerUp ds).state := by
  intro h
  have hlose : (run (step sprites) powerUp losingRun).state = .lose := by decide +kernel
  have hwin : (run (step sprites) powerUp (losingRun ++ winningRun)).state = .win := by
    decide +kernel
  have heq := h losingRun winningRun List.prefix_rfl (by decide +kernel) (.inr hlose)
  rw [hlose, hwin] at heq
  cases heq

/-! ## Winning -/

namespace StateController

/-- A frame tick since the last `Reset` found the hit register `hit` high. -/
def HitSinceReset (roms : Roms) (hit : DisplayGame → Bool) (es : List GameEvent) : Prop :=
  ∃ ds keycode fs, es = ds ++ .posedgeFrameClk keycode :: fs ∧
    hit (run (step roms) powerUp ds).game = true ∧ ∀ e ∈ fs, ¬ e.IsReset

/-- A latch that a step leaves high was set by it or was high before. -/
theorem latch_step (roms : Roms) {flag hit : DisplayGame → Bool} (hl : DisplayGame.IsLatch flag hit)
    (s : StateController) (e : GameEvent) (h : flag (step roms s e).game = true) :
    (∃ keycode, e = .posedgeFrameClk keycode ∧ hit s.game = true) ∨
      flag s.game = true ∧ ¬ e.IsReset := by
  cases e with
  | posedgeFrameClk keycode =>
    change flag (s.game.posedgeFrameClk s.reset s.moving keycode) = true at h
    rw [hl.posedgeFrameClk, DisplayGame.baseHitNext] at h
    split_ifs at h with hreset hhit
    · exact .inl ⟨keycode, rfl, hhit⟩
    · exact .inr ⟨h, by simp [GameEvent.IsReset]⟩
  | posedgeReset =>
    change flag s.game.posedgeReset = true at h
    rw [hl.posedgeReset] at h
    cases h
  | posedgeVgaClk drawX drawY keycode =>
    refine .inr ⟨(hl.posedgeVgaClk drawX drawY s.game).symm.trans h, ?_⟩
    simp [GameEvent.IsReset]
  | negedgeVgaClk drawX drawY =>
    refine .inr ⟨(hl.negedgeVgaClk roms drawX drawY s.game).symm.trans h, ?_⟩
    simp [GameEvent.IsReset]
  | negedgeReset => exact .inr ⟨h, by simp [GameEvent.IsReset]⟩

/-- A latch is high only if its base was hit since `Reset`. -/
theorem hitSinceReset_of_latch (roms : Roms) {flag hit : DisplayGame → Bool}
    (hl : DisplayGame.IsLatch flag hit) (es : List GameEvent)
    (hes : flag (run (step roms) powerUp es).game = true) : HitSinceReset roms hit es := by
  have hlow : ¬ flag powerUp.game = true := by
    show ¬ flag DisplayGame.powerUp = true
    simp [hl.powerUp]
  obtain ⟨ds, e, fs, heq, ⟨keycode, rfl, hhit⟩, hfs⟩ :=
    run_latched (P := fun s => flag s.game = true) (fun s e => latch_step roms hl s e) hlow es hes
  exact ⟨ds, keycode, fs, heq, hhit, hfs⟩

/-- Without `Reset` a won game stays won. -/
theorem win_step (roms : Roms) {s : StateController} (h : s.Settled) (hwin : s.game.win = true)
    {e : GameEvent} (he : ¬ e.IsReset) : (step roms s e).game.win = true := by
  cases e with
  | posedgeFrameClk keycode =>
    show (s.game.posedgeFrameClk s.reset s.moving keycode).win = true
    rw [h.reset_of_win hwin]
    exact DisplayGame.win_posedgeFrameClk hwin s.moving keycode
  | posedgeReset => exact absurd rfl he
  | posedgeVgaClk drawX drawY keycode => exact hwin
  | negedgeVgaClk drawX drawY => exact hwin
  | negedgeReset => exact hwin

/-- How far a won game has got, by the pixel clocks since: first `lost` goes low, then `State`
follows `win`. -/
structure Won (n : Nat) (s : StateController) : Prop where
  settled : s.Settled
  win : s.game.win = true
  lost : 1 ≤ n → s.game.lost = false
  state : 2 ≤ n → s.state = .win

theorem won_step (roms : Roms) {n : Nat} {s : StateController} (h : Won n s) {e : GameEvent}
    (he : ¬ e.IsReset) : Won (if e.isPixel then n + 1 else n) (step roms s e) := by
  refine ⟨settled_step roms h.settled e, win_step roms h.settled h.win he, ?_, ?_⟩
  · cases e with
    | posedgeVgaClk drawX drawY keycode =>
      exact fun _ => DisplayGame.lost_posedgeVgaClk_of_win h.win drawX drawY
    | posedgeFrameClk keycode =>
      intro hn
      show (s.game.posedgeFrameClk s.reset s.moving keycode).lost = false
      rw [DisplayGame.lost_posedgeFrameClk]
      exact h.lost hn
    | posedgeReset => exact absurd rfl he
    | negedgeVgaClk drawX drawY => exact h.lost
    | negedgeReset => exact h.lost
  · cases e with
    | posedgeVgaClk drawX drawY keycode =>
      intro hn
      have hlost := h.lost (Nat.le_of_succ_le_succ hn)
      show s.stateNext = .win
      simp [stateNext, h.settled.reset_of_win h.win, hlost, h.win]
    | posedgeReset => exact absurd rfl he
    | posedgeFrameClk keycode => exact h.state
    | negedgeVgaClk drawX drawY => exact h.state
    | negedgeReset => exact h.state

theorem won_run (roms : Roms) {s : StateController} {n : Nat} (h : Won n s)
    {fs : List GameEvent} (hfs : ∀ e ∈ fs, ¬ e.IsReset) :
    Won (n + fs.countP GameEvent.isPixel) (run (step roms) s fs) := by
  induction fs generalizing s n with
  | nil => exact h
  | cons e fs ih =>
    rw [List.forall_mem_cons] at hfs
    have hnext := ih (won_step roms h hfs.1) hfs.2
    rw [List.countP_cons]
    by_cases he : e.isPixel
    · simpa [he, Nat.add_assoc, Nat.add_comm 1] using hnext
    · simpa [he] using hnext

end StateController

/-- **Winning.** The winning screen means that both bases were hit since the last `Reset`. From
any reachable state with both flags set, `lost` is low after the first pixel clock and the
winning screen is shown after the second, until `Reset`. -/
theorem win_final (roms : Roms) (es : List GameEvent) :
    ((run (step roms) powerUp es).state = .win →
      (run (step roms) powerUp es).game.win = true ∧
        HitSinceReset roms DisplayGame.enemyHitOne es ∧
        HitSinceReset roms DisplayGame.enemyHitTwo es) ∧
    ((run (step roms) powerUp es).game.win = true → ∀ fs, (∀ e ∈ fs, ¬ e.IsReset) →
      (1 ≤ fs.countP GameEvent.isPixel →
        (run (step roms) powerUp (es ++ fs)).game.lost = false) ∧
      (2 ≤ fs.countP GameEvent.isPixel → (run (step roms) powerUp (es ++ fs)).state = .win)) := by
  have hsettled := settled_run roms es
  constructor
  · intro hst
    have hwin := (hsettled.won hst).1
    obtain ⟨hone, htwo⟩ := (DisplayGame.win_iff _).1 hwin
    exact ⟨hwin, hitSinceReset_of_latch roms DisplayGame.isLatch_one es hone,
      hitSinceReset_of_latch roms DisplayGame.isLatch_two es htwo⟩
  · intro hwin fs hfs
    have hwon : Won 0 (run (step roms) powerUp es) :=
      ⟨hsettled, hwin, fun h => absurd h (by decide), fun h => absurd h (by decide)⟩
    have hafter := won_run roms hwon hfs
    rw [Nat.zero_add] at hafter
    rw [run_append]
    exact ⟨hafter.lost, hafter.state⟩

theorem win_final_winningRun :
    HitSinceReset sprites DisplayGame.enemyHitOne (losingRun ++ winningRun) ∧
    HitSinceReset sprites DisplayGame.enemyHitTwo (losingRun ++ winningRun) ∧
    (run (step sprites) powerUp (losingRun ++ winningRun ++ pixel 321 241 0x07)).state = .win := by
  have hfinal := win_final sprites (losingRun ++ winningRun)
  obtain ⟨-, hone, htwo⟩ := hfinal.1 (by decide +kernel)
  exact ⟨hone, htwo, (hfinal.2 (by decide +kernel) _ (by decide)).2 (by decide)⟩

/-! ## Losing -/

namespace StateController

/-- The game has stopped, by the frame ticks since: the direction registers go to 0 at the
first, `ship_orientation` takes them over at the second. -/
structure Stopped (n : Nat) (s : StateController) : Prop where
  moving : s.moving = false
  directions : 1 ≤ n → s.game.directions = 0
  shipOrientation : 2 ≤ n → s.game.shipOrientation = 0

/-- A tick with `moving` low clears the direction registers, whatever the key. -/
theorem directions_posedgeFrameClk (reset : Bool) (keycode : BitVec 8) (g : DisplayGame) :
    (g.posedgeFrameClk reset false keycode).directions = 0 := by
  have hsteer : g.steer false keycode = ⟨false, false, false, false⟩ := by simp [DisplayGame.steer]
  simp only [DisplayGame.directions, DisplayGame.posedgeFrameClk, hsteer]
  decide

theorem stopped_step (roms : Roms) {n : Nat} {s : StateController} (h : Stopped n s)
    (e : GameEvent) (hmoving : (step roms s e).moving = false) :
    Stopped (if e.isFrame then n + 1 else n) (step roms s e) := by
  cases e with
  | posedgeFrameClk keycode =>
    refine ⟨hmoving, fun _ => ?_, fun hn => h.directions (Nat.le_of_succ_le_succ hn)⟩
    show (s.game.posedgeFrameClk s.reset s.moving keycode).directions = 0
    rw [h.moving]
    exact directions_posedgeFrameClk s.reset keycode s.game
  | posedgeVgaClk drawX drawY keycode => exact ⟨hmoving, h.directions, h.shipOrientation⟩
  | negedgeVgaClk drawX drawY => exact ⟨hmoving, h.directions, h.shipOrientation⟩
  | posedgeReset => exact ⟨hmoving, h.directions, h.shipOrientation⟩
  | negedgeReset => exact ⟨hmoving, h.directions, h.shipOrientation⟩

theorem stopped_run (roms : Roms) {n : Nat} {s : StateController} (h : Stopped n s)
    {es : List GameEvent} (hes : Always (step roms) (fun t => t.moving = false) s es) :
    Stopped (n + es.countP GameEvent.isFrame) (run (step roms) s es) := by
  induction es generalizing s n with
  | nil => exact h
  | cons e es ih =>
    rw [always_cons] at hes
    have hnext := ih (stopped_step roms h e hes.2.start) hes.2
    rw [List.countP_cons]
    by_cases he : e.isFrame
    · simpa [he, Nat.add_assoc, Nat.add_comm 1] using hnext
    · simpa [he] using hnext

/-- No movement key is down at a pixel clock that finds `Reset`, `lost` and `win` low. -/
def KeysUp (s : StateController) : GameEvent → Prop
  | .posedgeVgaClk _ _ keycode =>
    s.reset = false → s.game.lost = false → s.game.win = false → ¬ IsMoveKey keycode
  | _ => True

/-- With `moving` low, a step leaves it low exactly when this holds of it. -/
theorem moving_step_iff (roms : Roms) {s : StateController} (h : s.moving = false)
    (e : GameEvent) : (step roms s e).moving = false ↔ s.KeysUp e := by
  cases e with
  | posedgeVgaClk drawX drawY keycode =>
    show s.movingNext keycode = false ↔
      (s.reset = false → s.game.lost = false → s.game.win = false → ¬ IsMoveKey keycode)
    cases hreset : s.reset <;> cases hlost : s.game.lost <;> cases hwin : s.game.win <;>
      by_cases hkey : IsMoveKey keycode <;> simp [movingNext, hreset, hlost, hwin, hkey, h]
  | posedgeReset => exact iff_of_true rfl trivial
  | negedgeVgaClk drawX drawY => exact iff_of_true h trivial
  | posedgeFrameClk keycode => exact iff_of_true h trivial
  | negedgeReset => exact iff_of_true h trivial

theorem moving_always_iff (roms : Roms) {s : StateController} (h : s.moving = false)
    (es : List GameEvent) :
    Always (step roms) (fun t => t.moving = false) s es ↔ EachStep (step roms) KeysUp s es :=
  always_iff_eachStep (J := fun _ => True) (P := fun t : StateController => t.moving = false)
    (fun _ _ h => h) (fun _ e _ h hG => (moving_step_iff roms h e).2 hG)
    (fun _ e _ h h' => (moving_step_iff roms h e).1 h') trivial h es

/-- A pixel clock that sees `lost` stops the game. -/
theorem moving_of_lost {s : StateController} (h : s.game.lost = true) (drawX drawY : BitVec 10)
    (keycode : BitVec 8) : (s.posedgeVgaClk drawX drawY keycode).moving = false := by
  show s.movingNext keycode = false
  simp [movingNext, h]

/-- The events until the next `Reset`, none if it is high already. -/
def untilReset (s : StateController) (es : List GameEvent) : List GameEvent :=
  if s.reset then [] else es.takeWhile fun e => !decide e.IsReset

/-- What is expected of a lost game in state `s` while the events `es` come: until the next
`Reset` it does not move, and from the second frame tick on the scene takes no direction step. -/
def StaysStopped (roms : Roms) (s : StateController) (es : List GameEvent) : Prop :=
  Always (step roms) (fun t => t.moving = false) s (untilReset s es) ∧
    ∀ ds, ds <+: untilReset s es → 2 ≤ ds.countP GameEvent.isFrame →
      (run (step roms) s ds).game.directions = 0 ∧
        ¬ IsStep (run (step roms) s ds).game.shipOrientation

/-- Until the next `Reset` no movement key is down at a pixel clock that finds `lost` and `win`
low. -/
def KeysStayUp (roms : Roms) (s : StateController) (es : List GameEvent) : Prop :=
  EachStep (step roms) KeysUp s (untilReset s es)

theorem staysStopped_iff (roms : Roms) {s : StateController} (hmoving : s.moving = false)
    (es : List GameEvent) : StaysStopped roms s es ↔ KeysStayUp roms s es := by
  have hiff := moving_always_iff roms hmoving (untilReset s es)
  constructor
  · intro h
    exact hiff.1 h.1
  · intro h
    have halways := hiff.2 h
    refine ⟨halways, fun fs hfs hcount => ?_⟩
    have hstopped : Stopped 0 s :=
      ⟨hmoving, fun h => absurd h (by decide), fun h => absurd h (by decide)⟩
    have hrun := stopped_run roms hstopped (halways.of_prefix hfs)
    rw [Nat.zero_add] at hrun
    refine ⟨hrun.directions (Nat.le_of_succ_le hcount), ?_⟩
    rw [hrun.shipOrientation hcount]
    decide

end StateController

/-- **Losing.** After a pixel clock that sees `lost` the game stays stopped until the next `Reset`
exactly when until then no movement key is down at any pixel clock that finds `lost` low again. -/
theorem lost_game_stops_iff (roms : Roms) (ds : List GameEvent) (drawX drawY : BitVec 10)
    (keycode : BitVec 8) (es : List GameEvent)
    (hlost : (run (step roms) powerUp ds).game.lost = true) :
    StaysStopped roms
        (run (step roms) powerUp (ds ++ [.posedgeVgaClk drawX drawY keycode])) es ↔
      KeysStayUp roms
        (run (step roms) powerUp (ds ++ [.posedgeVgaClk drawX drawY keycode])) es := by
  rw [run_concat]
  have hmoving : (step roms (run (step roms) powerUp ds)
      (.posedgeVgaClk drawX drawY keycode)).moving = false :=
    moving_of_lost hlost drawX drawY keycode
  exact staysStopped_iff roms hmoving es

/-- The key starts a new game once `Reset` has come. -/
theorem lost_game_stops_losingRun :
    StaysStopped sprites (run (step sprites) powerUp
      (losingRun.dropLast ++ [.posedgeVgaClk 0 0 0x07]))
      (frames 3 0x07 ++ [.posedgeReset, .negedgeReset, .posedgeVgaClk 0 0 0x07]) := by
  rw [lost_game_stops_iff sprites losingRun.dropLast 0 0 0x07 _ (by decide +kernel), KeysStayUp]
  have huntil : untilReset (run (step sprites) powerUp
      (losingRun.dropLast ++ [.posedgeVgaClk 0 0 0x07]))
      (frames 3 0x07 ++ [.posedgeReset, .negedgeReset, .posedgeVgaClk 0 0 0x07]) =
        frames 3 0x07 := by decide +kernel
  rw [huntil]
  intro ds e hds
  have he : e ∈ frames 3 0x07 := hds.subset (by simp)
  rw [List.eq_of_mem_replicate he]
  trivial

/-- With the key held down the lost game moves on. -/
theorem lost_game_moves_on :
    ¬ StaysStopped sprites (run (step sprites) powerUp
      (losingRun.dropLast ++ [.posedgeVgaClk 0 0 0x07]))
      (.posedgeVgaClk 0 0 0x07 :: frames 3 0x07) := by
  intro h
  have huntil : untilReset (run (step sprites) powerUp
      (losingRun.dropLast ++ [.posedgeVgaClk 0 0 0x07]))
      (.posedgeVgaClk 0 0 0x07 :: frames 3 0x07) = .posedgeVgaClk 0 0 0x07 :: frames 3 0x07 := by
    decide +kernel
  have hscroll : IsStep (run (step sprites) (run (step sprites) powerUp
      (losingRun.dropLast ++ [.posedgeVgaClk 0 0 0x07]))
      (.posedgeVgaClk 0 0 0x07 :: frames 3 0x07)).game.shipOrientation := by decide +kernel
  exact (h.2 _ (by rw [huntil]) (by decide)).2 hscroll

end Bosconian
