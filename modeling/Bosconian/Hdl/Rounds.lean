import Bosconian.Hdl.Picture
import Bosconian.Hdl.Reset

/-!
# The game at the rate of its frames

A frame of the raster is 420,000 pixels, and all that a player sees of it is one tick: the scene
moves on, and the screen may change. This file has that game as a machine of its own, with one step
a frame, and the whole design as a refinement of it.

* `Round.step` — a frame is won if both bases are hit, lost if a pixel of the ship is one of a
  hazard, and otherwise it is one tick of the frame clock on the keys.
* `frames_refine` — from power-up or a `Reset` outside the box of the ship, the design after each
  frame tick is the game after as many steps, until the game is over, and then it shows how it
  ended.
-/

namespace Bosconian

open EventMachine

/-! ## The registers of the frame clock -/

namespace DisplayGame

/-- The registers of the frame clock, with those of the pixel clock cleared. -/
def still (s : DisplayGame) : DisplayGame :=
  { s with
    shipOn := false
    bulletOn := false
    enemyBaseOneOn := false
    enemyBaseTwoOn := false
    collision := false
    enemyB1BulletCollision := false
    enemyB2BulletCollision := false
    enemyBaseOneShootBullet := false
    enemyBaseTwoShootBullet := false
    userShip := ⟨0, 0, 0, 0⟩
    enemyBaseOne := { s.enemyBaseOne with romQ := 0 }
    enemyBaseTwo := { s.enemyBaseTwo with romQ := 0 } }

@[simp] theorem win_still (s : DisplayGame) : s.still.win = s.win := rfl

@[simp] theorem still_posedgeVgaClk (drawX drawY : BitVec 10) (s : DisplayGame) :
    (s.posedgeVgaClk drawX drawY).still = s.still := by
  unfold posedgeVgaClk
  rw [Display.bgkAfterEdge_eq]
  rfl

@[simp] theorem still_negedgeVgaClk (roms : Roms) (drawX drawY : BitVec 10) (s : DisplayGame) :
    (s.negedgeVgaClk roms drawX drawY).still = s.still := rfl

/-- Away from a collision a frame tick does not read the registers of the pixel clock. -/
theorem still_posedgeFrameClk {s : DisplayGame} (h : s.collision = false) (reset moving : Bool)
    (keycode : BitVec 8) :
    (s.posedgeFrameClk reset moving keycode).still =
      s.still.posedgeFrameClk reset moving keycode := by
  have hsteer : s.steer moving keycode = s.still.steer moving keycode := by
    simp only [steer, h]
    rfl
  unfold posedgeFrameClk
  rw [hsteer, h]
  rfl

end DisplayGame

/-! ## One step a frame -/

/-- A base at this corner lies above the ship or below it. -/
def Corner.OffShip (c : Corner) : Prop :=
  c.tlCornerY.toNat + 72 < 233 ∨ 247 < c.tlCornerY.toNat

instance (c : Corner) : Decidable c.OffShip := by
  unfold Corner.OffShip; infer_instance

theorem Corner.OffShip.not_mem_pixels {c : Corner} (h : c.OffShip) (roms : Roms) {p : Pixel}
    (hbox : DisplayGame.shipBox p.1 p.2 = true) : p ∉ c.pixels roms := by
  rintro ⟨hbase, -⟩
  obtain ⟨-, htop, hbottom⟩ := (DisplayGame.shipBox_iff p).1 hbox
  have hsize : DisplayGame.baseSizeY.toNat = 72 := rfl
  have hlines := (Words.inBox_iff _ _ _).1 (Bool.and_eq_true_iff.1 hbase).2
  rcases h with habove | hbelow <;> omega

/-- What a frame tick leaves: the screen, `moving` and the scene. -/
structure Round where
  screen : Screen
  moving : Bool
  game : DisplayGame
deriving DecidableEq, Repr

/-- The keys of a frame: whether a movement key was down at a pixel before the last one, and the
key at the tick. -/
structure RoundKeys where
  held : Bool
  keycode : BitVec 8
deriving DecidableEq, Repr

namespace Round

/-- A frame that goes on. -/
def tick (e : RoundKeys) (s : Round) : Round where
  screen := if s.screen = .play ∨ s.moving = true ∨ e.held = true then .play else .startScreen
  moving := s.moving || e.held || decide (StateController.IsMoveKey e.keycode)
  game := s.game.posedgeFrameClk false
    (s.moving || e.held || decide (StateController.IsMoveKey e.keycode)) e.keycode

/-- The ship is on a standing base or on a bullet of one. -/
def Crashed (roms : Roms) (s : Round) : Prop :=
  (s.game.layout.ship roms ∩ s.game.layout.hazards roms).Nonempty

open Classical in
/-- One frame. Nothing moves any more once the game is over. -/
noncomputable def step (roms : Roms) (s : Round) (e : RoundKeys) : Round :=
  if s.screen.IsEnd then s
  else if s.game.win = true then { s with screen := .win }
  else if s.Crashed roms then { s with screen := .lose }
  else s.tick e

/-- The game is on. -/
def IsOn (s : Round) : Prop := s.screen = .startScreen ∨ s.screen = .play

theorem IsOn.not_isEnd {s : Round} (h : s.IsOn) : ¬ s.screen.IsEnd := by
  rintro (hend | hend) <;> rcases h with hon | hon <;> rw [hon] at hend <;> cases hend

theorem isOn_tick (e : RoundKeys) (s : Round) : (s.tick e).IsOn := by
  unfold tick IsOn
  split_ifs
  · exact .inr rfl
  · exact .inl rfl

/-- There are no hazards left in a won game. -/
theorem not_crashed_of_win {roms : Roms} {s : Round} (h : s.game.win = true) :
    ¬ s.Crashed roms := by
  rintro ⟨p, -, hp⟩
  obtain ⟨hone, htwo⟩ := (DisplayGame.win_iff s.game).1 h
  rcases hp with ⟨hstands, -⟩ | ⟨hstands, -⟩
  · exact absurd hone (by simp [show s.game.enemyOneBaseHit = false from hstands])
  · exact absurd htwo (by simp [show s.game.enemyTwoBaseHit = false from hstands])

/-- No base is on a line of the ship, no bullet of one is shown, and not both are hit. -/
structure Unhindered (s : Round) : Prop where
  one : s.game.enemyBaseOne.toCorner.OffShip
  two : s.game.enemyBaseTwo.toCorner.OffShip
  bulletOne : s.game.baseEnemyBullet.showBullet = false
  bulletTwo : s.game.baseEnemyBullet2.showBullet = false
  win : s.game.win = false

instance (s : Round) : Decidable s.Unhindered :=
  decidable_of_iff
    (s.game.enemyBaseOne.toCorner.OffShip ∧ s.game.enemyBaseTwo.toCorner.OffShip ∧
      s.game.baseEnemyBullet.showBullet = false ∧ s.game.baseEnemyBullet2.showBullet = false ∧
      s.game.win = false)
    ⟨fun ⟨hone, htwo, hbulletOne, hbulletTwo, hwin⟩ => ⟨hone, htwo, hbulletOne, hbulletTwo, hwin⟩,
      fun h => ⟨h.one, h.two, h.bulletOne, h.bulletTwo, h.win⟩⟩

theorem Unhindered.not_crashed {s : Round} (h : s.Unhindered) (roms : Roms) :
    ¬ s.Crashed roms := by
  have hbullet {e : EnemyBullet} (he : e.showBullet = false) {p : Pixel} : p ∉ e.pixels :=
    fun hp => Bool.false_ne_true (he.symm.trans hp.1)
  rintro ⟨p, ⟨hbox, -⟩, ⟨-, hone | hone⟩ | ⟨-, htwo | htwo⟩⟩
  · exact h.one.not_mem_pixels roms hbox hone
  · exact hbullet h.bulletOne hone
  · exact h.two.not_mem_pixels roms hbox htwo
  · exact hbullet h.bulletTwo htwo

theorem isOn_or_isEnd_step (roms : Roms) (s : Round) (e : RoundKeys) :
    (s.step roms e).IsOn ∨ (s.step roms e).screen.IsEnd := by
  unfold step
  split_ifs with hend hwin hcrash
  · exact .inr hend
  · exact .inr (.inl rfl)
  · exact .inr (.inr rfl)
  · exact .inl (isOn_tick e s)

section Step

variable {roms : Roms} {s : Round} {e : RoundKeys}

theorem step_of_isEnd (h : s.screen.IsEnd) : s.step roms e = s := if_pos h

theorem step_of_win (hon : s.IsOn) (h : s.game.win = true) :
    s.step roms e = { s with screen := .win } := by
  rw [step, if_neg hon.not_isEnd, if_pos h]

theorem step_of_crashed (hon : s.IsOn) (h : s.Crashed roms) :
    s.step roms e = { s with screen := .lose } := by
  have hwin : ¬ s.game.win = true := fun hwin => not_crashed_of_win hwin h
  rw [step, if_neg hon.not_isEnd, if_neg hwin, if_pos h]

theorem step_of_safe (hon : s.IsOn) (hwin : s.game.win = false) (h : ¬ s.Crashed roms) :
    s.step roms e = s.tick e := by
  rw [step, if_neg hon.not_isEnd, if_neg (by simp [hwin]), if_neg h]

end Step

end Round

/-! ## The pixels of a frame -/

namespace StateController

/-- What a frame tick leaves, in the controller. -/
def round (s : StateController) : Round := ⟨s.state, s.moving, s.game.still⟩

/-- An end screen gives way to the winning screen only. -/
theorem isEnd_step (roms : Roms) {s : StateController} (h : s.Settled) (hend : s.state.IsEnd)
    {e : GameEvent} (he : ¬ e.IsReset) :
    (step roms s e).state.IsEnd ∧ (s.state = .win → (step roms s e).state = .win) := by
  have hreset := h.reset_of_isEnd hend
  cases e with
  | posedgeVgaClk drawX drawY keycode =>
    show s.stateNext.IsEnd ∧ (s.state = .win → s.stateNext = .win)
    rcases hend with hst | hst
    · obtain ⟨hwin, hlost⟩ := h.won hst
      simp [stateNext, hreset, hwin, hlost, Screen.IsEnd]
    · cases hlost : s.game.lost <;> cases hwin : s.game.win <;>
        simp [stateNext, nextState, hreset, hst, hwin, hlost, Screen.IsEnd]
  | posedgeReset => exact absurd rfl he
  | negedgeVgaClk drawX drawY => exact ⟨hend, id⟩
  | posedgeFrameClk keycode => exact ⟨hend, id⟩
  | negedgeReset => exact ⟨hend, id⟩

theorem isEnd_run (roms : Roms) {s : StateController} (h : s.Settled) (hend : s.state.IsEnd)
    {es : List GameEvent} (hes : ∀ e ∈ es, ¬ e.IsReset) :
    (run (step roms) s es).state.IsEnd ∧
      (s.state = .win → (run (step roms) s es).state = .win) := by
  induction es generalizing s with
  | nil => exact ⟨hend, id⟩
  | cons e es ih =>
    rw [List.forall_mem_cons] at hes
    obtain ⟨hend', hwin⟩ := isEnd_step roms h hend hes.1
    obtain ⟨hlast, hwin'⟩ := ih (settled_step roms h e) hend' hes.2
    exact ⟨hlast, fun hw => hwin' (hwin hw)⟩

/-- The state register while the game is on. -/
theorem stateNext_of_safe {s : StateController} (hreset : s.reset = false)
    (hlost : s.game.lost = false) (hwin : s.game.win = false) (hon : s.round.IsOn) :
    s.stateNext = if s.state = .play ∨ s.moving = true then .play else .startScreen := by
  rcases hon with hst | hst
  · have hstate : s.state = .startScreen := hst
    simp [stateNext, nextState, hreset, hlost, hwin, hstate]
  · have hstate : s.state = .play := hst
    simp [stateNext, nextState, hreset, hlost, hwin, hstate]

theorem movingNext_of_safe {s : StateController} (hreset : s.reset = false)
    (hlost : s.game.lost = false) (hwin : s.game.win = false) (keycode : BitVec 8) :
    s.movingNext keycode = (s.moving || decide (IsMoveKey keycode)) := by
  by_cases hkey : IsMoveKey keycode
  · simp [movingNext, hreset, hlost, hwin, hkey]
  · simp [movingNext, hreset, hlost, hwin, hkey]

end StateController

namespace Design

theorem not_isReset_gameEvents (s : Design) (keycode : BitVec 8) :
    ∀ e ∈ s.gameEvents (.posedgeClk keycode), ¬ e.IsReset := by
  unfold gameEvents
  split_ifs <;> simp [GameEvent.IsReset]

section Frame

variable (roms : Roms) {s : Design} (keys : Nat → BitVec 8)

/-- The controller before pixel `j`. -/
def ctrlAt (s : Design) (j : Nat) : StateController := (scan roms s keys (2 * j)).ctrl

theorem game_ctrlAt (s : Design) (j : Nat) :
    (ctrlAt roms keys s j).game = gameAt roms keys s j := rfl

theorem reset_ctrlAt (h : s.Fresh) (j : Nat) : (ctrlAt roms keys s j).reset = false :=
  (atPixel_scan roms h keys j).reset

/-- The rising edge of a pixel. -/
theorem ctrl_scan_odd (h : s.Fresh) (j : Nat) :
    (scan roms s keys (2 * j + 1)).ctrl = (scan roms s keys (2 * j)).afterPixel (keys (2 * j)) := by
  have hj := atPixel_scan roms h keys j
  show (step roms (scan roms s keys (2 * j)) (.posedgeClk (keys (2 * j)))).ctrl = _
  rw [step_low roms hj.reset hj.clkdiv]
  rfl

theorem state_afterPixel (d : Design) (keycode : BitVec 8) :
    (d.afterPixel keycode).state = d.ctrl.stateNext := by
  unfold afterPixel
  split_ifs <;> rfl

theorem moving_afterPixel (d : Design) (keycode : BitVec 8) :
    (d.afterPixel keycode).moving = d.ctrl.movingNext keycode := by
  unfold afterPixel
  split_ifs <;> rfl

theorem state_scan_odd (h : s.Fresh) (j : Nat) :
    (scan roms s keys (2 * j + 1)).ctrl.state = (ctrlAt roms keys s j).stateNext := by
  rw [ctrl_scan_odd roms keys h]
  exact state_afterPixel _ _

theorem moving_scan_odd (h : s.Fresh) (j : Nat) :
    (scan roms s keys (2 * j + 1)).ctrl.moving =
      (ctrlAt roms keys s j).movingNext (keys (2 * j)) := by
  rw [ctrl_scan_odd roms keys h]
  exact moving_afterPixel _ _

/-- The falling edge reads the ROMs. -/
theorem ctrlAt_succ (h : s.Fresh) (j : Nat) :
    ctrlAt roms keys s (j + 1) = (scan roms s keys (2 * j + 1)).ctrl.negedgeVgaClk roms
      (scan roms s keys (2 * j + 1)).vga.hc (scan roms s keys (2 * j + 1)).vga.vc := by
  obtain ⟨hvga, hreset⟩ := scan_odd roms h keys j
  show (step roms (scan roms s keys (2 * j + 1)) _).ctrl = _
  rw [step_high roms hreset (by rw [hvga]; rfl)]

theorem state_ctrlAt_succ (h : s.Fresh) (j : Nat) :
    (ctrlAt roms keys s (j + 1)).state = (ctrlAt roms keys s j).stateNext := by
  rw [ctrlAt_succ roms keys h]
  exact state_scan_odd roms keys h j

theorem moving_ctrlAt_succ (h : s.Fresh) (j : Nat) :
    (ctrlAt roms keys s (j + 1)).moving =
      (ctrlAt roms keys s j).movingNext (keys (2 * j)) := by
  rw [ctrlAt_succ roms keys h]
  exact moving_scan_odd roms keys h j

/-- Inside a frame the registers of the frame clock are those its tick left. -/
theorem still_gameAt (h : s.Fresh) {a b j : Nat} (hj : InFrame a b j) :
    (gameAt roms keys s j).still = (scan roms s keys (2 * a + 1)).ctrl.game.still := by
  obtain ⟨hstart, hstop, hafter, hbefore⟩ := hj
  induction j, hafter using Nat.le_induction with
  | base =>
    rw [← game_ctrlAt, ctrlAt_succ roms keys h]
    rfl
  | succ j hj ih =>
    have hticks : (scan roms s keys (2 * j)).ticks = false := by
      rw [← Bool.not_eq_true, (atPixel_scan roms h keys j).ticks_iff]
      omega
    rw [← ih (by omega), ← game_ctrlAt, ctrlAt_succ roms keys h, ctrl_scan_odd roms keys h,
      afterPixel, hticks, if_neg Bool.false_ne_true]
    exact DisplayGame.still_posedgeVgaClk (scan roms s keys (2 * j)).vga.hc
      (scan roms s keys (2 * j)).vga.vc (gameAt roms keys s j)

theorem win_gameAt (h : s.Fresh) {a b j : Nat} (hj : InFrame a b j) :
    (gameAt roms keys s j).win = (scan roms s keys (2 * a + 1)).ctrl.round.game.win := by
  rw [← DisplayGame.win_still, still_gameAt roms keys h hj]
  rfl

/-- No frame tick finds a collision: the raster is far below the ship. -/
theorem lost_at_tick (h : s.Fresh) (hquiet : s.ctrl.game.shipOn = false) {b : Nat}
    (hb : b = 0 ∨ b % 420000 = 392800) (drawX drawY : BitVec 10) :
    ((gameAt roms keys s b).posedgeVgaClk drawX drawY).lost = false := by
  rw [DisplayGame.lost_posedgeVgaClk, Bool.and_eq_false_iff]
  left
  rcases Nat.eq_zero_or_pos b with rfl | hpos
  · exact hquiet
  · obtain ⟨i, rfl⟩ := Nat.exists_eq_succ_of_ne_zero hpos.ne'
    have hpixel := atPixel_scan roms h keys i
    have hship : (gameAt roms keys s (i + 1)).shipOn = _ := hpixel.shipOn_step roms _ _
    rw [hship, ← Bool.not_eq_true]
    intro hon
    have hbox := hpixel.ticks_of_shipBox (Bool.and_eq_true_iff.1 hon).1
    omega

/-- A frame tick, in the registers of the frame clock. -/
theorem still_scan_tick (h : s.Fresh) (hquiet : s.ctrl.game.shipOn = false) {b : Nat}
    (hb : b = 0 ∨ b % 420000 = 392800) :
    (scan roms s keys (2 * b + 1)).ctrl.game.still =
      (gameAt roms keys s b).still.posedgeFrameClk false
        ((ctrlAt roms keys s b).movingNext (keys (2 * b))) (keys (2 * b)) := by
  have hpixel := atPixel_scan roms h keys b
  have hlost := lost_at_tick roms keys h hquiet hb (scan roms s keys (2 * b)).vga.hc
    (scan roms s keys (2 * b)).vga.vc
  have hcollision : ((gameAt roms keys s b).posedgeVgaClk (scan roms s keys (2 * b)).vga.hc
      (scan roms s keys (2 * b)).vga.vc).collision = false := by
    rw [← Bool.not_eq_true]
    intro hc
    rw [DisplayGame.lost_of_collision hc] at hlost
    cases hlost
  have hreset := (StateController.reset_posedgeVgaClk (scan roms s keys (2 * b)).vga.hc
    (scan roms s keys (2 * b)).vga.vc (keys (2 * b)) (scan roms s keys (2 * b)).ctrl).trans
      hpixel.reset
  rw [ctrl_scan_odd roms keys h, afterPixel, hpixel.ticks_iff.2 hb, if_pos rfl,
    ← DisplayGame.still_posedgeVgaClk (scan roms s keys (2 * b)).vga.hc
      (scan roms s keys (2 * b)).vga.vc (gameAt roms keys s b),
    ← DisplayGame.still_posedgeFrameClk hcollision, ← hreset]
  rfl

/-! ## One frame -/

/-- A movement key is down at a pixel between `a` and `b`. -/
def heldBetween (a b : Nat) : Bool :=
  decide (∃ j ∈ Finset.Ioo a b, StateController.IsMoveKey (keys (2 * j)))

theorem heldBetween_self_succ (a : Nat) : heldBetween keys a (a + 1) = false := by
  simp [heldBetween]

theorem heldBetween_succ {a b : Nat} (hab : a < b) :
    heldBetween keys a (b + 1) =
      (heldBetween keys a b || decide (StateController.IsMoveKey (keys (2 * b)))) := by
  rw [heldBetween, heldBetween, ← Bool.decide_or]
  congr 1
  apply propext
  constructor
  · rintro ⟨j, hj, hkey⟩
    rw [Finset.mem_Ioo] at hj
    rcases Nat.lt_or_ge j b with hlt | hge
    · exact .inl ⟨j, Finset.mem_Ioo.2 ⟨hj.1, hlt⟩, hkey⟩
    · obtain rfl : j = b := by omega
      exact .inr hkey
  · rintro (⟨j, hj, hkey⟩ | hkey)
    · rw [Finset.mem_Ioo] at hj
      exact ⟨j, Finset.mem_Ioo.2 ⟨hj.1, by omega⟩, hkey⟩
    · exact ⟨b, Finset.mem_Ioo.2 ⟨hab, by omega⟩, hkey⟩

/-- What the controller has come to inside a frame that is neither won nor lost: `moving` has seen
the keys, and `State` may already have followed it. -/
structure Playing (S : StateController) (a j : Nat) (c : StateController) : Prop where
  on : c.round.IsOn
  moving : c.moving = (S.moving || heldBetween keys a j)
  screen : c.state = S.state ∨ c.state = .play ∧ c.moving = true

variable {a b : Nat}

theorem playing_ctrlAt (h : s.Fresh) (hon : (scan roms s keys (2 * a + 1)).ctrl.round.IsOn)
    (hlost : ∀ j, InFrame a b j → (gameAt roms keys s j).lost = false)
    (hwin : ∀ j, InFrame a b j → (gameAt roms keys s j).win = false) {j : Nat}
    (hj : InFrame a b j) :
    Playing keys (scan roms s keys (2 * a + 1)).ctrl a j (ctrlAt roms keys s j) := by
  obtain ⟨hstart, hstop, hafter, hbefore⟩ := hj
  induction j, hafter using Nat.le_induction with
  | base =>
    rw [ctrlAt_succ roms keys h]
    refine ⟨hon, ?_, .inl rfl⟩
    rw [heldBetween_self_succ, Bool.or_false]
    rfl
  | succ j hj ih =>
    obtain ⟨hon', hmoving, hscreen⟩ := ih (by omega)
    have hin : InFrame a b j := ⟨hstart, hstop, hj, by omega⟩
    have hreset := reset_ctrlAt roms keys h j
    have hstate := state_ctrlAt_succ roms keys h j
    have hmove := moving_ctrlAt_succ roms keys h j
    rw [StateController.stateNext_of_safe hreset (hlost j hin) (hwin j hin) hon'] at hstate
    rw [StateController.movingNext_of_safe hreset (hlost j hin) (hwin j hin)] at hmove
    refine ⟨?_, ?_, ?_⟩
    · show _ ∨ _
      rw [show (ctrlAt roms keys s (j + 1)).round.screen = _ from hstate]
      split_ifs
      · exact .inr rfl
      · exact .inl rfl
    · rw [hmove, hmoving, heldBetween_succ keys hj, Bool.or_assoc]
    · cases hm : (ctrlAt roms keys s j).moving with
      | true =>
        rw [hm, Bool.true_or] at hmove
        rw [hm, if_pos (.inr rfl)] at hstate
        exact .inr ⟨hstate, hmove⟩
      | false =>
        left
        rcases hscreen with hsame | ⟨-, htrue⟩
        · rw [hstate, ← hsame, hm]
          rcases hon' with hst | hst
          · rw [show (ctrlAt roms keys s j).state = .startScreen from hst]
            simp
          · rw [show (ctrlAt roms keys s j).state = .play from hst]
            simp
        · rw [hm] at htrue
          cases htrue

/-- Once the detector was high, or the game is won behind it, the frame shows the losing screen. -/
theorem lose_ctrlAt (h : s.Fresh) (hwin : ∀ j, InFrame a b j → (gameAt roms keys s j).win = false)
    {i j : Nat} (hi : InFrame a b i) (hlost : (gameAt roms keys s i).lost = true) (hij : i < j)
    (hjb : j ≤ b + 1) : (ctrlAt roms keys s j).state = .lose := by
  obtain ⟨hstart, hstop, hafter, hbefore⟩ := hi
  induction j, hij using Nat.le_induction with
  | base =>
    rw [state_ctrlAt_succ roms keys h]
    simp [StateController.stateNext, reset_ctrlAt roms keys h, game_ctrlAt, hlost]
  | succ j hij ih =>
    have hlose := ih (by omega)
    have hin : InFrame a b j := ⟨hstart, hstop, by omega, by omega⟩
    rw [state_ctrlAt_succ roms keys h]
    simp [StateController.stateNext, StateController.nextState, reset_ctrlAt roms keys h,
      game_ctrlAt, hwin j hin, hlose]

/-- The frame after a tick that won the game. -/
theorem won_frame (h : s.Fresh) (hquiet : s.ctrl.game.shipOn = false) (hab : InFrame a b b)
    (hwin : (scan roms s keys (2 * a + 1)).ctrl.round.game.win = true) :
    (scan roms s keys (2 * b + 1)).ctrl.state = .win := by
  -- no hazard is left, so nothing takes the winning screen away
  have hsafe : (gameAt roms keys s b).lost = false := by
    rw [← Bool.not_eq_true]
    exact fun hl => Round.not_crashed_of_win hwin
      ((lost_iff_overlap roms keys h hquiet hab).1 ⟨b, hab, hl⟩)
  rw [state_scan_odd roms keys h]
  simp [StateController.stateNext, reset_ctrlAt roms keys h, game_ctrlAt, hsafe,
    (win_gameAt roms keys h hab).trans hwin]

/-- A frame in which the ship is on a hazard. -/
theorem lost_frame (h : s.Fresh) (hquiet : s.ctrl.game.shipOn = false) (hab : InFrame a b b)
    (hwin : (scan roms s keys (2 * a + 1)).ctrl.round.game.win = false)
    (hcrash : (scan roms s keys (2 * a + 1)).ctrl.round.Crashed roms) :
    (scan roms s keys (2 * b + 1)).ctrl.state = .lose := by
  obtain ⟨i, hi, hlost⟩ := (lost_iff_overlap roms keys h hquiet hab).2 hcrash
  rw [state_scan_odd roms keys h, ← state_ctrlAt_succ roms keys h]
  exact lose_ctrlAt roms keys h (fun j hj => (win_gameAt roms keys h hj).trans hwin) hi hlost
    (Nat.lt_succ_of_le hi.before) le_rfl

theorem lost_of_safe (h : s.Fresh) (hquiet : s.ctrl.game.shipOn = false) (hab : InFrame a b b)
    (hsafe : ¬ (scan roms s keys (2 * a + 1)).ctrl.round.Crashed roms) {j : Nat}
    (hj : InFrame a b j) : (gameAt roms keys s j).lost = false := by
  rw [← Bool.not_eq_true]
  exact fun hl => hsafe ((lost_iff_overlap roms keys h hquiet hab).1 ⟨j, hj, hl⟩)

/-- The screen during a frame that goes on. -/
theorem state_in_frame (h : s.Fresh) (hquiet : s.ctrl.game.shipOn = false) (hab : InFrame a b b)
    (hon : (scan roms s keys (2 * a + 1)).ctrl.round.IsOn)
    (hwin : (scan roms s keys (2 * a + 1)).ctrl.round.game.win = false)
    (hsafe : ¬ (scan roms s keys (2 * a + 1)).ctrl.round.Crashed roms) {j : Nat}
    (hj : InFrame a b j) :
    (scan roms s keys (2 * j + 1)).ctrl.state =
      if (scan roms s keys (2 * a + 1)).ctrl.state = .play ∨
          (scan roms s keys (2 * a + 1)).ctrl.moving = true ∨ heldBetween keys a j = true then
        .play
      else .startScreen := by
  have hlost (i : Nat) (hi : InFrame a b i) := lost_of_safe roms keys h hquiet hab hsafe hi
  have hplays (i : Nat) (hi : InFrame a b i) : (gameAt roms keys s i).win = false :=
    (win_gameAt roms keys h hi).trans hwin
  obtain ⟨hon', hmoving, hscreen⟩ := playing_ctrlAt roms keys h hon hlost hplays hj
  have hfollows : (ctrlAt roms keys s j).state = .play ∨ (ctrlAt roms keys s j).moving = true ↔
      (scan roms s keys (2 * a + 1)).ctrl.state = .play ∨
        (scan roms s keys (2 * a + 1)).ctrl.moving = true ∨ heldBetween keys a j = true := by
    rw [← Bool.or_eq_true, ← hmoving]
    rcases hscreen with hsame | ⟨hplay, hmoves⟩
    · rw [hsame]
    · rw [hmoves]
      exact iff_of_true (.inr rfl) (.inr rfl)
  rw [state_scan_odd roms keys h, StateController.stateNext_of_safe (reset_ctrlAt roms keys h j)
    (hlost j hj) (hplays j hj) hon']
  simp only [hfollows]

/-- A frame that goes on. -/
theorem safe_frame (h : s.Fresh) (hquiet : s.ctrl.game.shipOn = false) (hab : InFrame a b b)
    (hon : (scan roms s keys (2 * a + 1)).ctrl.round.IsOn)
    (hwin : (scan roms s keys (2 * a + 1)).ctrl.round.game.win = false)
    (hsafe : ¬ (scan roms s keys (2 * a + 1)).ctrl.round.Crashed roms) :
    (scan roms s keys (2 * b + 1)).ctrl.round =
      (scan roms s keys (2 * a + 1)).ctrl.round.tick ⟨heldBetween keys a b, keys (2 * b)⟩ := by
  have hlost (j : Nat) (hj : InFrame a b j) := lost_of_safe roms keys h hquiet hab hsafe hj
  have hplays (j : Nat) (hj : InFrame a b j) : (gameAt roms keys s j).win = false :=
    (win_gameAt roms keys h hj).trans hwin
  have hmoving := (playing_ctrlAt roms keys h hon hlost hplays hab).moving
  have hreset := reset_ctrlAt roms keys h b
  have hstate := state_in_frame roms keys h hquiet hab hon hwin hsafe hab
  have hmove := moving_scan_odd roms (s := s) keys h b
  have hgame := still_scan_tick roms keys h hquiet (.inr hab.stop.1)
  rw [StateController.movingNext_of_safe hreset (hlost b hab) (hplays b hab), hmoving]
    at hmove hgame
  rw [still_gameAt roms keys h hab] at hgame
  rw [StateController.round, hmove, hgame, hstate]
  rfl

/-- **A frame of the design is a step of the game.** The screen is the one of the step, and while
the game is on so is everything else. -/
theorem round_tick (h : s.Fresh) (hquiet : s.ctrl.game.shipOn = false) (hab : InFrame a b b)
    {r : Round} (hround : (scan roms s keys (2 * a + 1)).ctrl.round = r) (hon : r.IsOn) :
    (scan roms s keys (2 * b + 1)).ctrl.state =
        (r.step roms ⟨heldBetween keys a b, keys (2 * b)⟩).screen ∧
      ((r.step roms ⟨heldBetween keys a b, keys (2 * b)⟩).IsOn →
        (scan roms s keys (2 * b + 1)).ctrl.round =
          r.step roms ⟨heldBetween keys a b, keys (2 * b)⟩) := by
  subst hround
  cases hwin : (scan roms s keys (2 * a + 1)).ctrl.round.game.win with
  | true =>
    rw [Round.step_of_win hon hwin]
    exact ⟨won_frame roms keys h hquiet hab hwin, fun hend => absurd (.inl rfl) hend.not_isEnd⟩
  | false =>
    by_cases hcrash : (scan roms s keys (2 * a + 1)).ctrl.round.Crashed roms
    · rw [Round.step_of_crashed hon hcrash]
      exact ⟨lost_frame roms keys h hquiet hab hwin hcrash,
        fun hend => absurd (.inr rfl) hend.not_isEnd⟩
    · rw [Round.step_of_safe hon hwin hcrash]
      have hround := safe_frame roms keys h hquiet hab hon hwin hcrash
      exact ⟨congrArg Round.screen hround, fun _ => hround⟩

end Frame

/-! ## Runs -/

/-- Power-up, or a `Reset` just released that no layer of the ship and no `lost` has outlived. -/
structure Ready (s : Design) : Prop extends Cleared s where
  shipOn : s.ctrl.game.shipOn = false
  lost : s.ctrl.game.lost = false

theorem ready_powerUp : Ready powerUp := ⟨⟨fresh_powerUp, rfl, rfl, rfl, rfl⟩, rfl, rfl⟩

theorem ready_resetPulse (roms : Roms) {s : Design} (held : List (BitVec 8))
    (hship : s.ctrl.game.shipOn = false) (hlost : s.ctrl.game.lost = false) :
    Ready (run (step roms) s (resetPulse held)) := by
  refine ⟨cleared_resetPulse roms s held, ?_, (lost_resetPulse roms s held).trans hlost⟩
  rw [run_resetPulse]
  show (s.step roms .posedgeReset).ctrl.game.shipOn = false
  rcases ctrl_posedgeReset roms s with hreset | hreset <;> rw [hreset] <;> exact hship

theorem Ready.win {s : Design} (h : s.Ready) : s.ctrl.game.win = false := by
  simp [DisplayGame.win, h.enemyOneBaseHit]

theorem Ready.settled {s : Design} (h : s.Ready) : s.ctrl.Settled where
  screen := h.toCleared.settled
  held hreset := by
    rw [h.fresh.reset] at hreset
    cases hreset
  won hstate := by
    rw [h.state] at hstate
    cases hstate

/-- The pixel of each frame tick: the one after `Reset`, and then the one that opens line 491. -/
def tickPixel : Nat → Nat
  | 0 => 0
  | k + 1 => 420000 * k + 392800

theorem inFrame_tickPixel (k : Nat) :
    InFrame (tickPixel k) (tickPixel (k + 1)) (tickPixel (k + 1)) := by
  cases k with
  | zero => exact ⟨.inl rfl, by decide, by decide, le_rfl⟩
  | succ k => refine ⟨.inr ?_, ⟨?_, ?_⟩, ?_, le_rfl⟩ <;> simp only [tickPixel] <;> omega

section Runs

variable (roms : Roms) {s : Design} (keys : Nat → BitVec 8)

/-- The controller after each frame tick. -/
def afterTick (s : Design) (k : Nat) : StateController :=
  (scan roms s keys (2 * tickPixel k + 1)).ctrl

/-- The keys of the frame between two ticks. -/
def roundKeys (k : Nat) : RoundKeys :=
  ⟨heldBetween keys (tickPixel k) (tickPixel (k + 1)), keys (2 * tickPixel (k + 1))⟩

/-- The game after each tick. -/
noncomputable def played (s : Design) (k : Nat) : Round :=
  trace (Round.step roms) (s.ctrl.round.tick ⟨false, keys 0⟩) (roundKeys keys) k

/-- The tick that comes with the first pixel. -/
theorem round_first (h : s.Ready) :
    (afterTick roms keys s 0).round = s.ctrl.round.tick ⟨false, keys 0⟩ := by
  have hon : (ctrlAt roms keys s 0).round.IsOn := .inl h.state
  have hreset : (ctrlAt roms keys s 0).reset = false := h.fresh.reset
  have hlost : (ctrlAt roms keys s 0).game.lost = false := h.lost
  have hwin : (ctrlAt roms keys s 0).game.win = false := h.win
  have hstate := state_scan_odd roms (s := s) keys h.fresh 0
  have hmove := moving_scan_odd roms (s := s) keys h.fresh 0
  have hgame := still_scan_tick roms keys h.fresh h.shipOn (.inl rfl)
  rw [StateController.stateNext_of_safe hreset hlost hwin hon] at hstate
  rw [StateController.movingNext_of_safe hreset hlost hwin] at hmove hgame
  have hfirst : (afterTick roms keys s 0).round =
      ⟨(scan roms s keys (2 * 0 + 1)).ctrl.state, (scan roms s keys (2 * 0 + 1)).ctrl.moving,
        (scan roms s keys (2 * 0 + 1)).ctrl.game.still⟩ := rfl
  rw [hfirst, hstate, hmove, hgame, Round.tick, Bool.or_false]
  simp only [Bool.false_eq_true, or_false]
  rfl

/-- How the design shows a game: all of it while it is on, and then that it is over. -/
structure Shows (c : StateController) (r : Round) : Prop where
  on : r.IsOn → c.round = r
  ended : r.screen.IsEnd → c.state.IsEnd
  won : r.screen = .win → c.state = .win

theorem settled_scan (h : s.ctrl.Settled) (n : Nat) : (scan roms s keys n).ctrl.Settled := by
  induction n with
  | zero => exact h
  | succ n ih =>
    exact run_invariant (P := StateController.Settled)
      (fun _ e hs => StateController.settled_step roms hs e) ih _

/-- An end screen stays, but for a losing screen that gives way to the winning one. -/
theorem isEnd_scan (h : s.ctrl.Settled) {n m : Nat} (hnm : n ≤ m)
    (hend : (scan roms s keys n).ctrl.state.IsEnd) :
    (scan roms s keys m).ctrl.state.IsEnd ∧
      ((scan roms s keys n).ctrl.state = .win → (scan roms s keys m).ctrl.state = .win) := by
  induction m, hnm using Nat.le_induction with
  | base => exact ⟨hend, id⟩
  | succ m hnm ih =>
    obtain ⟨hm, hwon⟩ := ih
    have hstep := StateController.isEnd_run roms (settled_scan roms keys h m) hm
      (not_isReset_gameEvents (scan roms s keys m) (keys m))
    exact ⟨hstep.1, fun hw => hstep.2 (hwon hw)⟩

theorem tickPixel_lt_succ (k : Nat) : tickPixel k < tickPixel (k + 1) := by
  cases k with
  | zero => decide
  | succ k => simp only [tickPixel]; omega

theorem played_succ (s : Design) (k : Nat) :
    played roms keys s (k + 1) = (played roms keys s k).step roms (roundKeys keys k) :=
  trace_succ _ _ _ _

theorem isOn_or_isEnd_played (s : Design) (k : Nat) :
    (played roms keys s k).IsOn ∨ (played roms keys s k).screen.IsEnd := by
  cases k with
  | zero => exact .inl (Round.isOn_tick _ _)
  | succ k =>
    rw [played_succ]
    exact Round.isOn_or_isEnd_step roms _ _

/-- The tick that ends the game shows how, and one that does not leaves the step of the game. -/
theorem tick_of_isOn (h : s.Ready) {k : Nat} (hon : (played roms keys s k).IsOn)
    (hround : (afterTick roms keys s k).round = played roms keys s k) :
    (afterTick roms keys s (k + 1)).state = (played roms keys s (k + 1)).screen ∧
      ((played roms keys s (k + 1)).IsOn →
        (afterTick roms keys s (k + 1)).round = played roms keys s (k + 1)) := by
  rw [afterTick] at hround
  rw [played_succ, roundKeys, afterTick]
  exact round_tick roms keys h.fresh h.shipOn (inFrame_tickPixel k) hround hon

theorem shows_afterTick (h : s.Ready) (k : Nat) :
    Shows (afterTick roms keys s k) (played roms keys s k) := by
  induction k with
  | zero =>
    have hon : (played roms keys s 0).IsOn := Round.isOn_tick _ _
    exact ⟨fun _ => round_first roms keys h, fun hend => absurd hend hon.not_isEnd,
      fun hwin => absurd (.inl hwin) hon.not_isEnd⟩
  | succ k ih =>
    rcases isOn_or_isEnd_played roms keys s k with hon | hend
    · obtain ⟨hstate, hround⟩ := tick_of_isOn roms keys h hon (ih.on hon)
      exact ⟨hround, fun hend => by rwa [hstate], fun hwin => by rwa [hstate]⟩
    · -- the game was over already, and the design keeps showing that it is
      have hlast : played roms keys s (k + 1) = played roms keys s k := by
        rw [played_succ, Round.step_of_isEnd hend]
      have hlt := tickPixel_lt_succ k
      have hle : 2 * tickPixel k + 1 ≤ 2 * tickPixel (k + 1) + 1 := by omega
      obtain ⟨hend', hwon⟩ := isEnd_scan roms keys h.settled hle (ih.ended hend)
      rw [hlast, afterTick]
      exact ⟨fun hon => absurd hend hon.not_isEnd, fun _ => hend', fun hwin => hwon (ih.won hwin)⟩

section During

variable {k j : Nat} (h : s.Ready) (hon : (played roms keys s k).IsOn)
  (hj : InFrame (tickPixel k) (tickPixel (k + 1)) j)
include h hon hj

/-- During a frame of a game that is on, the scene is that of the game. -/
theorem still_of_played : (gameAt roms keys s j).still = (played roms keys s k).game := by
  rw [still_gameAt roms keys h.fresh hj, ← (shows_afterTick roms keys h k).on hon]
  rfl

/-- And the screen follows the keys, unless something ends the game. -/
theorem state_of_played (hfree : (played roms keys s k).Unhindered) :
    (scan roms s keys (2 * j + 1)).ctrl.state =
      if (played roms keys s k).screen = .play ∨ (played roms keys s k).moving = true ∨
          heldBetween keys (tickPixel k) j = true then
        .play
      else .startScreen := by
  have hround : (scan roms s keys (2 * tickPixel k + 1)).ctrl.round = played roms keys s k :=
    (shows_afterTick roms keys h k).on hon
  rw [← hround] at hon hfree ⊢
  exact state_in_frame roms keys h.fresh h.shipOn (inFrame_tickPixel k) hon hfree.win
    (hfree.not_crashed roms) hj

end During

/-- **The design refines the game of one step a frame.** After each tick it shows the game, and the
tick that ends the game ends it with the same screen. -/
theorem frames_refine (h : s.Ready) (k : Nat) :
    Shows (afterTick roms keys s k) (played roms keys s k) ∧
      ((played roms keys s k).IsOn →
        (afterTick roms keys s (k + 1)).state = (played roms keys s (k + 1)).screen) := by
  have hshows := shows_afterTick roms keys h k
  exact ⟨hshows, fun hon => (tick_of_isOn roms keys h hon (hshows.on hon)).1⟩

/-- From power-up, with the sprites of the repository and `D` held. -/
theorem frames_refine_powerUp :
    Shows (afterTick sprites (fun _ => 7) powerUp 3) (played sprites (fun _ => 7) powerUp 3) ∧
      ((played sprites (fun _ => 7) powerUp 3).IsOn →
        (afterTick sprites (fun _ => 7) powerUp 4).state =
          (played sprites (fun _ => 7) powerUp 4).screen) :=
  frames_refine sprites (fun _ => 7) ready_powerUp 3

/-! ### A movement key that is held -/

theorem roundKeys_held {keycode : BitVec 8} (hkey : StateController.IsMoveKey keycode) (k : Nat) :
    roundKeys (fun _ => keycode) k = ⟨true, keycode⟩ := by
  have hnext : tickPixel k + 1 < tickPixel (k + 1) := by
    cases k with
    | zero => decide
    | succ k => simp only [tickPixel]; omega
  have hheld : heldBetween (fun _ => keycode) (tickPixel k) (tickPixel (k + 1)) = true :=
    decide_eq_true ⟨tickPixel k + 1, Finset.mem_Ioo.2 ⟨Nat.lt_succ_self _, hnext⟩, hkey⟩
  rw [roundKeys, hheld]

/-- The way of a ship under a held key, as long as nothing ends the game. -/
def cruise (keycode : BitVec 8) (s : Design) (k : Nat) : Round :=
  (Round.tick ⟨true, keycode⟩)^[k] (s.ctrl.round.tick ⟨false, keycode⟩)

theorem isOn_cruise (keycode : BitVec 8) (s : Design) (k : Nat) : (cruise keycode s k).IsOn := by
  cases k with
  | zero => exact Round.isOn_tick _ _
  | succ k =>
    rw [cruise, Function.iterate_succ_apply']
    exact Round.isOn_tick _ _

theorem played_cruise {keycode : BitVec 8} (hkey : StateController.IsMoveKey keycode) (s : Design)
    {k : Nat} (h : ∀ i < k, (cruise keycode s i).Unhindered) :
    played roms (fun _ => keycode) s k = cruise keycode s k := by
  induction k with
  | zero => rfl
  | succ k ih =>
    have hlast := h k (Nat.lt_succ_self k)
    rw [played_succ, ih fun i hi => h i (Nat.lt_succ_of_lt hi), roundKeys_held hkey,
      Round.step_of_safe (isOn_cruise keycode s k) hlast.win (hlast.not_crashed roms), cruise,
      cruise, Function.iterate_succ_apply']

/-- The design after a tick of such a way. -/
theorem round_cruise (h : s.Ready) {keycode : BitVec 8} (hkey : StateController.IsMoveKey keycode)
    {k : Nat} (hfree : ∀ i < k, (cruise keycode s i).Unhindered) :
    (afterTick roms (fun _ => keycode) s k).round = cruise keycode s k := by
  have hshows := shows_afterTick roms (fun _ => keycode) h k
  rw [played_cruise roms hkey s hfree] at hshows
  exact hshows.on (isOn_cruise keycode s k)

theorem bgk_cruise (h : s.Ready) {keycode : BitVec 8} (hkey : StateController.IsMoveKey keycode)
    {k : Nat} (hfree : ∀ i < k, (cruise keycode s i).Unhindered) :
    (run (step roms) s (List.replicate (2 * tickPixel k + 1) (.posedgeClk keycode))).ctrl.game.bgk =
      (cruise keycode s k).game.bgk := by
  rw [← scan_held, ← round_cruise roms h hkey hfree]
  rfl

end Runs

end Design

end Bosconian
