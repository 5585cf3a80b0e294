import Mathlib.Algebra.BigOperators.Group.Finset.Basic
import Bosconian.Hdl.Scene
import Bosconian.Hdl.Rounds

/-!
# Dead reckoning

The ship stays in the middle of the screen and the scene moves past it: what the player calls the
place of the ship is the offset of the background. While the game is on, that offset and the
corners of the bases follow from the keys at the frame ticks alone.

* `scene_steady` — the frame clock never rises on a collision, so the bases keep their place on the
  background over all games that are not ended by a `Reset` at a pixel of the ship.
* `dead_reckoning` — the offset is the sum of one pixel a tick in the headings so far, each the last
  movement key at a tick, and the bases stand where they started less that offset.
-/

namespace Bosconian

open EventMachine

namespace Heading

/-- The heading that the direction block takes from a key. -/
def ofKey (keycode : BitVec 8) : Option Heading :=
  if keycode = 0x1A then some .up
  else if keycode = 0x16 then some .down
  else if keycode = 0x04 then some .left
  else if keycode = 0x07 then some .right
  else none

theorem ofKey_of_not_isMoveKey {keycode : BitVec 8} (h : ¬ StateController.IsMoveKey keycode) :
    ofKey keycode = none := by
  simp only [StateController.IsMoveKey, not_or] at h
  simp only [ofKey, h, if_false]

/-- The code of a ship that may have no heading yet. -/
def codeOf : Option Heading → BitVec 4
  | none => 0
  | some h => h.code

/-- Columns a tick to the right. -/
def dx : Heading → Int
  | .right => 1
  | .left => -1
  | _ => 0

/-- Lines a tick down. -/
def dy : Heading → Int
  | .down => 1
  | .up => -1
  | _ => 0

end Heading

/-- The direction block while the detector is low. A ship that is not under way has no heading,
and a movement key has just started one that was not. -/
theorem DisplayGame.directions_tick {s : DisplayGame} {o : Option Heading} {moving : Bool}
    {keycode : BitVec 8} (hcollision : s.collision = false)
    (hdirections : s.directions = Heading.codeOf o) (hidle : moving = false → o = none)
    (hkey : StateController.IsMoveKey keycode → moving = true) (reset : Bool) :
    (s.posedgeFrameClk reset moving keycode).directions =
      Heading.codeOf ((Heading.ofKey keycode).or o) := by
  cases moving with
  | false =>
    have hmove : ¬ StateController.IsMoveKey keycode := fun h => absurd (hkey h) Bool.false_ne_true
    rw [hidle rfl, Heading.ofKey_of_not_isMoveKey hmove]
    exact StateController.directions_posedgeFrameClk reset keycode s
  | true =>
    by_cases hmove : StateController.IsMoveKey keycode
    · rcases hmove with rfl | rfl | rfl | rfl <;>
        simp [directions, posedgeFrameClk, steer, hcollision, Heading.ofKey, Heading.codeOf,
          Heading.code, dirUp, dirDown, dirLeft, dirRight]
    · rw [Heading.ofKey_of_not_isMoveKey hmove, Option.none_or, ← hdirections]
      simp only [StateController.IsMoveKey, not_or] at hmove
      simp only [directions, posedgeFrameClk, steer, hcollision, hmove, Bool.false_eq_true,
        if_false, if_true]

/-- A step of the background. -/
theorem Background.scroll_codeOf (b : Background) (o : Option Heading) :
    b.scroll (Heading.codeOf o) false =
      o.elim Background.powerUp fun h =>
        ⟨b.xOffset + BitVec.ofInt 10 h.dx, b.yOffset + BitVec.ofInt 10 h.dy⟩ := by
  have hadd (x : BitVec 10) : x + BitVec.ofInt 10 0 = x := BitVec.add_zero x
  have hsub (x : BitVec 10) : x + BitVec.ofInt 10 (-1) = x - 1 := (BitVec.sub_eq_add_neg x 1).symm
  cases o with
  | none => rfl
  | some h =>
    cases h with
    | up => exact Background.ext (hadd _).symm (hsub _).symm
    | down => exact Background.ext (hadd _).symm rfl
    | right => exact Background.ext rfl (hadd _).symm
    | left => exact Background.ext (hsub _).symm (hadd _).symm

/-- In a rigid scene the background tells where the bases are. -/
theorem Scene.Rigid.corners {s : Scene} (h : s.Rigid) :
    s.one = ⟨200 - s.bgk.xOffset, 100 - s.bgk.yOffset⟩ ∧
      s.two = ⟨400 - s.bgk.xOffset, 300 - s.bgk.yOffset⟩ := by
  obtain ⟨honeX, honeY, htwoX, htwoY⟩ := (Scene.rigid_iff s).1 h
  rw [← honeX, ← honeY, ← htwoX, ← htwoY]
  simp only [BitVec.add_sub_cancel]
  exact ⟨trivial, trivial⟩

/-! ## The detector at a tick -/

namespace Design

/-- The raster draws the ship on its lines, `vs` is low in the pulse or after `Reset`, and the two
are apart. -/
structure Apart (s : Design) : Prop where
  ship : s.ctrl.game.shipOn = true → 233 ≤ s.vga.vc.toNat ∧ s.vga.vc.toNat ≤ 247
  held : s.ctrl.reset = true → s.ctrl.game.shipOn = false
  pulse : s.vga.vs = false → s.vga.vc.toNat = 0 ∨ 489 ≤ s.vga.vc.toNat

theorem apart_powerUp : Apart powerUp := ⟨nofun, nofun, fun _ => .inl rfl⟩

/-- The line after a pixel. -/
theorem toNat_vc_posedgeClkdiv (v : VgaController) :
    v.posedgeClkdiv.vc.toNat =
      if v.hc.toNat = 799 then if v.vc.toNat = 524 then 0 else (v.vc.toNat + 1) % 1024
      else v.vc.toNat := by
  have hlast : v.hc = VgaController.hpixels ↔ v.hc.toNat = 799 := BitVec.toNat_inj.symm
  have hbottom : v.vc = VgaController.vlines ↔ v.vc.toNat = 524 := BitVec.toNat_inj.symm
  show v.counterProc.2.toNat = _
  rw [VgaController.counterProc]
  simp only [← hlast, ← hbottom]
  split_ifs
  · rfl
  · exact BitVec.toNat_add v.vc 1
  · rfl

/-- The rising edge of a pixel. -/
theorem apart_pixel {v : VgaController} {c c' : StateController}
    (hship : c'.game.shipOn = c.game.shipOnNext v.hc v.vc) (hreset : c'.reset = false) :
    Apart ⟨v.posedgeClkdiv, c'⟩ where
  ship hon := by
    have hbox : DisplayGame.shipBox v.hc v.vc = true :=
      (Bool.and_eq_true_iff.1 (hship.symm.trans hon)).1
    obtain ⟨⟨hleft, hright⟩, htop, hbottom⟩ := (DisplayGame.shipBox_iff (v.hc, v.vc)).1 hbox
    have hne : ¬ v.hc.toNat = 799 := by
      have hcolumn : v.hc.toNat ≤ 327 := hright
      omega
    rw [toNat_vc_posedgeClkdiv, if_neg hne]
    exact ⟨htop, hbottom⟩
  held hheld := absurd (hreset.symm.trans hheld) Bool.false_ne_true
  pulse hpulse := by
    have hline : ¬ (v.vc.toNat ≠ 489 ∧ v.vc.toNat ≠ 490) := fun hne =>
      absurd (hpulse.symm.trans (v.vsyncProc_iff.2 hne)) Bool.false_ne_true
    right
    rw [toNat_vc_posedgeClkdiv]
    split_ifs <;> omega

/-- `Reset` does not rise while the raster is on the ship. -/
def ResetOffShip (s : Design) (e : ClkEvent) : Prop :=
  e = .posedgeReset → s.ctrl.game.shipOn = false

instance (s : Design) (e : ClkEvent) : Decidable (ResetOffShip s e) := by
  unfold ResetOffShip; infer_instance

/-- A board clock under `Reset`. -/
theorem step_reset (roms : Roms) {s : Design} (hreset : s.ctrl.reset = true)
    (keycode : BitVec 8) :
    s.step roms (.posedgeClk keycode) = ⟨VgaController.powerUp, s.ctrl⟩ := by
  simp only [step, vgaNext, gameEvents, hreset, if_true, run_nil]
  rfl

theorem apart_step (roms : Roms) {s : Design} (h : s.Apart) {e : ClkEvent}
    (he : s.ResetOffShip e) : (s.step roms e).Apart := by
  cases e with
  | posedgeClk keycode =>
    cases hreset : s.ctrl.reset with
    | true =>
      rw [step_reset roms hreset]
      exact ⟨fun hon => absurd ((h.held hreset).symm.trans hon) Bool.false_ne_true, h.held,
        fun _ => .inl rfl⟩
    | false =>
      have hreset' : (s.ctrl.posedgeVgaClk s.vga.hc s.vga.vc keycode).reset = false :=
        (StateController.reset_posedgeVgaClk s.vga.hc s.vga.vc keycode s.ctrl).trans hreset
      cases hclk : s.vga.clkdiv with
      | true =>
        rw [step_high roms hreset hclk]
        exact ⟨h.ship, h.held, h.pulse⟩
      | false =>
        rw [step_low roms hreset hclk]
        split_ifs
        · exact apart_pixel (c := s.ctrl) rfl hreset'
        · exact apart_pixel (c := s.ctrl) rfl hreset'
  | posedgeReset =>
    have hship : (s.step roms .posedgeReset).ctrl.game.shipOn = false := by
      rcases ctrl_posedgeReset roms s with hctrl | hctrl <;> rw [hctrl] <;> exact he rfl
    exact ⟨fun hon => absurd (hship.symm.trans hon) Bool.false_ne_true, fun _ => hship,
      fun _ => .inl rfl⟩
  | negedgeReset => exact ⟨h.ship, nofun, h.pulse⟩

/-- A tick finds the detector low. -/
theorem Apart.collision_tick {s : Design} (h : s.Apart) (hticks : s.ticks = true) :
    s.ctrl.game.collisionNext = false := by
  have hvs : s.vga.vs = false := by
    simp only [ticks, Bool.and_eq_true, Bool.not_eq_true'] at hticks
    exact hticks.1.2
  have hship : s.ctrl.game.shipOn = false := by
    rw [← Bool.not_eq_true]
    intro hon
    have hlines := h.ship hon
    have hpulse := h.pulse hvs
    omega
  rw [DisplayGame.collisionNext, hship, Bool.false_and]

/-- The pixel clock leaves the scene alone, even when the detector rises. -/
theorem scene_posedgeVgaClk (c : StateController) (drawX drawY : BitVec 10)
    (keycode : BitVec 8) :
    (c.posedgeVgaClk drawX drawY keycode).game.scene = c.game.scene := by
  show Scene.mk (c.game.bgkAfterEdge c.game.collision c.game.collisionNext) _ _ = _
  rw [Display.bgkAfterEdge_eq]
  rfl

theorem rigid_design_step (roms : Roms) {s : Design} (h : s.Apart)
    (hrigid : s.ctrl.game.scene.Rigid) (e : ClkEvent) :
    (s.step roms e).ctrl.game.scene.Rigid := by
  cases e with
  | posedgeClk keycode =>
    cases hreset : s.ctrl.reset with
    | true => rwa [step_reset roms hreset]
    | false =>
      cases hclk : s.vga.clkdiv with
      | true => rwa [step_high roms hreset hclk]
      | false =>
        have hpixel := (scene_posedgeVgaClk s.ctrl s.vga.hc s.vga.vc keycode).symm ▸ hrigid
        rw [step_low roms hreset hclk]
        split_ifs with hticks
        · refine Scene.rigid_step (e := .posedgeFrameClk s.ctrl.game.shipOrientation
            s.ctrl.game.collisionNext) hpixel ?_
          rw [h.collision_tick hticks]
          exact fun hc => absurd hc Bool.false_ne_true
        · exact hpixel
  | posedgeReset =>
    rcases ctrl_posedgeReset roms s with hctrl | hctrl <;> rw [hctrl] <;> exact hrigid
  | negedgeReset => exact hrigid

/-- **The scene stays in one piece**, over any keys and any pulses of `Reset`. -/
theorem scene_steady (roms : Roms) (es : List ClkEvent)
    (hes : EachStep (step roms) ResetOffShip powerUp es) :
    Always (step roms) (fun s => s.ctrl.game.scene.Rigid) powerUp es := by
  refine hes.always (J := fun s => s.Apart ∧ s.ctrl.game.scene.Rigid) ?_ (fun _ h => h.2)
    ⟨apart_powerUp, Scene.rigid_powerUp⟩
  intro s e h he
  exact ⟨apart_step roms h.1 he, rigid_design_step roms h.1 h.2 e⟩

/-- A key and a pulse of `Reset` in the top left corner. -/
def cornerReset : List ClkEvent :=
  [.posedgeClk 0x07, .posedgeClk 0x07] ++ resetPulse [0x07]

/-- Three frames with `D` held after such a start: the scene has moved by three pixels. -/
theorem scene_steady_right :
    Always (step sprites) (fun s => s.ctrl.game.scene.Rigid) powerUp
        (cornerReset ++ List.replicate (2 * tickPixel 3 + 1) (.posedgeClk 0x07)) ∧
      (run (step sprites) powerUp (cornerReset ++
        List.replicate (2 * tickPixel 3 + 1) (.posedgeClk 0x07))).ctrl.game.bgk = ⟨3, 0⟩ := by
  constructor
  · refine scene_steady sprites _ (eachStep_append (by decide +kernel) (eachStep_of_forall _ ?_))
    intro e he s hreset
    rw [List.eq_of_mem_replicate he] at hreset
    cases hreset
  · have hready : Ready (run (step sprites) powerUp cornerReset) := by
      rw [cornerReset, run_append]
      exact ready_resetPulse sprites [0x07] (by decide +kernel) (by decide +kernel)
    have hright : StateController.IsMoveKey 7 := .inr (.inl rfl)
    rw [run_append, bgk_cruise sprites hready hright (by decide +kernel)]
    decide +kernel

end Design

namespace Round

/-- A frame after which the game is on was a tick. -/
theorem of_isOn_step {roms : Roms} {s : Round} {e : RoundKeys}
    (hs : s.IsOn ∨ s.screen.IsEnd) (h : (s.step roms e).IsOn) :
    s.IsOn ∧ s.step roms e = s.tick e := by
  rcases hs with hon | hend
  · refine ⟨hon, ?_⟩
    by_cases hwin : s.game.win = true
    · rw [step_of_win hon hwin] at h
      exact absurd (.inl rfl) h.not_isEnd
    · by_cases hcrash : s.Crashed roms
      · rw [step_of_crashed hon hcrash] at h
        exact absurd (.inr rfl) h.not_isEnd
      · exact step_of_safe hon (by simpa using hwin) hcrash
  · rw [step_of_isEnd hend] at h
    exact absurd hend h.not_isEnd

end Round

namespace Design

section Reckoning

variable (roms : Roms) {s : Design} (keys : Nat → BitVec 8)

/-- The last movement key at a tick before the `k`-th. Keys between two ticks do not count. -/
def heading : Nat → Option Heading
  | 0 => none
  | k + 1 => (Heading.ofKey (keys (2 * tickPixel k))).or (heading k)

/-- The way of the first `k` headings along one axis, in pixels. -/
def travelled (d : Heading → Int) (k : Nat) : Int :=
  ∑ i ∈ Finset.range k, (heading keys i).elim 0 d

theorem travelled_succ (d : Heading → Int) (k : Nat) :
    travelled keys d (k + 1) = travelled keys d k + (heading keys k).elim 0 d :=
  Finset.sum_range_succ _ k

/-- A ship without a heading has not moved. -/
theorem travelled_of_none (d : Heading → Int) {k : Nat} (h : heading keys k = none) :
    travelled keys d (k + 1) = 0 := by
  induction k with
  | zero => rfl
  | succ k ih =>
    have hlast : heading keys k = none := (Option.or_eq_none_iff.1 h).2
    rw [travelled_succ, ih hlast, h]
    rfl

/-- What the `k`-th tick leaves, by the keys alone. -/
structure Reckoned (k : Nat) (r : Round) : Prop where
  collision : r.game.collision = false
  idle : r.moving = false → heading keys (k + 1) = none
  directions : r.game.directions = Heading.codeOf (heading keys (k + 1))
  shipOrientation : r.game.shipOrientation = Heading.codeOf (heading keys k)
  bgk : r.game.bgk =
    ⟨BitVec.ofInt 10 (travelled keys Heading.dx k), BitVec.ofInt 10 (travelled keys Heading.dy k)⟩
  rigid : r.game.scene.Rigid

/-- The background follows the heading it had. -/
theorem scroll_travelled (k : Nat) :
    (⟨BitVec.ofInt 10 (travelled keys Heading.dx k),
        BitVec.ofInt 10 (travelled keys Heading.dy k)⟩ : Background).scroll
          (Heading.codeOf (heading keys k)) false =
      ⟨BitVec.ofInt 10 (travelled keys Heading.dx (k + 1)),
        BitVec.ofInt 10 (travelled keys Heading.dy (k + 1))⟩ := by
  rw [Background.scroll_codeOf]
  cases hheading : heading keys k with
  | none =>
    rw [travelled_of_none keys _ hheading, travelled_of_none keys _ hheading]
    rfl
  | some h =>
    rw [travelled_succ, travelled_succ, hheading]
    simp only [Option.elim_some, BitVec.ofInt_add]

/-- A ship that is not under way at a tick has no heading after it. -/
theorem ofKey_of_not_moving {e : RoundKeys} {r : Round} (h : (r.tick e).moving = false) :
    r.moving = false ∧ Heading.ofKey e.keycode = none := by
  have hor : (r.moving || e.held || decide (StateController.IsMoveKey e.keycode)) = false := h
  rw [Bool.or_eq_false_iff, Bool.or_eq_false_iff, decide_eq_false_iff_not] at hor
  exact ⟨hor.1.1, Heading.ofKey_of_not_isMoveKey hor.2⟩

theorem moving_tick {e : RoundKeys} (r : Round) (h : StateController.IsMoveKey e.keycode) :
    (r.tick e).moving = true := by
  show (r.moving || e.held || decide (StateController.IsMoveKey e.keycode)) = true
  rw [decide_eq_true h, Bool.or_true]

theorem reckoned_tick {k : Nat} {r : Round} (h : Reckoned keys k r) :
    Reckoned keys (k + 1) (r.tick (roundKeys keys k)) := by
  have hheading : heading keys (k + 2) =
      (Heading.ofKey (roundKeys keys k).keycode).or (heading keys (k + 1)) := rfl
  have hidle (hmoving : (r.tick (roundKeys keys k)).moving = false) :
      heading keys (k + 1) = none := h.idle (ofKey_of_not_moving hmoving).1
  refine ⟨h.collision, ?_, ?_, h.directions, ?_, ?_⟩
  · intro hmoving
    rw [hheading, (ofKey_of_not_moving hmoving).2, hidle hmoving]
    rfl
  · rw [hheading]
    exact DisplayGame.directions_tick h.collision h.directions hidle (moving_tick r) false
  · show r.game.bgk.scroll r.game.shipOrientation r.game.collision = _
    rw [h.collision, h.shipOrientation, h.bgk, scroll_travelled]
  · refine Scene.rigid_step (e := .posedgeFrameClk r.game.shipOrientation r.game.collision)
      h.rigid ?_
    rw [h.collision]
    exact fun hc => absurd hc Bool.false_ne_true

/-- The first tick of a ship that heads nowhere sends the scene home. -/
theorem reckoned_first (hdirections : s.ctrl.game.directions = 0)
    (horientation : s.ctrl.game.shipOrientation = 0) :
    Reckoned keys 0 (played roms keys s 0) := by
  have hheading : heading keys 1 = (Heading.ofKey (keys 0)).or none := rfl
  have hrest : (played roms keys s 0).game.scene =
      s.ctrl.game.scene.step (.posedgeFrameClk s.ctrl.game.shipOrientation false) := rfl
  have hscene : (played roms keys s 0).game.scene = Scene.powerUp := by
    rw [hrest, horientation]
    rfl
  refine ⟨rfl, ?_, ?_, hdirections, congrArg Scene.bgk hscene, ?_⟩
  · intro hmoving
    rw [hheading, (ofKey_of_not_moving hmoving).2]
    rfl
  · rw [hheading]
    exact DisplayGame.directions_tick rfl hdirections (fun _ => rfl) (moving_tick s.ctrl.round)
      false
  · rw [hscene]
    exact Scene.rigid_powerUp

/-- **Dead reckoning.** -/
theorem reckoned_played (hdirections : s.ctrl.game.directions = 0)
    (horientation : s.ctrl.game.shipOrientation = 0) {k : Nat}
    (h : (played roms keys s k).IsOn) : Reckoned keys k (played roms keys s k) := by
  induction k with
  | zero => exact reckoned_first roms keys hdirections horientation
  | succ k ih =>
    rw [played_succ] at h ⊢
    obtain ⟨hon, htick⟩ := Round.of_isOn_step (isOn_or_isEnd_played roms keys s k) h
    rw [htick]
    exact reckoned_tick keys (ih hon)

/-- **Dead reckoning.** While the game is on, the keys at the ticks tell where everything is: the
ship heads as it was told a tick ago, the background has followed all headings before that one, and
the bases stand where they started less the offset of the background. -/
theorem dead_reckoning (h : s.Ready) (hdirections : s.ctrl.game.directions = 0)
    (horientation : s.ctrl.game.shipOrientation = 0) {k : Nat}
    (hon : (afterTick roms keys s k).round.IsOn) :
    (afterTick roms keys s k).game.shipOrientation = Heading.codeOf (heading keys k) ∧
      (afterTick roms keys s k).game.bgk =
        ⟨BitVec.ofInt 10 (travelled keys Heading.dx k),
          BitVec.ofInt 10 (travelled keys Heading.dy k)⟩ ∧
      (afterTick roms keys s k).game.enemyBaseOne.toCorner =
        ⟨200 - BitVec.ofInt 10 (travelled keys Heading.dx k),
          100 - BitVec.ofInt 10 (travelled keys Heading.dy k)⟩ ∧
      (afterTick roms keys s k).game.enemyBaseTwo.toCorner =
        ⟨400 - BitVec.ofInt 10 (travelled keys Heading.dx k),
          300 - BitVec.ofInt 10 (travelled keys Heading.dy k)⟩ := by
  have hshows := shows_afterTick roms keys h k
  have hplayed : (played roms keys s k).IsOn :=
    (isOn_or_isEnd_played roms keys s k).resolve_right fun hend =>
      absurd (hshows.ended hend) hon.not_isEnd
  have hround := hshows.on hplayed
  have hreckoned := reckoned_played roms keys hdirections horientation hplayed
  rw [← hround] at hreckoned
  obtain ⟨hone, htwo⟩ := hreckoned.rigid.corners
  have hbgk : (afterTick roms keys s k).round.game.scene.bgk = _ := hreckoned.bgk
  rw [hbgk] at hone htwo
  exact ⟨hreckoned.shipOrientation, hreckoned.bgk, hone, htwo⟩

/-- With `D` held from power-up on, the tick of power-up sets the heading, the next one turns the
ship, and the two after it move the scene to the left. -/
theorem dead_reckoning_right :
    (afterTick sprites (fun _ => 7) powerUp 3).game.shipOrientation = dirRight ∧
      (afterTick sprites (fun _ => 7) powerUp 3).game.bgk = ⟨2, 0⟩ ∧
      (afterTick sprites (fun _ => 7) powerUp 3).game.enemyBaseOne.toCorner = ⟨198, 100⟩ ∧
      (afterTick sprites (fun _ => 7) powerUp 3).game.enemyBaseTwo.toCorner = ⟨398, 300⟩ := by
  have hright : StateController.IsMoveKey 7 := .inr (.inl rfl)
  have hround := round_cruise sprites ready_powerUp hright (k := 3) (by decide +kernel)
  have h := dead_reckoning sprites (fun _ => 7) ready_powerUp rfl rfl
    (hround ▸ isOn_cruise 7 powerUp 3)
  have hdx : travelled (fun _ => 7) Heading.dx 3 = 2 := by decide
  have hdy : travelled (fun _ => 7) Heading.dy 3 = 0 := by decide
  rw [hdx, hdy] at h
  exact h

end Reckoning

end Design

end Bosconian
