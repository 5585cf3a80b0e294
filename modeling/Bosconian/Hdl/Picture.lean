import Bosconian.Hdl.Sync
import Bosconian.Hdl.Colors

/-!
# Which layer a pixel shows

The layer flags and the sprite colours of a pixel are registered with the same edge, but the
colours of the ship and of the bases are enabled by the flags as they were before it, those of
the pixel to the left.

* `topmost` — the colour a pixel should have.
* `rgb_pixel` — the colour it has.
* `shows_topmost_iff` — they agree exactly where the topmost layer is not at its left edge, and
  no destroyed base hides a standing one.
-/

namespace Bosconian

open Words

namespace DisplayGame

/-! ## Layers -/

/-- The ship covers the pixel. -/
def shipCovers (roms : Roms) (s : DisplayGame) (p : Pixel) : Bool :=
  shipBox p.1 p.2 && decide (0 < shipTexel roms s.shipOrientation p)

/-- The texel of a base at a pixel. -/
def baseTexel (roms : Roms) (c : Corner) (p : Pixel) : BitVec 3 :=
  roms.base (GreenEnemyBase.romAddress c p.1 p.2)

/-- A base covers the pixel. -/
def baseCovers (roms : Roms) (c : Corner) (p : Pixel) : Bool :=
  baseBox c p.1 p.2 && decide (1 < baseTexel roms c p)

/-- The bullet of a standing base covers the pixel. -/
def enemyBulletCovers (s : DisplayGame) (p : Pixel) : Bool :=
  enemyBaseShootBulletNext p.1 p.2 s.baseEnemyBullet && !s.enemyOneBaseHit ||
    enemyBaseShootBulletNext p.1 p.2 s.baseEnemyBullet2 && !s.enemyTwoBaseHit

def backgroundColor (colorRoms : ColorRoms) (s : DisplayGame) (p : Pixel) : Rgb 4 :=
  boscanianBackgroundPalette (colorRoms.background (s.bgk.romAddress p.1 p.2))

/-- The colour of the first layer that covers the pixel: the ship, its bullets, those of the
standing bases, the standing bases, the background. -/
def topmost (roms : Roms) (colorRoms : ColorRoms) (s : DisplayGame) (p : Pixel) : Rgb 4 :=
  if s.shipCovers roms p then whiteSpaceshipPalette (shipTexel roms s.shipOrientation p)
  else if s.bulletOnNext p.1 p.2 then ⟨0xF, 0x0, 0x0⟩
  else if s.enemyBulletCovers p then ⟨0xF, 0xF, 0xF⟩
  else if baseCovers roms s.enemyBaseTwo.toCorner p && !s.enemyTwoBaseHit then
    greenEnemyBasePalette (baseTexel roms s.enemyBaseTwo.toCorner p)
  else if baseCovers roms s.enemyBaseOne.toCorner p && !s.enemyOneBaseHit then
    greenEnemyBasePalette (baseTexel roms s.enemyBaseOne.toCorner p)
  else s.backgroundColor colorRoms p

end DisplayGame

namespace Display

/-- `blank` is the signal of `vga_controller`. -/
theorem blank_display (v : VgaController) : blank (v.hc, v.vc) = v.display := rfl

/-! ## The two stages -/

theorem bgkAfterEdge_eq (s : DisplayGame) (collision collision' : Bool) :
    s.bgkAfterEdge collision collision' = s.bgk := by
  unfold DisplayGame.bgkAfterEdge
  cases collision <;> cases collision' <;> rfl

section Pixel

variable {roms : Roms} {colorRoms : ColorRoms} {p : Pixel} {s : Display}

@[simp] theorem bgk_pixel : (s.pixel roms colorRoms p).game.bgk = s.game.bgk :=
  bgkAfterEdge_eq _ _ _

theorem shipOrientation_pixel :
    (s.pixel roms colorRoms p).game.shipOrientation = s.game.shipOrientation := rfl

/-- The flags are those of the pixel. -/
theorem shipOn_pixel (h : s.game.collision = false) :
    (s.pixel roms colorRoms p).game.shipOn = s.game.shipCovers roms p := by
  show DisplayGame.shipOnNext p.1 p.2 (s.game.negedgeVgaClk roms p.1 p.2) = _
  have hdata := DisplayGame.data_negedgeVgaClk roms s.game.shipOrientation p s.game.userShip
  rw [DisplayGame.shipOnNext, DisplayGame.shipCovers, ← hdata, ← h]
  rfl

theorem bulletOn_pixel :
    (s.pixel roms colorRoms p).game.bulletOn = s.game.bulletOnNext p.1 p.2 := rfl

theorem enemyBaseOneOn_pixel :
    (s.pixel roms colorRoms p).game.enemyBaseOneOn =
      DisplayGame.baseCovers roms s.game.enemyBaseOne.toCorner p := rfl

theorem enemyBaseTwoOn_pixel :
    (s.pixel roms colorRoms p).game.enemyBaseTwoOn =
      DisplayGame.baseCovers roms s.game.enemyBaseTwo.toCorner p := rfl

/-- The colours are those of the pixel too, but enabled by the flags of the one before. -/
theorem shipColor_pixel (h : (s.pixel roms colorRoms p).game.collision = false) :
    (s.pixel roms colorRoms p).shipColor =
      .gate s.game.shipOn (whiteSpaceshipPalette (shipTexel roms s.game.shipOrientation p)) := by
  rw [← DisplayGame.data_negedgeVgaClk roms s.game.shipOrientation p s.game.userShip, shipColor,
    h, shipOrientation_pixel, if_neg Bool.false_ne_true, Spaceship.data,
    if_neg Bool.false_ne_true]
  split_ifs <;> rfl

theorem base_pixel (h : blank p = true) :
    (s.pixel roms colorRoms p).colors.base = .gate s.game.enemyBaseOneOn
      (greenEnemyBasePalette (DisplayGame.baseTexel roms s.game.enemyBaseOne.toCorner p)) := by
  show Rgb.gate (blank p && s.game.enemyBaseOneOn) _ = _
  rw [h, Bool.true_and]
  rfl

theorem base2_pixel (h : blank p = true) :
    (s.pixel roms colorRoms p).colors.base2 = .gate s.game.enemyBaseTwoOn
      (greenEnemyBasePalette (DisplayGame.baseTexel roms s.game.enemyBaseTwo.toCorner p)) := by
  show Rgb.gate (blank p && s.game.enemyBaseTwoOn) _ = _
  rw [h, Bool.true_and]
  rfl

theorem scroll_pixel (h : blank p = true) :
    (s.pixel roms colorRoms p).colors.scroll = (s.game.backgroundColor colorRoms p).widen := by
  show (Rgb.gate (blank p) _).widen = _
  rw [h]
  rfl

end Pixel

end Display

namespace DisplayGame

/-- The colour `RGB_Display` registers for the pixel `p` that follows `q`. -/
def shown (roms : Roms) (colorRoms : ColorRoms) (s : DisplayGame) (q p : Pixel) : Rgb 4 :=
  if s.shipCovers roms p then
    .gate (s.shipCovers roms q) (whiteSpaceshipPalette (shipTexel roms s.shipOrientation p))
  else if s.bulletOnNext p.1 p.2 then ⟨0xF, 0x0, 0x0⟩
  else if s.enemyBulletCovers p then ⟨0xF, 0xF, 0xF⟩
  else if baseCovers roms s.enemyBaseTwo.toCorner p then
    if s.enemyTwoBaseHit then s.backgroundColor colorRoms p
    else .gate (baseCovers roms s.enemyBaseTwo.toCorner q)
      (greenEnemyBasePalette (baseTexel roms s.enemyBaseTwo.toCorner p))
  else if baseCovers roms s.enemyBaseOne.toCorner p then
    if s.enemyOneBaseHit then s.backgroundColor colorRoms p
    else .gate (baseCovers roms s.enemyBaseOne.toCorner q)
      (greenEnemyBasePalette (baseTexel roms s.enemyBaseOne.toCorner p))
  else s.backgroundColor colorRoms p

end DisplayGame

namespace Display

/-- **The pipeline.** The colour registered two clocks after `p` is presented, `q` before it. -/
theorem rgb_pixel {roms : Roms} {colorRoms : ColorRoms} {q p r : Pixel} {s : Display}
    (hblank : blank p = true) (hq : s.game.collision = false)
    (hp : (s.pixel roms colorRoms q).game.collision = false)
    (hr : ((s.pixel roms colorRoms q).pixel roms colorRoms p).game.collision = false) :
    (((s.pixel roms colorRoms q).pixel roms colorRoms p).pixel roms colorRoms r).colors.rgb.low =
      s.game.shown roms colorRoms q p := by
  show ((s.pixel roms colorRoms q).pixel roms colorRoms p).rgbDisplay.low = _
  have hscroll : (s.pixel roms colorRoms q).game.backgroundColor colorRoms p =
      s.game.backgroundColor colorRoms p := by
    simp [DisplayGame.backgroundColor]
  rw [rgbDisplay, shipOn_pixel hp, shipColor_pixel hr, shipOn_pixel hq, base_pixel hblank,
    base2_pixel hblank, scroll_pixel hblank, hscroll]
  have hred : Rgb.low ⟨0xFF, 0x00, 0x00⟩ = ⟨0xF, 0x0, 0x0⟩ := rfl
  have hwhite : Rgb.low ⟨0xFF, 0xFF, 0xFF⟩ = ⟨0xF, 0xF, 0xF⟩ := rfl
  have hbullets : s.game.enemyBulletCovers p = true ↔
      ((((s.pixel roms colorRoms q).pixel roms colorRoms p).game.enemyBaseOneShootBullet &&
          !((s.pixel roms colorRoms q).pixel roms colorRoms p).game.enemyOneBaseHit) = true ∨
        (((s.pixel roms colorRoms q).pixel roms colorRoms p).game.enemyBaseTwoShootBullet &&
          !((s.pixel roms colorRoms q).pixel roms colorRoms p).game.enemyTwoBaseHit) = true) :=
    Bool.or_eq_true_iff
  simp only [apply_ite Rgb.low, Rgb.low_widen, hred, hwhite, DisplayGame.shown, hbullets, ite_or]
  rfl

end Display

/-! ## The left edges -/

namespace DisplayGame

/-- The topmost layer of `p` covers `q`, the pixel to the left, as well. Bullets and the
background have no edge, and where the topmost layer is base one, a destroyed base two must not
cover it, unless one cannot tell the base from the background. -/
def Seamless (roms : Roms) (colorRoms : ColorRoms) (s : DisplayGame) (q p : Pixel) : Prop :=
  if s.shipCovers roms p then s.shipCovers roms q = true
  else if s.bulletOnNext p.1 p.2 || s.enemyBulletCovers p then True
  else if baseCovers roms s.enemyBaseTwo.toCorner p && !s.enemyTwoBaseHit then
    baseCovers roms s.enemyBaseTwo.toCorner q = true
  else if baseCovers roms s.enemyBaseOne.toCorner p && !s.enemyOneBaseHit then
    if baseCovers roms s.enemyBaseTwo.toCorner p then
      s.backgroundColor colorRoms p =
        greenEnemyBasePalette (baseTexel roms s.enemyBaseOne.toCorner p)
    else baseCovers roms s.enemyBaseOne.toCorner q = true
  else True

/-- A texel that covers is not black. -/
theorem ship_ne_black {roms : Roms} {s : DisplayGame} {p : Pixel} (h : s.shipCovers roms p = true) :
    whiteSpaceshipPalette (shipTexel roms s.shipOrientation p) ≠ .black := by
  rw [shipCovers, Bool.and_eq_true, decide_eq_true_eq] at h
  exact whiteSpaceshipPalette_ne_black h.2

theorem base_ne_black {roms : Roms} {c : Corner} {p : Pixel} (h : baseCovers roms c p = true) :
    greenEnemyBasePalette (baseTexel roms c p) ≠ .black := by
  rw [baseCovers, Bool.and_eq_true, decide_eq_true_eq] at h
  exact greenEnemyBasePalette_ne_black h.2

theorem shown_eq_topmost_iff (roms : Roms) (colorRoms : ColorRoms) (s : DisplayGame)
    (q p : Pixel) :
    s.shown roms colorRoms q p = s.topmost roms colorRoms p ↔ s.Seamless roms colorRoms q p := by
  unfold shown topmost Seamless
  by_cases hship : s.shipCovers roms p = true
  · simp only [hship, if_true]
    exact Rgb.gate_eq_iff (ship_ne_black hship)
  by_cases hbullet : s.bulletOnNext p.1 p.2 = true
  · simp [hship, hbullet]
  by_cases henemy : s.enemyBulletCovers p = true
  · simp [hship, hbullet, henemy]
  simp only [hship, hbullet, henemy, if_false, Bool.or_self, Bool.false_eq_true]
  by_cases htwo : baseCovers roms s.enemyBaseTwo.toCorner p = true
  · cases hhit : s.enemyTwoBaseHit with
    | false =>
      simp only [htwo, Bool.not_false, Bool.and_true, if_true, Bool.false_eq_true, if_false]
      exact Rgb.gate_eq_iff (base_ne_black htwo)
    | true =>
      -- base two is destroyed: the background shows through, whatever lies under it
      simp only [htwo, Bool.not_true, Bool.and_false, if_true, Bool.false_eq_true, if_false]
      split_ifs <;> simp
  · simp only [htwo, Bool.false_and, Bool.false_eq_true, if_false]
    by_cases hone : baseCovers roms s.enemyBaseOne.toCorner p = true
    · cases hhit : s.enemyOneBaseHit with
      | false =>
        simp only [hone, Bool.not_false, Bool.and_true, if_true, Bool.false_eq_true, if_false]
        exact Rgb.gate_eq_iff (base_ne_black hone)
      | true => simp [hone]
    · simp [hone]

end DisplayGame

/-- **Topmost layers.** Away from a collision a pixel of the visible window shows its topmost layer
exactly where that layer covers the pixel to the left too. -/
theorem shows_topmost_iff (roms : Roms) (colorRoms : ColorRoms) (s : Display) (x y : BitVec 10)
    (r : Pixel) (hvisible : Display.blank (x, y) = true) (hq : s.game.collision = false)
    (hp : (s.pixel roms colorRoms (x - 1, y)).game.collision = false)
    (hr : ((s.pixel roms colorRoms (x - 1, y)).pixel roms colorRoms (x, y)).game.collision =
      false) :
    (((s.pixel roms colorRoms (x - 1, y)).pixel roms colorRoms (x, y)).pixel roms colorRoms
        r).colors.rgb.low = s.game.topmost roms colorRoms (x, y) ↔
      s.game.Seamless roms colorRoms (x - 1, y) (x, y) := by
  rw [Display.rgb_pixel hvisible hq hp hr]
  exact DisplayGame.shown_eq_topmost_iff roms colorRoms s.game (x - 1, y) (x, y)

/-- Inside the ship. -/
theorem shows_topmost_ship :
    (((Display.powerUp.pixel sprites ⟨fun _ => 0, fun _ => 0⟩ (319, 234)).pixel sprites
        ⟨fun _ => 0, fun _ => 0⟩ (320, 234)).pixel sprites ⟨fun _ => 0, fun _ => 0⟩
          (321, 234)).colors.rgb.low =
      DisplayGame.powerUp.topmost sprites ⟨fun _ => 0, fun _ => 0⟩ (320, 234) :=
  (shows_topmost_iff sprites ⟨fun _ => 0, fun _ => 0⟩ Display.powerUp 320 234 (321, 234)
    (by decide) rfl (by decide +kernel) (by decide +kernel)).2
      (by unfold DisplayGame.Seamless; decide +kernel)

/-- The nose of the ship is black at its left edge. -/
theorem nose_is_black :
    ¬ ∀ (roms : Roms) (colorRoms : ColorRoms) (s : Display) (x y : BitVec 10) (r : Pixel),
      Display.blank (x, y) = true → s.game.collision = false →
      (s.pixel roms colorRoms (x - 1, y)).game.collision = false →
      ((s.pixel roms colorRoms (x - 1, y)).pixel roms colorRoms (x, y)).game.collision = false →
      (((s.pixel roms colorRoms (x - 1, y)).pixel roms colorRoms (x, y)).pixel roms colorRoms
        r).colors.rgb.low = s.game.topmost roms colorRoms (x, y) := by
  intro h
  have hnose := h sprites ⟨fun _ => 0, fun _ => 0⟩ Display.powerUp 319 234 (320, 234) (by decide)
    rfl (by decide +kernel) (by decide +kernel)
  revert hnose
  decide +kernel

end Bosconian
