import Mathlib.Data.Nat.Find
import Bosconian.Hdl.Raster
import Bosconian.Hdl.Sprites

/-!
# Collisions are seen pixel by pixel

The detector never compares shapes. It registers for each pixel which layers are on, one pixel
later whether the ship and a hazard were on together, and its output changes the sprite that is
being compared. This file shows that a frame of the raster nevertheless decides whether the
shapes meet.

* `Layout` — what the frame registers put on the screen, and the sets of pixels it consists of.
* `scan_sees_overlap` — between two frame ticks `lost` is asserted exactly when the ship and
  the hazards have a pixel in common.

Only the first common pixel of a frame needs an argument: until then the detector is low and the
sprite is that of the heading, and two pixels later `lost` is high.
-/

namespace Bosconian

open EventMachine Words

/-! ## The picture -/

/-- The frame registers that place the ship and the hazards. -/
structure Layout where
  shipOrientation : BitVec 4
  one : Corner
  two : Corner
  enemyOneBaseHit : Bool
  enemyTwoBaseHit : Bool
  bulletOne : EnemyBullet
  bulletTwo : EnemyBullet
deriving DecidableEq, Repr

/-- A position of the raster. -/
abbrev Pixel := BitVec 10 × BitVec 10

/-- The texel of the ship at a pixel, by heading. -/
def shipTexel (roms : Roms) (direction : BitVec 4) (p : Pixel) : BitVec 2 :=
  if direction = dirDown then roms.down (Spaceship.romAddress (p.1 - 4) p.2)
  else if direction = dirRight then roms.right (Spaceship.romAddress (p.1 - 5) p.2)
  else if direction = dirLeft then roms.left (Spaceship.romAddress (p.1 + 303) (p.2 + 234))
  else roms.up (Spaceship.romAddress (p.1 - 5) p.2)

/-- The pixels of a base. -/
def Corner.pixels (roms : Roms) (c : Corner) : Set Pixel :=
  {p | DisplayGame.baseBox c p.1 p.2 = true ∧ 1 < roms.base (GreenEnemyBase.romAddress c p.1 p.2)}

/-- The pixels of a shown bullet: one on each side of it in both axes. -/
def EnemyBullet.pixels (e : EnemyBullet) : Set Pixel :=
  {p | e.showBullet = true ∧
    (p.1.toNat ≤ e.enemyBulletX.toNat + 1 ∧ e.enemyBulletX.toNat ≤ p.1.toNat + 1) ∧
    (p.2.toNat ≤ e.enemyBulletY.toNat + 1 ∧ e.enemyBulletY.toNat ≤ p.2.toNat + 1)}

namespace Layout

/-- The pixels of the ship. -/
def ship (roms : Roms) (l : Layout) : Set Pixel :=
  {p | DisplayGame.shipBox p.1 p.2 = true ∧ shipTexel roms l.shipOrientation p ≠ 0}

/-- The pixels of the bases that stand and of their bullets. -/
def hazards (roms : Roms) (l : Layout) : Set Pixel :=
  {p | l.enemyOneBaseHit = false ∧ (p ∈ l.one.pixels roms ∨ p ∈ l.bulletOne.pixels) ∨
    l.enemyTwoBaseHit = false ∧ (p ∈ l.two.pixels roms ∨ p ∈ l.bulletTwo.pixels)}

end Layout

namespace DisplayGame

def layout (s : DisplayGame) : Layout where
  shipOrientation := s.shipOrientation
  one := s.enemyBaseOne.toCorner
  two := s.enemyBaseTwo.toCorner
  enemyOneBaseHit := s.enemyOneBaseHit
  enemyTwoBaseHit := s.enemyTwoBaseHit
  bulletOne := s.baseEnemyBullet
  bulletTwo := s.baseEnemyBullet2

/-! ## The two stages of the detector -/

/-- Some hazard layer of a standing base is on. -/
def hazardOn (s : DisplayGame) : Bool :=
  (s.enemyBaseOneOn || s.enemyBaseOneShootBullet) && !s.enemyOneBaseHit ||
    (s.enemyBaseTwoOn || s.enemyBaseTwoShootBullet) && !s.enemyTwoBaseHit

/-- The second stage. -/
theorem lost_posedgeVgaClk (drawX drawY : BitVec 10) (s : DisplayGame) :
    (s.posedgeVgaClk drawX drawY).lost = (s.shipOn && s.hazardOn) := by
  simp only [lost, posedgeVgaClk, collisionNext, enemyB1BulletCollisionNext,
    enemyB2BulletCollisionNext, hazardOn]
  cases s.shipOn <;> cases s.enemyOneBaseHit <;> cases s.enemyTwoBaseHit <;> simp
  ac_rfl

theorem lost_of_collision {s : DisplayGame} (h : s.collision = true) : s.lost = true := by
  simp [lost, h]

/-- The ROMs have been read at the pixel: to read them again would change nothing. -/
def RomsRead (roms : Roms) (p : Pixel) (s : DisplayGame) : Prop :=
  s.negedgeVgaClk roms p.1 p.2 = s

theorem shipBox_iff (p : Pixel) :
    shipBox p.1 p.2 = true ↔
      (313 ≤ p.1.toNat ∧ p.1.toNat ≤ 327) ∧ 233 ≤ p.2.toNat ∧ p.2.toNat ≤ 247 := by
  rw [shipBox, Bool.and_eq_true, inBox_iff_of_lt (by decide), inBox_iff_of_lt (by decide)]
  exact Iff.rfl

/-- What the four ROMs put out, and the heading selects. -/
theorem data_negedgeVgaClk (roms : Roms) (direction : BitVec 4) (p : Pixel) (u : Spaceship) :
    (u.negedgeVgaClk roms p.1 p.2).data false direction = shipTexel roms direction p := by
  unfold shipTexel
  rcases direction_cases direction with rfl | rfl | rfl | rfl | hdir
  · rfl
  · rfl
  · rfl
  · rfl
  · simp only [IsStep, not_or] at hdir
    simp [Spaceship.data, Spaceship.negedgeVgaClk, hdir]

/-- The first stage of the ship. Under a collision the sprite compared is the upright one. -/
theorem shipOnNext_iff {roms : Roms} {p : Pixel} {s : DisplayGame} (hread : s.RomsRead roms p)
    (hcollision : s.collision = false) :
    s.shipOnNext p.1 p.2 = true ↔ p ∈ s.layout.ship roms := by
  have hship : s.userShip.data false s.shipOrientation = shipTexel roms s.shipOrientation p := by
    rw [← congrArg userShip hread]
    exact data_negedgeVgaClk roms s.shipOrientation p s.userShip
  rw [shipOnNext, hcollision, hship, Bool.and_eq_true, decide_eq_true_eq]
  exact and_congr_right fun _ => BitVec.pos_iff_ne_zero _

/-- The first stage of a base. -/
theorem enemyBaseOnNext_iff {roms : Roms} {p : Pixel} {b : GreenEnemyBase}
    (hread : b.negedgeVgaClk roms.base p.1 p.2 = b) :
    enemyBaseOnNext p.1 p.2 b = true ↔ p ∈ b.toCorner.pixels roms := by
  have hq : b.romQ = roms.base (GreenEnemyBase.romAddress b.toCorner p.1 p.2) :=
    (congrArg GreenEnemyBase.romQ hread).symm
  rw [enemyBaseOnNext, hq, Bool.and_eq_true, decide_eq_true_eq]
  exact Iff.rfl

/-- The first stage of a bullet. The test borrows for a bullet at the edge of the screen, where
the ship never is. -/
theorem enemyBaseShootBulletNext_iff {p : Pixel} (hbox : shipBox p.1 p.2 = true)
    (e : EnemyBullet) : enemyBaseShootBulletNext p.1 p.2 e = true ↔ p ∈ e.pixels := by
  obtain ⟨⟨hx, -⟩, hy, -⟩ := (shipBox_iff p).1 hbox
  have h1 : (1 : BitVec 32).toNat = 1 := rfl
  rw [enemyBaseShootBulletNext, bulletPixel, Bool.and_eq_true, Bool.and_eq_true,
    inWindow_iff (by decide) (by decide), inWindow_iff (by decide) (by decide), h1]
  refine and_congr_right fun _ => and_congr ?_ ?_ <;> omega

/-- The first stage of the hazards. -/
theorem hazardOn_posedgeVgaClk {roms : Roms} {p : Pixel} {s : DisplayGame}
    (hread : s.RomsRead roms p) (hbox : shipBox p.1 p.2 = true) :
    (s.posedgeVgaClk p.1 p.2).hazardOn = true ↔ p ∈ s.layout.hazards roms := by
  have hone := enemyBaseOnNext_iff (congrArg enemyBaseOne hread)
  have htwo := enemyBaseOnNext_iff (congrArg enemyBaseTwo hread)
  have hbullet := enemyBaseShootBulletNext_iff hbox
  show ((enemyBaseOnNext p.1 p.2 s.enemyBaseOne ||
      enemyBaseShootBulletNext p.1 p.2 s.baseEnemyBullet) && !s.enemyOneBaseHit ||
    (enemyBaseOnNext p.1 p.2 s.enemyBaseTwo ||
      enemyBaseShootBulletNext p.1 p.2 s.baseEnemyBullet2) && !s.enemyTwoBaseHit) = true ↔ _
  simp only [Bool.or_eq_true, Bool.and_eq_true, Bool.not_eq_true', hone, htwo, hbullet]
  rw [and_comm, and_comm (b := s.enemyTwoBaseHit = false)]
  exact Iff.rfl

end DisplayGame

/-! ## Along the raster -/

namespace Design

/-- The pixel the raster is at. -/
def position (s : Design) : Pixel := (s.vga.hc, s.vga.vc)

theorem AtPixel.position_eq {s : Design} {j : Nat} (h : s.AtPixel j) {p : Pixel}
    (hx : p.1.toNat < 800)
    (hj : j % 420000 = 800 * p.2.toNat + p.1.toNat) : s.position = p := by
  have hhc : s.vga.hc = p.1 := BitVec.eq_of_toNat_eq (by rw [h.hc]; omega)
  have hvc : s.vga.vc = p.2 := BitVec.eq_of_toNat_eq (by rw [h.vc]; omega)
  rw [position, hhc, hvc]

/-- In the box of the ship no frame starts. -/
theorem AtPixel.ticks_of_shipBox {s : Design} {j : Nat} (h : s.AtPixel j)
    (hbox : DisplayGame.shipBox s.vga.hc s.vga.vc = true) :
    186000 < j % 420000 ∧ j % 420000 < 200000 ∧ s.ticks = false := by
  have hpos := (DisplayGame.shipBox_iff s.position).1 hbox
  simp only [position, h.hc, h.vc] at hpos
  have hticks := h.ticks_iff
  have hrange : 186000 < j % 420000 ∧ j % 420000 < 200000 := by omega
  refine ⟨hrange.1, hrange.2, ?_⟩
  rw [← Bool.not_eq_true, hticks]
  omega

section Pixel

variable (roms : Roms) {s : Design} {j : Nat} (keycode keycode' : BitVec 8)

/-- The second stage of the detector. -/
theorem AtPixel.lost_step (h : s.AtPixel j) :
    ((s.step roms (.posedgeClk keycode)).step roms (.posedgeClk keycode')).ctrl.game.lost =
      (s.ctrl.game.shipOn && s.ctrl.game.hazardOn) := by
  rw [h.step_step, ← DisplayGame.lost_posedgeVgaClk s.vga.hc s.vga.vc]
  unfold afterPixel
  split_ifs <;> rfl

/-- The first stage of the ship. -/
theorem AtPixel.shipOn_step (h : s.AtPixel j) :
    ((s.step roms (.posedgeClk keycode)).step roms (.posedgeClk keycode')).ctrl.game.shipOn =
      s.ctrl.game.shipOnNext s.vga.hc s.vga.vc := by
  rw [h.step_step]
  unfold afterPixel
  split_ifs <;> rfl

/-- The first stage of the hazards. -/
theorem AtPixel.hazardOn_step (h : s.AtPixel j) (hticks : s.ticks = false) :
    ((s.step roms (.posedgeClk keycode)).step roms (.posedgeClk keycode')).ctrl.game.hazardOn =
      (s.ctrl.game.posedgeVgaClk s.vga.hc s.vga.vc).hazardOn := by
  rw [h.step_step, afterPixel, hticks]
  rfl

/-- Only a frame tick changes the picture. -/
theorem AtPixel.layout_step (h : s.AtPixel j) (hticks : s.ticks = false) :
    ((s.step roms (.posedgeClk keycode)).step roms (.posedgeClk keycode')).ctrl.game.layout =
      s.ctrl.game.layout := by
  rw [h.step_step, afterPixel, hticks]
  rfl

/-- The falling edge reads the ROMs at the pixel to come. -/
theorem AtPixel.romsRead_step (h : s.AtPixel j) :
    ((s.step roms (.posedgeClk keycode)).step roms (.posedgeClk keycode')).ctrl.game.RomsRead roms
      ((s.step roms (.posedgeClk keycode)).step roms (.posedgeClk keycode')).position := by
  rw [h.step_step]
  rfl

end Pixel

/-! ## A frame of the raster -/

section Frame

variable (roms : Roms) {s : Design} (keys : Nat → BitVec 8)

/-- The game before pixel `j`. -/
def gameAt (s : Design) (j : Nat) : DisplayGame := (scan roms s keys (2 * j)).ctrl.game

/-- Whether pixel `j` belongs to the frame that the tick with pixel `a` starts and the tick with
pixel `b` ends. -/
structure InFrame (a b j : Nat) : Prop where
  start : a = 0 ∨ a % 420000 = 392800
  stop : b % 420000 = 392800 ∧ b ≤ a + 420000
  after : a < j
  before : j ≤ b

/-- Inside a frame the picture is the one its tick left. -/
theorem layout_gameAt (h : s.Fresh) {a b j : Nat} (hj : InFrame a b j) :
    (gameAt roms keys s j).layout = (scan roms s keys (2 * a + 1)).ctrl.game.layout := by
  obtain ⟨hstart, hstop, hafter, hbefore⟩ := hj
  induction j, hafter using Nat.le_induction with
  | base =>
    obtain ⟨hvga, hreset⟩ := scan_odd roms h keys a
    show (step roms (scan roms s keys (2 * a + 1)) _).ctrl.game.layout = _
    rw [step_high roms hreset (by rw [hvga]; rfl)]
    rfl
  | succ j hj ih =>
    have hpixel := atPixel_scan roms h keys j
    have hticks : (scan roms s keys (2 * j)).ticks = false := by
      rw [← Bool.not_eq_true, hpixel.ticks_iff]
      omega
    exact (hpixel.layout_step roms _ _ hticks).trans (ih (by omega))

/-- The detector looks at the layers of two pixels before. -/
theorem lost_add_two (h : s.Fresh) (j : Nat) :
    (gameAt roms keys s (j + 2)).lost =
      ((gameAt roms keys s j).shipOnNext (scan roms s keys (2 * j)).vga.hc
          (scan roms s keys (2 * j)).vga.vc &&
        (gameAt roms keys s (j + 1)).hazardOn) := by
  have hlost : (gameAt roms keys s (j + 2)).lost =
      ((gameAt roms keys s (j + 1)).shipOn && (gameAt roms keys s (j + 1)).hazardOn) :=
    (atPixel_scan roms h keys (j + 1)).lost_step roms _ _
  have hship : (gameAt roms keys s (j + 1)).shipOn = _ :=
    (atPixel_scan roms h keys j).shipOn_step roms _ _
  rw [hlost, hship]
  rfl

theorem romsRead_gameAt (h : s.Fresh) {j : Nat} (hj : 0 < j) :
    (gameAt roms keys s j).RomsRead roms (scan roms s keys (2 * j)).position := by
  obtain ⟨i, rfl⟩ := Nat.exists_eq_succ_of_ne_zero hj.ne'
  exact (atPixel_scan roms h keys i).romsRead_step roms _ _

/-- In the box of the ship, what the hazard layers will show is the picture. -/
theorem hazardOn_gameAt (h : s.Fresh) {j : Nat} (hj : 0 < j)
    (hbox : DisplayGame.shipBox (scan roms s keys (2 * j)).vga.hc
      (scan roms s keys (2 * j)).vga.vc = true) :
    (gameAt roms keys s (j + 1)).hazardOn = true ↔
      (scan roms s keys (2 * j)).position ∈ (gameAt roms keys s j).layout.hazards roms := by
  have hpixel := atPixel_scan roms h keys j
  obtain ⟨-, -, hticks⟩ := hpixel.ticks_of_shipBox hbox
  have hstage : (gameAt roms keys s (j + 1)).hazardOn =
      ((gameAt roms keys s j).posedgeVgaClk (scan roms s keys (2 * j)).position.1
        (scan roms s keys (2 * j)).position.2).hazardOn :=
    hpixel.hazardOn_step roms _ _ hticks
  rw [hstage]
  exact DisplayGame.hazardOn_posedgeVgaClk (romsRead_gameAt roms keys h hj) hbox

/-- At a pixel that the ship shares with a hazard the detector is high, or will be in two
pixels. -/
theorem lost_of_overlap (h : s.Fresh) {j : Nat} (hj : 0 < j)
    (hship : (scan roms s keys (2 * j)).position ∈ (gameAt roms keys s j).layout.ship roms)
    (hhazard : (scan roms s keys (2 * j)).position ∈ (gameAt roms keys s j).layout.hazards roms) :
    (gameAt roms keys s j).lost = true ∨ (gameAt roms keys s (j + 2)).lost = true := by
  by_cases hcollision : (gameAt roms keys s j).collision = true
  · exact .inl (DisplayGame.lost_of_collision hcollision)
  rw [Bool.not_eq_true] at hcollision
  have hshipOn := (DisplayGame.shipOnNext_iff (romsRead_gameAt roms keys h hj) hcollision).2 hship
  have hhazardOn := (hazardOn_gameAt roms keys h hj hship.1).2 hhazard
  right
  rw [lost_add_two roms keys h, hhazardOn, Bool.and_true]
  exact hshipOn

/-- Two pixels before the detector is high, the raster is in the box of the ship. -/
theorem shipBox_of_lost (h : s.Fresh) {j : Nat} (hlost : (gameAt roms keys s (j + 2)).lost = true) :
    DisplayGame.shipBox (scan roms s keys (2 * j)).vga.hc
      (scan roms s keys (2 * j)).vga.vc = true := by
  rw [lost_add_two roms keys h, Bool.and_eq_true] at hlost
  exact (Bool.and_eq_true_iff.1 hlost.1).1

/-- If the detector is high and `collision` was low two pixels before, the ship shared that
pixel with a hazard. -/
theorem overlap_of_lost (h : s.Fresh) {j : Nat} (hj : 0 < j)
    (hcollision : (gameAt roms keys s j).collision = false)
    (hlost : (gameAt roms keys s (j + 2)).lost = true) :
    (scan roms s keys (2 * j)).position ∈
      (gameAt roms keys s j).layout.ship roms ∩ (gameAt roms keys s j).layout.hazards roms := by
  have hbox := shipBox_of_lost roms keys h hlost
  rw [lost_add_two roms keys h, Bool.and_eq_true, hazardOn_gameAt roms keys h hj hbox] at hlost
  exact ⟨(DisplayGame.shipOnNext_iff (romsRead_gameAt roms keys h hj) hcollision).1 hlost.1,
    hlost.2⟩

/-- A frame in which the ship is on a hazard is a frame in which the detector goes high. -/
theorem lost_iff_overlap (h : s.Fresh) (hquiet : s.ctrl.game.shipOn = false) {a b : Nat}
    (hab : InFrame a b b) :
    (∃ j, InFrame a b j ∧ (gameAt roms keys s j).lost = true) ↔
      ((scan roms s keys (2 * a + 1)).ctrl.game.layout.ship roms ∩
        (scan roms s keys (2 * a + 1)).ctrl.game.layout.hazards roms).Nonempty := by
  obtain ⟨hstart, hstop, hafter, -⟩ := hab
  constructor
  · intro hex
    -- the first pixel of the frame that finds the detector high
    classical
    obtain ⟨⟨-, -, hi, hib⟩, hlost⟩ := Nat.find_spec hex
    have hmin := fun j => Nat.find_min hex (m := j)
    generalize Nat.find hex = i at hi hib hlost hmin
    match i with
    | 0 => cases hi
    | 1 =>
      have hstage : (gameAt roms keys s 1).lost = (s.ctrl.game.shipOn && s.ctrl.game.hazardOn) :=
        (atPixel_scan roms h keys 0).lost_step roms _ _
      rw [hstage, hquiet] at hlost
      cases hlost
    | j + 2 =>
      have hpixel := atPixel_scan roms h keys j
      obtain ⟨hlo, hhi, -⟩ := hpixel.ticks_of_shipBox (shipBox_of_lost roms keys h hlost)
      have hj : InFrame a b j := ⟨hstart, hstop, by omega, by omega⟩
      have hlow : (gameAt roms keys s j).collision = false := by
        rw [← Bool.not_eq_true]
        exact fun hc => hmin j (by omega) ⟨hj, DisplayGame.lost_of_collision hc⟩
      have hoverlap := overlap_of_lost roms keys h (by omega) hlow hlost
      rw [layout_gameAt roms keys h hj] at hoverlap
      exact ⟨_, hoverlap⟩
  · rintro ⟨p, hship, hhazard⟩
    obtain ⟨⟨hx₁, hx₂⟩, hy₁, hy₂⟩ := (DisplayGame.shipBox_iff p).1 hship.1
    -- the pixel of this frame at which the raster visits `p`
    obtain ⟨j, haj, hjb, hmod⟩ : ∃ j, a < j ∧ j + 2 ≤ b ∧
        j % 420000 = 800 * p.2.toNat + p.1.toNat := by
      rcases hstart with rfl | hstart
      · exact ⟨800 * p.2.toNat + p.1.toNat, by omega, by omega, by omega⟩
      · exact ⟨a + 27200 + (800 * p.2.toNat + p.1.toNat), by omega, by omega, by omega⟩
    have hj : InFrame a b j := ⟨hstart, hstop, haj, by omega⟩
    have hpos := (atPixel_scan roms h keys j).position_eq (by omega) hmod
    rw [← layout_gameAt roms keys h hj, ← hpos] at hship hhazard
    rcases lost_of_overlap roms keys h (by omega) hship hhazard with hlost | hlost
    · exact ⟨j, hj, hlost⟩
    · exact ⟨j + 2, ⟨hstart, hstop, by omega, hjb⟩, hlost⟩

/-- Two ticks with none between them bound a frame. -/
theorem inFrame_of_ticks (h : s.Fresh) {n m : Nat} (hn : (scan roms s keys n).ticks = true)
    (hm : (scan roms s keys m).ticks = true) (hnm : n < m)
    (hnone : ∀ k, n < k → k < m → (scan roms s keys k).ticks = false) :
    ∃ a b, n = 2 * a ∧ m = 2 * b ∧ InFrame a b b := by
  obtain ⟨a, rfl, ha⟩ := (ticks_iff roms h keys n).1 hn
  obtain ⟨b, rfl, hb⟩ := (ticks_iff roms h keys m).1 hm
  refine ⟨a, b, rfl, rfl, ha, ⟨by omega, ?_⟩, by omega, le_rfl⟩
  by_contra hlate
  -- the tick one frame after `a` would lie between them
  have hnext := hnone (2 * (a - a % 420000 + (if a = 0 then 392800 else 812800)))
    (by split_ifs <;> omega) (by split_ifs <;> omega)
  rw [← Bool.not_eq_true, ticks_iff roms h keys] at hnext
  exact hnext ⟨_, rfl, .inr (by split_ifs <;> omega)⟩

end Frame

end Design

open Design

/-- **Pixel-rate collision detection is geometric overlap.** In a run without `Reset`, between
two consecutive frame ticks some pixel clock finds `lost` high exactly when a pixel of the ship
is a pixel of a standing base or of its shown bullet, as the first tick has left them. -/
theorem scan_sees_overlap (roms : Roms) (keys : Nat → BitVec 8) (n m : Nat)
    (hn : (scan roms powerUp keys n).ticks = true) (hm : (scan roms powerUp keys m).ticks = true)
    (hnm : n < m) (hnone : ∀ k, n < k → k < m → (scan roms powerUp keys k).ticks = false) :
    (∃ k, n < k ∧ k ≤ m ∧ (scan roms powerUp keys k).vga.clkdiv = false ∧
        (scan roms powerUp keys k).ctrl.game.lost = true) ↔
      ((scan roms powerUp keys (n + 1)).ctrl.game.layout.ship roms ∩
        (scan roms powerUp keys (n + 1)).ctrl.game.layout.hazards roms).Nonempty := by
  obtain ⟨a, b, rfl, rfl, hab⟩ := inFrame_of_ticks roms keys fresh_powerUp hn hm hnm hnone
  rw [← lost_iff_overlap roms keys fresh_powerUp rfl hab]
  constructor
  · rintro ⟨k, hak, hkb, hclk, hlost⟩
    rcases Nat.even_or_odd' k with ⟨j, rfl | rfl⟩
    · exact ⟨j, ⟨hab.start, hab.stop, by omega, by omega⟩, hlost⟩
    · rw [(scan_odd roms fresh_powerUp keys j).1] at hclk
      cases hclk
  · rintro ⟨j, ⟨-, -, haj, hjb⟩, hlost⟩
    exact ⟨2 * j, by omega, by omega, (atPixel_scan roms fresh_powerUp keys j).clkdiv, hlost⟩

/-- The first frame after power-up, with a key held down. -/
theorem scan_sees_overlap_first_frame :
    (∃ k, 0 < k ∧ k ≤ 2 * 392800 ∧ (scan sprites powerUp (fun _ => 0x1A) k).vga.clkdiv = false ∧
        (scan sprites powerUp (fun _ => 0x1A) k).ctrl.game.lost = true) ↔
      ((scan sprites powerUp (fun _ => 0x1A) 1).ctrl.game.layout.ship sprites ∩
        (scan sprites powerUp (fun _ => 0x1A) 1).ctrl.game.layout.hazards sprites).Nonempty := by
  have hticks := ticks_iff sprites fresh_powerUp (fun _ => 0x1A)
  refine scan_sees_overlap sprites (fun _ => 0x1A) 0 (2 * 392800) ?_ ?_ (by decide) ?_
  · exact (hticks 0).2 ⟨0, rfl, .inl rfl⟩
  · exact (hticks _).2 ⟨392800, rfl, .inr rfl⟩
  · intro k hk hk'
    rw [← Bool.not_eq_true, hticks]
    rintro ⟨j, rfl, hj⟩
    omega

end Bosconian
