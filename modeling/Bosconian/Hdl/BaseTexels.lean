import Bosconian.Hdl.DisplayGame

/-!
# Where a base is drawn

A base is a sprite of 64 by 72 texels on a torus of 1024 by 1024 pixels, of which the screen shows
a corner. `Base_on` tests its box in `display_game`, at the 10 bits of the coordinates, and the
address of the texel comes from the module of the base, at 32 bits.

* `drawnAsPlaced_iff` — the two agree at a pixel exactly when it is not on the column or the line
  behind the far edges, and the box does not wrap.
* `eq_of_romAddress_eq` — where the address is right no texel is shown twice.
-/

namespace Bosconian

open Words

/-! ## Texels -/

namespace Corner

/-- `(DrawX - TL_X) mod 1024`. -/
def texelX (c : Corner) (drawX : BitVec 10) : Nat := (drawX - c.tlCornerX).toNat

/-- `(DrawY - TL_Y) mod 1024`. -/
def texelY (c : Corner) (drawY : BitVec 10) : Nat := (drawY - c.tlCornerY).toNat

/-- The pixel shows a texel of the base. -/
def Covers (c : Corner) (drawX drawY : BitVec 10) : Prop :=
  c.texelX drawX < 64 ∧ c.texelY drawY < 72

/-- The box is on exactly where the base is, and the address is that of the texel. -/
structure DrawnAsPlaced (c : Corner) (drawX drawY : BitVec 10) : Prop where
  box : DisplayGame.baseBox c drawX drawY = true ↔ c.Covers drawX drawY
  address : c.Covers drawX drawY →
    (GreenEnemyBase.romAddress c drawX drawY).toNat = c.texelY drawY * 64 + c.texelX drawX

/-- The far edges of the box are on the torus where the near ones are not behind them. -/
def Unwrapped (c : Corner) : Prop := c.tlCornerX.toNat < 960 ∧ c.tlCornerY.toNat < 952

/-- The column behind the right edge or the line behind the bottom one. -/
def Fringe (c : Corner) (drawX drawY : BitVec 10) : Prop :=
  c.texelX drawX = 64 ∧ c.texelY drawY ≤ 72 ∨ c.texelX drawX ≤ 64 ∧ c.texelY drawY = 72

instance (c : Corner) (drawX drawY : BitVec 10) : Decidable (c.Covers drawX drawY) := by
  unfold Covers; infer_instance

instance (c : Corner) : Decidable c.Unwrapped := by
  unfold Unwrapped; infer_instance

instance (c : Corner) (drawX drawY : BitVec 10) : Decidable (c.Fringe drawX drawY) := by
  unfold Fringe; infer_instance

/-! ## The box -/

/-- One axis of the box. The far edge is inside, and behind a far edge that wraps there is
nothing. -/
theorem inBox_iff_offset {lo size d : BitVec 10} (hd : d.toNat + size.toNat < 1024) :
    inBox lo size d = true ↔ lo.toNat + size.toNat < 1024 ∧ (d - lo).toNat ≤ size.toNat := by
  have hlo := lo.isLt
  rw [inBox_iff, BitVec.toNat_sub]
  omega

theorem baseBox_iff (c : Corner) {drawX drawY : BitVec 10} (hx : drawX.toNat < 640)
    (hy : drawY.toNat < 480) :
    DisplayGame.baseBox c drawX drawY = true ↔
      c.Unwrapped ∧ c.texelX drawX ≤ 64 ∧ c.texelY drawY ≤ 72 := by
  have hsizeX : DisplayGame.baseSizeX.toNat = 64 := rfl
  have hsizeY : DisplayGame.baseSizeY.toNat = 72 := rfl
  rw [DisplayGame.baseBox, Bool.and_eq_true, inBox_iff_offset (by omega),
    inBox_iff_offset (by omega), hsizeX, hsizeY]
  unfold Unwrapped texelX texelY
  omega

/-! ## The address -/

/-- The differences of the address are made at 32 bits, and are right where they do not borrow. -/
theorem romAddress_of_covers {c : Corner} {drawX drawY : BitVec 10} (h : c.Covers drawX drawY)
    (hx : c.tlCornerX ≤ drawX) (hy : c.tlCornerY ≤ drawY) :
    (GreenEnemyBase.romAddress c drawX drawY).toNat = c.texelY drawY * 64 + c.texelX drawX := by
  have h64 : (64 : BitVec 32).toNat = 64 := rfl
  have h72 : (72 : BitVec 32).toNat = 72 := rfl
  have hdiff {lo d : BitVec 10} (hle : lo ≤ d) :
      (d.setWidth 32 - lo.setWidth 32).toNat = (d - lo).toNat := by
    have hlo := lo.isLt
    have hd := d.isLt
    rw [BitVec.le_def] at hle
    rw [BitVec.toNat_sub, BitVec.toNat_sub, BitVec.toNat_setWidth, BitVec.toNat_setWidth]
    omega
  obtain ⟨hcolumn, hline⟩ := h
  unfold texelX at hcolumn
  unfold texelY at hline
  rw [GreenEnemyBase.romAddress, BitVec.toNat_setWidth, BitVec.toNat_add, BitVec.toNat_mul,
    BitVec.toNat_umod, BitVec.toNat_umod, hdiff hx, hdiff hy, h64, h72, texelX, texelY]
  omega

/-- Where two pixels are covered and show one texel, they are one pixel. -/
theorem eq_of_romAddress_eq {c : Corner} {drawX drawY drawX' drawY' : BitVec 10}
    (h : c.DrawnAsPlaced drawX drawY) (h' : c.DrawnAsPlaced drawX' drawY')
    (hc : c.Covers drawX drawY) (hc' : c.Covers drawX' drawY')
    (heq : GreenEnemyBase.romAddress c drawX drawY = GreenEnemyBase.romAddress c drawX' drawY') :
    drawX = drawX' ∧ drawY = drawY' := by
  have haddress := h.address hc
  rw [heq, h'.address hc'] at haddress
  obtain ⟨hcolumn, -⟩ := hc
  obtain ⟨hcolumn', -⟩ := hc'
  have hx : c.texelX drawX = c.texelX drawX' := by omega
  have hy : c.texelY drawY = c.texelY drawY' := by omega
  have hsub {lo d d' : BitVec 10} (hlo : (d - lo).toNat = (d' - lo).toNat) : d = d' :=
    (BitVec.sub_left_inj lo).1 (BitVec.toNat_inj.1 hlo)
  exact ⟨hsub hx, hsub hy⟩

/-! ## The law -/

/-- **A base is drawn where it is** at a visible pixel exactly when the pixel is not behind a far
edge of a base whose box does not wrap, and not in a base whose box does. -/
theorem drawnAsPlaced_iff (c : Corner) (drawX drawY : BitVec 10) (hx : drawX.toNat < 640)
    (hy : drawY.toNat < 480) :
    c.DrawnAsPlaced drawX drawY ↔
      if c.Unwrapped then ¬ c.Fringe drawX drawY else ¬ c.Covers drawX drawY := by
  have hbox := c.baseBox_iff hx hy
  constructor
  · rintro ⟨hplaced, -⟩
    rw [hbox] at hplaced
    unfold Covers at hplaced
    split_ifs with hwrap
    · rw [and_iff_right hwrap] at hplaced
      unfold Fringe
      omega
    · exact fun hcovers => hwrap (hplaced.2 hcovers).1
  · intro h
    split_ifs at h with hwrap
    · have hiff : DisplayGame.baseBox c drawX drawY = true ↔ c.Covers drawX drawY := by
        unfold Fringe at h
        unfold Covers
        rw [hbox, and_iff_right hwrap]
        omega
      refine ⟨hiff, fun hcovers => romAddress_of_covers hcovers ?_ ?_⟩
      · obtain ⟨hcolumn, -⟩ := hcovers
        unfold texelX at hcolumn
        unfold Unwrapped at hwrap
        rw [BitVec.toNat_sub] at hcolumn
        rw [BitVec.le_def]
        omega
      · obtain ⟨-, hline⟩ := hcovers
        unfold texelY at hline
        unfold Unwrapped at hwrap
        rw [BitVec.toNat_sub] at hline
        rw [BitVec.le_def]
        omega
    · exact ⟨⟨fun hon => absurd (hbox.1 hon).1 hwrap, fun hcovers => absurd hcovers h⟩,
        fun hcovers => absurd hcovers h⟩

/-- A texel of base one, where it starts. -/
theorem drawnAsPlaced_home :
    greenEnemyBaseExample.home.DrawnAsPlaced 263 171 :=
  (drawnAsPlaced_iff greenEnemyBaseExample.home 263 171 (by decide) (by decide)).2 (by decide)

/-- The column behind its right edge repeats the one at the left edge. -/
theorem not_drawnAsPlaced_home :
    ¬ DisplayGame.powerUp.enemyBaseOne.toCorner.DrawnAsPlaced 264 100 := by
  rintro ⟨hbox, -⟩
  have hcovers := hbox.1 (by decide)
  exact absurd hcovers (by decide)

end Corner

end Bosconian
