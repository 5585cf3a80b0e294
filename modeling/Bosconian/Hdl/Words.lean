import Mathlib.Algebra.Ring.Nat
import Mathlib.Tactic.Common

/-!
# Unsigned words and the tests made on them

A comparison takes the width of its widest operand. Written against an unsized literal it is
made at 32 bits, where a sum of small words cannot wrap but a difference can borrow; written
against words of the same width it wraps with them. The two tests below are the two cases. A
shift register is a word that bits move through.
-/

namespace Words

variable {w : Nat}

/-- `d` lies within `r` of `c`, both ends included, as `c - r <= d && d <= c + r` computes it
at 32 bits. -/
def inWindow (r : BitVec 32) (c d : BitVec w) : Bool :=
  c.setWidth 32 - r ≤ d.setWidth 32 && d.setWidth 32 ≤ c.setWidth 32 + r

/-- `d` lies between `lo` and `lo + size`, both ends included, at the width of the words. -/
def inBox (lo size d : BitVec w) : Bool :=
  lo ≤ d && d ≤ lo + size

/-- At 32 bits the sum is exact, and a centre below `r` makes the difference borrow, which
turns the test off. -/
theorem inWindow_iff (hw : w ≤ 31) {r : BitVec 32} (hr : r.toNat < 2 ^ 31) (c d : BitVec w) :
    inWindow r c d = true ↔
      r.toNat ≤ c.toNat ∧ c.toNat ≤ d.toNat + r.toNat ∧ d.toNat ≤ c.toNat + r.toNat := by
  have hpow : 2 ^ w ≤ 2 ^ 31 := Nat.pow_le_pow_right (by decide) hw
  have hc : c.toNat < 2 ^ 31 := Nat.lt_of_lt_of_le c.isLt hpow
  have hd : d.toNat < 2 ^ 31 := Nat.lt_of_lt_of_le d.isLt hpow
  have hc' : (c.setWidth 32).toNat = c.toNat := by
    rw [BitVec.toNat_setWidth, Nat.mod_eq_of_lt (by omega)]
  have hd' : (d.setWidth 32).toNat = d.toNat := by
    rw [BitVec.toNat_setWidth, Nat.mod_eq_of_lt (by omega)]
  simp only [inWindow, Bool.and_eq_true, decide_eq_true_eq, BitVec.le_def, BitVec.toNat_sub,
    BitVec.toNat_add, hc', hd']
  omega

theorem inBox_iff (lo size d : BitVec w) :
    inBox lo size d = true ↔ lo.toNat ≤ d.toNat ∧ d.toNat ≤ (lo.toNat + size.toNat) % 2 ^ w := by
  simp only [inBox, Bool.and_eq_true, decide_eq_true_eq, BitVec.le_def, BitVec.toNat_add]

/-- Away from the wrap the box is an interval. -/
theorem inBox_iff_of_lt {lo size : BitVec w} (h : lo.toNat + size.toNat < 2 ^ w) (d : BitVec w) :
    inBox lo size d = true ↔ lo.toNat ≤ d.toNat ∧ d.toNat ≤ lo.toNat + size.toNat := by
  rw [inBox_iff, Nat.mod_eq_of_lt h]

/-- One up and one down again leave the sum of two words as it was. -/
theorem add_one_add_sub_one (a b : BitVec w) : a + 1 + (b - 1) = a + b := by
  rw [BitVec.add_assoc, BitVec.add_comm 1, BitVec.sub_add_cancel]

theorem sub_one_add_add_one (a b : BitVec w) : a - 1 + (b + 1) = a + b := by
  rw [BitVec.add_comm b, ← BitVec.add_assoc, BitVec.sub_add_cancel]

/-! ## Shift registers -/

/-- Bits shifted in at the low end one after the other. -/
def shiftIn (x : BitVec w) (bits : List Bool) : BitVec w := bits.foldl BitVec.shiftConcat x

theorem getMsbD_shiftConcat (x : BitVec w) (b : Bool) {j : Nat} (hj : j < w) :
    (x.shiftConcat b).getMsbD j = if j + 1 < w then x.getMsbD (j + 1) else b := by
  rw [BitVec.getMsbD, BitVec.getLsbD_shiftConcat, BitVec.getMsbD]
  by_cases hlast : j + 1 < w
  · have hne : ¬ w - 1 - j = 0 := by omega
    have hlt : w - 1 - j < w := by omega
    have hsub : w - 1 - (j + 1) = w - 1 - j - 1 := by omega
    simp [hj, hlast, hne, hlt, hsub]
  · have heq : w - 1 - j = 0 := by omega
    have hpos : 0 < w := by omega
    simp [hj, hlast, heq, hpos]

/-- The bits that were there move up, and the new ones follow them. -/
theorem getMsbD_shiftIn (x : BitVec w) (bits : List Bool) (hlen : bits.length ≤ w) {j : Nat}
    (hj : j < w) :
    (shiftIn x bits).getMsbD j =
      if j + bits.length < w then x.getMsbD (j + bits.length)
      else bits.getD (j + bits.length - w) false := by
  induction bits generalizing x with
  | nil => simp [shiftIn, hj]
  | cons b bits ih =>
    rw [List.length_cons] at hlen
    have hstep : shiftIn x (b :: bits) = shiftIn (x.shiftConcat b) bits := rfl
    rw [hstep, ih (x.shiftConcat b) (by omega), List.length_cons]
    by_cases hfirst : j + bits.length < w
    · rw [if_pos hfirst, getMsbD_shiftConcat x b hfirst, Nat.add_assoc]
      split_ifs with hmore
      · rfl
      · have heq : j + (bits.length + 1) - w = 0 := by omega
        rw [heq, List.getD_cons_zero]
    · have hsub : j + (bits.length + 1) - w = j + bits.length - w + 1 := by omega
      rw [if_neg hfirst, if_neg (by omega), hsub, List.getD_cons_succ]

end Words
