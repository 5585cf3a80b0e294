import Mathlib.Data.Nat.Nth
import Bosconian.Hdl.Raster

/-!
# The sync pulses of a frame

`vga_controller` on its own, from a `Reset` on. The raster and both pulses are given in closed
form in the number of pixel clocks since.

* `hs_sinceReset_iff` — the horizontal pulse is where the comment on `hsync_proc` puts it.
* `timing_iff` — the vertical pulse covers lines 489 and 490, not lines 490 and 491.
* `oneTick_iff` — the frame clock ticks once a frame, except that it ticks twice in the first.
-/

namespace Bosconian

namespace VgaController

/-! ## Pixel clocks since Reset -/

/-- A rising edge of `Clk` while `Reset` is low. -/
def posedgeClk (v : VgaController) : VgaController :=
  if v.clkdiv then v.negedgeClkdiv else v.posedgeClkdiv

/-- The state after `n` pixel clocks, two rising edges of `Clk` each, from a `Reset` in `v`. -/
def sinceReset (v : VgaController) (n : Nat) : VgaController :=
  posedgeClk^[2 * n] v.posedgeReset

/-- The design drives the module so. -/
theorem vga_scan (roms : Roms) {s : Design} (h : s.ctrl.reset = false)
    (keys : Nat → BitVec 8) (n : Nat) :
    (Design.scan roms s keys n).vga = posedgeClk^[n] s.vga := by
  have hreset (n : Nat) : (Design.scan roms s keys n).ctrl.reset = false := by
    induction n with
    | zero => exact h
    | succ n ih => exact (Design.reset_step roms _ _).trans ih
  induction n with
  | zero => rfl
  | succ n ih =>
    rw [Function.iterate_succ_apply', ← ih]
    show (Design.scan roms s keys n).vgaNext (.posedgeClk (keys n)) = _
    simp [Design.vgaNext, hreset n, posedgeClk]

theorem sinceReset_succ (v : VgaController) (n : Nat) :
    v.sinceReset (n + 1) = (v.sinceReset n).posedgeClk.posedgeClk := by
  rw [sinceReset, Nat.mul_succ, Function.iterate_succ_apply', Function.iterate_succ_apply']
  rfl

theorem clkdiv_sinceReset (v : VgaController) (n : Nat) : (v.sinceReset n).clkdiv = false := by
  induction n with
  | zero => rfl
  | succ n ih =>
    rw [sinceReset_succ]
    simp [posedgeClk, ih, posedgeClkdiv, negedgeClkdiv]

/-- A pixel clock is a rising and a falling edge of `clkdiv`. -/
theorem sinceReset_succ_eq (v : VgaController) (n : Nat) :
    v.sinceReset (n + 1) = (v.sinceReset n).posedgeClkdiv.negedgeClkdiv := by
  rw [sinceReset_succ]
  simp [posedgeClk, clkdiv_sinceReset, posedgeClkdiv]

theorem hs_sinceReset_succ (v : VgaController) (n : Nat) :
    (v.sinceReset (n + 1)).hs = (v.sinceReset n).hsyncProc := by
  rw [sinceReset_succ_eq]
  rfl

theorem vs_sinceReset_succ (v : VgaController) (n : Nat) :
    (v.sinceReset (n + 1)).vs = (v.sinceReset n).vsyncProc := by
  rw [sinceReset_succ_eq]
  rfl

/-! ## The raster -/

theorem raster_sinceReset (v : VgaController) (n : Nat) :
    (v.sinceReset n).hc.toNat = n % 800 ∧ (v.sinceReset n).vc.toNat = n / 800 % 525 := by
  induction n with
  | zero => exact ⟨rfl, rfl⟩
  | succ n ih =>
    rw [sinceReset_succ_eq]
    exact toNat_counterProc ih.1 ih.2

/-- The pulse is 96 columns long, from the column before 656 on. -/
theorem hsyncProc_iff (v : VgaController) :
    v.hsyncProc = false ↔ 655 ≤ v.hc.toNat ∧ v.hc.toNat < 751 := by
  have hlt := v.hc.isLt
  have hnext : (v.hc.setWidth 32 + 1).toNat = v.hc.toNat + 1 := by
    have hone : (1 : BitVec 32).toNat = 1 := rfl
    rw [BitVec.toNat_add, BitVec.toNat_setWidth, hone]
    omega
  have h656 : (0b1010010000#32).toNat = 656 := rfl
  have h752 : (0b1011110000#32).toNat = 752 := rfl
  simp only [hsyncProc, Bool.not_eq_false', Bool.and_eq_true, decide_eq_true_eq, BitVec.le_def,
    BitVec.lt_def, hnext, h656, h752]
  omega

/-- The register is one pixel late, and the comparison one pixel early. -/
theorem hs_sinceReset_iff (v : VgaController) {n : Nat} (hn : 1 ≤ n) :
    (v.sinceReset n).hs = false ↔ 656 ≤ n % 800 ∧ n % 800 < 752 := by
  obtain ⟨n, rfl⟩ := Nat.exists_eq_add_of_le' hn
  rw [hs_sinceReset_succ, hsyncProc_iff, (raster_sinceReset v n).1]
  omega

theorem vs_sinceReset_iff (v : VgaController) {n : Nat} (hn : 1 ≤ n) :
    (v.sinceReset n).vs = false ↔
      (n - 1) / 800 % 525 = 489 ∨ (n - 1) / 800 % 525 = 490 := by
  obtain ⟨n, rfl⟩ := Nat.exists_eq_add_of_le' hn
  rw [vs_sinceReset_succ, ← Bool.not_eq_true, vsyncProc_iff, (raster_sinceReset v n).2,
    Nat.add_sub_cancel]
  omega

/-! ## The documented timing -/

/-- What the comments of the module say of the state `n` pixel clocks after a `Reset`. The
vertical pulse is seen one pixel late. -/
structure Timing (v : VgaController) (n : Nat) : Prop where
  hc : (v.sinceReset n).hc.toNat = n % 800
  vc : (v.sinceReset n).vc.toNat = n / 800 % 525
  hs : (v.sinceReset n).hs = false ↔
    656 ≤ (v.sinceReset n).hc.toNat ∧ (v.sinceReset n).hc.toNat < 752
  vs : (v.sinceReset n).vs = false ↔
    (v.sinceReset (n - 1)).vc.toNat = 490 ∨ (v.sinceReset (n - 1)).vc.toNat = 491

/-- **The timing of a frame.** It is as documented but for the pixels of the line before the
documented pulse and of its second line. -/
theorem timing_iff (v : VgaController) (n : Nat) (hn : 1 ≤ n) :
    v.Timing n ↔ (n - 1) / 800 % 525 ≠ 489 ∧ (n - 1) / 800 % 525 ≠ 491 := by
  have hvs := vs_sinceReset_iff v hn
  have hline := (raster_sinceReset v (n - 1)).2
  constructor
  · rintro ⟨-, -, -, h⟩
    rw [hvs, hline] at h
    omega
  · intro h
    obtain ⟨hcol, hrow⟩ := raster_sinceReset v n
    refine ⟨hcol, hrow, ?_, ?_⟩
    · rw [hs_sinceReset_iff v hn, hcol]
    · rw [hvs, hline]
      omega

theorem timing_first_pixel : powerUp.Timing 1 :=
  (timing_iff powerUp 1 (Nat.le_refl 1)).2 (by decide)

/-- On the first pixel of line 489, seen one pixel late, the pulse is on already. -/
theorem timing_fails : ¬ powerUp.Timing 391201 := by
  intro h
  have hlow := (vs_sinceReset_iff powerUp (n := 391201) (by decide)).2 (.inl rfl)
  have hline := (raster_sinceReset powerUp 391200).2
  have := h.vs.1 hlow
  rw [hline] at this
  omega

/-! ## Ticks of the frame clock -/

/-- `display`: a pixel of the visible window is being drawn. -/
def display (v : VgaController) : Bool :=
  !(479 ≤ v.hc || 419 ≤ v.vc || v.hc ≤ 160 || v.vc ≤ 60)

/-- The raster is at (0, 0). -/
def AtOrigin (v : VgaController) (n : Nat) : Prop :=
  (v.sinceReset n).hc = 0 ∧ (v.sinceReset n).vc = 0

/-- The pixel clock after the `n`-th raises `vs`. -/
def Ticks (v : VgaController) (n : Nat) : Prop :=
  (v.sinceReset n).vs = false ∧ (v.sinceReset (n + 1)).vs = true

/-- Between the `k`-th and the next time the raster is at (0, 0), `vs` rises once, and no pixel
of the visible window is drawn before or after that edge. -/
def OneTick (v : VgaController) (k : Nat) : Prop :=
  ∃ n, v.Ticks n ∧ Nat.nth v.AtOrigin k ≤ n ∧ n < Nat.nth v.AtOrigin (k + 1) ∧
    (∀ m, v.Ticks m → Nat.nth v.AtOrigin k ≤ m → m < Nat.nth v.AtOrigin (k + 1) → m = n) ∧
    (v.sinceReset n).display = false ∧ (v.sinceReset (n + 1)).display = false

theorem atOrigin_iff (v : VgaController) (n : Nat) : v.AtOrigin n ↔ 420000 ∣ n := by
  obtain ⟨hcol, hrow⟩ := raster_sinceReset v n
  have hzero : (0 : BitVec 10).toNat = 0 := rfl
  rw [AtOrigin, ← BitVec.toNat_inj, ← BitVec.toNat_inj, hcol, hrow, hzero]
  omega

/-- Frames are 800 × 525 pixels. -/
theorem nth_atOrigin (v : VgaController) (k : Nat) : Nat.nth v.AtOrigin k = 420000 * k := by
  have hmono : StrictMono (420000 * ·) := fun _ _ h => Nat.mul_lt_mul_of_pos_left h (by decide)
  have hall (i : Nat) : v.AtOrigin (420000 * i) := (atOrigin_iff v _).2 (dvd_mul_right _ _)
  have hinf : ¬ (Set.ofPred v.AtOrigin).Finite :=
    Set.infinite_of_injective_forall_mem hmono.injective hall
  rw [← Nat.nth_comp_of_strictMono hmono _ (fun h => absurd h hinf)]
  · rw [Nat.nth_of_forall fun i _ => hall i]
  · intro n hn
    obtain ⟨i, rfl⟩ := (atOrigin_iff v n).1 hn
    exact ⟨i, rfl⟩

theorem ticks_iff (v : VgaController) (n : Nat) : v.Ticks n ↔ n = 0 ∨ n % 420000 = 392800 := by
  have hnext := vs_sinceReset_iff v (n := n + 1) (by omega)
  rw [Nat.add_sub_cancel] at hnext
  rw [Ticks, ← Bool.not_eq_false (v.sinceReset (n + 1)).vs, hnext]
  rcases Nat.eq_zero_or_pos n with rfl | hn
  · simp [show (v.sinceReset 0).vs = false from rfl]
  · rw [vs_sinceReset_iff v hn]
    omega

/-- The visible window. -/
theorem display_iff (v : VgaController) :
    v.display = true ↔
      (160 < v.hc.toNat ∧ v.hc.toNat < 479) ∧ 60 < v.vc.toNat ∧ v.vc.toNat < 419 := by
  have h479 : (479 : BitVec 10).toNat = 479 := rfl
  have h419 : (419 : BitVec 10).toNat = 419 := rfl
  have h160 : (160 : BitVec 10).toNat = 160 := rfl
  have h60 : (60 : BitVec 10).toNat = 60 := rfl
  simp only [display, Bool.not_eq_true', Bool.or_eq_false_iff, decide_eq_false_iff_not,
    BitVec.le_def, h479, h419, h160, h60]
  omega

theorem display_eq_false {v : VgaController} (h : 419 ≤ v.vc.toNat) : v.display = false := by
  rw [← Bool.not_eq_true, display_iff]
  omega

/-- **One game tick a frame.** Every frame has exactly one rising edge of `vs`, outside the
visible window, except the first one: there the pulse that `Reset` leaves ends as well. -/
theorem oneTick_iff (v : VgaController) (k : Nat) : v.OneTick k ↔ 0 < k := by
  simp only [OneTick, nth_atOrigin, ticks_iff]
  constructor
  · rintro ⟨n, -, -, -, huniq, -, -⟩
    by_contra hk
    have hfirst := huniq 0 (.inl rfl) (by omega) (by omega)
    have hsecond := huniq 392800 (.inr rfl) (by omega) (by omega)
    omega
  · intro hk
    have hrow := (raster_sinceReset v (420000 * k + 392800)).2
    have hrow' := (raster_sinceReset v (420000 * k + 392800 + 1)).2
    refine ⟨420000 * k + 392800, by omega, by omega, by omega, by omega, ?_, ?_⟩
    · exact display_eq_false (by omega)
    · exact display_eq_false (by omega)

/-- The frame that a `Reset` opens has two. -/
theorem oneTick_zero_fails : ¬ powerUp.OneTick 0 := by
  rintro ⟨n, -, -, -, huniq, -, -⟩
  have hfirst := huniq 0 ((ticks_iff powerUp 0).2 (.inl rfl))
  have hsecond := huniq 392800 ((ticks_iff powerUp 392800).2 (.inr rfl))
  rw [nth_atOrigin, nth_atOrigin] at hfirst hsecond
  have := hfirst (by omega) (by omega)
  have := hsecond (by omega) (by omega)
  omega

end VgaController

end Bosconian
