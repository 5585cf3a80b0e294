import Mathlib.Algebra.Ring.Parity
import Bosconian.Hdl.Design

/-!
# The raster of a run

While `Reset` is low the design moves by pixels of two board clocks each: a rising edge of the
pixel clock and the falling edge that reads the ROMs. This file gives the raster of such a run
in closed form.

* `atPixel_scan` — the `j`-th pixel is at column `j % 800` and line `j / 800 % 525`.
* `ticks_iff` — the frame clock rises with pixel 0, and from then on with each pixel that opens
  line 491.
-/

namespace Bosconian

open EventMachine

namespace VgaController

/-- The counters step through the 800 × 525 positions of a frame. -/
theorem toNat_counterProc {v : VgaController} {j : Nat} (hh : v.hc.toNat = j % 800)
    (hv : v.vc.toNat = j / 800 % 525) :
    v.counterProc.1.toNat = (j + 1) % 800 ∧ v.counterProc.2.toNat = (j + 1) / 800 % 525 := by
  have hhlt := Nat.mod_lt j (show 0 < 800 by decide)
  have hvlt := Nat.mod_lt (j / 800) (show 0 < 525 by decide)
  have hlast : v.hc = hpixels ↔ v.hc.toNat = 799 := BitVec.toNat_inj.symm
  have hbottom : v.vc = vlines ↔ v.vc.toNat = 524 := BitVec.toNat_inj.symm
  have hright : (v.hc + 1).toNat = (v.hc.toNat + 1) % 1024 := BitVec.toNat_add v.hc 1
  have hdown : (v.vc + 1).toNat = (v.vc.toNat + 1) % 1024 := BitVec.toNat_add v.vc 1
  have hzero : (0 : BitVec 10).toNat = 0 := rfl
  unfold counterProc
  split_ifs with h₁ h₂
  · rw [hlast] at h₁
    rw [hbottom] at h₂
    simp only [hzero]
    omega
  · rw [hlast] at h₁
    rw [hbottom] at h₂
    simp only [hzero, hdown]
    omega
  · rw [hlast] at h₁
    simp only [hright]
    omega

/-- The vertical pulse is the two lines from 489 on. -/
theorem vsyncProc_iff (v : VgaController) :
    v.vsyncProc = true ↔ v.vc.toNat ≠ 489 ∧ v.vc.toNat ≠ 490 := by
  have hvlt := v.vc.isLt
  have hnext : (v.vc.setWidth 32 + 1).toNat = v.vc.toNat + 1 := by
    have hone : (1 : BitVec 32).toNat = 1 := rfl
    rw [BitVec.toNat_add, BitVec.toNat_setWidth, hone]
    omega
  have h490 : v.vc.setWidth 32 + 1 = 0b111101010#32 ↔ v.vc.toNat + 1 = 490 := by
    rw [← hnext]
    exact BitVec.toNat_inj.symm
  have h491 : v.vc.setWidth 32 + 1 = 0b111101011#32 ↔ v.vc.toNat + 1 = 491 := by
    rw [← hnext]
    exact BitVec.toNat_inj.symm
  simp only [vsyncProc, Bool.not_eq_true', Bool.or_eq_false_iff, beq_eq_false_iff_ne, ne_eq, h490,
    h491]
  omega

end VgaController

namespace Design

/-- The state before the `n`-th board clock of a run without `Reset`. -/
def scan (roms : Roms) (s : Design) (keys : Nat → BitVec 8) (n : Nat) : Design :=
  trace (step roms) s (fun i => .posedgeClk (keys i)) n

/-- A run with one key down throughout. -/
theorem scan_held (roms : Roms) (s : Design) (keycode : BitVec 8) (n : Nat) :
    scan roms s (fun _ => keycode) n =
      run (step roms) s (List.replicate n (.posedgeClk keycode)) := by
  rw [scan, trace_eq_run, List.map_const', List.length_range]

/-- The frame clock rises with the next board clock. -/
def ticks (s : Design) : Bool :=
  !s.ctrl.reset && !s.vga.clkdiv && !s.vga.vs && s.vga.posedgeClkdiv.vs

/-- Power-up, or `Reset` just released. -/
structure Fresh (s : Design) : Prop where
  vga : s.vga = VgaController.powerUp
  reset : s.ctrl.reset = false

theorem fresh_powerUp : Fresh powerUp := ⟨rfl, rfl⟩

/-! ## One board clock -/

/-- A rising edge of the pixel clock, with the tick of the frame clock it may bring. -/
theorem step_low (roms : Roms) {s : Design} (hreset : s.ctrl.reset = false)
    (hclk : s.vga.clkdiv = false) (keycode : BitVec 8) :
    s.step roms (.posedgeClk keycode) =
      ⟨s.vga.posedgeClkdiv,
        if s.ticks then (s.ctrl.posedgeVgaClk s.vga.hc s.vga.vc keycode).posedgeFrameClk keycode
        else s.ctrl.posedgeVgaClk s.vga.hc s.vga.vc keycode⟩ := by
  have hticks : s.ticks = (!s.vga.vs && s.vga.posedgeClkdiv.vs) := by simp [ticks, hreset, hclk]
  simp only [step, vgaNext, gameEvents, hreset, hclk, hticks, Bool.false_eq_true, if_false]
  split_ifs <;> rfl

/-- A falling edge of the pixel clock. -/
theorem step_high (roms : Roms) {s : Design} (hreset : s.ctrl.reset = false)
    (hclk : s.vga.clkdiv = true) (keycode : BitVec 8) :
    s.step roms (.posedgeClk keycode) =
      ⟨s.vga.negedgeClkdiv, s.ctrl.negedgeVgaClk roms s.vga.hc s.vga.vc⟩ := by
  simp [step, vgaNext, gameEvents, hreset, hclk, StateController.step]

theorem reset_step (roms : Roms) (s : Design) (keycode : BitVec 8) :
    (s.step roms (.posedgeClk keycode)).ctrl.reset = s.ctrl.reset := by
  by_cases hreset : s.ctrl.reset = true
  · simp [step, gameEvents, hreset]
  rw [Bool.not_eq_true] at hreset
  by_cases hclk : s.vga.clkdiv = true
  · rw [step_high roms hreset hclk]
    rfl
  · rw [step_low roms hreset (by simpa using hclk)]
    split_ifs
    · exact StateController.reset_posedgeVgaClk s.vga.hc s.vga.vc keycode s.ctrl
    · exact StateController.reset_posedgeVgaClk s.vga.hc s.vga.vc keycode s.ctrl

/-! ## The raster -/

/-- The state before pixel `j` of a run that starts fresh. -/
structure AtPixel (s : Design) (j : Nat) : Prop where
  reset : s.ctrl.reset = false
  clkdiv : s.vga.clkdiv = false
  hc : s.vga.hc.toNat = j % 800
  vc : s.vga.vc.toNat = j / 800 % 525
  vs : s.vga.vs = true ↔ j ≠ 0 ∧ (j - 1) / 800 % 525 ≠ 489 ∧ (j - 1) / 800 % 525 ≠ 490

theorem atPixel_zero {s : Design} (h : s.Fresh) : s.AtPixel 0 := by
  obtain ⟨hvga, hreset⟩ := h
  refine ⟨hreset, ?_, ?_, ?_, ?_⟩ <;> rw [hvga] <;> simp [VgaController.powerUp]

/-- The controller after the rising edge of the pixel clock. -/
def afterPixel (s : Design) (keycode : BitVec 8) : StateController :=
  if s.ticks then (s.ctrl.posedgeVgaClk s.vga.hc s.vga.vc keycode).posedgeFrameClk keycode
  else s.ctrl.posedgeVgaClk s.vga.hc s.vga.vc keycode

/-- The two board clocks of a pixel. -/
theorem AtPixel.step_step (roms : Roms) {s : Design} {j : Nat} (h : s.AtPixel j)
    (keycode keycode' : BitVec 8) :
    (s.step roms (.posedgeClk keycode)).step roms (.posedgeClk keycode') =
      ⟨s.vga.posedgeClkdiv.negedgeClkdiv,
        (s.afterPixel keycode).negedgeVgaClk roms s.vga.posedgeClkdiv.hc
          s.vga.posedgeClkdiv.vc⟩ := by
  have hreset : (s.step roms (.posedgeClk keycode)).ctrl.reset = false := by
    rw [reset_step, h.reset]
  have hlow := step_low roms h.reset h.clkdiv keycode
  rw [hlow] at hreset ⊢
  rw [step_high roms hreset rfl]
  rfl

theorem atPixel_succ (roms : Roms) {s : Design} {j : Nat} (h : s.AtPixel j)
    (keycode keycode' : BitVec 8) :
    ((s.step roms (.posedgeClk keycode)).step roms (.posedgeClk keycode')).AtPixel (j + 1) := by
  have hreset := (reset_step roms s keycode).trans h.reset
  refine ⟨(reset_step roms _ keycode').trans hreset, ?_, ?_, ?_, ?_⟩ <;> rw [h.step_step]
  · rfl
  · exact (VgaController.toNat_counterProc h.hc h.vc).1
  · exact (VgaController.toNat_counterProc h.hc h.vc).2
  · show s.vga.vsyncProc = true ↔ _
    rw [VgaController.vsyncProc_iff, h.vc]
    simp

theorem atPixel_scan (roms : Roms) {s : Design} (h : s.Fresh) (keys : Nat → BitVec 8) (j : Nat) :
    (scan roms s keys (2 * j)).AtPixel j := by
  induction j with
  | zero => exact atPixel_zero h
  | succ j ih => exact atPixel_succ roms ih (keys (2 * j)) (keys (2 * j + 1))

/-- The pulse ends with line 490. Pixel 0 ticks as well, because `vs` is low at the start. -/
theorem AtPixel.ticks_iff {s : Design} {j : Nat} (h : s.AtPixel j) :
    s.ticks = true ↔ j = 0 ∨ j % 420000 = 392800 := by
  have hvs := h.vs
  have hvs' := VgaController.vsyncProc_iff s.vga
  rw [h.vc] at hvs'
  have hticks : s.ticks = (!s.vga.vs && s.vga.vsyncProc) := by
    simp [ticks, h.reset, h.clkdiv, VgaController.posedgeClkdiv]
  rw [hticks, Bool.and_eq_true, Bool.not_eq_true', ← Bool.not_eq_true, hvs, hvs']
  omega

/-- A falling edge of the pixel clock is the second clock of its pixel. -/
theorem scan_odd (roms : Roms) {s : Design} (h : s.Fresh) (keys : Nat → BitVec 8) (j : Nat) :
    (scan roms s keys (2 * j + 1)).vga = (scan roms s keys (2 * j)).vga.posedgeClkdiv ∧
      (scan roms s keys (2 * j + 1)).ctrl.reset = false := by
  have hj := atPixel_scan roms h keys j
  constructor
  · show (step roms (scan roms s keys (2 * j)) _).vga = _
    rw [step_low roms hj.reset hj.clkdiv]
  · exact (reset_step roms _ _).trans hj.reset

/-- Between a rising and a falling edge of the pixel clock no frame starts. -/
theorem ticks_odd (roms : Roms) {s : Design} (h : s.Fresh) (keys : Nat → BitVec 8) (j : Nat) :
    (scan roms s keys (2 * j + 1)).ticks = false := by
  simp [ticks, (scan_odd roms h keys j).1, VgaController.posedgeClkdiv]

/-- **The frame clock.** -/
theorem ticks_iff (roms : Roms) {s : Design} (h : s.Fresh) (keys : Nat → BitVec 8) (n : Nat) :
    (scan roms s keys n).ticks = true ↔ ∃ j, n = 2 * j ∧ (j = 0 ∨ j % 420000 = 392800) := by
  rcases Nat.even_or_odd' n with ⟨j, rfl | rfl⟩
  · rw [(atPixel_scan roms h keys j).ticks_iff]
    constructor
    · exact fun hj => ⟨j, rfl, hj⟩
    · rintro ⟨i, hi, hj⟩
      rwa [Nat.eq_of_mul_eq_mul_left (by decide) hi]
  · rw [ticks_odd roms h keys j]
    constructor
    · exact nofun
    · rintro ⟨i, hi, -⟩
      omega

end Design

end Bosconian
