import Mathlib.Tactic.Common

/-!
# `vga_controller`

The pixel clock is the 50 MHz clock halved; the raster counters and the two sync registers
move on its rising edge, and all of them are cleared by an asynchronous reset.
-/

namespace Bosconian

/-- The registers of `vga_controller`. -/
structure VgaController where
  clkdiv : Bool
  hc : BitVec 10
  vc : BitVec 10
  hs : Bool
  vs : Bool
deriving DecidableEq, Repr

namespace VgaController

def hpixels : BitVec 10 := 0b1100011111#10

def vlines : BitVec 10 := 0b1000001100#10

def powerUp : VgaController := ⟨false, 0, 0, false, false⟩

/-- `counter_proc`: the next `hc` and `vc`. -/
def counterProc (v : VgaController) : BitVec 10 × BitVec 10 :=
  if v.hc = hpixels then (0, if v.vc = vlines then 0 else v.vc + 1) else (v.hc + 1, v.vc)

/-- `hsync_proc`: the pulse is compared with the next column. -/
def hsyncProc (v : VgaController) : Bool :=
  !(0b1010010000#32 ≤ v.hc.setWidth 32 + 1 && v.hc.setWidth 32 + 1 < 0b1011110000#32)

/-- `vsync_proc`: the pulse is compared with the next line. -/
def vsyncProc (v : VgaController) : Bool :=
  !(v.vc.setWidth 32 + 1 == 0b111101010#32 || v.vc.setWidth 32 + 1 == 0b111101011#32)

/-- The blocks clocked by the rising edge of `clkdiv`, with the divider itself. -/
def posedgeClkdiv (v : VgaController) : VgaController :=
  { clkdiv := true
    hc := v.counterProc.1
    vc := v.counterProc.2
    hs := v.hsyncProc
    vs := v.vsyncProc }

def negedgeClkdiv (v : VgaController) : VgaController := { v with clkdiv := false }

/-- Every block of the module takes its reset branch. -/
def posedgeReset (_v : VgaController) : VgaController := ⟨false, 0, 0, false, false⟩

end VgaController

end Bosconian
