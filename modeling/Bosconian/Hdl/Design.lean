import Bosconian.EventMachine
import Bosconian.Hdl.VgaController
import Bosconian.Hdl.StateController

/-!
# The whole design

`lab62` gives the controller the raster of `vga_controller`: its pixel clock, its coordinates,
and its vertical sync as frame clock. The only inputs left are the 50 MHz clock, the keycode
and `Reset`.

A rising edge of `clkdiv` moves the pixel registers; if it also raises `vs`, the frame clock
rises on the values they have just taken. A falling edge of `clkdiv` reads the sprite ROMs.
-/

namespace Bosconian

open EventMachine

/-- The registers of the whole design. -/
structure Design where
  vga : VgaController
  ctrl : StateController
deriving DecidableEq, Repr

/-- An edge of the board clock, with the keycode at that moment, or of `Reset`. -/
inductive ClkEvent
  | posedgeClk (keycode : BitVec 8)
  | posedgeReset
  | negedgeReset
deriving DecidableEq, Repr

namespace Design

def powerUp : Design := ⟨VgaController.powerUp, StateController.powerUp⟩

/-- The edges that one event of the board makes in `State_Controller` and below it. -/
def gameEvents (s : Design) : ClkEvent → List GameEvent
  | .posedgeClk keycode =>
    if s.ctrl.reset then []
    else if s.vga.clkdiv then [.negedgeVgaClk s.vga.hc s.vga.vc]
    else .posedgeVgaClk s.vga.hc s.vga.vc keycode ::
      if !s.vga.vs && s.vga.posedgeClkdiv.vs then [.posedgeFrameClk keycode] else []
  | .posedgeReset => .posedgeReset :: if s.vga.clkdiv then [.negedgeVgaClk 0 0] else []
  | .negedgeReset => [.negedgeReset]

/-- `vga_controller` under one event of the board. The divider is held while `Reset` is high. -/
def vgaNext (s : Design) : ClkEvent → VgaController
  | .posedgeClk _ =>
    if s.ctrl.reset then s.vga.posedgeReset
    else if s.vga.clkdiv then s.vga.negedgeClkdiv else s.vga.posedgeClkdiv
  | .posedgeReset => s.vga.posedgeReset
  | .negedgeReset => s.vga

def step (roms : Roms) (s : Design) (e : ClkEvent) : Design :=
  ⟨s.vgaNext e, run (StateController.step roms) s.ctrl (s.gameEvents e)⟩

end Design

end Bosconian
