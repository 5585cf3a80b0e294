import Bosconian.Hdl.DisplayGame

/-!
# `State_Controller`

The screen shown to the player, clocked with the pixels, over the game in `display_game`. The
machine here is driven by the edges of its clocks and of `Reset` in any order; `Design` fixes
the order the raster gives them.
-/

namespace Bosconian

/-- The values of the enumeration `State`. -/
inductive Screen
  | startScreen
  | play
  | win
  | lose
  | pauseLost
  | pauseWin
deriving DecidableEq, Repr

/-- The registers of `State_Controller`, the game it instantiates, and the level of `Reset`. -/
structure StateController where
  reset : Bool
  state : Screen
  moving : Bool
  clkDivider : BitVec 10
  countTimer : BitVec 10
  clkdiv : Bool
  game : DisplayGame
deriving DecidableEq, Repr

namespace StateController

def powerUp : StateController :=
  ⟨false, .startScreen, false, 0, 0, false, DisplayGame.powerUp⟩

/-- The keys that set `moving`. -/
def IsMoveKey (keycode : BitVec 8) : Prop :=
  keycode = 0x04 ∨ keycode = 0x07 ∨ keycode = 0x16 ∨ keycode = 0x1A

instance (keycode : BitVec 8) : Decidable (IsMoveKey keycode) := by
  unfold IsMoveKey; infer_instance

/-- `Next_state`. -/
def nextState (s : StateController) : Screen :=
  match s.state with
  | .startScreen => if s.moving then .play else s.state
  | .play => if s.game.win then .win else if s.game.lost then .lose else .play
  | .win => .win
  | .pauseLost => if s.clkdiv then .lose else .pauseLost
  | .pauseWin => if 1022 ≤ s.countTimer then .win else .pauseWin
  | .lose => .lose

/-- The state register: reset, then `lost`, then `win`, then `Next_state`. -/
def stateNext (s : StateController) : Screen :=
  if s.reset then .startScreen
  else if s.game.lost then .lose
  else if s.game.win then .win
  else s.nextState

/-- `moving`, in the same block. -/
def movingNext (keycode : BitVec 8) (s : StateController) : Bool :=
  if s.reset then false
  else if s.game.lost then false
  else if s.game.win then false
  else if IsMoveKey keycode then true
  else if s.game.lost then false
  else s.moving

/-- The divider behind the pause screens. -/
def timer (s : StateController) : StateController :=
  if 1000 ≤ s.clkDivider then
    { s with clkDivider := 0, countTimer := s.countTimer + 1, clkdiv := !s.clkdiv }
  else { s with clkDivider := s.clkDivider + 1 }

@[simp] theorem reset_timer (s : StateController) : s.timer.reset = s.reset := by
  unfold timer
  split_ifs <;> rfl

/-- The blocks at `posedge VGA_Clk`. -/
def posedgeVgaClk (drawX drawY : BitVec 10) (keycode : BitVec 8) (s : StateController) :
    StateController :=
  { s.timer with
    state := s.stateNext
    moving := s.movingNext keycode
    game := s.game.posedgeVgaClk drawX drawY }

@[simp] theorem reset_posedgeVgaClk (drawX drawY : BitVec 10) (keycode : BitVec 8)
    (s : StateController) : (s.posedgeVgaClk drawX drawY keycode).reset = s.reset :=
  s.reset_timer

def negedgeVgaClk (roms : Roms) (drawX drawY : BitVec 10) (s : StateController) :
    StateController :=
  { s with game := s.game.negedgeVgaClk roms drawX drawY }

def posedgeFrameClk (keycode : BitVec 8) (s : StateController) : StateController :=
  { s with game := s.game.posedgeFrameClk s.reset s.moving keycode }

def posedgeReset (s : StateController) : StateController :=
  { s with
    reset := true
    state := .startScreen
    moving := false
    game := s.game.posedgeReset }

def negedgeReset (s : StateController) : StateController := { s with reset := false }

end StateController

/-! ## Runs -/

/-- An edge of one of the clocks or of `Reset`, with the inputs it samples. -/
inductive GameEvent
  | posedgeVgaClk (drawX drawY : BitVec 10) (keycode : BitVec 8)
  | negedgeVgaClk (drawX drawY : BitVec 10)
  | posedgeFrameClk (keycode : BitVec 8)
  | posedgeReset
  | negedgeReset
deriving DecidableEq, Repr

namespace StateController

def step (roms : Roms) (s : StateController) : GameEvent → StateController
  | .posedgeVgaClk drawX drawY keycode => s.posedgeVgaClk drawX drawY keycode
  | .negedgeVgaClk drawX drawY => s.negedgeVgaClk roms drawX drawY
  | .posedgeFrameClk keycode => s.posedgeFrameClk keycode
  | .posedgeReset => s.posedgeReset
  | .negedgeReset => s.negedgeReset

end StateController

end Bosconian
