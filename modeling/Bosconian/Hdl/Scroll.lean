import Mathlib.Tactic.Common

/-!
# The scrolled scene: background and enemy bases

`Boscanian_Background_example` moves an offset into its picture and the two
`green_enemy_base_example` modules move the corner of their sprite, all by one pixel a frame in
the direction the ship is heading. Both write their sprite addresses at the width of an
unsized literal, 32 bits.
-/

namespace Bosconian

/-! ## Directions -/

/-- The one-hot codes of `ship_orientation`, `{up, down, right, left}`. -/
def dirUp : BitVec 4 := 0b1000#4

def dirDown : BitVec 4 := 0b0100#4

def dirRight : BitVec 4 := 0b0010#4

def dirLeft : BitVec 4 := 0b0001#4

/-- The codes for which the `case (direction)` of a scroll block has a branch of its own. -/
def IsStep (direction : BitVec 4) : Prop :=
  direction = dirUp ∨ direction = dirDown ∨ direction = dirRight ∨ direction = dirLeft

instance (direction : BitVec 4) : Decidable (IsStep direction) := by
  unfold IsStep; infer_instance

theorem direction_cases (direction : BitVec 4) :
    direction = dirUp ∨ direction = dirDown ∨ direction = dirRight ∨ direction = dirLeft ∨
      ¬ IsStep direction := by
  by_cases h : IsStep direction
  · rcases h with h | h | h | h <;> simp [h]
  · simp [h]

/-! ## The background -/

/-- The scroll registers of `Boscanian_Background_example`. -/
@[ext] structure Background where
  xOffset : BitVec 10
  yOffset : BitVec 10
deriving DecidableEq, Repr

namespace Background

def powerUp : Background := ⟨0, 0⟩

/-- The block at `posedge frame_clk or posedge collided`. -/
def scroll (s : Background) (direction : BitVec 4) (collided : Bool) : Background :=
  if collided then { s with xOffset := s.xOffset, yOffset := s.yOffset }
  else if direction = dirUp then { s with yOffset := s.yOffset - 1 }
  else if direction = dirDown then { s with yOffset := s.yOffset + 1 }
  else if direction = dirRight then { s with xOffset := s.xOffset + 1 }
  else if direction = dirLeft then { s with xOffset := s.xOffset - 1 }
  else { s with xOffset := 0, yOffset := 0 }

theorem scroll_collided (direction : BitVec 4) (s : Background) :
    s.scroll direction true = s := rfl

theorem scroll_of_not_isStep {direction : BitVec 4} (h : ¬ IsStep direction) (s : Background) :
    s.scroll direction false = powerUp := by
  simp only [IsStep, not_or] at h
  simp [scroll, h, powerUp]

/-- `(DrawX + x_offset) % 640 + ((DrawY + y_offset) % 480) * 640`, kept in 19 bits. -/
def romAddress (s : Background) (drawX drawY : BitVec 10) : BitVec 19 :=
  ((drawX.setWidth 32 + s.xOffset.setWidth 32) % 640
    + ((drawY.setWidth 32 + s.yOffset.setWidth 32) % 480) * 640).setWidth 19

end Background

/-! ## The bases -/

/-- The registers `TL_Corner_X` and `TL_Corner_Y` of a base. -/
structure Corner where
  tlCornerX : BitVec 10
  tlCornerY : BitVec 10
deriving DecidableEq, Repr

/-- The scroll block of a base that starts at `home`. The assignments under `if (collided)`
come first, so those of the `case` below override them. -/
def Corner.scroll (home : Corner) (direction : BitVec 4) (collided : Bool) (s : Corner) :
    Corner :=
  let n := s
  let n := if collided then { n with tlCornerY := s.tlCornerY, tlCornerX := s.tlCornerX } else n
  if direction = dirUp then { n with tlCornerY := s.tlCornerY + 1 }
  else if direction = dirDown then { n with tlCornerY := s.tlCornerY - 1 }
  else if direction = dirRight then { n with tlCornerX := s.tlCornerX - 1 }
  else if direction = dirLeft then { n with tlCornerX := s.tlCornerX + 1 }
  else { n with tlCornerX := home.tlCornerX, tlCornerY := home.tlCornerY }

/-- The freeze of the bases freezes nothing. -/
theorem Corner.scroll_collided (home : Corner) (direction : BitVec 4) (s : Corner) :
    home.scroll direction true s = home.scroll direction false s := rfl

theorem Corner.scroll_of_not_isStep {direction : BitVec 4} (h : ¬ IsStep direction)
    (home s : Corner) : home.scroll direction false s = home := by
  simp only [IsStep, not_or] at h
  simp [scroll, h]

/-- The registers of `green_enemy_base_example`: its corner, and the texel its ROM put out at
the last falling edge of the pixel clock. -/
structure GreenEnemyBase extends Corner where
  romQ : BitVec 3
deriving DecidableEq, Repr

namespace GreenEnemyBase

def scroll (home : Corner) (direction : BitVec 4) (collided : Bool) (s : GreenEnemyBase) :
    GreenEnemyBase := { s with toCorner := home.scroll direction collided s.toCorner }

/-- `((DrawX - TL_Corner_X) % 64) + ((DrawY - TL_Corner_Y) % 72) * 64`, kept in 13 bits. -/
def romAddress (s : Corner) (drawX drawY : BitVec 10) : BitVec 13 :=
  ((drawX.setWidth 32 - s.tlCornerX.setWidth 32) % 64
    + ((drawY.setWidth 32 - s.tlCornerY.setWidth 32) % 72) * 64).setWidth 13

/-- The ROM is clocked by the falling edge of the pixel clock. -/
def negedgeVgaClk (rom : BitVec 13 → BitVec 3) (drawX drawY : BitVec 10) (s : GreenEnemyBase) :
    GreenEnemyBase := { s with romQ := rom (romAddress s.toCorner drawX drawY) }

end GreenEnemyBase

/-- `green_enemy_base_example` starts at (200, 100). -/
def greenEnemyBaseExample.home : Corner := ⟨200, 100⟩

def greenEnemyBaseExample.scroll : BitVec 4 → Bool → GreenEnemyBase → GreenEnemyBase :=
  GreenEnemyBase.scroll greenEnemyBaseExample.home

/-- `green_enemy_base_example_two` starts at (400, 300). -/
def greenEnemyBaseExampleTwo.home : Corner := ⟨400, 300⟩

def greenEnemyBaseExampleTwo.scroll : BitVec 4 → Bool → GreenEnemyBase → GreenEnemyBase :=
  GreenEnemyBase.scroll greenEnemyBaseExampleTwo.home

end Bosconian
