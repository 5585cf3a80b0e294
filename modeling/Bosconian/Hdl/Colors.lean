import Bosconian.Hdl.PixelCollision

/-!
# The colour path of `display_game`

Each sprite module reads its ROM at a falling edge of the pixel clock, looks the texel up in its
palette, and registers the colour at the rising edge after it if its enable is up.
`RGB_Display` selects one of these registers by the layer flags. The sprite modules put out four
bits a channel and the screen shows the low four of `display_game`.
-/

namespace Bosconian

open Words

/-! ## Colours and palettes -/

/-- A colour with `w` bits a channel. -/
structure Rgb (w : Nat) where
  red : BitVec w
  green : BitVec w
  blue : BitVec w
deriving DecidableEq, Repr

namespace Rgb

variable {w : Nat}

def black : Rgb w := ⟨0, 0, 0⟩

/-- Four bits a channel on wires of eight. -/
def widen (c : Rgb 4) : Rgb 8 := ⟨c.red.setWidth 8, c.green.setWidth 8, c.blue.setWidth 8⟩

/-- What `lab62` gives to the screen. -/
def low (c : Rgb 8) : Rgb 4 := ⟨c.red.setWidth 4, c.green.setWidth 4, c.blue.setWidth 4⟩

@[simp] theorem low_widen (c : Rgb 4) : c.widen.low = c := by
  simp [low, widen]

/-- The block at `posedge vga_clk` of a sprite module. -/
def gate (enable : Bool) (c : Rgb w) : Rgb w := if enable then c else black

@[simp] theorem gate_true (c : Rgb w) : gate true c = c := rfl

@[simp] theorem gate_false (c : Rgb w) : gate false c = black := rfl

theorem gate_eq_iff {enable : Bool} {c : Rgb w} (h : c ≠ black) :
    gate enable c = c ↔ enable = true := by
  cases enable <;> simp [Ne.symm h]

end Rgb

/-- `palette[index]`. -/
def paletteAt {w : Nat} (palette : List (Rgb 4)) (index : BitVec w) : Rgb 4 :=
  palette.getD index.toNat .black

/-- The table of `white_spaceship_up_palette`; those of the other three headings are the same. -/
def whiteSpaceshipPalette : BitVec 2 → Rgb 4 :=
  paletteAt [⟨0x0, 0x0, 0x0⟩, ⟨0xF, 0xF, 0xF⟩, ⟨0xE, 0x0, 0x0⟩, ⟨0x8, 0x8, 0x8⟩]

def greenEnemyBasePalette : BitVec 3 → Rgb 4 :=
  paletteAt [⟨0x0, 0x0, 0x0⟩, ⟨0x0, 0x0, 0x0⟩, ⟨0x0, 0xB, 0x0⟩, ⟨0x8, 0x0, 0xC⟩,
    ⟨0x4, 0x3, 0x4⟩, ⟨0xE, 0x7, 0xC⟩, ⟨0xE, 0x0, 0x0⟩, ⟨0xF, 0xF, 0xF⟩]

def boscanianBackgroundPalette : BitVec 1 → Rgb 4 :=
  paletteAt [⟨0x0, 0x0, 0x0⟩, ⟨0xF, 0xF, 0xF⟩]

def spaceshipExplosionPalette : BitVec 4 → Rgb 4 :=
  paletteAt [⟨0x0, 0x0, 0x0⟩, ⟨0xD, 0xB, 0x1⟩, ⟨0xF, 0xE, 0xD⟩, ⟨0xC, 0xA, 0x0⟩,
    ⟨0x7, 0x2, 0x0⟩, ⟨0x4, 0x4, 0x2⟩, ⟨0xE, 0xE, 0x0⟩, ⟨0xE, 0x8, 0x7⟩,
    ⟨0xC, 0x5, 0x0⟩, ⟨0xD, 0x0, 0x0⟩, ⟨0x2, 0x1, 0x0⟩, ⟨0xE, 0xD, 0x6⟩,
    ⟨0x8, 0x7, 0x7⟩, ⟨0xD, 0x6, 0x7⟩, ⟨0xE, 0xF, 0xF⟩, ⟨0x8, 0x7, 0x0⟩]

/-- No opaque texel of a sprite is black. -/
theorem whiteSpaceshipPalette_ne_black {texel : BitVec 2} (h : 0 < texel) :
    whiteSpaceshipPalette texel ≠ .black := by
  decide +revert

theorem greenEnemyBasePalette_ne_black {texel : BitVec 3} (h : 1 < texel) :
    greenEnemyBasePalette texel ≠ .black := by
  decide +revert

/-! ## Registers -/

/-- The contents of the ROMs that only colours depend on. -/
structure ColorRoms where
  explosion : BitVec 9 → BitVec 4
  background : BitVec 19 → BitVec 1

/-- `DrawX + DrawY * 22`, kept in 9 bits. -/
def spaceshipExplosionRomAddress (drawX drawY : BitVec 10) : BitVec 9 :=
  (drawX.setWidth 32 + drawY.setWidth 32 * 22).setWidth 9

/-- The registers of the colour path: the outputs of the two further ROMs, the colours of the
sprite modules, and `Red`, `Green` and `Blue` of `RGB_Display`. -/
structure Colors where
  explosionQ : BitVec 4
  backgroundQ : BitVec 1
  shipUp : Rgb 4
  shipDown : Rgb 4
  shipRight : Rgb 4
  shipLeft : Rgb 4
  shipExp : Rgb 4
  base : Rgb 4
  base2 : Rgb 4
  scroll : Rgb 8
  rgb : Rgb 8
deriving DecidableEq, Repr

/-- `display_game` with its colours. -/
structure Display where
  game : DisplayGame
  colors : Colors
deriving DecidableEq, Repr

namespace Display

def powerUp : Display :=
  ⟨DisplayGame.powerUp, 0, 0, .black, .black, .black, .black, .black, .black, .black, .black,
    .black⟩

/-- `Red_Ship`, `Green_Ship` and `Blue_Ship`. -/
def shipColor (s : Display) : Rgb 4 :=
  if s.game.collision then s.colors.shipExp
  else if s.game.shipOrientation = dirUp then s.colors.shipUp
  else if s.game.shipOrientation = dirDown then s.colors.shipDown
  else if s.game.shipOrientation = dirRight then s.colors.shipRight
  else if s.game.shipOrientation = dirLeft then s.colors.shipLeft
  else s.colors.shipUp

/-- `RGB_Display`. -/
def rgbDisplay (s : Display) : Rgb 8 :=
  if s.game.shipOn then s.shipColor.widen
  else if s.game.bulletOn then ⟨0xFF, 0x00, 0x00⟩
  else if s.game.enemyBaseOneShootBullet && !s.game.enemyOneBaseHit then ⟨0xFF, 0xFF, 0xFF⟩
  else if s.game.enemyBaseTwoShootBullet && !s.game.enemyTwoBaseHit then ⟨0xFF, 0xFF, 0xFF⟩
  else if s.game.enemyBaseTwoOn then
    if s.game.enemyTwoBaseHit then s.colors.scroll else s.colors.base2.widen
  else if s.game.enemyBaseOneOn then
    if s.game.enemyOneBaseHit then s.colors.scroll else s.colors.base.widen
  else s.colors.scroll

/-- The blocks at `posedge VGA_Clk`. -/
def posedgeVgaClk (drawX drawY : BitVec 10) (blank : Bool) (s : Display) : Display where
  game := s.game.posedgeVgaClk drawX drawY
  colors := { s.colors with
    shipUp := .gate s.game.shipOn (whiteSpaceshipPalette s.game.userShip.dataUp)
    shipDown := .gate s.game.shipOn (whiteSpaceshipPalette s.game.userShip.dataDown)
    shipRight := .gate s.game.shipOn (whiteSpaceshipPalette s.game.userShip.dataRight)
    shipLeft := .gate s.game.shipOn (whiteSpaceshipPalette s.game.userShip.dataLeft)
    shipExp := .gate s.game.shipOn (spaceshipExplosionPalette s.colors.explosionQ)
    base := .gate (blank && s.game.enemyBaseOneOn)
      (greenEnemyBasePalette s.game.enemyBaseOne.romQ)
    base2 := .gate (blank && s.game.enemyBaseTwoOn)
      (greenEnemyBasePalette s.game.enemyBaseTwo.romQ)
    scroll := (Rgb.gate blank (boscanianBackgroundPalette s.colors.backgroundQ)).widen
    rgb := s.rgbDisplay }

/-- The ROMs, read at `negedge VGA_Clk`. -/
def negedgeVgaClk (roms : Roms) (colorRoms : ColorRoms) (drawX drawY : BitVec 10)
    (s : Display) : Display where
  game := s.game.negedgeVgaClk roms drawX drawY
  colors := { s.colors with
    explosionQ :=
      colorRoms.explosion (spaceshipExplosionRomAddress (drawX + 300) (drawY + 232))
    backgroundQ := colorRoms.background (s.game.bgk.romAddress drawX drawY) }

/-- `blank` of `vga_controller`, by the position of the raster. -/
def blank (p : Pixel) : Bool := !(479 ≤ p.1 || 419 ≤ p.2 || p.1 ≤ 160 || p.2 ≤ 60)

/-- The clock of one pixel: the raster is at `p`, the ROMs are read, and the pixel is taken
over. -/
def pixel (roms : Roms) (colorRoms : ColorRoms) (p : Pixel) (s : Display) : Display :=
  (s.negedgeVgaClk roms colorRoms p.1 p.2).posedgeVgaClk p.1 p.2 (blank p)

end Display

end Bosconian
