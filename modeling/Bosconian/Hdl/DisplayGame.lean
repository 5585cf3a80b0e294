import Bosconian.Hdl.Bullets

/-!
# `spaceship` and `display_game`

`display_game` is clocked twice: the pixel clock drives the layer flags and the collision
detector, the frame clock drives the scene. Every variable an `always_ff` writes is a register,
and a block reads what the other registers held before the edge.

The colours come later, in `Colors`: nothing here depends on them.
-/

namespace Bosconian

open Words

/-- The contents of the sprite ROMs, by address. -/
structure Roms where
  up : BitVec 8 → BitVec 2
  down : BitVec 8 → BitVec 2
  left : BitVec 8 → BitVec 2
  right : BitVec 8 → BitVec 2
  base : BitVec 13 → BitVec 3

/-! ## The ship sprite -/

/-- The texels the four ship ROMs put out at the last falling edge of the pixel clock. -/
structure Spaceship where
  dataUp : BitVec 2
  dataDown : BitVec 2
  dataRight : BitVec 2
  dataLeft : BitVec 2
deriving DecidableEq, Repr

namespace Spaceship

/-- `DrawX + DrawY * 14`, kept in 8 bits. -/
def romAddress (drawX drawY : BitVec 10) : BitVec 8 :=
  (drawX.setWidth 32 + drawY.setWidth 32 * 14).setWidth 8

/-- Each instance is given its own shift of the raster coordinates. -/
def negedgeVgaClk (roms : Roms) (drawX drawY : BitVec 10) (_s : Spaceship) : Spaceship :=
  { dataUp := roms.up (romAddress (drawX - 5) drawY)
    dataDown := roms.down (romAddress (drawX - 4) drawY)
    dataRight := roms.right (romAddress (drawX - 5) drawY)
    dataLeft := roms.left (romAddress (drawX + 303) (drawY + 234)) }

/-- The output `data`: the sprite for the direction, or the upright one under a collision. -/
def data (collision : Bool) (direction : BitVec 4) (s : Spaceship) : BitVec 2 :=
  if collision then s.dataUp
  else if direction = dirUp then s.dataUp
  else if direction = dirDown then s.dataDown
  else if direction = dirRight then s.dataRight
  else if direction = dirLeft then s.dataLeft
  else s.dataUp

end Spaceship

/-! ## Registers -/

/-- The direction registers, written by one block. -/
structure Directions where
  up : Bool
  down : Bool
  left : Bool
  right : Bool
deriving DecidableEq, Repr

/-- The registers of `display_game` and of the modules it instantiates. -/
structure DisplayGame extends Directions where
  shipOn : Bool
  bulletOn : Bool
  enemyBaseOneOn : Bool
  enemyBaseTwoOn : Bool
  collision : Bool
  enemyB1BulletCollision : Bool
  enemyB2BulletCollision : Bool
  enemyBaseOneShootBullet : Bool
  enemyBaseTwoShootBullet : Bool
  shoot : Bool
  shipOrientation : BitVec 4
  enemyOneBaseHit : Bool
  enemyTwoBaseHit : Bool
  bgk : Background
  userShip : Spaceship
  spaceshipBullets : Bullet
  enemyBaseOne : GreenEnemyBase
  enemyHitOne : Bool
  baseEnemyBullet : EnemyBullet
  enemyBaseTwo : GreenEnemyBase
  enemyHitTwo : Bool
  baseEnemyBullet2 : EnemyBullet
deriving DecidableEq, Repr

namespace DisplayGame

def powerUp : DisplayGame where
  shipOn := false
  bulletOn := false
  enemyBaseOneOn := false
  enemyBaseTwoOn := false
  collision := false
  enemyB1BulletCollision := false
  enemyB2BulletCollision := false
  enemyBaseOneShootBullet := false
  enemyBaseTwoShootBullet := false
  shoot := false
  up := false
  down := false
  left := false
  right := false
  shipOrientation := 0
  enemyOneBaseHit := false
  enemyTwoBaseHit := false
  bgk := Background.powerUp
  userShip := ⟨0, 0, 0, 0⟩
  spaceshipBullets := Bullet.powerUp
  enemyBaseOne := ⟨greenEnemyBaseExample.home, 0⟩
  enemyHitOne := false
  baseEnemyBullet := EnemyBullet.powerUp
  enemyBaseTwo := ⟨greenEnemyBaseExampleTwo.home, 0⟩
  enemyHitTwo := false
  baseEnemyBullet2 := EnemyBullet.powerUp

/-! ## The pixel clock -/

def shipTLCornerX : BitVec 10 := 313

def shipTLCornerY : BitVec 10 := 233

def size : BitVec 10 := 14

def baseSizeX : BitVec 10 := 64

def baseSizeY : BitVec 10 := 72

/-- The box test of `Ship_on`. -/
def shipBox (drawX drawY : BitVec 10) : Bool :=
  inBox shipTLCornerX size drawX && inBox shipTLCornerY size drawY

/-- The box test of `Base_on`. -/
def baseBox (c : Corner) (drawX drawY : BitVec 10) : Bool :=
  inBox c.tlCornerX baseSizeX drawX && inBox c.tlCornerY baseSizeY drawY

/-- The pixel test of a bullet: within one pixel of it in both axes. -/
def bulletPixel (x y drawX drawY : BitVec 10) : Bool :=
  inWindow 1 x drawX && inWindow 1 y drawY

/-- `Ship_on`, the part that feeds the detector. -/
def shipOnNext (drawX drawY : BitVec 10) (s : DisplayGame) : Bool :=
  shipBox drawX drawY && decide (0 < s.userShip.data s.collision s.shipOrientation)

/-- `Ship_on`, the part for the bullets of the ship. -/
def bulletOnNext (drawX drawY : BitVec 10) (s : DisplayGame) : Bool :=
  (bulletPixel s.spaceshipBullets.xPosBullet1 s.spaceshipBullets.yPosBullet1 drawX drawY
    || bulletPixel s.spaceshipBullets.xPosBullet2 s.spaceshipBullets.yPosBullet2 drawX drawY)
  && s.spaceshipBullets.exists_

/-- `Base_on`, for one base. -/
def enemyBaseOnNext (drawX drawY : BitVec 10) (b : GreenEnemyBase) : Bool :=
  baseBox b.toCorner drawX drawY && decide (1 < b.romQ)

/-- `enemy_bullet`, for the bullet of one base. -/
def enemyBaseShootBulletNext (drawX drawY : BitVec 10) (e : EnemyBullet) : Bool :=
  e.showBullet && bulletPixel e.enemyBulletX e.enemyBulletY drawX drawY

/-- `Collision_Detector`: the ship against the bases still standing. -/
def collisionNext (s : DisplayGame) : Bool :=
  s.shipOn && (s.enemyBaseOneOn && !s.enemyOneBaseHit || s.enemyBaseTwoOn && !s.enemyTwoBaseHit)

/-- `Collision_Detector`: the ship against the bullet of base one. -/
def enemyB1BulletCollisionNext (s : DisplayGame) : Bool :=
  s.shipOn && s.enemyBaseOneShootBullet && !s.enemyOneBaseHit

/-- `Collision_Detector`: the ship against the bullet of base two. -/
def enemyB2BulletCollisionNext (s : DisplayGame) : Bool :=
  s.shipOn && s.enemyBaseTwoShootBullet && !s.enemyTwoBaseHit

def lost (s : DisplayGame) : Bool :=
  s.collision || s.enemyB1BulletCollision || s.enemyB2BulletCollision

def win (s : DisplayGame) : Bool := s.enemyOneBaseHit && s.enemyTwoBaseHit

/-- A rising edge of `collided` also runs the scroll block of the background. -/
def bgkAfterEdge (collision collision' : Bool) (s : DisplayGame) : Background :=
  if !collision && collision' then s.bgk.scroll s.shipOrientation collision' else s.bgk

/-- The blocks at `posedge VGA_Clk`. -/
def posedgeVgaClk (drawX drawY : BitVec 10) (s : DisplayGame) : DisplayGame :=
  { s with
    shipOn := s.shipOnNext drawX drawY
    bulletOn := s.bulletOnNext drawX drawY
    enemyBaseOneOn := enemyBaseOnNext drawX drawY s.enemyBaseOne
    enemyBaseTwoOn := enemyBaseOnNext drawX drawY s.enemyBaseTwo
    collision := s.collisionNext
    enemyB1BulletCollision := s.enemyB1BulletCollisionNext
    enemyB2BulletCollision := s.enemyB2BulletCollisionNext
    enemyBaseOneShootBullet := enemyBaseShootBulletNext drawX drawY s.baseEnemyBullet
    enemyBaseTwoShootBullet := enemyBaseShootBulletNext drawX drawY s.baseEnemyBullet2
    bgk := s.bgkAfterEdge s.collision s.collisionNext }

/-- The ROMs, read at `negedge VGA_Clk`. -/
def negedgeVgaClk (roms : Roms) (drawX drawY : BitVec 10) (s : DisplayGame) : DisplayGame :=
  { s with
    userShip := s.userShip.negedgeVgaClk roms drawX drawY
    enemyBaseOne := s.enemyBaseOne.negedgeVgaClk roms.base drawX drawY
    enemyBaseTwo := s.enemyBaseTwo.negedgeVgaClk roms.base drawX drawY }

/-! ## The frame clock -/

/-- `shoot`: raised by the fire key, lowered once the shot exists. -/
def shootNext (keycode : BitVec 8) (bulletsExist shoot : Bool) : Bool :=
  if keycode == 0x2C && !bulletsExist then true
  else if bulletsExist then false
  else shoot

/-- What `ship_orientation` takes over: `{up, down, right, left}`. -/
def directions (s : DisplayGame) : BitVec 4 :=
  BitVec.ofBool s.up ++ BitVec.ofBool s.down ++ BitVec.ofBool s.right ++ BitVec.ofBool s.left

/-- The direction block. -/
def steer (moving : Bool) (keycode : BitVec 8) (s : DisplayGame) : Directions :=
  if s.collision then ⟨false, false, false, false⟩
  else if moving then
    if keycode = 0x1A then { up := true, down := false, left := false, right := false }
    else if keycode = 0x16 then { up := false, down := true, left := false, right := false }
    else if keycode = 0x04 then { up := false, down := false, left := true, right := false }
    else if keycode = 0x07 then { up := false, down := false, left := false, right := true }
    else { left := s.left, right := s.right, up := s.up, down := s.down }
  else ⟨false, false, false, false⟩

/-- The latch of a destroyed base: `enemy_one_base_hit` and `enemy_two_base_hit`. -/
def baseHitNext (reset enemyHit enemyBaseHit : Bool) : Bool :=
  if reset then false else if enemyHit then true else enemyBaseHit

/-- The blocks at `posedge frame_clk`. -/
def posedgeFrameClk (reset moving : Bool) (keycode : BitVec 8) (s : DisplayGame) :
    DisplayGame :=
  { s with
    toDirections := s.steer moving keycode
    shoot := shootNext keycode s.spaceshipBullets.exists_ s.shoot
    shipOrientation := s.directions
    enemyOneBaseHit := baseHitNext reset s.enemyHitOne s.enemyOneBaseHit
    enemyTwoBaseHit := baseHitNext reset s.enemyHitTwo s.enemyTwoBaseHit
    bgk := s.bgk.scroll s.shipOrientation s.collision
    spaceshipBullets := s.spaceshipBullets.tick s.shoot s.shipOrientation
    enemyBaseOne := greenEnemyBaseExample.scroll s.shipOrientation s.collision s.enemyBaseOne
    enemyHitOne := userBulletCollision s.enemyBaseOne.toCorner s.spaceshipBullets
    baseEnemyBullet := s.baseEnemyBullet.tick s.enemyBaseOne.toCorner
    enemyBaseTwo := greenEnemyBaseExampleTwo.scroll s.shipOrientation s.collision s.enemyBaseTwo
    enemyHitTwo := userBulletCollision s.enemyBaseTwo.toCorner s.spaceshipBullets
    baseEnemyBullet2 := s.baseEnemyBullet2.tick s.enemyBaseTwo.toCorner }

/-- The one block that is sensitive to `posedge Reset`. -/
def posedgeReset (s : DisplayGame) : DisplayGame :=
  { s with enemyOneBaseHit := false, enemyTwoBaseHit := false }

/-! ## `lost` and `win` -/

theorem win_iff (s : DisplayGame) :
    s.win = true ↔ s.enemyOneBaseHit = true ∧ s.enemyTwoBaseHit = true := by
  simp [win]

@[simp] theorem lost_posedgeFrameClk (reset moving : Bool) (keycode : BitVec 8)
    (s : DisplayGame) : (s.posedgeFrameClk reset moving keycode).lost = s.lost := rfl

/-- Both flags mask all three contributors to `lost`. -/
theorem lost_posedgeVgaClk_of_win {s : DisplayGame} (h : s.win = true)
    (drawX drawY : BitVec 10) : (s.posedgeVgaClk drawX drawY).lost = false := by
  obtain ⟨hone, htwo⟩ := (win_iff s).1 h
  simp [lost, posedgeVgaClk, collisionNext, enemyB1BulletCollisionNext,
    enemyB2BulletCollisionNext, hone, htwo]

/-- `flag` is a latch that `hit` sets at a frame tick and only `Reset` clears. -/
structure IsLatch (flag hit : DisplayGame → Bool) : Prop where
  powerUp : flag powerUp = false
  posedgeVgaClk : ∀ drawX drawY s, flag (posedgeVgaClk drawX drawY s) = flag s
  negedgeVgaClk : ∀ roms drawX drawY s, flag (negedgeVgaClk roms drawX drawY s) = flag s
  posedgeFrameClk : ∀ reset moving keycode s,
    flag (posedgeFrameClk reset moving keycode s) = baseHitNext reset (hit s) (flag s)
  posedgeReset : ∀ s, flag (posedgeReset s) = false

theorem isLatch_one : IsLatch enemyOneBaseHit enemyHitOne :=
  ⟨rfl, fun _ _ _ => rfl, fun _ _ _ _ => rfl, fun _ _ _ _ => rfl, fun _ => rfl⟩

theorem isLatch_two : IsLatch enemyTwoBaseHit enemyHitTwo :=
  ⟨rfl, fun _ _ _ => rfl, fun _ _ _ _ => rfl, fun _ _ _ _ => rfl, fun _ => rfl⟩

/-- Away from `Reset` the flags are latched. -/
theorem win_posedgeFrameClk {s : DisplayGame} (h : s.win = true) (moving : Bool)
    (keycode : BitVec 8) : (s.posedgeFrameClk false moving keycode).win = true := by
  obtain ⟨hone, htwo⟩ := (win_iff s).1 h
  simp [win, posedgeFrameClk, baseHitNext, hone, htwo]

end DisplayGame

end Bosconian
