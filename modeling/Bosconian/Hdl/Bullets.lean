import Bosconian.Hdl.Words
import Bosconian.Hdl.Scroll

/-!
# Shots: `bullet`, `user_bullet_collision` and `enemy_bullet`

All three are clocked once a frame. A shot of the ship is a pair of bullets flying apart from
the middle of the screen; a base answers with one bullet of its own.
-/

namespace Bosconian

open Words

/-! ## The shot of the ship -/

/-- The registers of `bullet`. -/
structure Bullet where
  bulletDistanceTraveled : BitVec 7
  yOffset : BitVec 7
  xOffset : BitVec 7
  changeX : BitVec 7
  changeY : BitVec 7
  xPosBullet1 : BitVec 10
  yPosBullet1 : BitVec 10
  xPosBullet2 : BitVec 10
  yPosBullet2 : BitVec 10
  exists_ : Bool
  shootLeftRight : Bool
deriving DecidableEq, Repr

namespace Bullet

def bulletRange : BitVec 7 := 120

def shipCenterX : BitVec 10 := 320

def shipCenterY : BitVec 10 := 240

def powerUp : Bullet := ⟨0, 0, 0, 0, 0, 0, 0, 0, 0, false, false⟩

/-- The branch taken while `shoot_bullet` is high: both bullets at the ship. -/
def fire (direction : BitVec 4) (s : Bullet) : Bullet :=
  { s with
    bulletDistanceTraveled := 0
    exists_ := true
    xPosBullet1 := shipCenterX
    yPosBullet1 := shipCenterY
    xPosBullet2 := shipCenterX
    yPosBullet2 := shipCenterY
    yOffset := 0
    xOffset := 0
    changeX := 0
    changeY := 0
    shootLeftRight := !(direction == dirUp || direction == dirDown) }

/-- A tick of a shot fired sideways. The ship may have turned since. -/
def flyLeftRight (direction : BitVec 4) (s : Bullet) : Bullet :=
  let n := { s with
    bulletDistanceTraveled := s.bulletDistanceTraveled + 2
    xOffset := s.xOffset + 2
    xPosBullet1 := shipCenterX + s.xOffset.setWidth 10
    xPosBullet2 := shipCenterX - s.xOffset.setWidth 10 }
  if direction = dirUp then
    { n with
      changeY := s.changeY + 1
      changeX := 0
      yPosBullet1 := shipCenterY + s.changeY.setWidth 10
      yPosBullet2 := shipCenterY + s.changeY.setWidth 10 }
  else if direction = dirDown then
    { n with
      changeY := s.changeY + 1
      changeX := 0
      yPosBullet1 := shipCenterY - s.changeY.setWidth 10
      yPosBullet2 := shipCenterY - s.changeY.setWidth 10 }
  else
    { n with yOffset := 0, yPosBullet1 := shipCenterY, yPosBullet2 := shipCenterY }

/-- A tick of a shot fired along the vertical. -/
def flyUpDown (direction : BitVec 4) (s : Bullet) : Bullet :=
  let n := { s with
    bulletDistanceTraveled := s.bulletDistanceTraveled + 2
    yOffset := s.yOffset + 2
    yPosBullet1 := shipCenterY + s.yOffset.setWidth 10
    yPosBullet2 := shipCenterY - s.yOffset.setWidth 10 }
  if direction = dirRight then
    { n with
      changeX := s.changeX + 1
      changeY := 0
      xPosBullet1 := shipCenterX - s.changeX.setWidth 10
      xPosBullet2 := shipCenterX - s.changeX.setWidth 10 }
  else if direction = dirLeft then
    { n with
      changeX := s.changeX + 1
      changeY := 0
      xPosBullet1 := shipCenterX + s.changeX.setWidth 10
      xPosBullet2 := shipCenterX + s.changeX.setWidth 10 }
  else
    { n with xOffset := 0, xPosBullet1 := shipCenterX, xPosBullet2 := shipCenterX }

/-- The shot is over: it no longer exists, and its positions stay where they were. -/
def expire (s : Bullet) : Bullet := { s with exists_ := false, bulletDistanceTraveled := 0 }

/-- The block at `posedge frame_clk`. -/
def tick (shootBullet : Bool) (direction : BitVec 4) (s : Bullet) : Bullet :=
  if shootBullet then s.fire direction
  else if s.exists_ then
    if bulletRange ≤ s.bulletDistanceTraveled then s.expire
    else if s.shootLeftRight then s.flyLeftRight direction
    else s.flyUpDown direction
  else s

end Bullet

/-! ## The hit test -/

/-- `Base_center_x` and `enemy_base_x_center`: the corner plus half the width of a base. -/
def Corner.centerX (c : Corner) : BitVec 10 := c.tlCornerX + 32

/-- `Base_center_y` and `enemy_base_y_center`. -/
def Corner.centerY (c : Corner) : BitVec 10 := c.tlCornerY + 36

/-- `user_bullet_collision`: what it assigns to `enemy_hit`. Some bullet is level with the
centre, and some bullet is in line with it. -/
def userBulletCollision (c : Corner) (b : Bullet) : Bool :=
  (inWindow 5 c.centerY b.yPosBullet1 || inWindow 5 c.centerY b.yPosBullet2)
  && (inWindow 5 c.centerX b.xPosBullet1 || inWindow 5 c.centerX b.xPosBullet2)

/-! ## The shot of a base -/

/-- The registers of `enemy_bullet`. -/
structure EnemyBullet where
  enemyBulletX : BitVec 10
  enemyBulletY : BitVec 10
  showBullet : Bool
  shootBullet : Bool
  bulletDistanceTraveled : BitVec 8
  shootLOrR : BitVec 2
deriving DecidableEq, Repr

namespace EnemyBullet

def bulletRange : BitVec 8 := 100

def powerUp : EnemyBullet := ⟨0, 0, false, false, 0, 0⟩

/-- The ship is close to the centre of the base. -/
def inRange (c : Corner) : Bool :=
  inWindow 100 c.centerX Bullet.shipCenterX && inWindow 75 c.centerY Bullet.shipCenterY

/-- The block at `posedge frame_clk`. The direction read by a tick of the flight is the one
the tick before wrote. -/
def tick (c : Corner) (s : EnemyBullet) : EnemyBullet :=
  if s.shootBullet = false then
    if inRange c then
      { s with
        shootBullet := true
        showBullet := true
        enemyBulletX := c.centerX
        enemyBulletY := c.centerY }
    else s
  else
    let n := { s with
      shootLOrR := if Bullet.shipCenterX ≤ c.centerX then 0b10 else 0b01
      enemyBulletY := c.centerY }
    if bulletRange ≤ s.bulletDistanceTraveled then
      { n with
        shootBullet := false
        showBullet := false
        bulletDistanceTraveled := 0
        enemyBulletX := c.centerX }
    else if s.shootLOrR = 0b10 then
      { n with
        enemyBulletX := s.enemyBulletX - 2
        bulletDistanceTraveled := s.bulletDistanceTraveled + 2 }
    else if s.shootLOrR = 0b01 then
      { n with
        enemyBulletX := s.enemyBulletX + 2
        bulletDistanceTraveled := s.bulletDistanceTraveled + 2 }
    else n

end EnemyBullet

end Bosconian
