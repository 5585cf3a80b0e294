import Bosconian.EventMachine
import Bosconian.Hdl.StateController

/-!
# Which shots hit

The shoot logic, the bullets of the ship, the two bases and their hit tests, ticking together on
any keys and any directions.

* `userBulletCollision_iff` — the hit test asks for a bullet in each axis; it is the test that
  one bullet is within five pixels of the centre, because the two bullets are always level with
  or in line with each other.
* `live_hit_iff` — only a live shot destroys a base in exactly the runs in which no tick finds a
  base centre within five pixels of where a bullet was left.

A bullet keeps its position when the shot is over, and at power-up lies at the corner of the
screen. `shooting_run` finds these registers in every run of the game.
-/

namespace Bosconian

open EventMachine Words

/-! ## The machine -/

/-- The frame registers that decide which base is hit. -/
structure Shooting where
  shoot : Bool
  spaceshipBullets : Bullet
  one : Corner
  two : Corner
  enemyHitOne : Bool
  enemyHitTwo : Bool
deriving DecidableEq, Repr

/-- What a frame tick samples from the rest of the game. -/
structure ShootingTick where
  keycode : BitVec 8
  direction : BitVec 4
  collided : Bool
deriving DecidableEq, Repr

namespace Shooting

def powerUp : Shooting :=
  ⟨false, Bullet.powerUp, greenEnemyBaseExample.home, greenEnemyBaseExampleTwo.home, false, false⟩

/-- One frame. -/
def step (s : Shooting) (e : ShootingTick) : Shooting where
  shoot := DisplayGame.shootNext e.keycode s.spaceshipBullets.exists_ s.shoot
  spaceshipBullets := s.spaceshipBullets.tick s.shoot e.direction
  one := greenEnemyBaseExample.home.scroll e.direction e.collided s.one
  two := greenEnemyBaseExampleTwo.home.scroll e.direction e.collided s.two
  enemyHitOne := userBulletCollision s.one s.spaceshipBullets
  enemyHitTwo := userBulletCollision s.two s.spaceshipBullets

end Shooting

/-- These registers in the game. -/
def DisplayGame.shooting (s : DisplayGame) : Shooting where
  shoot := s.shoot
  spaceshipBullets := s.spaceshipBullets
  one := s.enemyBaseOne.toCorner
  two := s.enemyBaseTwo.toCorner
  enemyHitOne := s.enemyHitOne
  enemyHitTwo := s.enemyHitTwo

/-- The ticks of these registers that an event of the game makes. -/
def StateController.shootingTicks (s : StateController) : GameEvent → List ShootingTick
  | .posedgeFrameClk keycode => [⟨keycode, s.game.shipOrientation, s.game.collision⟩]
  | _ => []

theorem shooting_step (roms : Roms) (s : StateController) (e : GameEvent) :
    (s.step roms e).game.shooting = run Shooting.step s.game.shooting (s.shootingTicks e) := by
  cases e <;> rfl

/-- In every run of the game these registers move as the ticks of the run tell them. -/
theorem shooting_run (roms : Roms) (s : StateController) (es : List GameEvent) :
    (run (StateController.step roms) s es).game.shooting =
      run Shooting.step s.game.shooting
        (emit (StateController.step roms) StateController.shootingTicks s es) :=
  run_emit (f := fun t : StateController => t.game.shooting) (shooting_step roms) s es

/-! ## The hit test -/

/-- A centre within five pixels of `(x, y)` in both axes. Closer than five pixels to an edge of
the screen the test of the code borrows and fails. -/
def Corner.Near (c : Corner) (x y : BitVec 10) : Prop :=
  (5 ≤ c.centerX.toNat ∧ c.centerX.toNat ≤ x.toNat + 5 ∧ x.toNat ≤ c.centerX.toNat + 5) ∧
    (5 ≤ c.centerY.toNat ∧ c.centerY.toNat ≤ y.toNat + 5 ∧ y.toNat ≤ c.centerY.toNat + 5)

namespace Bullet

/-- The bullets are in one column or in one line. -/
def InLine (b : Bullet) : Prop :=
  b.xPosBullet1 = b.xPosBullet2 ∨ b.yPosBullet1 = b.yPosBullet2

theorem inLine_powerUp : powerUp.InLine := .inl rfl

theorem inLine_flyLeftRight (direction : BitVec 4) (b : Bullet) :
    (b.flyLeftRight direction).InLine := by
  unfold flyLeftRight
  split_ifs <;> exact .inr rfl

theorem inLine_flyUpDown (direction : BitVec 4) (b : Bullet) :
    (b.flyUpDown direction).InLine := by
  unfold flyUpDown
  split_ifs <;> exact .inl rfl

theorem inLine_tick {b : Bullet} (h : b.InLine) (shootBullet : Bool) (direction : BitVec 4) :
    (b.tick shootBullet direction).InLine := by
  unfold tick
  split_ifs
  · exact .inl rfl
  · exact h
  · exact inLine_flyLeftRight direction b
  · exact inLine_flyUpDown direction b
  · exact h

/-- Some bullet lies near the centre of the base. -/
def NearBase (b : Bullet) (c : Corner) : Prop :=
  c.Near b.xPosBullet1 b.yPosBullet1 ∨ c.Near b.xPosBullet2 b.yPosBullet2

end Bullet

theorem userBulletCollision_iff (c : Corner) {b : Bullet} (h : b.InLine) :
    userBulletCollision c b = true ↔ b.NearBase c := by
  have h5 : (5 : BitVec 32).toNat = 5 := rfl
  have hwin (p q : BitVec 10) : inWindow 5 p q = true ↔
      5 ≤ p.toNat ∧ p.toNat ≤ q.toNat + 5 ∧ q.toNat ≤ p.toNat + 5 := by
    rw [inWindow_iff (by decide) (by decide), h5]
  simp only [userBulletCollision, Bool.and_eq_true, Bool.or_eq_true, hwin, Bullet.NearBase,
    Corner.Near]
  rcases h with h | h
  · rw [h, or_self, and_comm, and_or_left]
  · rw [h, or_self, and_comm, or_and_right]

/-! ## Live and stale hits -/

namespace Shooting

/-- A tick that sets a hit register finds a shot in flight. -/
def LiveHit (s : Shooting) (e : ShootingTick) : Prop :=
  (s.step e).enemyHitOne = true ∨ (s.step e).enemyHitTwo = true → s.spaceshipBullets.exists_ = true

/-- If no shot is in flight, no base is near where a bullet was left. -/
def RestsClear (s : Shooting) (_e : ShootingTick) : Prop :=
  s.spaceshipBullets.exists_ = false →
    ¬ s.spaceshipBullets.NearBase s.one ∧ ¬ s.spaceshipBullets.NearBase s.two

theorem inLine_step {s : Shooting} (h : s.spaceshipBullets.InLine) (e : ShootingTick) :
    (s.step e).spaceshipBullets.InLine :=
  Bullet.inLine_tick h s.shoot e.direction

theorem liveHit_iff {s : Shooting} (h : s.spaceshipBullets.InLine) (e : ShootingTick) :
    s.LiveHit e ↔ s.RestsClear e := by
  show (userBulletCollision s.one s.spaceshipBullets = true ∨
    userBulletCollision s.two s.spaceshipBullets = true → _) ↔ _
  rw [userBulletCollision_iff s.one h, userBulletCollision_iff s.two h, RestsClear, ← not_or]
  cases s.spaceshipBullets.exists_ <;> simp

end Shooting

/-- **Live shots.** In every run, each tick that sets a hit register finds a shot in flight
exactly when no tick without one finds a base within five pixels of a bullet at rest. -/
theorem live_hit_iff (es : List ShootingTick) :
    EachStep Shooting.step Shooting.LiveHit Shooting.powerUp es ↔
      EachStep Shooting.step Shooting.RestsClear Shooting.powerUp es :=
  eachStep_congr (J := fun s => s.spaceshipBullets.InLine) (fun _ e h => Shooting.inLine_step h e)
    (fun _ e h => Shooting.liveHit_iff h e) Bullet.inLine_powerUp es

/-- The ship never fires. Right for 227 frames and down for 131, it brings the first base to
the corner of the screen, where the bullets lie since power-up. -/
theorem stale_hit :
    ¬ EachStep Shooting.step Shooting.LiveHit Shooting.powerUp
      (List.replicate 227 ⟨0x07, dirRight, false⟩ ++ List.replicate 131 ⟨0x16, dirDown, false⟩ ++
        [⟨0x16, dirDown, false⟩]) := by
  intro h
  have hlive := h _ _ List.prefix_rfl (.inl (by decide +kernel))
  revert hlive
  decide +kernel

end Bosconian
