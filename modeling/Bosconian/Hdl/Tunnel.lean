import Bosconian.Hdl.Gun

/-!
# Shots do not tunnel through a base

A bullet moves at two pixels a frame along its axis of flight and the bases at one, and the hit
test is made at the ticks only. On a constant heading the bullets drift across the axis as the
scene does, so that a base level with a bullet stays level, and the eleven pixels of the window
are more than the three by which they pass each other in one tick.

* `acrossGap_succ`, `alongGap_succ` — what one tick of such a flight does to the distance.
* `no_tunnel` — a base that a bullet has passed was hit.
-/

namespace Bosconian

open EventMachine Words

/-! ## Bases and bullets -/

inductive Base
  | one
  | two
deriving DecidableEq, Repr

/-- The two bullets of a shot. -/
inductive Twin
  | first
  | second
deriving DecidableEq, Repr

def Base.home : Base → Corner
  | .one => greenEnemyBaseExample.home
  | .two => greenEnemyBaseExampleTwo.home

def Shooting.corner (s : Shooting) : Base → Corner
  | .one => s.one
  | .two => s.two

def Shooting.enemyHit (s : Shooting) : Base → Bool
  | .one => s.enemyHitOne
  | .two => s.enemyHitTwo

namespace Bullet

def xPos (b : Bullet) : Twin → BitVec 10
  | .first => b.xPosBullet1
  | .second => b.xPosBullet2

def yPos (b : Bullet) : Twin → BitVec 10
  | .first => b.yPosBullet1
  | .second => b.yPosBullet2

end Bullet

/-- The coordinate along the axis of a shot, or with `!leftRight` across it. -/
def onAxis (leftRight : Bool) (x y : BitVec 10) : Int := if leftRight then x.toNat else y.toNat

namespace Shooting

/-- The signed distance from a bullet to the centre of a base, along the axis of flight. -/
def alongGap (s : Shooting) (base : Base) (twin : Twin) : Int :=
  onAxis s.spaceshipBullets.shootLeftRight (s.corner base).centerX (s.corner base).centerY -
    onAxis s.spaceshipBullets.shootLeftRight (s.spaceshipBullets.xPos twin)
      (s.spaceshipBullets.yPos twin)

/-- The same across it. -/
def acrossGap (s : Shooting) (base : Base) (twin : Twin) : Int :=
  onAxis (!s.spaceshipBullets.shootLeftRight) (s.corner base).centerX (s.corner base).centerY -
    onAxis (!s.spaceshipBullets.shootLeftRight) (s.spaceshipBullets.xPos twin)
      (s.spaceshipBullets.yPos twin)

end Shooting

/-! ## The scene during a flight -/

/-- How far the scene moves in one tick on a direction with a step, in `x` or else in `y`. -/
def drift (leftRight : Bool) (direction : BitVec 4) : Int :=
  if leftRight then
    if direction = dirRight then -1 else if direction = dirLeft then 1 else 0
  else if direction = dirUp then 1 else if direction = dirDown then -1 else 0

theorem natAbs_drift (leftRight : Bool) (direction : BitVec 4) :
    (drift leftRight direction).natAbs ≤ 1 := by
  unfold drift
  split_ifs <;> decide

/-- The bullets drift with the scene. -/
theorem Bullet.heading_eq_drift (b : Bullet) (direction : BitVec 4) :
    b.heading direction = drift (!b.shootLeftRight) direction := by
  unfold heading drift
  cases b.shootLeftRight <;> rfl

/-- A coordinate wraps modulo 1024. -/
def Wraps (p q : BitVec 10) : Prop := p = 1023 ∧ q = 0 ∨ p = 0 ∧ q = 1023

instance (p q : BitVec 10) : Decidable (Wraps p q) := by
  unfold Wraps; infer_instance

theorem toNat_add_one_of_not_wraps {p : BitVec 10} (h : ¬ Wraps p (p + 1)) :
    ((p + 1).toNat : Int) = p.toNat + 1 := by
  have hone : (1 : BitVec 10).toNat = 1 := rfl
  have hlt := p.isLt
  have hne : p.toNat ≠ 1023 := by
    intro hp
    obtain rfl : p = 1023 := BitVec.toNat_inj.1 hp
    exact h (.inl ⟨rfl, rfl⟩)
  rw [BitVec.toNat_add, hone]
  omega

theorem toNat_sub_one_of_not_wraps {p : BitVec 10} (h : ¬ Wraps p (p - 1)) :
    ((p - 1).toNat : Int) = p.toNat - 1 := by
  have hone : (1 : BitVec 10).toNat = 1 := rfl
  have hlt := p.isLt
  have hne : p.toNat ≠ 0 := by
    intro hp
    obtain rfl : p = 0 := BitVec.toNat_inj.1 hp
    exact h (.inr ⟨rfl, rfl⟩)
  rw [BitVec.toNat_sub, hone]
  omega

namespace Corner

/-- The centre of a base keeps clear of the wrap in a tick. -/
def NoWrap (c c' : Corner) : Prop :=
  ¬ Wraps c.centerX c'.centerX ∧ ¬ Wraps c.centerY c'.centerY

instance (c c' : Corner) : Decidable (c.NoWrap c') := by
  unfold NoWrap; infer_instance

theorem scroll_eq (home c : Corner) (direction : BitVec 4) (collided : Bool) :
    home.scroll direction collided c = home.scroll direction false c := by
  cases collided <;> rfl

/-- Away from the wrap the centre moves with the scene. -/
theorem onAxis_scroll (home c : Corner) {direction : BitVec 4} (h : IsStep direction)
    (collided : Bool) (hwrap : c.NoWrap (home.scroll direction collided c)) (leftRight : Bool) :
    onAxis leftRight (home.scroll direction collided c).centerX
        (home.scroll direction collided c).centerY =
      onAxis leftRight c.centerX c.centerY + drift leftRight direction := by
  rw [scroll_eq] at hwrap ⊢
  obtain ⟨hx, hy⟩ := hwrap
  have hadd (a b : BitVec 10) : a + 1 + b = a + b + 1 := by
    rw [BitVec.add_assoc, BitVec.add_comm 1, BitVec.add_assoc]
  have hsub (a b : BitVec 10) : a - 1 + b = a + b - 1 := by
    rw [BitVec.sub_eq_add_neg, BitVec.add_assoc, BitVec.add_comm (-1), ← BitVec.add_assoc,
      ← BitVec.sub_eq_add_neg]
  rcases h with rfl | rfl | rfl | rfl
  · have hcenter : (home.scroll dirUp false c).centerY = c.centerY + 1 := hadd c.tlCornerY 36
    rw [hcenter] at hy ⊢
    cases leftRight
    · exact toNat_add_one_of_not_wraps hy
    · exact (Int.add_zero _).symm
  · have hcenter : (home.scroll dirDown false c).centerY = c.centerY - 1 := hsub c.tlCornerY 36
    rw [hcenter] at hy ⊢
    cases leftRight
    · exact toNat_sub_one_of_not_wraps hy
    · exact (Int.add_zero _).symm
  · have hcenter : (home.scroll dirRight false c).centerX = c.centerX - 1 := hsub c.tlCornerX 32
    rw [hcenter] at hx ⊢
    cases leftRight
    · exact (Int.add_zero _).symm
    · exact toNat_sub_one_of_not_wraps hx
  · have hcenter : (home.scroll dirLeft false c).centerX = c.centerX + 1 := hadd c.tlCornerX 32
    rw [hcenter] at hx ⊢
    cases leftRight
    · exact (Int.add_zero _).symm
    · exact toNat_add_one_of_not_wraps hx

end Corner

/-! ## Where a shot is -/

/-- The sign of the direction in which a bullet of the pair flies. -/
def Twin.sign : Twin → Int
  | .first => 1
  | .second => -1

theorem Bullet.Shows.onAxis_eq {b : Bullet} {t : Shot} (h : b.Shows t) (twin : Twin) :
    onAxis b.shootLeftRight (b.xPos twin) (b.yPos twin) =
        onAxis b.shootLeftRight shipCenterX shipCenterY + twin.sign * t.along ∧
      onAxis (!b.shootLeftRight) (b.xPos twin) (b.yPos twin) =
        onAxis (!b.shootLeftRight) shipCenterX shipCenterY + t.across := by
  have hcx : shipCenterX.toNat = 320 := rfl
  have hcy : shipCenterY.toNat = 240 := rfl
  cases hmode : b.shootLeftRight with
  | true =>
    obtain ⟨-, -, -, -, hx1, hx2, hy1, hy2⟩ := h.leftRight hmode
    cases twin <;>
      simp only [onAxis, xPos, yPos, Twin.sign, Bool.not_true, Bool.false_eq_true, if_true,
        if_false, hy2] <;> omega
  | false =>
    obtain ⟨-, -, -, -, hy1, hy2, hx1, hx2⟩ := h.upDown hmode
    cases twin <;>
      simp only [onAxis, xPos, yPos, Twin.sign, Bool.not_false, Bool.false_eq_true, if_true,
        if_false, hx2] <;> omega

theorem Bullet.Shows.inLine {b : Bullet} {t : Shot} (h : b.Shows t) : b.InLine := by
  by_cases hmode : b.shootLeftRight = true
  · exact .inr (h.leftRight hmode).y2.symm
  · exact .inl (h.upDown (by simpa using hmode)).x2.symm

/-- A shot in flight is away from the edges of the screen. -/
theorem Bullet.InBounds.inside {b : Bullet} (h : b.InBounds) (twin : Twin) :
    10 ≤ (b.xPos twin).toNat ∧ 10 ≤ (b.yPos twin).toNat := by
  have hbeside : b.Beside 118 59 ∨ b.Beside 59 118 := by
    by_cases hmode : b.shootLeftRight = true
    · exact .inl (h.leftRight hmode)
    · exact .inr (h.upDown (by simpa using hmode))
  have hcx : shipCenterX.toNat = 320 := rfl
  have hcy : shipCenterY.toNat = 240 := rfl
  unfold Beside Within at hbeside
  cases twin <;> simp only [xPos, yPos] <;> omega

/-! ## The gun in this machine -/

def Shooting.gun (s : Shooting) : Gun := ⟨s.shoot, s.spaceshipBullets⟩

def ShootingTick.gun (e : ShootingTick) : Gun.Tick := ⟨e.keycode, e.direction⟩

theorem gun_step (s : Shooting) (e : ShootingTick) : (s.step e).gun = s.gun.step e.gun := rfl

theorem corner_step (s : Shooting) (e : ShootingTick) (base : Base) :
    (s.step e).corner base = base.home.scroll e.direction e.collided (s.corner base) := by
  cases base <;> rfl

theorem enemyHit_step (s : Shooting) (e : ShootingTick) (base : Base) :
    (s.step e).enemyHit base = userBulletCollision (s.corner base) s.spaceshipBullets := by
  cases base <;> rfl

/-! ## One tick of a flight -/

/-- The drift of a shot on a constant heading is one frame behind its count. -/
def Shot.Steady (heading : Int) (t : Shot) : Prop := t.across = heading * t.turned - heading

theorem Shot.steady_fly {heading : Int} (h : heading.natAbs ≤ 1) (t : Shot) :
    (t.fly heading).Steady heading := by
  have hsq : heading * (heading.natAbs : Int) = heading := by
    have hside : heading = 0 ∨ heading = 1 ∨ heading = -1 := by omega
    rcases hside with rfl | rfl | rfl <;> rfl
  show heading * (t.turned : Int) = heading * ((t.turned + heading.natAbs : Nat) : Int) - heading
  rw [Int.natCast_add, Int.mul_add, hsq, Int.add_sub_cancel]

namespace Shooting

/-- The gap along the axis, as the shot tells it. -/
theorem alongGap_eq {s : Shooting} {t : Shot} {leftRight : Bool} (h : s.gun.Flies t leftRight)
    (base : Base) (twin : Twin) :
    s.alongGap base twin =
      onAxis leftRight (s.corner base).centerX (s.corner base).centerY -
        (onAxis leftRight Bullet.shipCenterX Bullet.shipCenterY + twin.sign * t.along) := by
  obtain ⟨-, hshows, -, rfl⟩ := h
  exact congrArg (_ - ·) (Bullet.Shows.onAxis_eq hshows twin).1

theorem acrossGap_eq {s : Shooting} {t : Shot} {leftRight : Bool} (h : s.gun.Flies t leftRight)
    (base : Base) (twin : Twin) :
    s.acrossGap base twin =
      onAxis (!leftRight) (s.corner base).centerX (s.corner base).centerY -
        (onAxis (!leftRight) Bullet.shipCenterX Bullet.shipCenterY + t.across) := by
  obtain ⟨-, hshows, -, rfl⟩ := h
  exact congrArg (_ - ·) (Bullet.Shows.onAxis_eq hshows twin).2

theorem flies_step {s : Shooting} {t : Shot} {leftRight : Bool} (h : s.gun.Flies t leftRight)
    (ht : t.traveled < 120) (e : ShootingTick) :
    (s.step e).gun.Flies (t.fly (drift (!leftRight) e.direction)) leftRight := by
  have hnext := h.next ht e.gun
  rw [Bullet.heading_eq_drift, h.mode] at hnext
  exact hnext

section Tick

variable {s : Shooting} {t : Shot} {leftRight : Bool} {e : ShootingTick} {base : Base}

/-- Bullet and base pass each other by three pixels at most. -/
theorem alongGap_step (h : s.gun.Flies t leftRight) (ht : t.traveled < 120)
    (hd : IsStep e.direction) (hwrap : (s.corner base).NoWrap ((s.step e).corner base))
    (twin : Twin) : ((s.step e).alongGap base twin - s.alongGap base twin).natAbs ≤ 3 := by
  rw [alongGap_eq (flies_step h ht e), alongGap_eq h]
  rw [corner_step] at hwrap ⊢
  rw [Corner.onAxis_scroll base.home (s.corner base) hd e.collided hwrap]
  have hdrift := natAbs_drift leftRight e.direction
  have halong := h.sound.along
  simp only [Shot.fly]
  cases twin <;> simp only [Twin.sign] <;> omega

/-- A steady shot drifts with the scene. -/
theorem acrossGap_step (h : s.gun.Flies t leftRight) (ht : t.traveled < 120)
    (hd : IsStep e.direction) (hwrap : (s.corner base).NoWrap ((s.step e).corner base))
    (hsteady : t.Steady (drift (!leftRight) e.direction)) (twin : Twin) :
    (s.step e).acrossGap base twin = s.acrossGap base twin := by
  rw [acrossGap_eq (flies_step h ht e), acrossGap_eq h, hsteady]
  rw [corner_step] at hwrap ⊢
  rw [Corner.onAxis_scroll base.home (s.corner base) hd e.collided hwrap]
  simp only [Shot.fly]
  omega

/-- Without a step the bases are at home, and clear of the shot. -/
theorem acrossGap_of_not_isStep (h : s.gun.Flies t leftRight) (ht : t.traveled < 120)
    (hd : ¬ IsStep e.direction) (twin : Twin) :
    5 < ((s.step e).acrossGap base twin).natAbs := by
  have hhome : (s.step e).corner base = base.home := by
    rw [corner_step, Corner.scroll_eq, Corner.scroll_of_not_isStep hd]
  have hdrift : drift (!leftRight) e.direction = 0 := by
    simp only [IsStep, not_or] at hd
    simp [drift, hd]
  rw [acrossGap_eq (flies_step h ht e), hhome, hdrift, Shot.fly, Int.zero_mul]
  show 5 < (_ - (_ + (0 : Int))).natAbs
  cases leftRight <;> cases base <;> decide

end Tick

/-- A bullet within five pixels of the centre in both axes hits. -/
theorem hit_of_gap {s : Shooting} {t : Shot} {leftRight : Bool} (h : s.gun.Flies t leftRight)
    {base : Base} {twin : Twin} (halong : (s.alongGap base twin).natAbs ≤ 5)
    (hacross : (s.acrossGap base twin).natAbs ≤ 5) :
    userBulletCollision (s.corner base) s.spaceshipBullets = true := by
  have hshows : s.spaceshipBullets.Shows t := h.shows
  obtain ⟨hx, hy⟩ := (hshows.inBounds h.sound).inside twin
  have hnear : (s.corner base).Near (s.spaceshipBullets.xPos twin)
      (s.spaceshipBullets.yPos twin) := by
    unfold alongGap acrossGap onAxis at *
    unfold Corner.Near
    cases hmode : s.spaceshipBullets.shootLeftRight <;>
      simp only [hmode, Bool.not_true, Bool.not_false, Bool.false_eq_true, if_true, if_false]
        at halong hacross <;> omega
  rw [userBulletCollision_iff (s.corner base) hshows.inLine]
  cases twin with
  | first => exact .inl hnear
  | second => exact .inr hnear

/-! ## A whole flight -/

section Flight

variable {s : Shooting} {leftRight : Bool} {flight : Nat → ShootingTick} {direction : BitVec 4}
  {base : Base} {twin : Twin} {i j : Nat}

/-- Along a flight on a constant heading the shot goes on, and is steady from the first tick on. -/
theorem flies_trace (h : s.gun.Flies Shot.fired leftRight)
    (hd : ∀ k < 60, (flight k).direction = direction) (k : Nat) (hk : k ≤ 60) :
    ∃ t, (trace step s flight k).gun.Flies t leftRight ∧ t.traveled = 2 * k ∧
      (0 < k → t.Steady (drift (!leftRight) direction)) := by
  induction k with
  | zero => exact ⟨Shot.fired, h, rfl, fun h => absurd h (Nat.lt_irrefl 0)⟩
  | succ k ih =>
    obtain ⟨t, ht, htraveled, -⟩ := ih (by omega)
    have hnext := flies_step ht (by omega) (flight k)
    rw [hd k (by omega)] at hnext
    refine ⟨_, hnext, ?_, fun _ => Shot.steady_fly (natAbs_drift _ _) t⟩
    simp only [Shot.fly]
    omega

/-- A base level with the shot has not been sent home. -/
theorem isStep_of_level (h : s.gun.Flies Shot.fired leftRight)
    (hd : ∀ k < 60, (flight k).direction = direction) (hij : i < j) (hj : j ≤ 60)
    (hlevel : ((trace step s flight j).acrossGap base twin).natAbs ≤ 5) : IsStep direction := by
  by_contra hstep
  cases j with
  | zero => omega
  | succ k =>
    obtain ⟨t, ht, htraveled, -⟩ := flies_trace h hd k (by omega)
    rw [← hd k (by omega)] at hstep
    rw [trace_succ] at hlevel
    exact absurd hlevel (Nat.not_le_of_lt (acrossGap_of_not_isStep ht (by omega) hstep twin))

/-- Level with the shot at the end, it has been so since the first tick. -/
theorem level_trace (h : s.gun.Flies Shot.fired leftRight)
    (hd : ∀ k < 60, (flight k).direction = direction) (hstep : IsStep direction) (hj : j ≤ 60)
    (hwrap : ∀ k < j, i ≤ k → ((trace step s flight k).corner base).NoWrap
      ((trace step s flight (k + 1)).corner base))
    (hlevel : ((trace step s flight j).acrossGap base twin).natAbs ≤ 5) {k : Nat} (hik : i < k)
    (hkj : k ≤ j) : ((trace step s flight k).acrossGap base twin).natAbs ≤ 5 := by
  induction hkj using Nat.decreasingInduction with
  | self => exact hlevel
  | of_succ k hkj ih =>
    obtain ⟨t, ht, htraveled, hsteady⟩ := flies_trace h hd k (by omega)
    have hk := hd k (by omega)
    rw [← hk] at hsteady hstep
    rw [← acrossGap_step ht (by omega) hstep (hwrap k hkj (by omega)) (hsteady (by omega)) twin]
    exact ih (by omega)

/-- Bullet and base are close along the axis at some moment before they have passed. -/
theorem meet_trace (h : s.gun.Flies Shot.fired leftRight)
    (hd : ∀ k < 60, (flight k).direction = direction) (hstep : IsStep direction) (hij : i < j)
    (hj : j ≤ 60)
    (hwrap : ∀ k < j, i ≤ k → ((trace step s flight k).corner base).NoWrap
      ((trace step s flight (k + 1)).corner base))
    (hpast : 5 < (trace step s flight i).alongGap base twin ∧
        (trace step s flight j).alongGap base twin < -5 ∨
      (trace step s flight i).alongGap base twin < -5 ∧
        5 < (trace step s flight j).alongGap base twin) :
    ∃ k, i < k ∧ k < j ∧ ((trace step s flight k).alongGap base twin).natAbs ≤ 5 := by
  have hclose (k : Nat) (hik : i ≤ k) (hkj : k < j) :
      ((trace step s flight (k + 1)).alongGap base twin -
        (trace step s flight k).alongGap base twin).natAbs ≤ 3 := by
    obtain ⟨t, ht, htraveled, -⟩ := flies_trace h hd k (by omega)
    rw [← hd k (by omega)] at hstep
    exact alongGap_step ht (by omega) hstep (hwrap k hkj hik) twin
  rcases hpast with ⟨hi, hj⟩ | ⟨hi, hj⟩
  · obtain ⟨k, hik, hkj, hlo, hhi⟩ := exists_within_of_crossing
      (f := fun k => (trace step s flight k).alongGap base twin) (r := 5) (w := 3) (by decide) hij
      (fun k hik hkj => by have := hclose k hik hkj; omega) hi hj
    exact ⟨k, hik, hkj, by omega⟩
  · obtain ⟨k, hik, hkj, hlo, hhi⟩ := exists_within_of_crossing
      (f := fun k => -(trace step s flight k).alongGap base twin) (r := 5) (w := 3) (by decide) hij
      (fun k hik hkj => by have := hclose k hik hkj; omega) (by omega) (by omega)
    exact ⟨k, hik, hkj, by omega⟩

end Flight

/-- The state before the `k`-th tick of the flight that follows the tick `e` of a run. -/
def after (es : List ShootingTick) (e : ShootingTick) (flight : Nat → ShootingTick) (k : Nat) :
    Shooting :=
  trace step ((run step powerUp es).step e) flight k

end Shooting

/-- **No tunnelling.** Let `e` be the tick that fires a shot last, and let the ship keep one
direction for the rest of the flight. If a bullet is more than five pixels on one side of a base
before the `i`-th tick of the flight and on the other before the `j`-th, level with it there, and
the base does not wrap in between, then a tick in between has set the hit register of the base. -/
theorem no_tunnel (es : List ShootingTick) (e : ShootingTick) (flight : Nat → ShootingTick)
    (direction : BitVec 4) (base : Base) (twin : Twin) (i j : Nat)
    (hlast : (run Shooting.step Shooting.powerUp es).gun.LastFiring e.gun)
    (hd : ∀ k < 60, (flight k).direction = direction) (hij : i < j) (hj : j ≤ 60)
    (hwrap : ∀ k < j, i ≤ k → ((Shooting.after es e flight k).corner base).NoWrap
      ((Shooting.after es e flight (k + 1)).corner base))
    (hlevel : ((Shooting.after es e flight j).acrossGap base twin).natAbs ≤ 5)
    (hpast : 5 < (Shooting.after es e flight i).alongGap base twin ∧
        (Shooting.after es e flight j).alongGap base twin < -5 ∨
      (Shooting.after es e flight i).alongGap base twin < -5 ∧
        5 < (Shooting.after es e flight j).alongGap base twin) :
    ∃ k, i < k ∧ k < j ∧ (Shooting.after es e flight (k + 1)).enemyHit base = true := by
  have hstart := hlast.flies
  rw [← gun_step] at hstart
  unfold Shooting.after at hwrap hlevel hpast ⊢
  have hstep := Shooting.isStep_of_level hstart hd hij hj hlevel
  obtain ⟨k, hik, hkj, halong⟩ := Shooting.meet_trace hstart hd hstep hij hj hwrap hpast
  obtain ⟨t, ht, -, -⟩ := Shooting.flies_trace hstart hd k (by omega)
  refine ⟨k, hik, hkj, ?_⟩
  rw [trace_succ, enemyHit_step]
  exact Shooting.hit_of_gap ht halong
    (Shooting.level_trace hstart hd hstep hj hwrap hlevel hik (Nat.le_of_lt hkj))

/-- Level with base one, the ship turns to the left and fires; its second bullet passes the base
between the 27th and the 32nd tick of the flight. -/
theorem no_tunnel_leftwards :
    let es := List.replicate 101 ⟨0x1A, dirUp, false⟩ ++ List.replicate 2 ⟨0x2C, dirUp, false⟩
    let left : ShootingTick := ⟨0x04, dirLeft, false⟩
    ∃ k, 27 < k ∧ k < 32 ∧ (Shooting.after es left (fun _ => left) (k + 1)).enemyHit .one = true :=
  no_tunnel _ ⟨0x04, dirLeft, false⟩ _ dirLeft .one .second 27 32
    ⟨by decide +kernel, by decide +kernel⟩ (fun _ _ => rfl) (by decide) (by decide)
    (by decide +kernel) (by decide +kernel) (by decide +kernel)

end Bosconian
