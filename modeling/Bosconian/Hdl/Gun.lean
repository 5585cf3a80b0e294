import Bosconian.Hdl.Flight

/-!
# The gun: the `shoot` register and `bullet`

The two registers shake hands with a lag of one tick: `shoot` is still up in the tick after the
shot has come into being, so that every shot starts twice. The second start is its last.

* `gun_sound` — from then on nothing restarts a shot, and its registers never wrap.
* `shot_ends` — it exists for 60 ticks more, and is over with the 61st.
-/

namespace Bosconian

open EventMachine

/-- The registers of the gun. -/
structure Gun where
  shoot : Bool
  spaceshipBullets : Bullet
deriving DecidableEq, Repr

namespace Gun

/-- What a frame tick samples. -/
structure Tick where
  keycode : BitVec 8
  direction : BitVec 4
deriving DecidableEq, Repr

def powerUp : Gun := ⟨false, Bullet.powerUp⟩

/-- One frame. -/
def step (s : Gun) (e : Tick) : Gun where
  shoot := DisplayGame.shootNext e.keycode s.spaceshipBullets.exists_ s.shoot
  spaceshipBullets := s.spaceshipBullets.tick s.shoot e.direction

theorem shoot_step_of_exists {s : Gun} (h : s.spaceshipBullets.exists_ = true) (e : Tick) :
    (s.step e).shoot = false := by
  simp [step, DisplayGame.shootNext, h]

/-- The tick is the last one to fire a shot: `shoot` is up before it and down after it. -/
def LastFiring (s : Gun) (e : Tick) : Prop := s.shoot = true ∧ (s.step e).shoot = false

/-! ## The invariant -/

/-- What holds in every state of the gun: the bullet is as its shot, and a shot that has left the
ship finds `shoot` down. -/
structure Sound (s : Gun) : Prop where
  bullet : s.spaceshipBullets.Sound
  held : s.spaceshipBullets.bulletDistanceTraveled ≠ 0 → s.shoot = false

theorem sound_powerUp : powerUp.Sound := ⟨Bullet.sound_powerUp, fun _ => rfl⟩

theorem sound_step (s : Gun) (e : Tick) (h : s.Sound) : (s.step e).Sound := by
  refine ⟨Bullet.sound_step s.spaceshipBullets ⟨s.shoot, e.direction⟩ h.bullet, ?_⟩
  intro hd
  cases hexists : s.spaceshipBullets.exists_ with
  | true => exact shoot_step_of_exists hexists e
  | false =>
    -- with no shot in the air the distance stays cleared, fired or not
    refine absurd ?_ hd
    show (s.spaceshipBullets.tick s.shoot e.direction).bulletDistanceTraveled = 0
    cases s.shoot with
    | true => rfl
    | false =>
      rw [Bullet.tick_idle hexists]
      exact h.bullet.idle hexists

theorem sound_run (es : List Tick) : (run step powerUp es).Sound :=
  run_invariant sound_step sound_powerUp es

end Gun

/-! ## The bounds -/

namespace Bullet

/-- The offset along the axis of flight. -/
def alongOffset (b : Bullet) : BitVec 7 := if b.shootLeftRight then b.xOffset else b.yOffset

/-- `p` is within `r` pixels of `c`. -/
def Within (r : Nat) (c p : BitVec 10) : Prop := p.toNat ≤ c.toNat + r ∧ c.toNat ≤ p.toNat + r

/-- Both bullets are within `r` pixels of the ship in one axis and `q` pixels in the other. -/
def Beside (b : Bullet) (r q : Nat) : Prop :=
  (Within r shipCenterX b.xPosBullet1 ∧ Within r shipCenterX b.xPosBullet2) ∧
    Within q shipCenterY b.yPosBullet1 ∧ Within q shipCenterY b.yPosBullet2

/-- No addition of the next tick carries out of its register, and no subtraction borrows. -/
structure NoWrap (b : Bullet) : Prop where
  distance : b.bulletDistanceTraveled.toNat + 2 < 2 ^ 7
  xOffset : b.xOffset.toNat + 2 < 2 ^ 7
  yOffset : b.yOffset.toNat + 2 < 2 ^ 7
  changeX : b.changeX.toNat + 1 < 2 ^ 7
  changeY : b.changeY.toNat + 1 < 2 ^ 7
  right : shipCenterX.toNat + max b.xOffset.toNat b.changeX.toNat < 2 ^ 10
  left : max b.xOffset.toNat b.changeX.toNat ≤ shipCenterX.toNat
  down : shipCenterY.toNat + max b.yOffset.toNat b.changeY.toNat < 2 ^ 10
  up : max b.yOffset.toNat b.changeY.toNat ≤ shipCenterY.toNat

/-- What the registers of a shot in flight keep to. -/
structure InBounds (b : Bullet) : Prop where
  along : b.alongOffset = b.bulletDistanceTraveled
  changeX : 2 * b.changeX.toNat ≤ b.bulletDistanceTraveled.toNat
  changeY : 2 * b.changeY.toNat ≤ b.bulletDistanceTraveled.toNat
  noWrap : b.NoWrap
  leftRight : b.shootLeftRight = true → b.Beside 118 59
  upDown : b.shootLeftRight = false → b.Beside 59 118

theorem ShowsLeftRight.beside {b : Bullet} {s : Shot} (h : b.ShowsLeftRight s) (hs : s.Sound) :
    b.Beside 118 59 := by
  obtain ⟨-, -, -, -, hx1, hx2, hy1, hy2⟩ := h
  obtain ⟨-, hle, halong, hturned, hacross⟩ := hs
  have hcx : shipCenterX.toNat = 320 := rfl
  have hcy : shipCenterY.toNat = 240 := rfl
  rw [Beside, hy2]
  unfold Within
  omega

theorem ShowsUpDown.beside {b : Bullet} {s : Shot} (h : b.ShowsUpDown s) (hs : s.Sound) :
    b.Beside 59 118 := by
  obtain ⟨-, -, -, -, hy1, hy2, hx1, hx2⟩ := h
  obtain ⟨-, hle, halong, hturned, hacross⟩ := hs
  have hcx : shipCenterX.toNat = 320 := rfl
  have hcy : shipCenterY.toNat = 240 := rfl
  rw [Beside, hx2]
  unfold Within
  omega

/-- The registers that the mode does not use are clear. -/
theorem Shows.noWrap {b : Bullet} {s : Shot} (h : b.Shows s) (hs : s.Sound) : b.NoWrap := by
  have hle := hs.le
  have hturned := hs.turned
  have hdist := h.traveled
  have hcx : shipCenterX.toNat = 320 := rfl
  have hcy : shipCenterY.toNat = 240 := rfl
  have hzero : (0 : BitVec 7).toNat = 0 := rfl
  by_cases hmode : b.shootLeftRight = true
  · obtain ⟨hoff, hcount, hy, hx, -, -, -, -⟩ := h.leftRight hmode
    have hy₀ := congrArg BitVec.toNat hy
    have hx₀ := congrArg BitVec.toNat hx
    refine ⟨?_, ?_, ?_, ?_, ?_, ?_, ?_, ?_, ?_⟩ <;> omega
  · obtain ⟨hoff, hcount, hx, hy, -, -, -, -⟩ := h.upDown (by simpa using hmode)
    have hy₀ := congrArg BitVec.toNat hy
    have hx₀ := congrArg BitVec.toNat hx
    refine ⟨?_, ?_, ?_, ?_, ?_, ?_, ?_, ?_, ?_⟩ <;> omega

theorem Shows.inBounds {b : Bullet} {s : Shot} (h : b.Shows s) (hs : s.Sound) : b.InBounds := by
  have hturned := hs.turned
  have hdist := h.traveled
  have hzero : (0 : BitVec 7).toNat = 0 := rfl
  refine ⟨?_, ?_, ?_, h.noWrap hs, fun hm => (h.leftRight hm).beside hs,
    fun hm => (h.upDown hm).beside hs⟩
  · unfold alongOffset
    split_ifs with hmode
    · exact BitVec.toNat_inj.1 ((h.leftRight hmode).offset.trans hdist.symm)
    · exact BitVec.toNat_inj.1 ((h.upDown (by simpa using hmode)).offset.trans hdist.symm)
  · by_cases hmode : b.shootLeftRight = true
    · rw [(h.leftRight hmode).changeX]
      omega
    · rw [(h.upDown (by simpa using hmode)).turned]
      omega
  · by_cases hmode : b.shootLeftRight = true
    · rw [(h.leftRight hmode).turned]
      omega
    · rw [(h.upDown (by simpa using hmode)).changeY]
      omega

end Bullet

namespace Gun

/-- The bounds of a shot in every state, and what keeps it from being restarted. -/
structure InBounds (s : Gun) : Prop where
  even : s.spaceshipBullets.bulletDistanceTraveled.toNat % 2 = 0
  le : s.spaceshipBullets.bulletDistanceTraveled.toNat ≤ 120
  idle : s.spaceshipBullets.exists_ = false → s.spaceshipBullets.bulletDistanceTraveled.toNat = 0
  held : 0 < s.spaceshipBullets.bulletDistanceTraveled.toNat → s.shoot = false
  mode : 0 < s.spaceshipBullets.bulletDistanceTraveled.toNat → ∀ e,
    (s.step e).spaceshipBullets.shootLeftRight = s.spaceshipBullets.shootLeftRight
  flying : s.spaceshipBullets.exists_ = true → s.spaceshipBullets.InBounds

/-- While `shoot` is down, no tick changes the mode of the shot. -/
theorem shootLeftRight_step {s : Gun} (h : s.shoot = false) (e : Tick) :
    (s.step e).spaceshipBullets.shootLeftRight = s.spaceshipBullets.shootLeftRight := by
  show (s.spaceshipBullets.tick s.shoot e.direction).shootLeftRight = _
  unfold Bullet.tick
  split_ifs with hshoot
  · exact absurd (h.symm.trans hshoot) (by decide)
  · rfl
  · exact (Bullet.flyLeftRight_frame e.direction s.spaceshipBullets).2.1
  · exact (Bullet.flyUpDown_frame e.direction s.spaceshipBullets).2.1
  · rfl

theorem Sound.inBounds {s : Gun} (h : s.Sound) : s.InBounds := by
  have hheld : 0 < s.spaceshipBullets.bulletDistanceTraveled.toNat → s.shoot = false := by
    intro hd
    apply h.held
    intro hzero
    rw [hzero] at hd
    exact absurd hd (by decide)
  by_cases hexists : s.spaceshipBullets.exists_ = true
  · obtain ⟨t, ht, hshows⟩ := h.bullet.flying hexists
    refine ⟨?_, ?_, ?_, hheld, fun hd => shootLeftRight_step (hheld hd),
      fun _ => hshows.inBounds ht⟩
    · rw [hshows.traveled]
      exact ht.even
    · rw [hshows.traveled]
      exact ht.le
    · intro hidle
      exact absurd (hidle.symm.trans hexists) (by decide)
  · have hzero := h.bullet.idle (by simpa using hexists)
    refine ⟨?_, ?_, ?_, hheld, fun hd => shootLeftRight_step (hheld hd), fun h => absurd h hexists⟩
    · rw [hzero]
      rfl
    · rw [hzero]
      decide
    · intro _
      rw [hzero]
      rfl

/-! ## The flight -/

/-- The tick that fires last finds the shot it fired before, and starts it once more. -/
theorem LastFiring.shows {s : Gun} {e : Tick} (h : s.LastFiring e) :
    (s.step e).spaceshipBullets.Shows Shot.fired := by
  show (s.spaceshipBullets.tick s.shoot e.direction).Shows Shot.fired
  rw [h.1]
  exact Bullet.shows_fire e.direction s.spaceshipBullets

/-- The shot shown by a gun after some ticks of a flight. -/
structure Flies (s : Gun) (t : Shot) (leftRight : Bool) : Prop where
  shoot : s.shoot = false
  shows : s.spaceshipBullets.Shows t
  sound : t.Sound
  mode : s.spaceshipBullets.shootLeftRight = leftRight

theorem LastFiring.flies {s : Gun} {e : Tick} (h : s.LastFiring e) :
    (s.step e).Flies Shot.fired (s.step e).spaceshipBullets.shootLeftRight :=
  ⟨h.2, h.shows, Shot.sound_fired, rfl⟩

theorem Flies.next {s : Gun} {t : Shot} {leftRight : Bool} (h : s.Flies t leftRight)
    (ht : t.traveled < 120) (e : Tick) :
    (s.step e).Flies (t.fly (s.spaceshipBullets.heading e.direction)) leftRight := by
  obtain ⟨hshoot, hshows, hsound, hmode⟩ := h
  have hnext : (s.step e).spaceshipBullets = s.spaceshipBullets.tick false e.direction := by
    rw [← hshoot]
    rfl
  obtain ⟨hfly, hkept⟩ := Bullet.shows_tick hshows hsound ht e.direction
  refine ⟨shoot_step_of_exists hshows.exists_ e, ?_, ?_, ?_⟩
  · rwa [hnext]
  · exact hsound.fly ht (Bullet.natAbs_heading s.spaceshipBullets e.direction)
  · rw [hnext, hkept, hmode]

/-- A flight goes on for as long as its distance allows. -/
theorem Flies.continues {s : Gun} {t : Shot} {leftRight : Bool} (h : s.Flies t leftRight)
    (es : List Tick) (hes : t.traveled + 2 * es.length ≤ 120) :
    ∃ t', (run step s es).Flies t' leftRight ∧ t'.traveled = t.traveled + 2 * es.length := by
  induction es generalizing s t with
  | nil => exact ⟨t, h, rfl⟩
  | cons e es ih =>
    rw [List.length_cons] at hes ⊢
    have hnext := h.next (by omega) e
    obtain ⟨t', ht', htraveled⟩ := ih hnext (by simp only [Shot.fly]; omega)
    refine ⟨t', ht', htraveled.trans ?_⟩
    simp only [Shot.fly]
    omega

/-- With its distance used up, the next tick ends it. -/
theorem Flies.expires {s : Gun} {t : Shot} {leftRight : Bool} (h : s.Flies t leftRight)
    (ht : 120 ≤ t.traveled) (e : Tick) : (s.step e).spaceshipBullets.exists_ = false := by
  show (s.spaceshipBullets.tick s.shoot e.direction).exists_ = false
  rw [h.shoot, Bullet.tick_expire h.shows.exists_ (by rwa [h.shows.traveled])]
  rfl

/-- The shot that the tick `e` fires last exists for the next 60 ticks, and is over with the
61st. -/
def EndsAfter (s : Gun) (e : Tick) : Prop :=
  ∀ ds : List Tick,
    (ds.length ≤ 60 → (run step s (e :: ds)).spaceshipBullets.exists_ = true) ∧
      (ds.length = 61 → (run step s (e :: ds)).spaceshipBullets.exists_ = false)

theorem LastFiring.endsAfter {s : Gun} {e : Tick} (h : s.LastFiring e) : s.EndsAfter e := by
  intro ds
  refine ⟨fun hds => ?_, fun hds => ?_⟩
  · obtain ⟨t, ht, -⟩ := h.flies.continues ds (by simp only [Shot.fired]; omega)
    exact ht.shows.exists_
  · rcases List.eq_nil_or_concat' ds with rfl | ⟨ds, d, rfl⟩
    · exact absurd hds (by decide)
    rw [List.length_append, List.length_singleton] at hds
    obtain ⟨t, ht, htraveled⟩ := h.flies.continues ds (by simp only [Shot.fired]; omega)
    have hlast : t.traveled = 120 := by
      simp only [Shot.fired] at htraveled
      omega
    rw [run_cons, run_concat]
    exact ht.expires (by omega) d

end Gun

/-- **Shots are never restarted and never overflow.** In every state of the gun the registers of
a shot are within their bounds, and a tick that fires for the last time starts a flight of 61
ticks. -/
theorem gun_sound (es : List Gun.Tick) :
    (run Gun.step Gun.powerUp es).InBounds ∧
      ∀ e, (run Gun.step Gun.powerUp es).LastFiring e →
        (run Gun.step Gun.powerUp es).EndsAfter e :=
  ⟨(Gun.sound_run es).inBounds, fun _ h => h.endsAfter⟩

end Bosconian
