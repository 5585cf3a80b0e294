import Bosconian.EventMachine
import Bosconian.Hdl.Bullets

/-!
# The shots of a base

`enemy_bullet` under any sequence of corners of its base. The direction register is written a
tick late and is empty before the first shot, which therefore stands still for one tick; it may
flip during a flight, and the base may be anywhere.

**Flights** (`Flying`). Where a shot is `n` ticks after it was fired from column `x₀`: it counts two
pixels a tick, but for the first, and is never further from `x₀` than it has counted.

Main result: `enemy_shots_bounded`.
-/

namespace Bosconian

open EventMachine Words

/-- The side of the ship that the base is on: `10` where the ship is to its left. -/
def Corner.aim (c : Corner) : BitVec 2 := if Bullet.shipCenterX ≤ c.centerX then 0b10 else 0b01

theorem Corner.aim_ne_zero (c : Corner) : c.aim ≠ 0 := by
  unfold aim
  split_ifs <;> decide

theorem Corner.aim_ne_both (c : Corner) : c.aim ≠ 0b11 := by
  unfold aim
  split_ifs <;> decide

namespace EnemyBullet

/-- One frame, on the corner the base has before it. -/
def step (s : EnemyBullet) (c : Corner) : EnemyBullet := s.tick c

/-- The tick fires a shot. -/
def Fires (s : EnemyBullet) (c : Corner) : Prop :=
  s.shootBullet = false ∧ (s.step c).shootBullet = true

/-! ## The firing test -/

/-- The test of the code makes its differences at 32 bits. A base too close to the edge for them
is too far from the ship as well. -/
theorem inRange_iff (c : Corner) :
    inRange c = true ↔
      ((c.centerX.toNat : Int) - 320).natAbs ≤ 100 ∧
        ((c.centerY.toNat : Int) - 240).natAbs ≤ 75 := by
  have h100 : (100 : BitVec 32).toNat = 100 := rfl
  have h75 : (75 : BitVec 32).toNat = 75 := rfl
  have hcx : Bullet.shipCenterX.toNat = 320 := rfl
  have hcy : Bullet.shipCenterY.toNat = 240 := rfl
  rw [inRange, Bool.and_eq_true, inWindow_iff (by decide) (by decide),
    inWindow_iff (by decide) (by decide), h100, h75, hcx, hcy]
  omega

/-! ## The phases -/

/-- The shot `n` ticks after it was fired from column `x₀`. -/
structure Flying (s : EnemyBullet) (x₀ : Nat) (n : Nat) : Prop where
  shoot : s.shootBullet = true
  even : s.bulletDistanceTraveled.toNat % 2 = 0
  le : s.bulletDistanceTraveled.toNat ≤ 100
  counted : 2 * n ≤ s.bulletDistanceTraveled.toNat + 2
  turned : 0 < n → s.shootLOrR ≠ 0
  near : s.enemyBulletX.toNat ≤ x₀ + s.bulletDistanceTraveled.toNat ∧
    x₀ ≤ s.enemyBulletX.toNat + s.bulletDistanceTraveled.toNat
  fired : 220 ≤ x₀ ∧ x₀ ≤ 420

/-- What holds in every state. -/
structure Sound (s : EnemyBullet) : Prop where
  shown : s.showBullet = s.shootBullet
  direction : s.shootLOrR ≠ 0b11
  idle : s.shootBullet = false → s.bulletDistanceTraveled = 0
  flying : s.shootBullet = true → ∃ x₀ n, s.Flying x₀ n

theorem sound_powerUp : powerUp.Sound :=
  ⟨rfl, by decide, fun _ => rfl, fun h => absurd h (by decide)⟩

/-- What a tick does without a shot: it fires one, or nothing. -/
theorem idle_cases {s : EnemyBullet} (h : s.shootBullet = false) (c : Corner) :
    inRange c = true ∧ s.step c = { s with
        shootBullet := true
        showBullet := true
        enemyBulletX := c.centerX
        enemyBulletY := c.centerY } ∨ s.step c = s := by
  rw [step, tick, if_pos h]
  split_ifs with hrange
  · exact .inl ⟨hrange, rfl⟩
  · exact .inr rfl

theorem Fires.cases {s : EnemyBullet} {c : Corner} (h : s.Fires c) :
    inRange c = true ∧ s.step c = { s with
        shootBullet := true
        showBullet := true
        enemyBulletX := c.centerX
        enemyBulletY := c.centerY } := by
  obtain ⟨hidle, hnext⟩ := h
  rcases idle_cases hidle c with hfire | hstay
  · exact hfire
  · rw [hstay, hidle] at hnext
    exact absurd hnext (by decide)

theorem Sound.flying_of_fires {s : EnemyBullet} (h : s.Sound) {c : Corner} (hfires : s.Fires c) :
    (s.step c).Flying c.centerX.toNat 0 := by
  obtain ⟨hrange, hstep⟩ := hfires.cases
  have hdist : s.bulletDistanceTraveled.toNat = 0 := by
    rw [h.idle hfires.1]
    rfl
  rw [inRange_iff] at hrange
  rw [hstep]
  exact {
    shoot := rfl
    even := by simp only [hdist]
    le := by simp only [hdist]; omega
    counted := by simp
    turned := fun h => absurd h (Nat.lt_irrefl 0)
    near := by simp
    fired := by omega }

/-! ## One tick of a flight -/

theorem toNat_distance {s : EnemyBullet} (h : s.bulletDistanceTraveled.toNat ≤ 100) :
    (s.bulletDistanceTraveled + 2).toNat = s.bulletDistanceTraveled.toNat + 2 := by
  have htwo : (2 : BitVec 8).toNat = 2 := rfl
  rw [BitVec.toNat_add, htwo]
  omega

/-- The column stays on the screen, so that neither step of it wraps. -/
theorem Flying.inside {s : EnemyBullet} {x₀ n : Nat} (h : s.Flying x₀ n) :
    120 ≤ s.enemyBulletX.toNat ∧ s.enemyBulletX.toNat ≤ 520 := by
  have hle := h.le
  have hnear := h.near
  have hfired := h.fired
  omega

theorem Flying.toNat_column {s : EnemyBullet} {x₀ n : Nat} (h : s.Flying x₀ n) :
    (s.enemyBulletX - 2).toNat + 2 = s.enemyBulletX.toNat ∧
      (s.enemyBulletX + 2).toNat = s.enemyBulletX.toNat + 2 := by
  have htwo : (2 : BitVec 10).toNat = 2 := rfl
  have hinside := h.inside
  rw [BitVec.toNat_sub, BitVec.toNat_add, htwo]
  omega

/-- What a tick does to a shot: it ends it, or moves it by the direction of the tick before. -/
theorem step_cases {s : EnemyBullet} (h : s.shootBullet = true) (c : Corner) :
    100 ≤ s.bulletDistanceTraveled.toNat ∧ (s.step c).shootBullet = false ∧
        (s.step c).showBullet = false ∧ (s.step c).bulletDistanceTraveled = 0 ∨
      s.bulletDistanceTraveled.toNat < 100 ∧ (s.step c).shootBullet = true ∧
        (s.step c).showBullet = s.showBullet ∧
        ((s.step c).bulletDistanceTraveled = s.bulletDistanceTraveled + 2 ∧
            ((s.step c).enemyBulletX = s.enemyBulletX - 2 ∨
              (s.step c).enemyBulletX = s.enemyBulletX + 2) ∨
          s.shootLOrR ≠ 0b10 ∧ s.shootLOrR ≠ 0b01 ∧
            (s.step c).bulletDistanceTraveled = s.bulletDistanceTraveled ∧
            (s.step c).enemyBulletX = s.enemyBulletX) := by
  rw [step, tick, if_neg (by simp [h])]
  generalize (if Bullet.shipCenterX ≤ c.centerX then 0b10#2 else 0b01#2) = d
  split_ifs with hover hL hR
  · exact .inl ⟨hover, rfl, rfl, rfl⟩
  · exact .inr ⟨Nat.lt_of_not_le hover, h, rfl, .inl ⟨rfl, .inl rfl⟩⟩
  · exact .inr ⟨Nat.lt_of_not_le hover, h, rfl, .inl ⟨rfl, .inr rfl⟩⟩
  · exact .inr ⟨Nat.lt_of_not_le hover, h, rfl, .inr ⟨hL, hR, rfl, rfl⟩⟩

/-- A tick in flight writes the side of the base to the direction, for the next one to read. -/
theorem shootLOrR_step {s : EnemyBullet} (h : s.shootBullet = true) (c : Corner) :
    (s.step c).shootLOrR = c.aim := by
  rw [step, tick, if_neg (by simp [h]), Corner.aim]
  split_ifs <;> rfl

theorem eq_zero_of_direction {d : BitVec 2} (hL : d ≠ 0b10) (hR : d ≠ 0b01) (h : d ≠ 0b11) :
    d = 0 := by
  decide +revert

/-- A tick that does not end a flight takes it one frame further. -/
theorem Flying.next {s : EnemyBullet} {x₀ n : Nat} (h : s.Flying x₀ n)
    (hdirection : s.shootLOrR ≠ 0b11) {c : Corner} (hnext : (s.step c).shootBullet = true) :
    (s.step c).Flying x₀ (n + 1) := by
  have hturned : 0 < n + 1 → (s.step c).shootLOrR ≠ 0 := by
    intro _
    rw [shootLOrR_step h.shoot]
    exact c.aim_ne_zero
  obtain ⟨hleft, hright⟩ := h.toNat_column
  have hdist := toNat_distance h.le
  obtain ⟨hshoot, heven, hle, hcounted, hmoved, hnear, hfired⟩ := h
  rcases step_cases hshoot c with ⟨-, hover, -⟩ | ⟨hlt, -, -, hmove⟩
  · exact absurd (hover.symm.trans hnext) (by decide)
  rcases hmove with ⟨hd, hx⟩ | ⟨hL, hR, hd, hx⟩
  · rw [← hd] at hdist
    rcases hx with hx | hx
    · rw [← hx] at hleft
      exact ⟨hnext, by omega, by omega, by omega, hturned, by omega, hfired⟩
    · rw [← hx] at hright
      exact ⟨hnext, by omega, by omega, by omega, hturned, by omega, hfired⟩
  · -- the direction is still empty, so the shot was fired by the last tick
    have hempty := eq_zero_of_direction hL hR hdirection
    have hn : n = 0 := Nat.eq_zero_of_not_pos fun hn => hmoved hn hempty
    rw [← hd] at heven hle hcounted hnear
    rw [← hx] at hnear
    exact ⟨hnext, heven, hle, by omega, hturned, hnear, hfired⟩

theorem sound_step (s : EnemyBullet) (c : Corner) (h : s.Sound) : (s.step c).Sound := by
  obtain ⟨hshown, hdirection, hidle, hflying⟩ := h
  by_cases hshoot : s.shootBullet = true
  · obtain ⟨x₀, n, hx₀⟩ := hflying hshoot
    have hdirection' : (s.step c).shootLOrR ≠ 0b11 := by
      rw [shootLOrR_step hshoot]
      exact c.aim_ne_both
    rcases step_cases hshoot c with ⟨-, hoff, hdark, hd⟩ | ⟨-, hon, hshow, -⟩
    · exact ⟨hdark.trans hoff.symm, hdirection', fun _ => hd,
        fun h => absurd (hoff.symm.trans h) (by decide)⟩
    · exact ⟨(hshow.trans hshown).trans (hshoot.trans hon.symm), hdirection',
        fun h => absurd (hon.symm.trans h) (by decide),
        fun h => ⟨x₀, n + 1, hx₀.next hdirection h⟩⟩
  · have hoff : s.shootBullet = false := by simpa using hshoot
    rcases idle_cases hoff c with ⟨hrange, hfire⟩ | hstay
    · have hon : (s.step c).shootBullet = true := by rw [hfire]
      refine ⟨?_, ?_, fun h => absurd (hon.symm.trans h) (by decide), fun _ => ?_⟩
      · rw [hfire]
      · rwa [hfire]
      · exact ⟨_, 0, Sound.flying_of_fires ⟨hshown, hdirection, hidle, hflying⟩ ⟨hoff, hon⟩⟩
    · rw [hstay]
      exact ⟨hshown, hdirection, hidle, hflying⟩

theorem sound_run (cs : List Corner) : (run step powerUp cs).Sound :=
  run_invariant sound_step sound_powerUp cs

/-! ## Whole flights -/

/-- As long as the shot is shown, the flight goes on. -/
theorem flying_run {s : EnemyBullet} (hs : s.Sound) {x₀ n : Nat} (h : s.Flying x₀ n)
    (ds : List Corner) (hshown : Always step (fun t => t.showBullet = true) s ds) :
    (run step s ds).Flying x₀ (n + ds.length) := by
  induction ds generalizing s n with
  | nil => exact h
  | cons d ds ih =>
    have hnext := sound_step s d hs
    obtain ⟨-, htail⟩ := always_cons.1 hshown
    have hon : (s.step d).shootBullet = true := hnext.shown.symm.trans htail.start
    have hend := ih hnext (h.next hs.direction hon) htail
    rwa [Nat.add_right_comm] at hend

/-- No flight lasts longer than 51 ticks. -/
theorem Flying.age_le {s : EnemyBullet} {x₀ n : Nat} (h : s.Flying x₀ n) : n ≤ 51 := by
  have hle := h.le
  have hcounted := h.counted
  omega

/-- The bounds of a shot in every state. For a shot that the next tick fires they speak of the
whole flight. -/
structure InBounds (s : EnemyBullet) : Prop where
  shown : s.showBullet = s.shootBullet
  even : s.bulletDistanceTraveled.toNat % 2 = 0
  le : s.bulletDistanceTraveled.toNat ≤ 100
  idle : s.shootBullet = false → s.bulletDistanceTraveled.toNat = 0
  inside : s.showBullet = true → 120 ≤ s.enemyBulletX.toNat ∧ s.enemyBulletX.toNat ≤ 520
  range : ∀ c, s.Fires c →
    ((c.centerX.toNat : Int) - 320).natAbs ≤ 100 ∧ ((c.centerY.toNat : Int) - 240).natAbs ≤ 75
  near : ∀ c ds, s.Fires c → Always step (fun t => t.showBullet = true) (s.step c) ds →
    (((run step (s.step c) ds).enemyBulletX.toNat : Int) - c.centerX.toNat).natAbs ≤ 100
  ends : ∀ c ds, s.Fires c → ds.length = 52 →
    ∃ ds', ds' <+: ds ∧ (run step (s.step c) ds').showBullet = false

theorem Sound.inBounds {s : EnemyBullet} (h : s.Sound) : s.InBounds := by
  have hflight (c : Corner) (ds : List Corner) (hfires : s.Fires c)
      (hshown : Always step (fun t => t.showBullet = true) (s.step c) ds) :
      (run step (s.step c) ds).Flying c.centerX.toNat ds.length := by
    have hend := flying_run (sound_step s c h) (h.flying_of_fires hfires) ds hshown
    rwa [Nat.zero_add] at hend
  have hcases : s.bulletDistanceTraveled.toNat = 0 ∧ s.shootBullet = false ∨
      ∃ x₀ n, s.Flying x₀ n := by
    by_cases hshoot : s.shootBullet = true
    · exact .inr (h.flying hshoot)
    · have hoff : s.shootBullet = false := by simpa using hshoot
      rw [h.idle hoff]
      exact .inl ⟨rfl, hoff⟩
  refine ⟨h.shown, ?_, ?_, ?_, ?_, ?_, ?_, ?_⟩
  · rcases hcases with ⟨hd, -⟩ | ⟨x₀, n, hx⟩
    · rw [hd]
    · exact hx.even
  · rcases hcases with ⟨hd, -⟩ | ⟨x₀, n, hx⟩
    · omega
    · exact hx.le
  · intro hoff
    rw [h.idle hoff]
    rfl
  · intro hshow
    obtain ⟨x₀, n, hx⟩ := h.flying (h.shown.symm.trans hshow)
    exact hx.inside
  · intro c hfires
    exact (inRange_iff c).1 hfires.cases.1
  · intro c ds hfires hshown
    have hend := hflight c ds hfires hshown
    have hle := hend.le
    have hnear := hend.near
    omega
  · intro c ds hfires hds
    by_contra hnever
    have hshown : Always step (fun t => t.showBullet = true) (s.step c) ds := by
      intro ds' hds'
      by_contra hoff
      exact hnever ⟨ds', hds', by simpa using hoff⟩
    have hage := (hflight c ds hfires hshown).age_le
    omega

end EnemyBullet

/-- **Shots of a base are bounded and end.** In every state `enemy_bullet` can reach, its registers
are within their bounds; a shot starts only close to the ship, stays within a hundred columns of
where it started, and is over 52 ticks later at the latest. -/
theorem enemy_shots_bounded (cs : List Corner) :
    (run EnemyBullet.step EnemyBullet.powerUp cs).InBounds :=
  (EnemyBullet.sound_run cs).inBounds

end Bosconian
