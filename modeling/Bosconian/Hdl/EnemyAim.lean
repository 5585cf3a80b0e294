import Bosconian.Hdl.EnemyShots

/-!
# Which way a shot of a base flies

The direction of a shot is a register that is written in flight, from the base as it is then, and
is read a tick later: the first step of a flight goes where the flight before it was going last,
and each one after it to the side of the ship the base was on a tick before. So the shot goes one
way, to where the ship was when it was fired, exactly when the register agrees at the start and the
base keeps to its side until the last step but one.

Main result: `fliesToward_iff`.
-/

namespace Bosconian

open EventMachine

namespace EnemyBullet

/-- The horizontal step that a tick makes. -/
def drift (s : EnemyBullet) (c : Corner) : Int :=
  ((s.step c).enemyBulletX.toNat : Int) - s.enemyBulletX.toNat

/-- A step to the ship as it is from the base at `c`, or none. -/
def Toward (c : Corner) (s : EnemyBullet) (d : Corner) : Prop :=
  s.drift d = 0 ∨ if 320 ≤ c.centerX.toNat then s.drift d < 0 else 0 < s.drift d

instance (c : Corner) (s : EnemyBullet) (d : Corner) : Decidable (Toward c s d) := by
  unfold Toward; infer_instance

/-- All steps of the flight fired by the tick at `c` go to where the ship was from there. -/
def FliesToward (s : EnemyBullet) (c : Corner) (ds : List Corner) : Prop :=
  EachStep step (Toward c) (s.step c) ds

instance (s : EnemyBullet) (c : Corner) (ds : List Corner) : Decidable (FliesToward s c ds) := by
  unfold FliesToward; infer_instance

/-- The shot is fired by the tick at `c`, and is in flight after each of the ticks `ds`. -/
structure Flight (s : EnemyBullet) (c : Corner) (ds : List Corner) : Prop where
  fires : s.Fires c
  shown : Always step (fun t => t.showBullet = true) (s.step c) ds

/-- The base moves by a pixel at most between one tick and the next. -/
def Gradual (cs : List Corner) : Prop :=
  cs.IsChain fun c d =>
    (d.tlCornerX = c.tlCornerX ∧
        (d.tlCornerY = c.tlCornerY ∨ d.tlCornerY = c.tlCornerY + 1 ∨
          d.tlCornerY = c.tlCornerY - 1)) ∨
      d.tlCornerY = c.tlCornerY ∧ (d.tlCornerX = c.tlCornerX + 1 ∨ d.tlCornerX = c.tlCornerX - 1)

instance (cs : List Corner) : Decidable (Gradual cs) := by
  unfold Gradual; infer_instance

/-! ## One step -/

theorem aim_eq_left_iff (c : Corner) : c.aim = 0b10 ↔ 320 ≤ c.centerX.toNat := by
  have hle : Bullet.shipCenterX ≤ c.centerX ↔ 320 ≤ c.centerX.toNat := BitVec.le_def
  rw [← hle]
  unfold Corner.aim
  split_ifs with h
  · exact iff_of_true rfl h
  · exact iff_of_false (by decide) h

theorem shootLOrR_of_fires {s : EnemyBullet} {c : Corner} (h : s.Fires c) :
    (s.step c).shootLOrR = s.shootLOrR := by
  rw [h.cases.2]

/-- What a tick that does not end the flight does with the direction. -/
theorem drift_eq {s : EnemyBullet} {x₀ n : Nat} (h : s.Flying x₀ n) {c : Corner}
    (hnext : (s.step c).shootBullet = true) :
    s.drift c = if s.shootLOrR = 0b10 then -2 else if s.shootLOrR = 0b01 then 2 else 0 := by
  obtain ⟨hleft, hright⟩ := h.toNat_column
  have hcolumn : (s.step c).enemyBulletX =
      if s.shootLOrR = 0b10 then s.enemyBulletX - 2
      else if s.shootLOrR = 0b01 then s.enemyBulletX + 2 else s.enemyBulletX := by
    revert hnext
    rw [step, tick, if_neg (by simp [h.shoot])]
    generalize (if Bullet.shipCenterX ≤ c.centerX then 0b10#2 else 0b01#2) = d
    by_cases hover : bulletRange ≤ s.bulletDistanceTraveled
    · rw [if_pos hover]
      rintro ⟨⟩
    · rw [if_neg hover]
      split_ifs <;> exact fun _ => rfl
  rw [drift, hcolumn]
  split_ifs <;> omega

/-- Such a tick goes to the ship exactly when the direction is that of the firing tick, or is still
empty. -/
theorem toward_iff {s : EnemyBullet} {x₀ n : Nat} (h : s.Flying x₀ n) (hs : s.Sound)
    (c : Corner) {d : Corner} (hnext : (s.step d).shootBullet = true) :
    Toward c s d ↔ s.shootLOrR = 0 ∨ s.shootLOrR = c.aim := by
  have hword : ∀ r a : BitVec 2, r ≠ 0b11 → a ≠ 0 → a ≠ 0b11 →
      ((if r = 0b10 then (-2 : Int) else if r = 0b01 then 2 else 0) = 0 ∨
          (if a = 0b10 then (if r = 0b10 then (-2 : Int) else if r = 0b01 then 2 else 0) < 0
            else 0 < (if r = 0b10 then (-2 : Int) else if r = 0b01 then 2 else 0)) ↔
        r = 0 ∨ r = a) := by decide
  rw [← hword _ _ hs.direction c.aim_ne_zero c.aim_ne_both, Toward, drift_eq h hnext]
  simp only [aim_eq_left_iff]

/-! ## A flight -/

/-- From any tick of a flight on, its steps go to the ship exactly when the first of them does and
the base stays on its side until the last but one. -/
theorem eachStep_toward_iff {s : EnemyBullet} (hs : s.Sound) {x₀ n : Nat} (h : s.Flying x₀ n)
    (c : Corner) {ds : List Corner} (hshown : Always step (fun t => t.showBullet = true) s ds) :
    EachStep step (Toward c) s ds ↔
      (ds ≠ [] → s.shootLOrR = 0 ∨ s.shootLOrR = c.aim) ∧ ∀ d ∈ ds.dropLast, d.aim = c.aim := by
  induction ds generalizing s n with
  | nil => simp [eachStep_nil]
  | cons d ds ih =>
    obtain ⟨-, htail⟩ := always_cons.1 hshown
    have hs' := sound_step s d hs
    have hon : (s.step d).shootBullet = true := hs'.shown.symm.trans htail.start
    have hrest := ih hs' (h.next hs.direction hon) htail
    rw [shootLOrR_step h.shoot, or_iff_right d.aim_ne_zero] at hrest
    rw [eachStep_cons, toward_iff h hs c hon, hrest]
    cases ds with
    | nil => simp
    | cons e ds => simp

/-- **A shot flies one way, toward the ship**, exactly when the direction that the firing tick finds
is empty or its own, and the base keeps to that side of the ship until the last step of the flight
but one. -/
theorem fliesToward_iff (cs : List Corner) (c : Corner) (ds : List Corner)
    (h : Flight (run step powerUp cs) c ds) :
    FliesToward (run step powerUp cs) c ds ↔
      (ds ≠ [] → (run step powerUp cs).shootLOrR = 0 ∨ (run step powerUp cs).shootLOrR = c.aim) ∧
        ∀ d ∈ ds.dropLast, d.aim = c.aim := by
  have hs := sound_run cs
  rw [FliesToward, eachStep_toward_iff (sound_step _ c hs) (hs.flying_of_fires h.fires) c h.shown,
    shootLOrR_of_fires h.fires]

/-- A base level with the ship, its centre at column `x`. -/
def level (x : BitVec 10) : Corner := ⟨x - 32, 204⟩

/-- From a base that stands still the first shot goes to the ship. -/
theorem fliesToward_still :
    FliesToward powerUp (level 400) (List.replicate 51 (level 400)) :=
  (fliesToward_iff [] (level 400) (List.replicate 51 (level 400))
    ⟨⟨rfl, by decide⟩, by decide⟩).2 (by decide)

/-- The first shot of a base that crosses the column of the ship flies to both sides. -/
theorem not_fliesToward_crossing :
    Gradual [level 321, level 320, level 319, level 318] ∧
      Flight powerUp (level 321) [level 320, level 319, level 318] ∧
      ¬ FliesToward powerUp (level 321) [level 320, level 319, level 318] :=
  ⟨by decide, ⟨⟨rfl, by decide⟩, by decide⟩, by decide⟩

end EnemyBullet

end Bosconian
