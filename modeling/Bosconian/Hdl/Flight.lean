import Bosconian.Hdl.Shooting

/-!
# The flight of a shot

`bullet` on its own, under any firings and any directions, and what it is for.

**The shot** (`Shot`). Two bullets leave the ship along its axis of flight at two pixels a frame,
in opposite directions. While the ship is turned off that axis, both drift across it at one pixel
a frame. The numbers of a shot are unbounded.

**Refinement** (`shows_tick`). The registers of the code show such a shot, whichever the axis,
without wrapping.

Main results: `same_bullet`, that the factored hit test never mixes the two bullets, and
`smooth_iff`, that the bullets move continuously as long as the ship turns early.
-/

namespace Bosconian

open EventMachine Words

/-! ## Shots -/

/-- A shot in flight: the distance counted so far, how far each bullet is from the ship along
the axis of flight, how far both are across it, and the frames spent turned off it. -/
structure Shot where
  traveled : Nat
  along : Nat
  across : Int
  turned : Nat
deriving DecidableEq, Repr

namespace Shot

def fired : Shot := ⟨0, 0, 0, 0⟩

/-- A frame of flight. The heading is `0` on the axis, and `1` or `-1` off it. The positions
follow the counters by one frame. -/
def fly (heading : Int) (s : Shot) : Shot :=
  ⟨s.traveled + 2, s.traveled, heading * s.turned, s.turned + heading.natAbs⟩

/-- What ties the numbers of a shot together. -/
structure Sound (s : Shot) : Prop where
  even : s.traveled % 2 = 0
  le : s.traveled ≤ 120
  along : s.along = s.traveled - 2
  turned : 2 * s.turned ≤ s.traveled
  across : s.across = 0 ∨ s.across.natAbs + 1 = s.turned

theorem sound_fired : fired.Sound := ⟨rfl, by decide, rfl, by decide, .inl rfl⟩

theorem natAbs_fly {heading : Int} (h : heading.natAbs ≤ 1) (s : Shot) :
    heading = 0 ∧ (s.fly heading).across = 0 ∧ (s.fly heading).turned = s.turned ∨
      heading.natAbs = 1 ∧ (s.fly heading).across.natAbs = s.turned ∧
        (s.fly heading).turned = s.turned + 1 := by
  rcases Nat.le_one_iff_eq_zero_or_eq_one.1 h with h | h
  · obtain rfl := Int.natAbs_eq_zero.1 h
    exact .inl ⟨rfl, Int.zero_mul _, rfl⟩
  · refine .inr ⟨h, ?_, congrArg (s.turned + ·) h⟩
    show (heading * s.turned).natAbs = s.turned
    rw [Int.natAbs_mul, h, Nat.one_mul, Int.natAbs_natCast]

/-- The bullets drift by two pixels at most unless the ship turns late: to another side of the
axis with more than one frame counted off it, from the axis with more than two, or back to it
with more than three. -/
theorem Sound.drift_iff {s : Shot} (h : s.Sound) {heading : Int} (hh : heading.natAbs ≤ 1) :
    ((s.fly heading).across - s.across).natAbs ≤ 2 ↔
      s.across.sign = heading ∨ s.turned ≤ 1 ∨ s.across = 0 ∧ s.turned ≤ 2 ∨
        heading = 0 ∧ s.turned ≤ 3 := by
  have hside : heading = 0 ∨ heading = 1 ∨ heading = -1 := by omega
  have hacross := h.across
  have hsign : s.across = 0 ∧ s.across.sign = 0 ∨ 0 < s.across ∧ s.across.sign = 1 ∨
      s.across < 0 ∧ s.across.sign = -1 := by
    rcases Int.lt_trichotomy s.across 0 with h | h | h
    · exact .inr (.inr ⟨h, Int.sign_eq_neg_one_of_neg h⟩)
    · exact .inl ⟨h, Int.sign_eq_zero_iff_zero.2 h⟩
    · exact .inr (.inl ⟨h, Int.sign_eq_one_of_pos h⟩)
  rcases hside with rfl | rfl | rfl
  · have hback : (s.fly 0).across - s.across = -s.across := by simp [Shot.fly]
    rw [hback, Int.natAbs_neg]
    rcases hacross with h | h <;> omega
  · simp only [Shot.fly]
    omega
  · simp only [Shot.fly]
    omega

theorem Sound.fly {s : Shot} (h : s.Sound) (hs : s.traveled < 120) {heading : Int}
    (hh : heading.natAbs ≤ 1) : (s.fly heading).Sound := by
  obtain ⟨heven, hle, halong, hturned, hacross⟩ := h
  have hnext : (s.fly heading).traveled = s.traveled + 2 := rfl
  have hpos : (s.fly heading).along = s.traveled := rfl
  rcases natAbs_fly hh s with ⟨-, h₀, ht⟩ | ⟨-, h₁, ht⟩
  · exact ⟨by omega, by omega, by omega, by omega, .inl h₀⟩
  · exact ⟨by omega, by omega, by omega, by omega, by omega⟩

end Shot

/-! ## The registers of a shot -/

namespace Bullet

/-- How far across its axis of flight the ship is turned: down the screen or up it for a shot
fired sideways, to the right or to the left for one fired along the vertical. -/
def heading (b : Bullet) (direction : BitVec 4) : Int :=
  if b.shootLeftRight then
    if direction = dirUp then 1 else if direction = dirDown then -1 else 0
  else if direction = dirRight then -1 else if direction = dirLeft then 1 else 0

theorem natAbs_heading (b : Bullet) (direction : BitVec 4) :
    (b.heading direction).natAbs ≤ 1 := by
  unfold heading
  split_ifs <;> decide

/-- The registers of a shot fired sideways. -/
structure ShowsLeftRight (b : Bullet) (s : Shot) : Prop where
  offset : b.xOffset.toNat = s.traveled
  turned : b.changeY.toNat = s.turned
  yOffset : b.yOffset = 0
  changeX : b.changeX = 0
  x1 : b.xPosBullet1.toNat = 320 + s.along
  x2 : b.xPosBullet2.toNat + s.along = 320
  y1 : (b.yPosBullet1.toNat : Int) = 240 + s.across
  y2 : b.yPosBullet2 = b.yPosBullet1

/-- The registers of a shot fired along the vertical. -/
structure ShowsUpDown (b : Bullet) (s : Shot) : Prop where
  offset : b.yOffset.toNat = s.traveled
  turned : b.changeX.toNat = s.turned
  xOffset : b.xOffset = 0
  changeY : b.changeY = 0
  y1 : b.yPosBullet1.toNat = 240 + s.along
  y2 : b.yPosBullet2.toNat + s.along = 240
  x1 : (b.xPosBullet1.toNat : Int) = 320 + s.across
  x2 : b.xPosBullet2 = b.xPosBullet1

/-- The registers are those of the shot `s`. -/
structure Shows (b : Bullet) (s : Shot) : Prop where
  exists_ : b.exists_ = true
  traveled : b.bulletDistanceTraveled.toNat = s.traveled
  leftRight : b.shootLeftRight = true → b.ShowsLeftRight s
  upDown : b.shootLeftRight = false → b.ShowsUpDown s

theorem shows_fire (direction : BitVec 4) (b : Bullet) : (b.fire direction).Shows Shot.fired :=
  ⟨rfl, rfl, fun _ => ⟨rfl, rfl, rfl, rfl, rfl, rfl, rfl, rfl⟩,
    fun _ => ⟨rfl, rfl, rfl, rfl, rfl, rfl, rfl, rfl⟩⟩

/-! ### The arithmetic of one frame -/

theorem toNat_add_two {a : BitVec 7} (h : a.toNat < 120) : (a + 2).toNat = a.toNat + 2 := by
  have h2 : (2 : BitVec 7).toNat = 2 := rfl
  rw [BitVec.toNat_add, h2]
  omega

theorem toNat_add_one {a : BitVec 7} (h : a.toNat < 120) : (a + 1).toNat = a.toNat + 1 := by
  have h1 : (1 : BitVec 7).toNat = 1 := rfl
  rw [BitVec.toNat_add, h1]
  omega

/-- Ahead of the ship and behind it, the positions fit their registers. -/
theorem toNat_beside {c : BitVec 10} (hlo : 240 ≤ c.toNat) (hhi : c.toNat ≤ 320) (a : BitVec 7) :
    (c + a.setWidth 10).toNat = c.toNat + a.toNat ∧
      (c - a.setWidth 10).toNat + a.toNat = c.toNat := by
  have := a.isLt
  rw [BitVec.toNat_add, BitVec.toNat_sub, BitVec.toNat_setWidth]
  omega

theorem toNat_besideX (a : BitVec 7) :
    (shipCenterX + a.setWidth 10).toNat = 320 + a.toNat ∧
      (shipCenterX - a.setWidth 10).toNat + a.toNat = 320 :=
  toNat_beside (c := shipCenterX) (by decide) (by decide) a

theorem toNat_besideY (a : BitVec 7) :
    (shipCenterY + a.setWidth 10).toNat = 240 + a.toNat ∧
      (shipCenterY - a.setWidth 10).toNat + a.toNat = 240 :=
  toNat_beside (c := shipCenterY) (by decide) (by decide) a

/-! ### One frame -/

theorem showsLeftRight_fly {b : Bullet} {s : Shot} (h : b.ShowsLeftRight s) (hs : s.Sound)
    (hlt : s.traveled < 120) (hlr : b.shootLeftRight = true) (direction : BitVec 4) :
    (b.flyLeftRight direction).ShowsLeftRight (s.fly (b.heading direction)) := by
  obtain ⟨hoff, hturn, hy, hx, -, -, -, -⟩ := h
  have hturned := hs.turned
  have hoff' := toNat_add_two (a := b.xOffset) (by omega)
  have hturn' := toNat_add_one (a := b.changeY) (by omega)
  obtain ⟨hx1, hx2⟩ := toNat_besideX b.xOffset
  obtain ⟨hy1, hy2⟩ := toNat_besideY b.changeY
  rw [hoff] at hoff' hx1 hx2
  rw [hturn] at hturn' hy1 hy2
  rw [heading, if_pos hlr, flyLeftRight]
  split_ifs with hup hdown
  · refine ⟨hoff', hturn', hy, rfl, hx1, hx2, ?_, rfl⟩
    simp only [Shot.fly, hy1]
    omega
  · refine ⟨hoff', hturn', hy, rfl, hx1, hx2, ?_, rfl⟩
    simp only [Shot.fly]
    omega
  · refine ⟨hoff', hturn, rfl, hx, hx1, hx2, ?_, rfl⟩
    simp [Shot.fly, shipCenterY]

theorem showsUpDown_fly {b : Bullet} {s : Shot} (h : b.ShowsUpDown s) (hs : s.Sound)
    (hlt : s.traveled < 120) (hud : b.shootLeftRight = false) (direction : BitVec 4) :
    (b.flyUpDown direction).ShowsUpDown (s.fly (b.heading direction)) := by
  obtain ⟨hoff, hturn, hx, hy, -, -, -, -⟩ := h
  have hturned := hs.turned
  have hoff' := toNat_add_two (a := b.yOffset) (by omega)
  have hturn' := toNat_add_one (a := b.changeX) (by omega)
  obtain ⟨hy1, hy2⟩ := toNat_besideY b.yOffset
  obtain ⟨hx1, hx2⟩ := toNat_besideX b.changeX
  rw [hoff] at hoff' hy1 hy2
  rw [hturn] at hturn' hx1 hx2
  rw [heading, if_neg (by simp [hud]), flyUpDown]
  split_ifs with hright hleft
  · refine ⟨hoff', hturn', hx, rfl, hy1, hy2, ?_, rfl⟩
    simp only [Shot.fly]
    omega
  · refine ⟨hoff', hturn', hx, rfl, hy1, hy2, ?_, rfl⟩
    simp only [Shot.fly, hx1]
    omega
  · refine ⟨hoff', hturn, rfl, hy, hy1, hy2, ?_, rfl⟩
    simp [Shot.fly, shipCenterX]

@[simp] theorem flyLeftRight_frame (direction : BitVec 4) (b : Bullet) :
    (b.flyLeftRight direction).exists_ = b.exists_ ∧
      (b.flyLeftRight direction).shootLeftRight = b.shootLeftRight ∧
        (b.flyLeftRight direction).bulletDistanceTraveled = b.bulletDistanceTraveled + 2 := by
  unfold flyLeftRight
  split_ifs <;> exact ⟨rfl, rfl, rfl⟩

@[simp] theorem flyUpDown_frame (direction : BitVec 4) (b : Bullet) :
    (b.flyUpDown direction).exists_ = b.exists_ ∧
      (b.flyUpDown direction).shootLeftRight = b.shootLeftRight ∧
        (b.flyUpDown direction).bulletDistanceTraveled = b.bulletDistanceTraveled + 2 := by
  unfold flyUpDown
  split_ifs <;> exact ⟨rfl, rfl, rfl⟩

/-- The range as a number. -/
theorem bulletRange_le_iff (a : BitVec 7) : bulletRange ≤ a ↔ 120 ≤ a.toNat := Iff.rfl

/-- **Refinement.** A tick of a shot in flight shows the next frame of it. -/
theorem shows_tick {b : Bullet} {s : Shot} (h : b.Shows s) (hs : s.Sound) (hlt : s.traveled < 120)
    (direction : BitVec 4) :
    (b.tick false direction).Shows (s.fly (b.heading direction)) ∧
      (b.tick false direction).shootLeftRight = b.shootLeftRight := by
  obtain ⟨hexists, htraveled, hleftRight, hupDown⟩ := h
  have hrange : ¬ bulletRange ≤ b.bulletDistanceTraveled := by
    rw [bulletRange_le_iff]
    omega
  have hnext := toNat_add_two (a := b.bulletDistanceTraveled) (by omega)
  rw [htraveled] at hnext
  rw [tick, if_neg Bool.false_ne_true, if_pos hexists, if_neg hrange]
  cases hmode : b.shootLeftRight with
  | true =>
    obtain ⟨hex, hlr, hdist⟩ := flyLeftRight_frame direction b
    rw [if_pos rfl]
    refine ⟨⟨hex.trans hexists, ?_, ?_, ?_⟩, hlr.trans hmode⟩
    · rw [hdist, hnext]
      rfl
    · exact fun _ => showsLeftRight_fly (hleftRight hmode) hs hlt hmode direction
    · intro hud
      rw [hlr, hmode] at hud
      exact absurd hud (by decide)
  | false =>
    obtain ⟨hex, hlr, hdist⟩ := flyUpDown_frame direction b
    rw [if_neg Bool.false_ne_true]
    refine ⟨⟨hex.trans hexists, ?_, ?_, ?_⟩, hlr.trans hmode⟩
    · rw [hdist, hnext]
      rfl
    · intro hlr'
      rw [hlr, hmode] at hlr'
      exact absurd hlr' (by decide)
    · exact fun _ => showsUpDown_fly (hupDown hmode) hs hlt hmode direction

theorem tick_idle {b : Bullet} (h : b.exists_ = false) (direction : BitVec 4) :
    b.tick false direction = b := by
  simp [tick, h]

theorem tick_expire {b : Bullet} (h : b.exists_ = true) (hd : 120 ≤ b.bulletDistanceTraveled.toNat)
    (direction : BitVec 4) : b.tick false direction = b.expire := by
  rw [tick, if_neg Bool.false_ne_true, if_pos h, if_pos ((bulletRange_le_iff _).2 hd)]

/-! ## Runs -/

/-- What a tick of `bullet` samples. -/
structure Tick where
  shootBullet : Bool
  direction : BitVec 4
deriving DecidableEq, Repr

def step (b : Bullet) (e : Tick) : Bullet := b.tick e.shootBullet e.direction

/-- A bullet that exists shows a shot; one that does not has its distance cleared. -/
structure Sound (b : Bullet) : Prop where
  flying : b.exists_ = true → ∃ s : Shot, s.Sound ∧ b.Shows s
  idle : b.exists_ = false → b.bulletDistanceTraveled = 0

theorem sound_powerUp : powerUp.Sound := by
  constructor
  · intro h
    exact absurd h (by decide)
  · exact fun _ => rfl

theorem sound_step (b : Bullet) (e : Tick) (h : b.Sound) : (b.step e).Sound := by
  obtain ⟨shootBullet, direction⟩ := e
  cases shootBullet with
  | true =>
    constructor
    · exact fun _ => ⟨Shot.fired, Shot.sound_fired, shows_fire direction b⟩
    · intro h
      exact absurd h (by simp [step, tick, fire])
  | false =>
    show (b.tick false direction).Sound
    cases hexists : b.exists_ with
    | false => rwa [tick_idle hexists]
    | true =>
      obtain ⟨s, hs, hshows⟩ := h.flying hexists
      by_cases hd : 120 ≤ b.bulletDistanceTraveled.toNat
      · rw [tick_expire hexists hd]
        constructor
        · intro h
          exact absurd h (by simp [expire])
        · exact fun _ => rfl
      · have hlt : s.traveled < 120 := by
          rw [← hshows.traveled]
          omega
        have hnext := (shows_tick hshows hs hlt direction).1
        constructor
        · exact fun _ => ⟨_, hs.fly hlt (natAbs_heading b direction), hnext⟩
        · intro h
          exact absurd h (by simp [hnext.exists_])

theorem sound_run (es : List Tick) : (run step powerUp es).Sound :=
  run_invariant sound_step sound_powerUp es

/-! ## The hit test -/

/-- Both coordinates of one and the same bullet are in range of the centre. -/
def sameBulletCollision (c : Corner) (b : Bullet) : Bool :=
  inWindow 5 c.centerY b.yPosBullet1 && inWindow 5 c.centerX b.xPosBullet1 ||
    inWindow 5 c.centerY b.yPosBullet2 && inWindow 5 c.centerX b.xPosBullet2

theorem inLine_step (b : Bullet) (e : Tick) (h : b.InLine) : (b.step e).InLine :=
  inLine_tick h e.shootBullet e.direction

theorem inLine_run (es : List Tick) : (run step powerUp es).InLine :=
  run_invariant inLine_step inLine_powerUp es

/-- **The factored test.** In every state `bullet` can reach, asking for some bullet in each axis
is asking for one bullet in both. -/
theorem same_bullet (es : List Tick) (c : Corner) :
    userBulletCollision c (run step powerUp es) = sameBulletCollision c (run step powerUp es) := by
  rw [userBulletCollision, sameBulletCollision]
  rcases inLine_run es with h | h
  · rw [h, Bool.or_self, ← Bool.and_or_distrib_right]
  · rw [h, Bool.or_self, ← Bool.and_or_distrib_left]

/-! ## Continuity -/

/-- Two positions at most two pixels apart. -/
def WithinTwoPixels (p q : BitVec 10) : Prop := p.toNat ≤ q.toNat + 2 ∧ q.toNat ≤ p.toNat + 2

/-- So is each coordinate of each bullet. -/
def Close (b b' : Bullet) : Prop :=
  WithinTwoPixels b.xPosBullet1 b'.xPosBullet1 ∧ WithinTwoPixels b.yPosBullet1 b'.yPosBullet1 ∧
    WithinTwoPixels b.xPosBullet2 b'.xPosBullet2 ∧ WithinTwoPixels b.yPosBullet2 b'.yPosBullet2

/-- A tick moves a shot in flight by at most two pixels. -/
def Smooth (b : Bullet) (e : Tick) : Prop :=
  b.exists_ = true → e.shootBullet = false → b.bulletDistanceTraveled < bulletRange →
    b.Close (b.step e)

/-- The side of its axis of flight on which the shot is. -/
def side (b : Bullet) : Int :=
  if b.shootLeftRight then ((b.yPosBullet1.toNat : Int) - 240).sign
  else ((b.xPosBullet1.toNat : Int) - 320).sign

/-- The counter of the frames spent off the axis. -/
def turned (b : Bullet) : Nat := if b.shootLeftRight then b.changeY.toNat else b.changeX.toNat

/-- A tick of a shot in flight does not turn the ship late: it keeps to the side of the axis the
shot is on, or finds at most one frame counted off the axis, two if the shot is on it, three if
the ship turns back to it. -/
def TurnsEarly (b : Bullet) (e : Tick) : Prop :=
  b.exists_ = true → e.shootBullet = false → b.bulletDistanceTraveled < bulletRange →
    b.side = b.heading e.direction ∨ b.turned ≤ 1 ∨ b.side = 0 ∧ b.turned ≤ 2 ∨
      b.heading e.direction = 0 ∧ b.turned ≤ 3

theorem Shows.side_eq {b : Bullet} {s : Shot} (h : b.Shows s) : b.side = s.across.sign := by
  unfold side
  split_ifs with hmode
  · rw [(h.leftRight hmode).y1, Int.add_comm, Int.add_sub_cancel]
  · rw [(h.upDown (by simpa using hmode)).x1, Int.add_comm, Int.add_sub_cancel]

theorem Shows.turned_eq {b : Bullet} {s : Shot} (h : b.Shows s) : b.turned = s.turned := by
  unfold turned
  split_ifs with hmode
  · exact (h.leftRight hmode).turned
  · exact (h.upDown (by simpa using hmode)).turned

/-- A shot moves smoothly exactly when its drift does. -/
theorem Shows.close_iff {b b' : Bullet} {s s' : Shot} (h : b.Shows s) (h' : b'.Shows s')
    (hmode : b'.shootLeftRight = b.shootLeftRight) (halong : s'.along ≤ s.along + 2)
    (halong' : s.along ≤ s'.along) :
    b.Close b' ↔ (s'.across - s.across).natAbs ≤ 2 := by
  unfold Close WithinTwoPixels
  cases hlr : b.shootLeftRight with
  | true =>
    obtain ⟨-, -, -, -, hx1, hx2, hy1, hy2⟩ := h.leftRight hlr
    obtain ⟨-, -, -, -, hx1', hx2', hy1', hy2'⟩ := h'.leftRight (hmode.trans hlr)
    rw [hy2, hy2']
    omega
  | false =>
    obtain ⟨-, -, -, -, hy1, hy2, hx1, hx2⟩ := h.upDown hlr
    obtain ⟨-, -, -, -, hy1', hy2', hx1', hx2'⟩ := h'.upDown (hmode.trans hlr)
    rw [hx2, hx2']
    omega

theorem smooth_iff_turnsEarly {b : Bullet} (h : b.Sound) (e : Tick) :
    b.Smooth e ↔ b.TurnsEarly e := by
  obtain ⟨shootBullet, direction⟩ := e
  refine forall_congr' fun hexists => forall_congr' fun hshoot => forall_congr' fun hrange => ?_
  obtain rfl : shootBullet = false := hshoot
  obtain ⟨s, hs, hshows⟩ := h.flying hexists
  have hlt : s.traveled < 120 := by
    rw [← hshows.traveled]
    exact hrange
  obtain ⟨hnext, hmode⟩ := shows_tick hshows hs hlt direction
  have halong : (s.fly (b.heading direction)).along = s.traveled := rfl
  have halong' := hs.along
  rw [hshows.side_eq, hshows.turned_eq]
  show b.Close (b.tick false direction) ↔ _
  rw [hshows.close_iff hnext hmode (by omega) (by omega),
    hs.drift_iff (natAbs_heading b direction), Int.sign_eq_zero_iff_zero]

/-- **Continuity.** In every run, all ticks of all flights move the bullets smoothly exactly when
none of them turns the ship late. -/
theorem smooth_iff (es : List Tick) :
    EachStep step Smooth powerUp es ↔ EachStep step TurnsEarly powerUp es :=
  eachStep_congr sound_step (fun _ e h => smooth_iff_turnsEarly h e) sound_powerUp es

/-- A shot fired upwards drifts for five frames to the left of its axis; when the ship turns up
again it is back on the axis at once, four pixels away. -/
theorem jumps_back :
    ¬ EachStep step Smooth powerUp
      ([⟨true, dirUp⟩, ⟨true, dirUp⟩] ++ List.replicate 5 ⟨false, dirRight⟩ ++
        [⟨false, dirUp⟩]) := by
  intro h
  have hjump := h _ _ List.prefix_rfl (by decide) (by decide) (by decide)
  revert hjump
  unfold Close WithinTwoPixels
  decide

end Bullet

end Bosconian
