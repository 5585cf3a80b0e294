import Bosconian.Hdl.EndScreens
import Bosconian.Hdl.PixelCollision

/-!
# The title screen

The game runs behind the title screen: the fire key shoots, the hit tests and the detector look
on. Nothing comes of it as long as the ship does not head anywhere. The bases stand where they
started (`Quiet`), too far for them to fire and above or below the line in which the shots of a
ship without a heading fly, and no pixel of theirs is a pixel of the ship.

Main result: `title_screen_stable`.
-/

namespace Bosconian

open EventMachine Words

/-! ## The game behind it -/

namespace Bullet

/-- The shot flies sideways, if any, and both bullets are in the line of the ship, or at the edge
of the screen as at power-up. -/
structure Level (b : Bullet) : Prop where
  sideways : b.exists_ = true → b.shootLeftRight = true
  first : b.yPosBullet1 = 0 ∨ b.yPosBullet1 = shipCenterY
  second : b.yPosBullet2 = 0 ∨ b.yPosBullet2 = shipCenterY

theorem level_tick {b : Bullet} (h : b.Level) (shootBullet : Bool) :
    (b.tick shootBullet 0).Level := by
  unfold tick
  split_ifs with hfire hshot hover hside
  · exact ⟨fun _ => rfl, .inr rfl, .inr rfl⟩
  · exact ⟨nofun, h.first, h.second⟩
  · exact ⟨fun _ => hside, .inr rfl, .inr rfl⟩
  · exact absurd (h.sideways hshot) hside
  · exact h

/-- Such a shot hits nothing that is not level with the ship or with the edge. -/
theorem Level.misses {b : Bullet} (h : b.Level) {c : Corner}
    (hedge : inWindow 5 c.centerY 0 = false) (hship : inWindow 5 c.centerY shipCenterY = false) :
    userBulletCollision c b = false := by
  have hmiss {y : BitVec 10} (hy : y = 0 ∨ y = shipCenterY) : inWindow 5 c.centerY y = false := by
    rcases hy with rfl | rfl
    · exact hedge
    · exact hship
  rw [userBulletCollision, hmiss h.first, hmiss h.second]
  rfl

end Bullet

namespace EnemyBullet

/-- There is no shot. -/
structure Idle (e : EnemyBullet) : Prop where
  shoot : e.shootBullet = false
  dark : e.showBullet = false

theorem idle_tick {e : EnemyBullet} (h : e.Idle) {c : Corner} (hfar : inRange c = false) :
    (e.tick c).Idle := by
  rw [tick, if_pos h.shoot, if_neg (by simp [hfar])]
  exact h

theorem Idle.pixel {e : EnemyBullet} (h : e.Idle) (drawX drawY : BitVec 10) :
    DisplayGame.enemyBaseShootBulletNext drawX drawY e = false := by
  rw [DisplayGame.enemyBaseShootBulletNext, h.dark]
  rfl

end EnemyBullet

/-- Without a heading a base goes home. -/
theorem Corner.scroll_zero (home s : Corner) (collided : Bool) :
    home.scroll 0 collided s = home := by
  cases collided with
  | false => exact scroll_of_not_isStep (by decide) home s
  | true =>
    rw [scroll_collided]
    exact scroll_of_not_isStep (by decide) home s

namespace DisplayGame

/-- The game while the ship heads nowhere. -/
structure Quiet (s : DisplayGame) : Prop where
  directions : s.directions = 0
  shipOrientation : s.shipOrientation = 0
  one : s.enemyBaseOne.toCorner = greenEnemyBaseExample.home
  two : s.enemyBaseTwo.toCorner = greenEnemyBaseExampleTwo.home
  bullets : s.spaceshipBullets.Level
  bulletOne : s.baseEnemyBullet.Idle
  bulletTwo : s.baseEnemyBullet2.Idle
  missed : s.enemyHitOne = false ∧ s.enemyHitTwo = false
  standing : s.enemyOneBaseHit = false ∧ s.enemyTwoBaseHit = false
  dark : s.enemyBaseOneShootBullet = false ∧ s.enemyBaseTwoShootBullet = false
  apart : s.shipOn = true → s.enemyBaseOneOn = false ∧ s.enemyBaseTwoOn = false
  lost : s.lost = false

theorem quiet_powerUp : powerUp.Quiet where
  directions := rfl
  shipOrientation := rfl
  one := rfl
  two := rfl
  bullets := ⟨nofun, .inl rfl, .inl rfl⟩
  bulletOne := ⟨rfl, rfl⟩
  bulletTwo := ⟨rfl, rfl⟩
  missed := ⟨rfl, rfl⟩
  standing := ⟨rfl, rfl⟩
  dark := ⟨rfl, rfl⟩
  apart := nofun
  lost := rfl

/-- No pixel of the ship is in the box of a base that stands where it started. -/
theorem baseBox_home {drawX drawY : BitVec 10} (h : shipBox drawX drawY = true) :
    baseBox greenEnemyBaseExample.home drawX drawY = false ∧
      baseBox greenEnemyBaseExampleTwo.home drawX drawY = false := by
  have hx : 313 ≤ drawX.toNat ∧ drawX.toNat ≤ 327 := ((shipBox_iff (drawX, drawY)).1 h).1
  have hone : ¬ inBox greenEnemyBaseExample.home.tlCornerX baseSizeX drawX = true := by
    rw [inBox_iff_of_lt (by decide)]
    show ¬ (200 ≤ drawX.toNat ∧ drawX.toNat ≤ 200 + 64)
    omega
  have htwo : ¬ inBox greenEnemyBaseExampleTwo.home.tlCornerX baseSizeX drawX = true := by
    rw [inBox_iff_of_lt (by decide)]
    show ¬ (400 ≤ drawX.toNat ∧ drawX.toNat ≤ 400 + 64)
    omega
  simp only [Bool.not_eq_true] at hone htwo
  rw [baseBox, baseBox, hone, htwo]
  exact ⟨rfl, rfl⟩

theorem Quiet.hazardOn {s : DisplayGame} (h : s.Quiet) (hship : s.shipOn = true) :
    s.hazardOn = false := by
  obtain ⟨hone, htwo⟩ := h.apart hship
  simp [DisplayGame.hazardOn, hone, htwo, h.dark.1, h.dark.2]

theorem quiet_posedgeVgaClk {s : DisplayGame} (h : s.Quiet) (drawX drawY : BitVec 10) :
    (s.posedgeVgaClk drawX drawY).Quiet := by
  have happart : s.shipOnNext drawX drawY = true →
      enemyBaseOnNext drawX drawY s.enemyBaseOne = false ∧
        enemyBaseOnNext drawX drawY s.enemyBaseTwo = false := by
    intro hship
    rw [shipOnNext, Bool.and_eq_true] at hship
    obtain ⟨hone, htwo⟩ := baseBox_home hship.1
    rw [enemyBaseOnNext, enemyBaseOnNext, h.one, h.two, hone, htwo]
    exact ⟨rfl, rfl⟩
  have hlost : (s.posedgeVgaClk drawX drawY).lost = false := by
    rw [lost_posedgeVgaClk]
    cases hship : s.shipOn with
    | false => rfl
    | true => rw [h.hazardOn hship, Bool.and_false]
  exact { h with
    dark := ⟨h.bulletOne.pixel drawX drawY, h.bulletTwo.pixel drawX drawY⟩
    apart := happart
    lost := hlost }

theorem quiet_negedgeVgaClk (roms : Roms) {s : DisplayGame} (h : s.Quiet)
    (drawX drawY : BitVec 10) : (s.negedgeVgaClk roms drawX drawY).Quiet := { h with }

/-- A frame in which the ship is not moving. -/
theorem quiet_posedgeFrameClk {s : DisplayGame} (h : s.Quiet) (reset : Bool)
    (keycode : BitVec 8) : (s.posedgeFrameClk reset false keycode).Quiet := by
  have hhome (home : Corner) (t : Corner) : home.scroll s.shipOrientation s.collision t = home := by
    rw [h.shipOrientation, Corner.scroll_zero]
  have hlatch : baseHitNext reset false false = false := by cases reset <;> rfl
  exact {
    directions := StateController.directions_posedgeFrameClk reset keycode s
    shipOrientation := h.directions
    one := hhome _ _
    two := hhome _ _
    bullets := by
      show (s.spaceshipBullets.tick s.shoot s.shipOrientation).Level
      rw [h.shipOrientation]
      exact Bullet.level_tick h.bullets s.shoot
    bulletOne := by
      show (s.baseEnemyBullet.tick s.enemyBaseOne.toCorner).Idle
      rw [h.one]
      exact EnemyBullet.idle_tick h.bulletOne (by decide)
    bulletTwo := by
      show (s.baseEnemyBullet2.tick s.enemyBaseTwo.toCorner).Idle
      rw [h.two]
      exact EnemyBullet.idle_tick h.bulletTwo (by decide)
    missed := by
      show userBulletCollision s.enemyBaseOne.toCorner s.spaceshipBullets = false ∧
        userBulletCollision s.enemyBaseTwo.toCorner s.spaceshipBullets = false
      rw [h.one, h.two]
      exact ⟨h.bullets.misses (by decide) (by decide), h.bullets.misses (by decide) (by decide)⟩
    standing := by
      show baseHitNext reset s.enemyHitOne s.enemyOneBaseHit = false ∧
        baseHitNext reset s.enemyHitTwo s.enemyTwoBaseHit = false
      rw [h.missed.1, h.missed.2, h.standing.1, h.standing.2]
      exact ⟨hlatch, hlatch⟩
    dark := h.dark
    apart := h.apart
    lost := h.lost }

theorem quiet_posedgeReset {s : DisplayGame} (h : s.Quiet) : s.posedgeReset.Quiet :=
  { h with standing := ⟨rfl, rfl⟩ }

theorem Quiet.win {s : DisplayGame} (h : s.Quiet) : s.win = false := by
  rw [DisplayGame.win, h.standing.1]
  rfl

end DisplayGame

/-! ## The controller -/

namespace StateController

/-- The title screen is shown and no movement key has been seen. -/
structure AtTitle (s : StateController) : Prop where
  state : s.state = .startScreen
  moving : s.moving = false
  game : s.game.Quiet

/-- No movement key is down at a pixel clock. -/
def NoMoveKey : GameEvent → Prop
  | .posedgeVgaClk _ _ keycode => ¬ IsMoveKey keycode
  | _ => True

theorem atTitle_posedgeVgaClk {s : StateController} (h : s.AtTitle) (drawX drawY : BitVec 10)
    {keycode : BitVec 8} (hkey : ¬ IsMoveKey keycode) :
    (s.posedgeVgaClk drawX drawY keycode).AtTitle where
  state := by
    show s.stateNext = .startScreen
    have hnext : s.nextState = .startScreen := by simp [nextState, h.state, h.moving]
    simp [stateNext, h.game.lost, h.game.win, hnext]
  moving := by
    show s.movingNext keycode = false
    simp [movingNext, h.game.lost, h.game.win, hkey, h.moving]
  game := DisplayGame.quiet_posedgeVgaClk h.game drawX drawY

theorem atTitle_step (roms : Roms) {s : StateController} (h : s.AtTitle) {e : GameEvent}
    (he : NoMoveKey e) : (step roms s e).AtTitle := by
  cases e with
  | posedgeVgaClk drawX drawY keycode => exact atTitle_posedgeVgaClk h drawX drawY he
  | negedgeVgaClk drawX drawY =>
    exact ⟨h.state, h.moving, DisplayGame.quiet_negedgeVgaClk roms h.game drawX drawY⟩
  | posedgeFrameClk keycode =>
    refine ⟨h.state, h.moving, ?_⟩
    show (s.game.posedgeFrameClk s.reset s.moving keycode).Quiet
    rw [h.moving]
    exact DisplayGame.quiet_posedgeFrameClk h.game s.reset keycode
  | posedgeReset => exact ⟨rfl, rfl, DisplayGame.quiet_posedgeReset h.game⟩
  | negedgeReset => exact ⟨h.state, h.moving, h.game⟩

theorem atTitle_run (roms : Roms) {s : StateController} (h : s.AtTitle) {es : List GameEvent}
    (hes : ∀ e ∈ es, NoMoveKey e) : (run (step roms) s es).AtTitle := by
  induction es generalizing s with
  | nil => exact h
  | cons e es ih =>
    obtain ⟨he, hes⟩ := List.forall_mem_cons.1 hes
    exact ih (atTitle_step roms h he) hes

end StateController

/-! ## The whole design -/

namespace Design

/-- The key at a board clock is not a movement key. -/
def NoMoveKey : ClkEvent → Prop
  | .posedgeClk keycode => ¬ StateController.IsMoveKey keycode
  | _ => True

instance (e : ClkEvent) : Decidable (NoMoveKey e) := by
  unfold NoMoveKey
  split <;> infer_instance

theorem noMoveKey_gameEvents {s : Design} {e : ClkEvent} (he : NoMoveKey e) :
    ∀ d ∈ s.gameEvents e, StateController.NoMoveKey d := by
  intro d hd
  cases e with
  | posedgeClk keycode =>
    simp only [gameEvents] at hd
    split_ifs at hd <;> simp only [List.mem_cons, List.not_mem_nil, or_false] at hd
    · rw [hd]
      trivial
    · rcases hd with rfl | rfl
      · exact he
      · trivial
    · rw [hd]
      exact he
  | posedgeReset =>
    simp only [gameEvents] at hd
    split_ifs at hd <;> simp only [List.mem_cons, List.not_mem_nil, or_false] at hd
    · rcases hd with rfl | rfl <;> trivial
    · rw [hd]
      trivial
  | negedgeReset =>
    simp only [gameEvents, List.mem_singleton] at hd
    rw [hd]
    trivial

/-- The title screen is shown, the game is neither lost nor won, no base has fired, and none is
marked as hit. -/
structure OnTitle (s : Design) : Prop where
  state : s.ctrl.state = .startScreen
  lost : s.ctrl.game.lost = false
  win : s.ctrl.game.win = false
  oneIdle : s.ctrl.game.baseEnemyBullet.Idle
  twoIdle : s.ctrl.game.baseEnemyBullet2.Idle
  one : s.ctrl.game.enemyOneBaseHit = false
  two : s.ctrl.game.enemyTwoBaseHit = false

theorem OnTitle.of_atTitle {s : Design} (h : s.ctrl.AtTitle) : s.OnTitle where
  state := h.state
  lost := h.game.lost
  win := h.game.win
  oneIdle := h.game.bulletOne
  twoIdle := h.game.bulletTwo
  one := h.game.standing.1
  two := h.game.standing.2

theorem atTitle_powerUp : powerUp.ctrl.AtTitle := ⟨rfl, rfl, DisplayGame.quiet_powerUp⟩

/-- **The title screen is stable**: whatever else is pressed and whenever `Reset` comes, without
a movement key the run stays there and nothing is decided behind it. -/
theorem title_screen_stable (roms : Roms) (es : List ClkEvent) (hes : ∀ e ∈ es, NoMoveKey e) :
    Always (step roms) OnTitle powerUp es := by
  have hkeys : EachStep (step roms) (fun _ e => NoMoveKey e) powerUp es := by
    intro ds e hds
    exact hes e (hds.subset (by simp))
  refine hkeys.always (J := fun s => s.ctrl.AtTitle) ?_ (fun _ => OnTitle.of_atTitle)
    atTitle_powerUp
  intro s e hs he
  exact StateController.atTitle_run roms hs (noMoveKey_gameEvents he)

/-- The fire key is held and `Reset` pulsed. -/
theorem title_screen_stable_fire :
    Always (step sprites) OnTitle powerUp
      [.posedgeClk 0x2C, .posedgeClk 0x2C, .posedgeReset, .posedgeClk 0x2C, .negedgeReset,
        .posedgeClk 0x2C] :=
  title_screen_stable sprites _ (by decide)

end Design

end Bosconian
