import Bosconian.Hdl.EndScreens
import Bosconian.Hdl.PixelCollision

/-!
# What `Reset` forgets

`Reset` clears `State`, `moving`, the hit flags and the raster. The registers below survive it:
the pipeline of the detector, the headings, the shots and the corners of the bases.

* `reset_forgets` — if two states agree on what survives and is still read, then after `Reset`
  the same keys give the same screens forever.
* `reset_remembers` — a collision seen right before `Reset` loses the game right after it.

Left out of the agreement is what is written before it is read: the offsets of the background,
the ROM outputs, the timers, a shot that is over, a bullet that is not shown.
-/

namespace Bosconian

open EventMachine

/-! ## Agreement on what is still read -/

/-- A shot that is over is only its positions. -/
structure Bullet.Agree (b b' : Bullet) : Prop where
  xPosBullet1 : b.xPosBullet1 = b'.xPosBullet1
  yPosBullet1 : b.yPosBullet1 = b'.yPosBullet1
  xPosBullet2 : b.xPosBullet2 = b'.xPosBullet2
  yPosBullet2 : b.yPosBullet2 = b'.yPosBullet2
  live : b.exists_ = true ∨ b'.exists_ = true → b = b'

namespace Bullet.Agree

theorem of_eq {b b' : Bullet} (h : b = b') : b.Agree b' := by
  subst h
  exact ⟨rfl, rfl, rfl, rfl, fun _ => rfl⟩

theorem exists_eq {b b' : Bullet} (h : b.Agree b') : b.exists_ = b'.exists_ := by
  by_cases hb : b.exists_ = true ∨ b'.exists_ = true
  · rw [h.live hb]
  · simp only [not_or, Bool.not_eq_true] at hb
    rw [hb.1, hb.2]

theorem tick {b b' : Bullet} (h : b.Agree b') (shootBullet : Bool) (direction : BitVec 4) :
    (b.tick shootBullet direction).Agree (b'.tick shootBullet direction) := by
  by_cases hshoot : shootBullet = true
  · simp only [Bullet.tick, hshoot, if_true]
    exact of_eq rfl
  by_cases hb : b.exists_ = true
  · rw [h.live (.inl hb)]
    exact of_eq rfl
  · have hb' : ¬ b'.exists_ = true := h.exists_eq ▸ hb
    simpa only [Bullet.tick, if_neg hshoot, if_neg hb, if_neg hb'] using h

end Bullet.Agree

theorem userBulletCollision_congr (c : Corner) {b b' : Bullet} (h : b.Agree b') :
    userBulletCollision c b = userBulletCollision c b' := by
  simp only [userBulletCollision, h.xPosBullet1, h.yPosBullet1, h.xPosBullet2, h.yPosBullet2]

/-- A bullet that is neither flying nor shown has no position. -/
structure EnemyBullet.Agree (e e' : EnemyBullet) : Prop where
  showBullet : e.showBullet = e'.showBullet
  shootBullet : e.shootBullet = e'.shootBullet
  bulletDistanceTraveled : e.bulletDistanceTraveled = e'.bulletDistanceTraveled
  shootLOrR : e.shootLOrR = e'.shootLOrR
  live : e.shootBullet = true ∨ e.showBullet = true → e = e'

namespace EnemyBullet.Agree

theorem of_eq {e e' : EnemyBullet} (h : e = e') : e.Agree e' := by
  subst h
  exact ⟨rfl, rfl, rfl, rfl, fun _ => rfl⟩

theorem tick {e e' : EnemyBullet} (h : e.Agree e') (c : Corner) :
    (e.tick c).Agree (e'.tick c) := by
  by_cases hshoot : e.shootBullet = true
  · rw [h.live (.inl hshoot)]
    exact of_eq rfl
  · have hshoot' : ¬ e'.shootBullet = true := h.shootBullet ▸ hshoot
    rw [Bool.not_eq_true] at hshoot hshoot'
    simp only [EnemyBullet.tick, hshoot, hshoot', if_true]
    by_cases hrange : inRange c = true
    · rw [if_pos hrange, if_pos hrange, h.bulletDistanceTraveled, h.shootLOrR]
      exact of_eq rfl
    · rw [if_neg hrange, if_neg hrange]
      exact h

/-- The pixel test reads the position of a shown bullet only. -/
theorem enemyBaseShootBulletNext {e e' : EnemyBullet} (h : e.Agree e') (drawX drawY : BitVec 10) :
    DisplayGame.enemyBaseShootBulletNext drawX drawY e =
      DisplayGame.enemyBaseShootBulletNext drawX drawY e' := by
  by_cases hshow : e.showBullet = true
  · rw [h.live (.inr hshow)]
  · have hshow' : ¬ e'.showBullet = true := h.showBullet ▸ hshow
    rw [Bool.not_eq_true] at hshow hshow'
    simp [DisplayGame.enemyBaseShootBulletNext, hshow, hshow']

end EnemyBullet.Agree

/-- The games agree on every register that survives `Reset` and is read before it is written. -/
structure DisplayGame.Agree (g g' : DisplayGame) : Prop where
  collision : g.collision = g'.collision
  enemyB1BulletCollision : g.enemyB1BulletCollision = g'.enemyB1BulletCollision
  enemyB2BulletCollision : g.enemyB2BulletCollision = g'.enemyB2BulletCollision
  shipOn : g.shipOn = g'.shipOn
  layers : g.shipOn = true →
    g.enemyBaseOneOn = g'.enemyBaseOneOn ∧ g.enemyBaseTwoOn = g'.enemyBaseTwoOn ∧
      g.enemyBaseOneShootBullet = g'.enemyBaseOneShootBullet ∧
      g.enemyBaseTwoShootBullet = g'.enemyBaseTwoShootBullet
  shoot : g.shoot = g'.shoot
  toDirections : g.toDirections = g'.toDirections
  shipOrientation : g.shipOrientation = g'.shipOrientation
  spaceshipBullets : g.spaceshipBullets.Agree g'.spaceshipBullets
  one : g.enemyBaseOne.toCorner = g'.enemyBaseOne.toCorner
  enemyHitOne : g.enemyHitOne = g'.enemyHitOne
  baseEnemyBullet : g.baseEnemyBullet.Agree g'.baseEnemyBullet
  two : g.enemyBaseTwo.toCorner = g'.enemyBaseTwo.toCorner
  enemyHitTwo : g.enemyHitTwo = g'.enemyHitTwo
  baseEnemyBullet2 : g.baseEnemyBullet2.Agree g'.baseEnemyBullet2

namespace DisplayGame

/-- The hit flags, which `Reset` clears. -/
structure SameFlags (g g' : DisplayGame) : Prop where
  one : g.enemyOneBaseHit = g'.enemyOneBaseHit
  two : g.enemyTwoBaseHit = g'.enemyTwoBaseHit

/-- The texels at a pixel, as far as the ship can be there. -/
def SameTexels (drawX drawY : BitVec 10) (g g' : DisplayGame) : Prop :=
  shipBox drawX drawY = true → g.userShip = g'.userShip ∧
    g.enemyBaseOne = g'.enemyBaseOne ∧ g.enemyBaseTwo = g'.enemyBaseTwo

theorem lost_congr {g g' : DisplayGame} (h : g.Agree g') : g.lost = g'.lost := by
  simp only [lost, h.collision, h.enemyB1BulletCollision, h.enemyB2BulletCollision]

theorem win_congr {g g' : DisplayGame} (h : g.SameFlags g') : g.win = g'.win := by
  simp only [win, h.one, h.two]

theorem directions_congr {g g' : DisplayGame} (h : g.toDirections = g'.toDirections) :
    g.directions = g'.directions :=
  congrArg (fun d : Directions => BitVec.ofBool d.up ++ BitVec.ofBool d.down ++
    BitVec.ofBool d.right ++ BitVec.ofBool d.left) h

theorem steer_congr {g g' : DisplayGame} (hc : g.collision = g'.collision)
    (h : g.toDirections = g'.toDirections) (moving : Bool) (keycode : BitVec 8) :
    g.steer moving keycode = g'.steer moving keycode := by
  simp only [steer, hc, h]

theorem agree_posedgeFrameClk {g g' : DisplayGame} (h : g.Agree g') (reset moving : Bool)
    (keycode : BitVec 8) :
    (g.posedgeFrameClk reset moving keycode).Agree (g'.posedgeFrameClk reset moving keycode) where
  collision := h.collision
  enemyB1BulletCollision := h.enemyB1BulletCollision
  enemyB2BulletCollision := h.enemyB2BulletCollision
  shipOn := h.shipOn
  layers := h.layers
  shoot := by
    show shootNext keycode _ _ = shootNext keycode _ _
    rw [h.spaceshipBullets.exists_eq, h.shoot]
  toDirections := steer_congr h.collision h.toDirections moving keycode
  shipOrientation := directions_congr h.toDirections
  spaceshipBullets := by
    show (g.spaceshipBullets.tick _ _).Agree (g'.spaceshipBullets.tick _ _)
    rw [h.shoot, h.shipOrientation]
    exact h.spaceshipBullets.tick _ _
  one := by
    show greenEnemyBaseExample.home.scroll _ _ _ = greenEnemyBaseExample.home.scroll _ _ _
    rw [h.shipOrientation, h.collision, h.one]
  enemyHitOne := by
    show userBulletCollision _ _ = userBulletCollision _ _
    rw [h.one, userBulletCollision_congr _ h.spaceshipBullets]
  baseEnemyBullet := by
    show (g.baseEnemyBullet.tick _).Agree (g'.baseEnemyBullet.tick _)
    rw [h.one]
    exact h.baseEnemyBullet.tick _
  two := by
    show greenEnemyBaseExampleTwo.home.scroll _ _ _ = greenEnemyBaseExampleTwo.home.scroll _ _ _
    rw [h.shipOrientation, h.collision, h.two]
  enemyHitTwo := by
    show userBulletCollision _ _ = userBulletCollision _ _
    rw [h.two, userBulletCollision_congr _ h.spaceshipBullets]
  baseEnemyBullet2 := by
    show (g.baseEnemyBullet2.tick _).Agree (g'.baseEnemyBullet2.tick _)
    rw [h.two]
    exact h.baseEnemyBullet2.tick _

theorem sameFlags_posedgeFrameClk {g g' : DisplayGame} (h : g.Agree g') (hf : g.SameFlags g')
    (reset moving : Bool) (keycode : BitVec 8) :
    (g.posedgeFrameClk reset moving keycode).SameFlags
      (g'.posedgeFrameClk reset moving keycode) := by
  constructor
  · show baseHitNext _ _ _ = baseHitNext _ _ _
    rw [h.enemyHitOne, hf.one]
  · show baseHitNext _ _ _ = baseHitNext _ _ _
    rw [h.enemyHitTwo, hf.two]

theorem collisionNext_congr {g g' : DisplayGame} (h : g.Agree g') (hf : g.SameFlags g') :
    g.collisionNext = g'.collisionNext ∧
      g.enemyB1BulletCollisionNext = g'.enemyB1BulletCollisionNext ∧
      g.enemyB2BulletCollisionNext = g'.enemyB2BulletCollisionNext := by
  have hship := h.shipOn
  by_cases hon : g.shipOn = true
  · obtain ⟨h₁, h₂, h₃, h₄⟩ := h.layers hon
    simp only [collisionNext, enemyB1BulletCollisionNext, enemyB2BulletCollisionNext, h₁, h₂, h₃,
      h₄, hship, hf.one, hf.two, and_self]
  · rw [Bool.not_eq_true] at hon
    rw [hon] at hship
    simp [collisionNext, enemyB1BulletCollisionNext, enemyB2BulletCollisionNext, hon, ← hship]

theorem shipOnNext_congr {g g' : DisplayGame} (h : g.Agree g') {drawX drawY : BitVec 10}
    (ht : SameTexels drawX drawY g g') :
    g.shipOnNext drawX drawY = g'.shipOnNext drawX drawY := by
  by_cases hbox : shipBox drawX drawY = true
  · simp only [shipOnNext, (ht hbox).1, h.collision, h.shipOrientation]
  · rw [Bool.not_eq_true] at hbox
    simp [shipOnNext, hbox]

theorem agree_posedgeVgaClk {g g' : DisplayGame} (h : g.Agree g') (hf : g.SameFlags g')
    {drawX drawY : BitVec 10} (ht : SameTexels drawX drawY g g') :
    (g.posedgeVgaClk drawX drawY).Agree (g'.posedgeVgaClk drawX drawY) where
  collision := (collisionNext_congr h hf).1
  enemyB1BulletCollision := (collisionNext_congr h hf).2.1
  enemyB2BulletCollision := (collisionNext_congr h hf).2.2
  shipOn := shipOnNext_congr h ht
  layers := by
    intro hon
    obtain ⟨-, hone, htwo⟩ := ht (Bool.and_eq_true_iff.1 hon).1
    exact ⟨congrArg (enemyBaseOnNext drawX drawY) hone, congrArg (enemyBaseOnNext drawX drawY) htwo,
      h.baseEnemyBullet.enemyBaseShootBulletNext drawX drawY,
      h.baseEnemyBullet2.enemyBaseShootBulletNext drawX drawY⟩
  shoot := h.shoot
  toDirections := h.toDirections
  shipOrientation := h.shipOrientation
  spaceshipBullets := h.spaceshipBullets
  one := h.one
  enemyHitOne := h.enemyHitOne
  baseEnemyBullet := h.baseEnemyBullet
  two := h.two
  enemyHitTwo := h.enemyHitTwo
  baseEnemyBullet2 := h.baseEnemyBullet2

/-- The ROM outputs are not part of the agreement. -/
theorem Agree.read_left {g g' : DisplayGame} (h : g.Agree g') (roms : Roms)
    (drawX drawY : BitVec 10) : (g.negedgeVgaClk roms drawX drawY).Agree g' := { h with }

theorem Agree.read_right {g g' : DisplayGame} (h : g.Agree g') (roms : Roms)
    (drawX drawY : BitVec 10) : g.Agree (g'.negedgeVgaClk roms drawX drawY) := { h with }

/-- Nor are the hit flags. -/
theorem Agree.reset_left {g g' : DisplayGame} (h : g.Agree g') : g.posedgeReset.Agree g' :=
  { h with }

theorem Agree.reset_right {g g' : DisplayGame} (h : g.Agree g') : g.Agree g'.posedgeReset :=
  { h with }

/-- Once the ROMs have been read at the same pixel, their outputs agree. -/
theorem sameTexels_of_romsRead {roms : Roms} {p : Pixel} {g g' : DisplayGame} (h : g.Agree g')
    (hread : g.RomsRead roms p) (hread' : g'.RomsRead roms p) : SameTexels p.1 p.2 g g' := by
  intro _
  rw [← hread, ← hread']
  refine ⟨rfl, ?_, ?_⟩
  · show GreenEnemyBase.mk _ (roms.base _) = GreenEnemyBase.mk _ (roms.base _)
    rw [h.one]
  · show GreenEnemyBase.mk _ (roms.base _) = GreenEnemyBase.mk _ (roms.base _)
    rw [h.two]

end DisplayGame

/-! ## Controllers that show the same screen -/

namespace StateController

/-- Two controllers that agree on what decides the screens to come. -/
structure Agree (c c' : StateController) : Prop where
  reset : c.reset = c'.reset
  state : c.state = c'.state
  screen : c.state ≠ .pauseLost ∧ c.state ≠ .pauseWin
  moving : c.moving = c'.moving
  flags : c.game.SameFlags c'.game
  game : c.game.Agree c'.game

/-- The timers are read on the pause screens only. -/
theorem stateNext_congr {c c' : StateController} (h : c.Agree c') :
    c.stateNext = c'.stateNext := by
  have hlost := DisplayGame.lost_congr h.game
  have hwin := DisplayGame.win_congr h.flags
  have hnext : c.nextState = c'.nextState := by
    obtain ⟨hpauseLost, hpauseWin⟩ := h.screen
    unfold nextState
    rw [← h.state]
    cases hst : c.state with
    | pauseLost => exact absurd hst hpauseLost
    | pauseWin => exact absurd hst hpauseWin
    | _ => simp [hlost, hwin, h.moving]
  simp only [stateNext, h.reset, hlost, hwin, hnext]

theorem movingNext_congr {c c' : StateController} (h : c.Agree c') (keycode : BitVec 8) :
    c.movingNext keycode = c'.movingNext keycode := by
  simp only [movingNext, h.reset, h.moving, DisplayGame.lost_congr h.game,
    DisplayGame.win_congr h.flags]

namespace Agree

variable {c c' : StateController}

theorem posedgeVgaClk (h : c.Agree c') {drawX drawY : BitVec 10} (keycode : BitVec 8)
    (ht : DisplayGame.SameTexels drawX drawY c.game c'.game) :
    (c.posedgeVgaClk drawX drawY keycode).Agree (c'.posedgeVgaClk drawX drawY keycode) where
  reset := by rw [reset_posedgeVgaClk, reset_posedgeVgaClk, h.reset]
  state := stateNext_congr h
  screen := stateNext_screen h.screen
  moving := movingNext_congr h keycode
  flags := ⟨h.flags.one, h.flags.two⟩
  game := DisplayGame.agree_posedgeVgaClk h.game h.flags ht

theorem posedgeFrameClk (h : c.Agree c') (keycode : BitVec 8) :
    (c.posedgeFrameClk keycode).Agree (c'.posedgeFrameClk keycode) where
  reset := h.reset
  state := h.state
  screen := h.screen
  moving := h.moving
  flags := by
    show (c.game.posedgeFrameClk _ _ _).SameFlags (c'.game.posedgeFrameClk _ _ _)
    rw [h.reset, h.moving]
    exact DisplayGame.sameFlags_posedgeFrameClk h.game h.flags _ _ _
  game := by
    show (c.game.posedgeFrameClk _ _ _).Agree (c'.game.posedgeFrameClk _ _ _)
    rw [h.reset, h.moving]
    exact DisplayGame.agree_posedgeFrameClk h.game _ _ _

theorem negedgeVgaClk (h : c.Agree c') (roms : Roms) (drawX drawY : BitVec 10) :
    (c.negedgeVgaClk roms drawX drawY).Agree (c'.negedgeVgaClk roms drawX drawY) :=
  ⟨h.reset, h.state, h.screen, h.moving, ⟨h.flags.one, h.flags.two⟩,
    (h.game.read_left roms drawX drawY).read_right roms drawX drawY⟩

end Agree

end StateController

/-! ## The pulse of `Reset` -/

namespace Design

/-- `Reset` pressed, held for some board clocks, and released. -/
def resetPulse (held : List (BitVec 8)) : List ClkEvent :=
  .posedgeReset :: held.map .posedgeClk ++ [.negedgeReset]

/-- What a pulse of `Reset` clears. -/
structure Cleared (s : Design) : Prop where
  fresh : s.Fresh
  state : s.ctrl.state = .startScreen
  moving : s.ctrl.moving = false
  enemyOneBaseHit : s.ctrl.game.enemyOneBaseHit = false
  enemyTwoBaseHit : s.ctrl.game.enemyTwoBaseHit = false

/-- The design does not move while `Reset` is held. -/
theorem step_held (roms : Roms) {s : Design} (hreset : s.ctrl.reset = true)
    (hvga : s.vga = VgaController.powerUp) (keycode : BitVec 8) :
    s.step roms (.posedgeClk keycode) = s := by
  obtain ⟨vga, ctrl⟩ := s
  subst hvga
  change ctrl.reset = true at hreset
  simp only [step, vgaNext, gameEvents, hreset, if_true, run_nil]
  rfl

theorem run_held (roms : Roms) {s : Design} (hreset : s.ctrl.reset = true)
    (hvga : s.vga = VgaController.powerUp) (held : List (BitVec 8)) :
    run (step roms) s (held.map .posedgeClk) = s := by
  induction held with
  | nil => rfl
  | cons keycode held ih => rw [List.map_cons, run_cons, step_held roms hreset hvga, ih]

/-- However long `Reset` is held, its pulse does what its two edges do. -/
theorem run_resetPulse (roms : Roms) (s : Design) (held : List (BitVec 8)) :
    run (step roms) s (resetPulse held) = (s.step roms .posedgeReset).step roms .negedgeReset := by
  have hreset : (s.step roms .posedgeReset).ctrl.reset = true := by
    simp only [step, gameEvents]
    split_ifs <;> rfl
  rw [resetPulse, List.cons_append, run_cons, run_append, run_held roms hreset rfl, run_cons,
    run_nil]

/-- `Reset` also pulls the divider down, which reads the ROMs if it was high. -/
theorem ctrl_posedgeReset (roms : Roms) (s : Design) :
    (s.step roms .posedgeReset).ctrl = s.ctrl.posedgeReset ∨
      (s.step roms .posedgeReset).ctrl = s.ctrl.posedgeReset.negedgeVgaClk roms 0 0 := by
  simp only [step, gameEvents]
  split_ifs
  · exact .inr rfl
  · exact .inl rfl

theorem cleared_resetPulse (roms : Roms) (s : Design) (held : List (BitVec 8)) :
    Cleared (run (step roms) s (resetPulse held)) := by
  rw [run_resetPulse]
  have hctrl : ((s.step roms .posedgeReset).step roms .negedgeReset).ctrl =
      (s.step roms .posedgeReset).ctrl.negedgeReset := rfl
  refine ⟨⟨rfl, rfl⟩, ?_, ?_, ?_, ?_⟩ <;> rw [hctrl] <;>
    rcases ctrl_posedgeReset roms s with hreset | hreset <;> rw [hreset] <;> rfl

theorem lost_resetPulse (roms : Roms) (s : Design) (held : List (BitVec 8)) :
    (run (step roms) s (resetPulse held)).ctrl.game.lost = s.ctrl.game.lost := by
  have hgame : ((s.step roms .posedgeReset).step roms .negedgeReset).ctrl.game =
      (s.step roms .posedgeReset).ctrl.game := rfl
  rw [run_resetPulse, hgame]
  rcases ctrl_posedgeReset roms s with hreset | hreset <;> rw [hreset] <;> rfl

theorem Cleared.settled {s : Design} (h : s.Cleared) :
    s.ctrl.state ≠ .pauseLost ∧ s.ctrl.state ≠ .pauseWin := by
  rw [h.state]
  decide

/-- What survives a pulse of `Reset`. -/
theorem agree_resetPulse (roms : Roms) {s t : Design} (held held' : List (BitVec 8))
    (h : s.ctrl.game.Agree t.ctrl.game) :
    (run (step roms) s (resetPulse held)).ctrl.game.Agree
      (run (step roms) t (resetPulse held')).ctrl.game := by
  have hgame (u : Design) : ((u.step roms .posedgeReset).step roms .negedgeReset).ctrl.game =
      (u.step roms .posedgeReset).ctrl.game := rfl
  have hcleared := h.reset_left.reset_right
  rw [run_resetPulse, run_resetPulse, hgame, hgame]
  rcases ctrl_posedgeReset roms s with hs | hs <;> rcases ctrl_posedgeReset roms t with ht | ht <;>
    rw [hs, ht]
  · exact hcleared
  · exact hcleared.read_right roms 0 0
  · exact hcleared.read_left roms 0 0
  · exact (hcleared.read_left roms 0 0).read_right roms 0 0

/-! ## Two runs after `Reset` -/

/-- Two designs before pixel `j` that will show the same screens. -/
structure Related (roms : Roms) (j : Nat) (s t : Design) : Prop where
  left : s.AtPixel j
  right : t.AtPixel j
  ctrl : s.ctrl.Agree t.ctrl
  romsRead : 0 < j → s.ctrl.game.RomsRead roms s.position ∧ t.ctrl.game.RomsRead roms t.position

theorem Related.vga_eq {roms : Roms} {j : Nat} {s t : Design} (h : Related roms j s t) :
    s.vga.hc = t.vga.hc ∧ s.vga.vc = t.vga.vc :=
  ⟨BitVec.eq_of_toNat_eq (h.left.hc.trans h.right.hc.symm),
    BitVec.eq_of_toNat_eq (h.left.vc.trans h.right.vc.symm)⟩

/-- The first pixel, whose texels are from before `Reset`, is not in the box of the ship. -/
theorem Related.sameTexels {roms : Roms} {j : Nat} {s t : Design} (h : Related roms j s t) :
    DisplayGame.SameTexels s.vga.hc s.vga.vc s.ctrl.game t.ctrl.game := by
  by_cases hj : 0 < j
  · obtain ⟨hs, ht⟩ := h.romsRead hj
    have hpos : t.position = s.position := by rw [position, position, h.vga_eq.1, h.vga_eq.2]
    rw [hpos] at ht
    exact DisplayGame.sameTexels_of_romsRead h.ctrl.game hs ht
  · intro hbox
    have hrange := (h.left.ticks_of_shipBox hbox).1
    omega

theorem Related.afterPixel {roms : Roms} {j : Nat} {s t : Design} (h : Related roms j s t)
    (keycode : BitVec 8) : (s.afterPixel keycode).Agree (t.afterPixel keycode) := by
  have hticks : s.ticks = t.ticks := by
    rw [Bool.eq_iff_iff, h.left.ticks_iff, h.right.ticks_iff]
  have hpixel := h.ctrl.posedgeVgaClk keycode h.sameTexels
  unfold Design.afterPixel
  rw [← hticks, ← h.vga_eq.1, ← h.vga_eq.2]
  split_ifs
  · exact hpixel.posedgeFrameClk keycode
  · exact hpixel

theorem related_step (roms : Roms) {j : Nat} {s t : Design} (h : Related roms j s t)
    (keycode keycode' : BitVec 8) :
    Related roms (j + 1) ((s.step roms (.posedgeClk keycode)).step roms (.posedgeClk keycode'))
      ((t.step roms (.posedgeClk keycode)).step roms (.posedgeClk keycode')) where
  left := atPixel_succ roms h.left keycode keycode'
  right := atPixel_succ roms h.right keycode keycode'
  ctrl := by
    have hnext : s.vga.posedgeClkdiv.hc = t.vga.posedgeClkdiv.hc ∧
        s.vga.posedgeClkdiv.vc = t.vga.posedgeClkdiv.vc := by
      simp only [VgaController.posedgeClkdiv, VgaController.counterProc, h.vga_eq.1, h.vga_eq.2,
        and_self]
    rw [h.left.step_step, h.right.step_step]
    show ((s.afterPixel keycode).negedgeVgaClk roms _ _).Agree
      ((t.afterPixel keycode).negedgeVgaClk roms _ _)
    rw [hnext.1, hnext.2]
    exact (h.afterPixel keycode).negedgeVgaClk roms _ _
  romsRead := fun _ => ⟨h.left.romsRead_step roms keycode keycode',
    h.right.romsRead_step roms keycode keycode'⟩

theorem related_scan (roms : Roms) {s t : Design} (h : Related roms 0 s t)
    (keys : Nat → BitVec 8) (j : Nat) :
    Related roms j (scan roms s keys (2 * j)) (scan roms t keys (2 * j)) := by
  induction j with
  | zero => exact h
  | succ j ih => exact related_step roms ih (keys (2 * j)) (keys (2 * j + 1))

/-- The screens are the same between the pixels too. -/
theorem state_scan_eq (roms : Roms) {s t : Design} (h : Related roms 0 s t)
    (keys : Nat → BitVec 8) (n : Nat) :
    (scan roms s keys n).ctrl.state = (scan roms t keys n).ctrl.state := by
  rcases Nat.even_or_odd' n with ⟨j, rfl | rfl⟩
  · exact (related_scan roms h keys j).ctrl.state
  · have hj := related_scan roms h keys j
    show (step roms (scan roms s keys (2 * j)) _).ctrl.state =
      (step roms (scan roms t keys (2 * j)) _).ctrl.state
    rw [step_low roms hj.left.reset hj.left.clkdiv, step_low roms hj.right.reset hj.right.clkdiv]
    exact (hj.afterPixel _).state

end Design

open Design

/-- **`Reset` forgets** what no longer matters: if two reachable states agree on the registers
that survive `Reset` and are still read, then after a pulse of `Reset`, held for however long,
the same keys give the same sequence of screens. -/
theorem reset_forgets (roms : Roms) (es es' : List ClkEvent) (held held' : List (BitVec 8))
    (keys : Nat → BitVec 8)
    (hagree : (run (step roms) powerUp es).ctrl.game.Agree
      (run (step roms) powerUp es').ctrl.game) (n : Nat) :
    (scan roms (run (step roms) powerUp (es ++ resetPulse held)) keys n).ctrl.state =
      (scan roms (run (step roms) powerUp (es' ++ resetPulse held')) keys n).ctrl.state := by
  rw [run_append, run_append]
  generalize run (step roms) powerUp es = s at hagree ⊢
  generalize run (step roms) powerUp es' = t at hagree ⊢
  have hs := cleared_resetPulse roms s held
  have ht := cleared_resetPulse roms t held'
  refine state_scan_eq roms ⟨atPixel_zero hs.fresh, atPixel_zero ht.fresh, ?_, ?_⟩ keys n
  · exact {
      reset := hs.fresh.reset.trans ht.fresh.reset.symm
      state := hs.state.trans ht.state.symm
      screen := hs.settled
      moving := hs.moving.trans ht.moving.symm
      flags := ⟨hs.enemyOneBaseHit.trans ht.enemyOneBaseHit.symm,
        hs.enemyTwoBaseHit.trans ht.enemyTwoBaseHit.symm⟩
      game := agree_resetPulse roms held held' hagree }
  · exact fun h => absurd h (lt_irrefl 0)

/-! ## A collision that survives -/

/-- `Reset`, then one pixel with a key down: the first pixel after `Reset` brings a frame tick. -/
def press (n : Nat) (keycode : BitVec 8) : List ClkEvent :=
  (List.replicate n [.posedgeReset, .negedgeReset, .posedgeClk keycode,
    .posedgeClk keycode]).flatten

/-- Frames without a key leave nothing behind. -/
theorem reset_forgets_idle_frames :
    (scan sprites (run (step sprites) powerUp ([] ++ resetPulse [])) (fun _ => 0x1A)
        1000000).ctrl.state =
      (scan sprites (run (step sprites) powerUp (press 3 0x00 ++ resetPulse [])) (fun _ => 0x1A)
        1000000).ctrl.state := by
  refine reset_forgets sprites [] (press 3 0x00) [] [] (fun _ => 0x1A) ?_ 1000000
  exact {
    collision := by decide +kernel
    enemyB1BulletCollision := by decide +kernel
    enemyB2BulletCollision := by decide +kernel
    shipOn := by decide +kernel
    layers := by decide +kernel
    shoot := by decide +kernel
    toDirections := by decide +kernel
    shipOrientation := by decide +kernel
    spaceshipBullets := .of_eq (by decide +kernel)
    one := by decide +kernel
    enemyHitOne := by decide +kernel
    baseEnemyBullet := .of_eq (by decide +kernel)
    two := by decide +kernel
    enemyHitTwo := by decide +kernel
    baseEnemyBullet2 := .of_eq (by decide +kernel) }

/-- The first pixel after a pulse of `Reset` acts on the detector of before. -/
theorem lose_after_resetPulse (roms : Roms) {s : Design} (held : List (BitVec 8))
    (keys : Nat → BitVec 8) (hlost : s.ctrl.game.lost = true) :
    (scan roms (run (step roms) s (resetPulse held)) keys 1).ctrl.state = .lose := by
  have hfresh := (cleared_resetPulse roms s held).fresh
  have hpixel := atPixel_zero hfresh
  have hlost' := (lost_resetPulse roms s held).trans hlost
  show (step roms (run (step roms) s (resetPulse held)) _).ctrl.state = .lose
  rw [step_low roms hpixel.reset hpixel.clkdiv]
  have hnext : (run (step roms) s (resetPulse held)).ctrl.stateNext = .lose := by
    simp [StateController.stateNext, hpixel.reset, hlost']
  split_ifs <;> exact hnext

/-- Left and up until the first base is over the ship. -/
def ontoTheBase : List ClkEvent := press 53 0x04 ++ press 88 0x1A ++ resetPulse []

theorem fresh_ontoTheBase : Fresh (run (step sprites) powerUp ontoTheBase) := by
  rw [ontoTheBase, run_append]
  exact (cleared_resetPulse sprites _ []).fresh

/-- The frame that follows shows them on top of each other. -/
theorem overlap_ontoTheBase :
    (315, 238) ∈ (scan sprites (run (step sprites) powerUp ontoTheBase) (fun _ => 0x1A)
        1).ctrl.game.layout.ship sprites ∩
      (scan sprites (run (step sprites) powerUp ontoTheBase) (fun _ => 0x1A)
        1).ctrl.game.layout.hazards sprites := by
  refine ⟨⟨?_, ?_⟩, .inl ⟨?_, .inl ⟨?_, ?_⟩⟩⟩ <;> decide +kernel

/-- The raster comes to see it. -/
theorem lost_ontoTheBase : ∃ j, InFrame 0 392800 j ∧
    (gameAt sprites (fun _ => 0x1A) (run (step sprites) powerUp ontoTheBase) j).lost = true :=
  (lost_iff_overlap sprites _ fresh_ontoTheBase (by decide +kernel)
    ⟨.inl rfl, ⟨rfl, by decide⟩, by decide, le_rfl⟩).2 ⟨_, overlap_ontoTheBase⟩

/-- Once the raster has left the ship, with a base standing, a movement key sets `moving`,
whatever the detector has seen in this frame. -/
theorem Design.moving_of_key (roms : Roms) {s : Design} (h : s.Fresh) (keys : Nat → BitVec 8)
    {a b j : Nat} (hj : InFrame a b (j + 2)) (hbelow : 200000 ≤ j % 420000)
    (hflag : (scan roms s keys (2 * a + 1)).ctrl.game.enemyOneBaseHit = false)
    (hkey : StateController.IsMoveKey (keys (2 * (j + 2)))) :
    (scan roms s keys (2 * (j + 3))).ctrl.moving = true := by
  have hpixel := atPixel_scan roms h keys (j + 2)
  have hlost : (gameAt roms keys s (j + 2)).lost = false := by
    rw [← Bool.not_eq_true]
    intro hlost
    have hrange := (atPixel_scan roms h keys j).ticks_of_shipBox (shipBox_of_lost roms keys h hlost)
    omega
  have hwin : (gameAt roms keys s (j + 2)).win = false := by
    have hone : (gameAt roms keys s (j + 2)).enemyOneBaseHit = false :=
      (congrArg Layout.enemyOneBaseHit (layout_gameAt roms keys h hj)).trans hflag
    simp [DisplayGame.win, hone]
  have hnext : (scan roms s keys (2 * (j + 2))).ctrl.movingNext (keys (2 * (j + 2))) = true := by
    change (scan roms s keys (2 * (j + 2))).ctrl.game.lost = false at hlost
    change (scan roms s keys (2 * (j + 2))).ctrl.game.win = false at hwin
    simp [StateController.movingNext, hpixel.reset, hlost, hwin, hkey]
  show ((step roms (step roms (scan roms s keys (2 * (j + 2))) (.posedgeClk (keys (2 * (j + 2)))))
    (.posedgeClk (keys (2 * (j + 2) + 1)))).ctrl).moving = true
  rw [hpixel.step_step]
  unfold Design.afterPixel
  split_ifs <;> exact hnext

/-- With the key still down, that game is lost and moves again before the frame is over. -/
theorem moving_ontoTheBase : ∃ j k, j < k ∧
    (gameAt sprites (fun _ => 0x1A) (run (step sprites) powerUp ontoTheBase) j).lost = true ∧
    (scan sprites (run (step sprites) powerUp ontoTheBase) (fun _ => 0x1A)
      (2 * k)).ctrl.moving = true := by
  obtain ⟨j, hj, hlost⟩ := lost_ontoTheBase
  have hflag : (scan sprites (run (step sprites) powerUp ontoTheBase) (fun _ => 0x1A)
      (2 * 0 + 1)).ctrl.game.enemyOneBaseHit = false := by decide +kernel
  have hmoving := moving_of_key sprites fresh_ontoTheBase (fun _ => 0x1A)
    (a := 0) (b := 392800) (j := 392798) ⟨.inl rfl, ⟨rfl, by decide⟩, by decide, by decide⟩
    (by decide) hflag (.inr (.inr (.inr rfl)))
  exact ⟨j, _, by have := hj.before; omega, hlost, hmoving⟩

/-- **`Reset` remembers** a collision: pressed right after power-up it leads to the start screen,
and pressed while the detector is high it leads to the losing screen, on the same keys. -/
theorem reset_remembers :
    ¬ ∀ (es es' : List ClkEvent) (held held' : List (BitVec 8)) (keys : Nat → BitVec 8) (n : Nat),
      (scan sprites (run (step sprites) powerUp (es ++ resetPulse held)) keys n).ctrl.state =
        (scan sprites (run (step sprites) powerUp
          (es' ++ resetPulse held')) keys n).ctrl.state := by
  intro h
  obtain ⟨j, -, hlost⟩ := lost_ontoTheBase
  have hscan : scan sprites (run (step sprites) powerUp ontoTheBase) (fun _ => 0x1A) (2 * j) =
      run (step sprites) powerUp
        (ontoTheBase ++ (List.range (2 * j)).map fun _ => .posedgeClk 0x1A) := by
    rw [scan, trace_eq_run, run_append]
  have hstart : (scan sprites (run (step sprites) powerUp ([] ++ resetPulse []))
      (fun _ => 0) 1).ctrl.state = .startScreen := by decide +kernel
  have heq := h [] (ontoTheBase ++ (List.range (2 * j)).map fun _ => .posedgeClk 0x1A) [] []
    (fun _ => 0) 1
  rw [hstart, run_append _ _ (ontoTheBase ++ _), ← hscan] at heq
  rw [lose_after_resetPulse sprites [] _ hlost] at heq
  cases heq

end Bosconian
