import Bosconian.EventMachine
import Bosconian.Hdl.Words
import Bosconian.Hdl.StateController

/-!
# The scene as one body

The background and the two bases scroll in three separately written blocks. This file runs the
three side by side on a shared direction and a shared `collided` wire.

* `scene_rigid_iff` — the bases keep their place on the background in exactly the runs in
  which no frame finds `collided` high while a base moves or the background is off its origin.
* `background_seamless_iff` — a step shifts the picture by one pixel on the 640 × 480 torus
  exactly when the 10-bit offset does not wrap.

`scene_run` finds this machine in every run of the game.

The base blocks write the freeze before their `case`, so it freezes nothing; the offsets wrap
at 1024, which is a multiple of neither 640 nor 480.
-/

namespace Bosconian

open EventMachine

/-- The scroll registers of the background and of the two bases. -/
structure Scene where
  bgk : Background
  one : Corner
  two : Corner
deriving DecidableEq, Repr

/-- What the scroll blocks are sensitive to. -/
inductive SceneEvent
  | posedgeFrameClk (direction : BitVec 4) (collided : Bool)
  | posedgeCollided (direction : BitVec 4)
deriving DecidableEq, Repr

namespace Scene

def powerUp : Scene :=
  ⟨Background.powerUp, greenEnemyBaseExample.home, greenEnemyBaseExampleTwo.home⟩

/-- The bases are not sensitive to `collided`. -/
def step (s : Scene) : SceneEvent → Scene
  | .posedgeFrameClk direction collided =>
    { bgk := s.bgk.scroll direction collided
      one := greenEnemyBaseExample.home.scroll direction collided s.one
      two := greenEnemyBaseExampleTwo.home.scroll direction collided s.two }
  | .posedgeCollided direction => { s with bgk := s.bgk.scroll direction true }

end Scene

/-! ## The scene inside the game -/

/-- The scroll registers of the game. -/
def DisplayGame.scene (s : DisplayGame) : Scene :=
  ⟨s.bgk, s.enemyBaseOne.toCorner, s.enemyBaseTwo.toCorner⟩

/-- The edges that an event of the game makes at the scroll blocks. -/
def StateController.sceneEvents (s : StateController) : GameEvent → List SceneEvent
  | .posedgeFrameClk _ => [.posedgeFrameClk s.game.shipOrientation s.game.collision]
  | .posedgeVgaClk .. =>
    if !s.game.collision && s.game.collisionNext then [.posedgeCollided s.game.shipOrientation]
    else []
  | _ => []

theorem scene_step (roms : Roms) (s : StateController) (e : GameEvent) :
    (s.step roms e).game.scene = run Scene.step s.game.scene (s.sceneEvents e) := by
  cases e with
  | posedgeVgaClk drawX drawY keycode =>
    show Scene.mk (s.game.bgkAfterEdge s.game.collision s.game.collisionNext) _ _ = _
    simp only [StateController.sceneEvents, DisplayGame.bgkAfterEdge]
    split_ifs with hrise
    · rw [Bool.and_eq_true] at hrise
      rw [hrise.2]
      rfl
    · rfl
  | _ => rfl

/-- In every run of the game the scene moves as the edges of the run tell it. -/
theorem scene_run (roms : Roms) (s : StateController) (es : List GameEvent) :
    (run (StateController.step roms) s es).game.scene =
      run Scene.step s.game.scene
        (emit (StateController.step roms) StateController.sceneEvents s es) :=
  run_emit (f := fun t : StateController => t.game.scene) (scene_step roms) s es

/-! ## Rigidity -/

namespace Scene

/-- Each base corner plus the background offset is the place where the base started. -/
structure Rigid (s : Scene) : Prop where
  oneX : (s.one.tlCornerX.toNat + s.bgk.xOffset.toNat) % 1024 = 200
  oneY : (s.one.tlCornerY.toNat + s.bgk.yOffset.toNat) % 1024 = 100
  twoX : (s.two.tlCornerX.toNat + s.bgk.xOffset.toNat) % 1024 = 400
  twoY : (s.two.tlCornerY.toNat + s.bgk.yOffset.toNat) % 1024 = 300

/-- A frame with `collided` low, or one that finds the background at its origin and sends the
bases home. -/
def Harmless (s : Scene) : SceneEvent → Prop
  | .posedgeFrameClk direction collided =>
    collided = true → ¬ IsStep direction ∧ s.bgk = Background.powerUp
  | .posedgeCollided _ => True

/-- Rigidity in the arithmetic of the registers. -/
theorem rigid_iff (s : Scene) :
    s.Rigid ↔ s.one.tlCornerX + s.bgk.xOffset = 200 ∧ s.one.tlCornerY + s.bgk.yOffset = 100 ∧
      s.two.tlCornerX + s.bgk.xOffset = 400 ∧ s.two.tlCornerY + s.bgk.yOffset = 300 := by
  simp only [← BitVec.toNat_inj, BitVec.toNat_add]
  exact ⟨fun ⟨h₁, h₂, h₃, h₄⟩ => ⟨h₁, h₂, h₃, h₄⟩, fun ⟨h₁, h₂, h₃, h₄⟩ => ⟨h₁, h₂, h₃, h₄⟩⟩

theorem rigid_powerUp : powerUp.Rigid := by
  rw [rigid_iff]
  decide

/-- What one block adds to a coordinate the other takes away. -/
theorem rigid_step {s : Scene} {e : SceneEvent} (h : s.Rigid) (he : s.Harmless e) :
    (s.step e).Rigid := by
  cases e with
  | posedgeCollided direction => exact h
  | posedgeFrameClk direction collided =>
    cases collided with
    | false =>
      rw [rigid_iff] at h ⊢
      obtain ⟨h₁, h₂, h₃, h₄⟩ := h
      rcases direction_cases direction with rfl | rfl | rfl | rfl | hdir
      · exact ⟨h₁, (Words.add_one_add_sub_one _ _).trans h₂, h₃,
          (Words.add_one_add_sub_one _ _).trans h₄⟩
      · exact ⟨h₁, (Words.sub_one_add_add_one _ _).trans h₂, h₃,
          (Words.sub_one_add_add_one _ _).trans h₄⟩
      · exact ⟨(Words.sub_one_add_add_one _ _).trans h₁, h₂,
          (Words.sub_one_add_add_one _ _).trans h₃, h₄⟩
      · exact ⟨(Words.add_one_add_sub_one _ _).trans h₁, h₂,
          (Words.add_one_add_sub_one _ _).trans h₃, h₄⟩
      · simp only [step, Background.scroll_of_not_isStep hdir, Corner.scroll_of_not_isStep hdir]
        decide
    | true =>
      obtain ⟨hdir, hbgk⟩ := he rfl
      simp only [step, Background.scroll_collided, hbgk, Corner.scroll_collided,
        Corner.scroll_of_not_isStep hdir]
      exact rigid_powerUp

/-- The offset of a background that leaves a corner where it started. -/
theorem eq_zero_of_add_mod {a : Nat} {x : BitVec 10} (h : (a + x.toNat) % 1024 = a) :
    x = 0 := by
  apply BitVec.eq_of_toNat_eq
  show x.toNat = 0
  omega

/-- Under a collision the background stands still. A base that moves then leaves its place,
and one that goes home is in its place only if the background was at its origin. -/
theorem harmless_of_rigid_step {s : Scene} {e : SceneEvent} (h : s.Rigid)
    (h' : (s.step e).Rigid) : s.Harmless e := by
  cases e with
  | posedgeCollided direction => trivial
  | posedgeFrameClk direction collided =>
    rintro rfl
    obtain ⟨hx, hy, -, -⟩ := h
    obtain ⟨hx', hy', -, -⟩ := h'
    have hone : (1 : BitVec 10).toNat = 1 := rfl
    rcases direction_cases direction with rfl | rfl | rfl | rfl | hdir
    · change ((s.one.tlCornerY + 1).toNat + s.bgk.yOffset.toNat) % 1024 = 100 at hy'
      rw [BitVec.toNat_add, hone] at hy'
      omega
    · change ((s.one.tlCornerY - 1).toNat + s.bgk.yOffset.toNat) % 1024 = 100 at hy'
      rw [BitVec.toNat_sub, hone] at hy'
      omega
    · change ((s.one.tlCornerX - 1).toNat + s.bgk.xOffset.toNat) % 1024 = 200 at hx'
      rw [BitVec.toNat_sub, hone] at hx'
      omega
    · change ((s.one.tlCornerX + 1).toNat + s.bgk.xOffset.toNat) % 1024 = 200 at hx'
      rw [BitVec.toNat_add, hone] at hx'
      omega
    · simp only [step, Background.scroll_collided, Corner.scroll_collided,
        Corner.scroll_of_not_isStep hdir] at hx' hy'
      exact ⟨hdir, Background.ext (eq_zero_of_add_mod hx') (eq_zero_of_add_mod hy')⟩

end Scene

/-- **Rigidity.** Background and bases move together throughout a run exactly when every frame
that finds `collided` high takes no direction step and finds the background at its origin. -/
theorem scene_rigid_iff (es : List SceneEvent) :
    Always Scene.step Scene.Rigid Scene.powerUp es ↔
      EachStep Scene.step Scene.Harmless Scene.powerUp es :=
  always_iff_eachStep (J := fun _ => True) (fun _ _ h => h)
    (fun _ _ _ h he => Scene.rigid_step h he)
    (fun _ _ _ h h' => Scene.harmless_of_rigid_step h h') trivial Scene.rigid_powerUp es

/-- One frame heading up under a collision: the bases move and the background does not. -/
theorem scene_not_rigid :
    ¬ Always Scene.step Scene.Rigid Scene.powerUp [.posedgeFrameClk dirUp true] := by
  intro h
  have hy := (h [.posedgeFrameClk dirUp true] List.prefix_rfl).oneY
  revert hy
  decide

/-! ## The seam of the background -/

/-- The four headings of the ship that scroll the scene. -/
inductive Heading
  | up
  | down
  | right
  | left
deriving DecidableEq, Repr

namespace Heading

def code : Heading → BitVec 4
  | .up => dirUp
  | .down => dirDown
  | .right => dirRight
  | .left => dirLeft

/-- The column of the 640 × 480 torus that a step brings to column `x`. -/
def column (x : Nat) : Heading → Nat
  | .right => (x + 1) % 640
  | .left => (x + 639) % 640
  | _ => x

/-- The line that a step brings to line `y`. -/
def line (y : Nat) : Heading → Nat
  | .down => (y + 1) % 480
  | .up => (y + 479) % 480
  | _ => y

theorem column_lt {x : Nat} (hx : x < 640) (h : Heading) : h.column x < 640 := by
  cases h <;> simp only [column] <;> omega

theorem line_lt {y : Nat} (hy : y < 480) (h : Heading) : h.line y < 480 := by
  cases h <;> simp only [line] <;> omega

end Heading

namespace Background

/-- The picture addressed by `b'` is that of `b` shifted by one pixel. -/
def Shifted (h : Heading) (b b' : Background) : Prop :=
  ∀ x y : Nat, x < 640 → y < 480 →
    b'.romAddress (BitVec.ofNat 10 x) (BitVec.ofNat 10 y) =
      b.romAddress (BitVec.ofNat 10 (h.column x)) (BitVec.ofNat 10 (h.line y))

/-- The offset that a step changes stays within its ten bits. -/
def NoWrap (b : Background) : Heading → Prop
  | .up => b.yOffset ≠ 0
  | .down => b.yOffset ≠ 1023
  | .right => b.xOffset ≠ 1023
  | .left => b.xOffset ≠ 0

/-- At 32 bits the sums do not wrap, and the address fits in its 19 bits. -/
theorem toNat_romAddress (b : Background) {x y : Nat} (hx : x < 1024) (hy : y < 1024) :
    (b.romAddress (BitVec.ofNat 10 x) (BitVec.ofNat 10 y)).toNat =
      (x + b.xOffset.toNat) % 640 + (y + b.yOffset.toNat) % 480 * 640 := by
  have hxo := b.xOffset.isLt
  have hyo := b.yOffset.isLt
  have h640 : (640 : BitVec 32).toNat = 640 := rfl
  have h480 : (480 : BitVec 32).toNat = 480 := rfl
  simp only [romAddress, BitVec.toNat_setWidth, BitVec.toNat_add, BitVec.toNat_mul,
    BitVec.toNat_umod, BitVec.toNat_ofNat, h640, h480]
  have hxm := Nat.mod_lt (x + b.xOffset.toNat) (show 0 < 640 by decide)
  have hym := Nat.mod_lt (y + b.yOffset.toNat) (show 0 < 480 by decide)
  simp (disch := omega) only [Nat.mod_eq_of_lt]

/-- An address gives back its column and its line. -/
theorem romAddress_eq_iff (b b' : Background) {x y x' y' : Nat} (hx : x < 640) (hy : y < 480)
    (hx' : x' < 640) (hy' : y' < 480) :
    b'.romAddress (BitVec.ofNat 10 x) (BitVec.ofNat 10 y) =
        b.romAddress (BitVec.ofNat 10 x') (BitVec.ofNat 10 y') ↔
      (x + b'.xOffset.toNat) % 640 = (x' + b.xOffset.toNat) % 640 ∧
        (y + b'.yOffset.toNat) % 480 = (y' + b.yOffset.toNat) % 480 := by
  rw [← BitVec.toNat_inj, toNat_romAddress b' (by omega) (by omega),
    toNat_romAddress b (by omega) (by omega)]
  omega

/-- The shift in the arithmetic of the two axes. -/
theorem shifted_iff (h : Heading) (b b' : Background) :
    b.Shifted h b' ↔ ∀ x y : Nat, x < 640 → y < 480 →
      (x + b'.xOffset.toNat) % 640 = (h.column x + b.xOffset.toNat) % 640 ∧
        (y + b'.yOffset.toNat) % 480 = (h.line y + b.yOffset.toNat) % 480 := by
  have hiff (x y : Nat) (hx : x < 640) (hy : y < 480) :=
    romAddress_eq_iff b b' hx hy (h.column_lt hx) (h.line_lt hy)
  exact ⟨fun hs x y hx hy => (hiff x y hx hy).1 (hs x y hx hy),
    fun hs x y hx hy => (hiff x y hx hy).2 (hs x y hx hy)⟩

/-- The offsets after a step, wrapping at 1024. -/
theorem toNat_scroll (h : Heading) (b : Background) :
    ((b.scroll h.code false).xOffset.toNat, (b.scroll h.code false).yOffset.toNat) =
      match h with
      | .up => (b.xOffset.toNat, (1023 + b.yOffset.toNat) % 1024)
      | .down => (b.xOffset.toNat, (b.yOffset.toNat + 1) % 1024)
      | .right => ((b.xOffset.toNat + 1) % 1024, b.yOffset.toNat)
      | .left => ((1023 + b.xOffset.toNat) % 1024, b.yOffset.toNat) := by
  cases h with
  | up => exact congrArg (Prod.mk _) (BitVec.toNat_sub b.yOffset 1)
  | down => exact congrArg (Prod.mk _) (BitVec.toNat_add b.yOffset 1)
  | right => exact congrArg (fun x => Prod.mk x _) (BitVec.toNat_add b.xOffset 1)
  | left => exact congrArg (fun x => Prod.mk x _) (BitVec.toNat_sub b.xOffset 1)

theorem noWrap_iff (h : Heading) (b : Background) :
    b.NoWrap h ↔
      match h with
      | .up => b.yOffset.toNat ≠ 0
      | .down => b.yOffset.toNat ≠ 1023
      | .right => b.xOffset.toNat ≠ 1023
      | .left => b.xOffset.toNat ≠ 0 := by
  cases h <;> exact not_congr BitVec.toNat_inj.symm

/-- A step shifts the whole picture by one pixel exactly when the stepped offset does not wrap:
1024 is a multiple of neither 640 nor 480. -/
theorem shifted_scroll_iff (h : Heading) (b : Background) :
    b.Shifted h (b.scroll h.code false) ↔ b.NoWrap h := by
  have hx := b.xOffset.isLt
  have hy := b.yOffset.isLt
  obtain ⟨hx', hy'⟩ := Prod.mk.inj (toNat_scroll h b)
  rw [shifted_iff, noWrap_iff, hx', hy']
  constructor
  · -- the pixel at the origin already sees the wrap
    intro hs
    have h₀ := hs 0 0 (by decide) (by decide)
    cases h <;> simp only [Heading.column, Heading.line] at h₀ ⊢ <;> omega
  · intro hn x y hxl hyl
    cases h <;> simp only [Heading.column, Heading.line, true_and, and_true] at hn ⊢ <;> omega

end Background

namespace Scene

/-- What a frame with `collided` low does to the picture when the ship has a heading. -/
def Seamless (s : Scene) : SceneEvent → Prop
  | .posedgeFrameClk direction false =>
    ∀ h : Heading, direction = h.code →
      s.bgk.Shifted h (s.step (.posedgeFrameClk direction false)).bgk
  | _ => True

/-- No such frame makes the offset it steps wrap. -/
def StaysInRange (s : Scene) : SceneEvent → Prop
  | .posedgeFrameClk direction false => ∀ h : Heading, direction = h.code → s.bgk.NoWrap h
  | _ => True

theorem seamless_iff (s : Scene) (e : SceneEvent) : s.Seamless e ↔ s.StaysInRange e := by
  match e with
  | .posedgeFrameClk direction false =>
    refine forall_congr' fun h => forall_congr' fun hdir => ?_
    subst hdir
    exact s.bgk.shifted_scroll_iff h
  | .posedgeFrameClk _ true => exact Iff.rfl
  | .posedgeCollided _ => exact Iff.rfl

end Scene

/-- **The seam.** Along a run every step of the background shifts the picture by one pixel on
the 640 × 480 torus exactly when no step takes an offset past either end of its ten bits. -/
theorem background_seamless_iff (es : List SceneEvent) :
    EachStep Scene.step Scene.Seamless Scene.powerUp es ↔
      EachStep Scene.step Scene.StaysInRange Scene.powerUp es :=
  eachStep_congr (J := fun _ => True) (fun _ _ h => h) (fun s e _ => s.seamless_iff e) trivial es

/-- The first step to the left takes the offset from 0 to 1023, 383 columns into the picture. -/
theorem background_not_seamless :
    ¬ EachStep Scene.step Scene.Seamless Scene.powerUp [.posedgeFrameClk dirLeft false] := by
  intro h
  have hs := h [] _ List.prefix_rfl .left rfl 0 0 (by decide) (by decide)
  revert hs
  decide

end Bosconian
