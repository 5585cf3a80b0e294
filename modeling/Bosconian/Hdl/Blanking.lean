import Bosconian.Hdl.Screens
import Bosconian.Hdl.Gun
import Bosconian.Hdl.EnemyShots

/-!
# The pins in the sync pulses

A monitor takes the level of the pins during a sync pulse for black. The pictures, the background
and the bases are blanked there. The ship and the shots are not: they are dark because they stay
on the screen, the shots of the ship by their range, and those of a base because it fires only
close to the ship and moves by a line a frame.

* `onScreen_step` — nothing that is not blanked leaves the screen.
* `dark_in_sync` — the pins are black in both pulses.
-/

namespace Bosconian

open EventMachine Words

/-! ## The shots stay on the screen -/

/-- The line is within `r` of the middle of the screen. -/
def NearMiddle (r : Nat) (y : BitVec 10) : Prop := y.toNat ≤ 240 + r ∧ 240 ≤ y.toNat + r

/-- A base moves by a line a frame, or is put back. -/
theorem Corner.centerY_scroll (home : Corner) (direction : BitVec 4) (collided : Bool)
    (c : Corner) :
    (home.scroll direction collided c).centerY = c.centerY + 1 ∨
      (home.scroll direction collided c).centerY = c.centerY - 1 ∨
      (home.scroll direction collided c).centerY = c.centerY ∨
      (home.scroll direction collided c).centerY = home.centerY := by
  have hup : c.tlCornerY + 1 + 36 = c.tlCornerY + 36 + 1 := by
    rw [BitVec.add_assoc, BitVec.add_comm 1, ← BitVec.add_assoc]
  have hdown : c.tlCornerY - 1 + 36 = c.tlCornerY + 36 - 1 := by bv_omega
  unfold scroll centerY
  split_ifs
  · exact .inl hup
  · exact .inr (.inl hdown)
  · exact .inr (.inr (.inl rfl))
  · exact .inr (.inr (.inl rfl))
  · exact .inr (.inr (.inr rfl))
  · exact .inl hup
  · exact .inr (.inl hdown)
  · exact .inr (.inr (.inl rfl))
  · exact .inr (.inr (.inl rfl))
  · exact .inr (.inr (.inr rfl))

theorem nearMiddle_scroll {r : Nat} (hr : r < 100) {home : Corner}
    (hhome : NearMiddle 104 home.centerY) (direction : BitVec 4) (collided : Bool) {c : Corner}
    (hc : NearMiddle (104 + r) c.centerY) :
    NearMiddle (104 + r + 1) (home.scroll direction collided c).centerY := by
  unfold NearMiddle at *
  have hone : (1 : BitVec 10).toNat = 1 := rfl
  rcases home.centerY_scroll direction collided c with h | h | h | h <;> rw [h]
  · rw [BitVec.toNat_add, hone]
    omega
  · rw [BitVec.toNat_sub, hone]
    omega
  · omega
  · omega

theorem nearMiddle_one : NearMiddle 104 greenEnemyBaseExample.home.centerY := by
  unfold NearMiddle
  decide

theorem nearMiddle_two : NearMiddle 104 greenEnemyBaseExampleTwo.home.centerY := by
  unfold NearMiddle
  decide

namespace EnemyBullet

/-- The bullet of a base flies on its line, or on the one it was on before. -/
structure Tracks (e : EnemyBullet) (c : Corner) : Prop where
  sound : e.Sound
  near : e.shootBullet = true →
    ∃ x₀ n, e.Flying x₀ n ∧ NearMiddle (104 + n) e.enemyBulletY ∧
      NearMiddle (104 + n + 1) c.centerY

theorem enemyBulletY_step {e : EnemyBullet} (h : e.shootBullet = true) (c : Corner) :
    (e.step c).enemyBulletY = c.centerY := by
  rw [step, tick, if_neg (by simp [h])]
  split_ifs <;> rfl

theorem tracks_step {home : Corner} (hhome : NearMiddle 104 home.centerY) {e : EnemyBullet}
    {c : Corner} (h : e.Tracks c) (direction : BitVec 4) (collided : Bool) :
    (e.step c).Tracks (home.scroll direction collided c) := by
  refine ⟨sound_step e c h.sound, ?_⟩
  intro hnext
  by_cases hshoot : e.shootBullet = true
  · obtain ⟨x₀, n, hflying, -, hnear⟩ := h.near hshoot
    have hlater := hflying.next h.sound.direction hnext
    have hage := hlater.age_le
    refine ⟨x₀, n + 1, hlater, ?_, nearMiddle_scroll (by omega) hhome direction collided hnear⟩
    rw [enemyBulletY_step hshoot]
    exact hnear
  · have hfires : e.Fires c := ⟨by simpa using hshoot, hnext⟩
    obtain ⟨hrange, hstep⟩ := hfires.cases
    have hy := ((inRange_iff c).1 hrange).2
    have hnear : NearMiddle (104 + 0) c.centerY := by
      unfold NearMiddle
      omega
    refine ⟨c.centerX.toNat, 0, h.sound.flying_of_fires hfires, ?_,
      nearMiddle_scroll (by omega) hhome direction collided hnear⟩
    rw [hstep]
    exact hnear

end EnemyBullet

/-! ## What is drawn without blanking -/

/-- To the right of the screen or below it. -/
def Beyond (p : Pixel) : Prop := 640 ≤ p.1.toNat ∨ 480 ≤ p.2.toNat

namespace DisplayGame

/-- The gun and the two bullets are in one of their own states. -/
structure OnScreen (s : DisplayGame) : Prop where
  gun : Gun.Sound ⟨s.shoot, s.spaceshipBullets⟩
  one : s.baseEnemyBullet.Tracks s.enemyBaseOne.toCorner
  two : s.baseEnemyBullet2.Tracks s.enemyBaseTwo.toCorner

theorem onScreen_powerUp : powerUp.OnScreen :=
  ⟨Gun.sound_powerUp, ⟨EnemyBullet.sound_powerUp, nofun⟩, ⟨EnemyBullet.sound_powerUp, nofun⟩⟩

theorem onScreen_posedgeFrameClk {s : DisplayGame} (h : s.OnScreen) (reset moving : Bool)
    (keycode : BitVec 8) : (s.posedgeFrameClk reset moving keycode).OnScreen where
  gun := Gun.sound_step _ ⟨keycode, s.shipOrientation⟩ h.gun
  one := EnemyBullet.tracks_step nearMiddle_one h.one s.shipOrientation s.collision
  two := EnemyBullet.tracks_step nearMiddle_two h.two s.shipOrientation s.collision

theorem shipOnNext_of_beyond (s : DisplayGame) {p : Pixel} (hp : Beyond p) :
    s.shipOnNext p.1 p.2 = false := by
  have hbox : ¬ shipBox p.1 p.2 = true := by
    rw [shipBox_iff]
    unfold Beyond at hp
    omega
  rw [shipOnNext, Bool.eq_false_of_not_eq_true hbox]
  rfl

/-- A bullet on the screen and its two neighbours. -/
theorem bulletPixel_of_beyond {x y : BitVec 10} (hx : x.toNat < 600) (hy : y.toNat < 470)
    {p : Pixel} (hp : Beyond p) : bulletPixel x y p.1 p.2 = false := by
  have hone : (1 : BitVec 32).toNat = 1 := rfl
  rw [← Bool.not_eq_true, bulletPixel, Bool.and_eq_true, inWindow_iff (by decide) (by decide),
    inWindow_iff (by decide) (by decide), hone]
  unfold Beyond at hp
  omega

theorem bulletOnNext_of_beyond {s : DisplayGame} (h : s.OnScreen) {p : Pixel} (hp : Beyond p) :
    s.bulletOnNext p.1 p.2 = false := by
  rw [bulletOnNext]
  cases hexists : s.spaceshipBullets.exists_ with
  | false => rw [Bool.and_false]
  | true =>
    have hcx : Bullet.shipCenterX.toNat = 320 := rfl
    have hcy : Bullet.shipCenterY.toNat = 240 := rfl
    have hbounds := h.gun.inBounds.flying hexists
    have hbeside : s.spaceshipBullets.Beside 118 59 ∨ s.spaceshipBullets.Beside 59 118 := by
      cases hmode : s.spaceshipBullets.shootLeftRight with
      | true => exact .inl (hbounds.leftRight hmode)
      | false => exact .inr (hbounds.upDown hmode)
    unfold Bullet.Beside Bullet.Within at hbeside
    rw [bulletPixel_of_beyond (by omega) (by omega) hp,
      bulletPixel_of_beyond (by omega) (by omega) hp]
    rfl

theorem enemyBaseShootBulletNext_of_beyond {e : EnemyBullet} {c : Corner} (h : e.Tracks c)
    {p : Pixel} (hp : Beyond p) : enemyBaseShootBulletNext p.1 p.2 e = false := by
  rw [enemyBaseShootBulletNext]
  cases hshow : e.showBullet with
  | false => rw [Bool.false_and]
  | true =>
    obtain ⟨x₀, n, hflying, hnear, -⟩ := h.near (h.sound.shown.symm.trans hshow)
    have hinside := hflying.inside
    have hage := hflying.age_le
    unfold NearMiddle at hnear
    rw [bulletPixel_of_beyond (by omega) (by omega) hp]
    rfl

end DisplayGame

theorem StateController.onScreen_step (roms : Roms) {s : StateController} (h : s.game.OnScreen)
    (e : GameEvent) : (s.step roms e).game.OnScreen := by
  cases e with
  | posedgeFrameClk keycode => exact DisplayGame.onScreen_posedgeFrameClk h s.reset s.moving keycode
  | posedgeVgaClk drawX drawY keycode => exact ⟨h.gun, h.one, h.two⟩
  | negedgeVgaClk drawX drawY => exact ⟨h.gun, h.one, h.two⟩
  | posedgeReset => exact ⟨h.gun, h.one, h.two⟩
  | negedgeReset => exact h

/-! ## Dark registers -/

namespace Video

/-- No flag is up and no colour is lit but that of the game. -/
structure Unlit (v : Video) : Prop where
  shipOn : v.ctrl.game.shipOn = false
  bulletOn : v.ctrl.game.bulletOn = false
  one : v.ctrl.game.enemyBaseOneShootBullet = false
  two : v.ctrl.game.enemyBaseTwoShootBullet = false
  base : v.colors.base = .black
  base2 : v.colors.base2 = .black
  scroll : v.colors.scroll = .black
  start : v.startScreen.rgb = .black
  win : v.winScreen.rgb = .black
  lose : v.loseScreen.rgb = .black

/-- And that of the game is not. -/
structure Dark (v : Video) : Prop extends Unlit v where
  rgb : v.colors.rgb = .black

theorem blank_of_beyond {p : Pixel} (hp : Beyond p) : Display.blank p = false := by
  rw [← Bool.not_eq_true, Display.blank_iff]
  unfold Beyond at hp
  omega

/-- One pixel beyond the screen puts the flags out, -/
theorem unlit_posedgeVgaClk (roms : AllRoms) {v : Video} (h : v.ctrl.game.OnScreen) {p : Pixel}
    (hp : Beyond p) (keycode : BitVec 8) :
    (v.step roms (.posedgeVgaClk p.1 p.2 keycode)).Unlit := by
  have hblank : Display.blank (p.1, p.2) = false := blank_of_beyond hp
  refine ⟨DisplayGame.shipOnNext_of_beyond _ hp, DisplayGame.bulletOnNext_of_beyond h hp,
    DisplayGame.enemyBaseShootBulletNext_of_beyond h.one hp,
    DisplayGame.enemyBaseShootBulletNext_of_beyond h.two hp, ?_, ?_, ?_, ?_, ?_, ?_⟩
  · simp [step, Display.posedgeVgaClk, hblank]
  · simp [step, Display.posedgeVgaClk, hblank]
  · simp only [step, Display.posedgeVgaClk, hblank]
    rfl
  · simp [step, startExample.posedgeVgaClk, Poster.posedgeVgaClk, hblank]
  · simp [step, winExample.posedgeVgaClk, Poster.posedgeVgaClk, hblank]
  · simp [step, loseExample.posedgeVgaClk, Poster.posedgeVgaClk, hblank]

/-- and the next one the colour of the game. -/
theorem dark_posedgeVgaClk (roms : AllRoms) {v : Video} (hscreen : v.ctrl.game.OnScreen)
    (h : v.Unlit) {p : Pixel} (hp : Beyond p) (keycode : BitVec 8) :
    (v.step roms (.posedgeVgaClk p.1 p.2 keycode)).Dark := by
  refine ⟨unlit_posedgeVgaClk roms hscreen hp keycode, ?_⟩
  have hwiden : Rgb.black.widen = Rgb.black := rfl
  show v.display.rgbDisplay = .black
  rw [Display.rgbDisplay]
  simp [display, h.shipOn, h.bulletOn, h.one, h.two, h.base, h.base2, h.scroll, hwiden]

/-- Only the pixel clock lights them. -/
theorem Unlit.step (roms : AllRoms) {v : Video} (h : v.Unlit) {e : GameEvent}
    (he : GameEvent.isPixel e = false) : (v.step roms e).Unlit := by
  obtain ⟨hship, hbullet, hone, htwo, hbase, hbase2, hscroll, hstart, hwin, hlose⟩ := h
  cases e with
  | posedgeVgaClk drawX drawY keycode => cases he
  | _ => exact ⟨hship, hbullet, hone, htwo, hbase, hbase2, hscroll, hstart, hwin, hlose⟩

theorem Dark.step (roms : AllRoms) {v : Video} (h : v.Dark) {e : GameEvent}
    (he : GameEvent.isPixel e = false) : (v.step roms e).Dark := by
  refine ⟨h.toUnlit.step roms he, ?_⟩
  have hrgb := h.rgb
  cases e with
  | posedgeVgaClk drawX drawY keycode => cases he
  | _ => exact hrgb

theorem rgb_of_dark {v : Video} (h : v.Dark) : v.rgb.low = .black := by
  rw [rgb]
  cases v.ctrl.state with
  | startScreen => simp [h.start]
  | win => simp [h.win]
  | lose => simp [h.lose]
  | play => rw [h.rgb]; rfl
  | pauseLost => rw [h.rgb]; rfl
  | pauseWin => rfl

end Video

/-! ## Along the raster -/

/-- Counting on, the raster is right of a column or below a line only from where it was before. -/
theorem VgaController.le_of_counterProc {v : VgaController} {x y : Nat}
    (h : x + 1 ≤ v.counterProc.1.toNat ∨ y + 1 ≤ v.counterProc.2.toNat) :
    x ≤ v.hc.toNat ∨ y ≤ v.vc.toNat := by
  have hright : (v.hc + 1).toNat = (v.hc.toNat + 1) % 1024 := BitVec.toNat_add v.hc 1
  have hdown : (v.vc + 1).toNat = (v.vc.toNat + 1) % 1024 := BitVec.toNat_add v.vc 1
  have hzero : (0 : BitVec 10).toNat = 0 := rfl
  unfold counterProc at h
  split_ifs at h <;> simp only [hzero, hright, hdown] at h <;> omega

namespace Chip

/-- The registers have been dark for as long as the raster has been beyond the screen. -/
structure Dimmed (c : Chip) : Prop where
  onScreen : c.video.ctrl.game.OnScreen
  unlit : 641 ≤ c.vga.hc.toNat ∨ 481 ≤ c.vga.vc.toNat → c.video.Unlit
  dark : 642 ≤ c.vga.hc.toNat ∨ 482 ≤ c.vga.vc.toNat → c.video.Dark

theorem onScreen_step (roms : AllRoms) {c : Chip} (h : c.video.ctrl.game.OnScreen)
    (e : ClkEvent) : (c.step roms e).video.ctrl.game.OnScreen := by
  show (run (Video.step roms) c.video (c.design.gameEvents e)).ctrl.game.OnScreen
  rw [Video.ctrl_run]
  exact run_invariant (P := fun s : StateController => s.game.OnScreen)
    (fun _ e h => StateController.onScreen_step roms.sprites h e) h _

/-- A `Reset` puts the raster back into the corner. -/
theorem dimmed_of_origin {c : Chip} (h : c.video.ctrl.game.OnScreen) (hhc : c.vga.hc = 0)
    (hvc : c.vga.vc = 0) : c.Dimmed := by
  refine ⟨h, ?_, ?_⟩ <;> rw [hhc, hvc] <;> exact fun hbeyond => absurd hbeyond (by decide)

theorem dimmed_low (roms : AllRoms) {c : Chip} (h : c.Dimmed)
    (hreset : c.video.ctrl.reset = false) (hclk : c.vga.clkdiv = false) (keycode : BitVec 8) :
    (c.step roms (.posedgeClk keycode)).Dimmed := by
  refine ⟨onScreen_step roms h.onScreen _, ?_, ?_⟩ <;>
    rw [step_low roms hreset hclk] <;> intro hbeyond
  · have hnow : Beyond (c.vga.hc, c.vga.vc) := VgaController.le_of_counterProc hbeyond
    have hunlit := Video.unlit_posedgeVgaClk roms h.onScreen hnow keycode
    split_ifs
    · exact hunlit.step roms (e := .posedgeFrameClk keycode) rfl
    · exact hunlit
  · have hbefore : 641 ≤ c.vga.hc.toNat ∨ 481 ≤ c.vga.vc.toNat :=
      VgaController.le_of_counterProc hbeyond
    have hnow : Beyond (c.vga.hc, c.vga.vc) :=
      hbefore.imp (Nat.le_trans (by decide)) (Nat.le_trans (by decide))
    have hdark := Video.dark_posedgeVgaClk roms h.onScreen (h.unlit hbefore) hnow keycode
    split_ifs
    · exact hdark.step roms (e := .posedgeFrameClk keycode) rfl
    · exact hdark

theorem dimmed_step (roms : AllRoms) {c : Chip} (h : c.Dimmed) (e : ClkEvent) :
    (c.step roms e).Dimmed := by
  have hscreen := onScreen_step roms h.onScreen e
  cases e with
  | posedgeReset => exact dimmed_of_origin hscreen rfl rfl
  | negedgeReset =>
    exact ⟨hscreen, fun hbeyond => (h.unlit hbeyond).step roms (e := .negedgeReset) rfl,
      fun hbeyond => (h.dark hbeyond).step roms (e := .negedgeReset) rfl⟩
  | posedgeClk keycode =>
    by_cases hreset : c.video.ctrl.reset = true
    · have hvga : (c.step roms (.posedgeClk keycode)).vga = c.vga.posedgeReset := if_pos hreset
      exact dimmed_of_origin hscreen (by rw [hvga]; rfl) (by rw [hvga]; rfl)
    rw [Bool.not_eq_true] at hreset
    by_cases hhigh : c.vga.clkdiv = true
    · have hstep := step_high roms hreset hhigh keycode
      rw [hstep] at hscreen ⊢
      exact ⟨hscreen,
        fun hbeyond => (h.unlit hbeyond).step roms (e := .negedgeVgaClk _ _) rfl,
        fun hbeyond => (h.dark hbeyond).step roms (e := .negedgeVgaClk _ _) rfl⟩
    · exact dimmed_low roms h hreset (by simpa using hhigh) keycode

theorem dimmed_run (roms : AllRoms) (es : List ClkEvent) :
    (run (step roms) powerUp es).Dimmed :=
  run_invariant (P := Dimmed) (fun _ e h => dimmed_step roms h e)
    (dimmed_of_origin DisplayGame.onScreen_powerUp rfl rfl) es

/-- The pins in a sync pulse of a raster that is on its way. -/
def DarkInSync (c : Chip) : Prop :=
  c.vga.hs = false ∨ c.vga.vs = false → c.position ≠ (0, 0) → c.vgaRgb = .black

/-- **Black in sync.** Whatever is on the screen, whatever has been shot and wherever `Reset` came,
the pins are black as long as a sync pulse is low, but for the raster that a `Reset` holds. -/
theorem dark_in_sync (roms : AllRoms) (es : List ClkEvent) :
    Always (step roms) DarkInSync powerUp es := by
  intro ds hds hsync hmoved
  have hdimmed := dimmed_run roms ds
  have hbeyond := syncsBeyond_run roms ds
  have horigin : ¬ ((run (step roms) powerUp ds).vga.hc = 0 ∧
      (run (step roms) powerUp ds).vga.vc = 0) := fun h => hmoved (Prod.ext h.1 h.2)
  refine Video.rgb_of_dark (hdimmed.dark ?_)
  rcases hsync with hhs | hvs
  · have hcol := (hbeyond.hs hhs).resolve_left horigin
    exact .inl (Nat.le_trans (by decide) hcol)
  · have hline := (hbeyond.vs hvs).resolve_left horigin
    exact .inr (Nat.le_trans (by decide) hline)

end Chip

end Bosconian
