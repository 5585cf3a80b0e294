import Bosconian.Hdl.EndScreens
import Bosconian.Hdl.Rounds

/-!
# What is on the screen

`State_Controller` selects the colour of the title picture, of the game, or of one of the end
pictures. `lab62` puts the low four bits of each channel on the pins, with `hs` and `vs` beside
them, and lights a LED for each screen.

* `design_step` — the chip is the whole design and what it is seen by.
* `shows_picture` — the title and the end screens show their picture, pixel by pixel.
* `shows_game` — and the game shows its layers, one pixel later.
-/

namespace Bosconian

open EventMachine

/-! ## Pictures -/

/-- The registers of `start_example`, `win_example` or `lose_example`: the output of its ROM and
its colour. -/
structure Poster (w : Nat) where
  romQ : BitVec w
  rgb : Rgb 4
deriving DecidableEq, Repr

namespace Poster

variable {w : Nat}

def powerUp : Poster w := ⟨0, .black⟩

/-- `(DrawX - 160) + (DrawY - 60) * 320`, kept in 17 bits. -/
def romAddress (drawX drawY : BitVec 10) : BitVec 17 :=
  (drawX.setWidth 32 - 160 + (drawY.setWidth 32 - 60) * 320).setWidth 17

def negedgeVgaClk (rom : BitVec 17 → BitVec w) (drawX drawY : BitVec 10) (s : Poster w) :
    Poster w := { s with romQ := rom (romAddress drawX drawY) }

def posedgeVgaClk (palette : BitVec w → Rgb 4) (enable : Bool) (s : Poster w) : Poster w :=
  { s with rgb := .gate enable (palette s.romQ) }

end Poster

def startPalette : BitVec 2 → Rgb 4 :=
  paletteAt [⟨0xA, 0xA, 0xA⟩, ⟨0x0, 0x0, 0x0⟩, ⟨0x5, 0x5, 0x5⟩, ⟨0xE, 0x2, 0x2⟩]

def winPalette : BitVec 1 → Rgb 4 := paletteAt [⟨0x0, 0x0, 0x0⟩, ⟨0xE, 0xE, 0xC⟩]

def losePalette : BitVec 1 → Rgb 4 := paletteAt [⟨0x0, 0x0, 0x0⟩, ⟨0xE, 0xE, 0xE⟩]

def startExample.posedgeVgaClk (startScreen blank : Bool) : Poster 2 → Poster 2 :=
  Poster.posedgeVgaClk startPalette (startScreen && blank)

/-- The other two do not ask for their screen. -/
def winExample.posedgeVgaClk (blank : Bool) : Poster 1 → Poster 1 :=
  Poster.posedgeVgaClk winPalette blank

def loseExample.posedgeVgaClk (blank : Bool) : Poster 1 → Poster 1 :=
  Poster.posedgeVgaClk losePalette blank

/-! ## `State_Controller` with its colours -/

/-- The contents of all ROMs. -/
structure AllRoms where
  sprites : Roms
  colors : ColorRoms
  start : BitVec 17 → BitVec 2
  win : BitVec 17 → BitVec 1
  lose : BitVec 17 → BitVec 1

/-- `State_Controller` with all that it instantiates. -/
structure Video where
  ctrl : StateController
  colors : Colors
  startScreen : Poster 2
  winScreen : Poster 1
  loseScreen : Poster 1
deriving DecidableEq, Repr

namespace Video

def powerUp : Video :=
  ⟨StateController.powerUp, Display.powerUp.colors, .powerUp, .powerUp, .powerUp⟩

/-- `display_game` in it. -/
def display (v : Video) : Display := ⟨v.ctrl.game, v.colors⟩

def step (roms : AllRoms) (v : Video) : GameEvent → Video
  | .posedgeVgaClk drawX drawY keycode =>
    let blank := Display.blank (drawX, drawY)
    { ctrl := v.ctrl.posedgeVgaClk drawX drawY keycode
      colors := (v.display.posedgeVgaClk drawX drawY blank).colors
      startScreen :=
        startExample.posedgeVgaClk (v.ctrl.state = .startScreen) blank v.startScreen
      winScreen := winExample.posedgeVgaClk blank v.winScreen
      loseScreen := loseExample.posedgeVgaClk blank v.loseScreen }
  | .negedgeVgaClk drawX drawY =>
    { ctrl := v.ctrl.negedgeVgaClk roms.sprites drawX drawY
      colors := (v.display.negedgeVgaClk roms.sprites roms.colors drawX drawY).colors
      startScreen := v.startScreen.negedgeVgaClk roms.start drawX drawY
      winScreen := v.winScreen.negedgeVgaClk roms.win drawX drawY
      loseScreen := v.loseScreen.negedgeVgaClk roms.lose drawX drawY }
  | .posedgeFrameClk keycode => { v with ctrl := v.ctrl.posedgeFrameClk keycode }
  | .posedgeReset => { v with ctrl := v.ctrl.posedgeReset }
  | .negedgeReset => { v with ctrl := v.ctrl.negedgeReset }

/-- `Red`, `Green` and `Blue`, selected by `State`. -/
def rgb (v : Video) : Rgb 8 :=
  match v.ctrl.state with
  | .startScreen => v.startScreen.rgb.widen
  | .play => v.colors.rgb
  | .win => v.winScreen.rgb.widen
  | .lose => v.loseScreen.rgb.widen
  | .pauseLost => v.colors.rgb
  | .pauseWin => .black

theorem ctrl_step (roms : AllRoms) (v : Video) (e : GameEvent) :
    (v.step roms e).ctrl = v.ctrl.step roms.sprites e := by
  cases e <;> rfl

theorem ctrl_run (roms : AllRoms) (v : Video) (es : List GameEvent) :
    (run (step roms) v es).ctrl = run (StateController.step roms.sprites) v.ctrl es := by
  induction es generalizing v with
  | nil => rfl
  | cons e es ih =>
    rw [run_cons, run_cons, ih, ctrl_step]

end Video

/-! ## The chip -/

/-- The code of a value of the enumeration. -/
def Screen.code : Screen → BitVec 3
  | .startScreen => 0
  | .play => 1
  | .win => 2
  | .lose => 3
  | .pauseLost => 4
  | .pauseWin => 5

/-- `lab62` as far as the game goes. -/
structure Chip where
  vga : VgaController
  video : Video
deriving DecidableEq, Repr

namespace Chip

def powerUp : Chip := ⟨VgaController.powerUp, Video.powerUp⟩

def design (c : Chip) : Design := ⟨c.vga, c.video.ctrl⟩

def step (roms : AllRoms) (c : Chip) (e : ClkEvent) : Chip :=
  ⟨c.design.vgaNext e, run (Video.step roms) c.video (c.design.gameEvents e)⟩

/-- `VGA_R`, `VGA_G` and `VGA_B`. -/
def vgaRgb (c : Chip) : Rgb 4 := c.video.rgb.low

/-- `State_out` has only two bits for it. -/
def stateOut (c : Chip) : BitVec 2 := c.video.ctrl.state.code.setWidth 2

/-- `LEDR[1]` to `LEDR[4]`. -/
def ledr (c : Chip) : List Bool :=
  [c.stateOut = 0b00, c.stateOut = 0b01, c.stateOut = 0b10, c.stateOut = 0b11]

/-- The chip is the whole design, with its colours on top. -/
theorem design_step (roms : AllRoms) (c : Chip) (e : ClkEvent) :
    (c.step roms e).design = c.design.step roms.sprites e := by
  simp [step, design, Design.step, Video.ctrl_run]

theorem design_run (roms : AllRoms) (c : Chip) (es : List ClkEvent) :
    (run (step roms) c es).design = run (Design.step roms.sprites) c.design es := by
  induction es generalizing c with
  | nil => rfl
  | cons e es ih => rw [run_cons, run_cons, ih, design_step]

/-! ## One board clock -/

section Step

variable (roms : AllRoms) {c : Chip}

/-- A rising edge of the pixel clock, with the tick of the frame clock it may bring. -/
theorem step_low (hreset : c.video.ctrl.reset = false) (hclk : c.vga.clkdiv = false)
    (keycode : BitVec 8) :
    c.step roms (.posedgeClk keycode) =
      ⟨c.vga.posedgeClkdiv,
        if c.design.ticks then
          (c.video.step roms (.posedgeVgaClk c.vga.hc c.vga.vc keycode)).step roms
            (.posedgeFrameClk keycode)
        else c.video.step roms (.posedgeVgaClk c.vga.hc c.vga.vc keycode)⟩ := by
  have hreset' : c.design.ctrl.reset = false := hreset
  have hclk' : c.design.vga.clkdiv = false := hclk
  have hticks : c.design.ticks = (!c.design.vga.vs && c.design.vga.posedgeClkdiv.vs) := by
    simp [Design.ticks, hreset', hclk']
  simp only [step, Design.vgaNext, Design.gameEvents, hreset', hclk', hticks, Bool.false_eq_true,
    if_false]
  split_ifs <;> rfl

/-- A falling edge of the pixel clock. -/
theorem step_high (hreset : c.video.ctrl.reset = false) (hclk : c.vga.clkdiv = true)
    (keycode : BitVec 8) :
    c.step roms (.posedgeClk keycode) =
      ⟨c.vga.negedgeClkdiv, c.video.step roms (.negedgeVgaClk c.vga.hc c.vga.vc)⟩ := by
  simp [step, Design.vgaNext, Design.gameEvents, design, hreset, hclk]

theorem reset_step (keycode : BitVec 8) :
    (c.step roms (.posedgeClk keycode)).video.ctrl.reset = c.video.ctrl.reset := by
  have h := Design.reset_step roms.sprites c.design keycode
  rw [← design_step] at h
  exact h

/-- The frame clock changes nothing that is seen at once. -/
theorem video_low (hreset : c.video.ctrl.reset = false) (hclk : c.vga.clkdiv = false)
    (keycode : BitVec 8) :
    (c.step roms (.posedgeClk keycode)).video.startScreen =
        startExample.posedgeVgaClk (c.video.ctrl.state = .startScreen)
          (Display.blank (c.vga.hc, c.vga.vc)) c.video.startScreen ∧
      (c.step roms (.posedgeClk keycode)).video.winScreen =
        winExample.posedgeVgaClk (Display.blank (c.vga.hc, c.vga.vc)) c.video.winScreen ∧
      (c.step roms (.posedgeClk keycode)).video.loseScreen =
        loseExample.posedgeVgaClk (Display.blank (c.vga.hc, c.vga.vc)) c.video.loseScreen ∧
      (c.step roms (.posedgeClk keycode)).video.ctrl.state = c.video.ctrl.stateNext ∧
      (c.step roms (.posedgeClk keycode)).video.colors =
        (c.video.display.posedgeVgaClk c.vga.hc c.vga.vc
          (Display.blank (c.vga.hc, c.vga.vc))).colors := by
  rw [step_low roms hreset hclk]
  split_ifs <;> exact ⟨rfl, rfl, rfl, rfl, rfl⟩

end Step

/-! ## The pictures -/

/-- The ROMs of the pictures have been read for the pixel `p`. -/
structure Reads (roms : AllRoms) (p : Pixel) (v : Video) : Prop where
  start : v.startScreen.romQ = roms.start (Poster.romAddress p.1 p.2)
  win : v.winScreen.romQ = roms.win (Poster.romAddress p.1 p.2)
  lose : v.loseScreen.romQ = roms.lose (Poster.romAddress p.1 p.2)

/-- The pixel the raster is at. -/
def position (c : Chip) : Pixel := (c.vga.hc, c.vga.vc)

/-- Wherever the raster is when its clock is about to rise, a `Reset` apart. -/
def Aligned (roms : AllRoms) (c : Chip) : Prop :=
  c.vga.clkdiv = false → Display.blank c.position = true → Reads roms c.position c.video

theorem blank_origin : Display.blank (0, 0) = false := by decide

theorem aligned_step {roms : AllRoms} {c : Chip} (h : c.Aligned roms) (e : ClkEvent) :
    (c.step roms e).Aligned roms := by
  intro hclk hblank
  cases e with
  | posedgeReset => exact absurd hblank (by rw [position]; exact ne_true_of_eq_false blank_origin)
  | negedgeReset =>
    obtain ⟨hstart, hwin, hlose⟩ := h hclk hblank
    exact ⟨hstart, hwin, hlose⟩
  | posedgeClk keycode =>
    by_cases hreset : c.video.ctrl.reset = true
    · have hvga : (c.step roms (.posedgeClk keycode)).vga = c.vga.posedgeReset := if_pos hreset
      rw [position, hvga] at hblank
      exact absurd hblank (ne_true_of_eq_false blank_origin)
    rw [Bool.not_eq_true] at hreset
    by_cases hhigh : c.vga.clkdiv = true
    · rw [step_high roms hreset hhigh]
      exact ⟨rfl, rfl, rfl⟩
    · rw [step_low roms hreset (by simpa using hhigh)] at hclk
      exact absurd hclk (by simp [VgaController.posedgeClkdiv])

theorem aligned_run (roms : AllRoms) (es : List ClkEvent) :
    (run (step roms) powerUp es).Aligned roms :=
  run_invariant (P := Aligned roms) (fun _ e h => aligned_step h e)
    (fun _ hblank => absurd hblank (by decide)) es

end Chip

/-! ### Where they are -/

/-- The raster is inside the frame that `vga_controller` leaves. -/
theorem Display.blank_iff (p : Pixel) : Display.blank p = true ↔
    (160 < p.1.toNat ∧ p.1.toNat < 479) ∧ 60 < p.2.toNat ∧ p.2.toNat < 419 := by
  have h160 : (160 : BitVec 10).toNat = 160 := rfl
  have h479 : (479 : BitVec 10).toNat = 479 := rfl
  have h60 : (60 : BitVec 10).toNat = 60 := rfl
  have h419 : (419 : BitVec 10).toNat = 419 := rfl
  simp only [Display.blank, Bool.not_eq_true', Bool.or_eq_false_iff, decide_eq_false_iff_not,
    BitVec.le_def, h160, h479, h60, h419]
  omega

/-- A picture of 320 columns and 360 lines in the middle of the screen. -/
def framed (texel : Nat → Nat → Rgb 4) (p : Pixel) : Rgb 4 :=
  if (160 < p.1.toNat ∧ p.1.toNat < 479) ∧ 60 < p.2.toNat ∧ p.2.toNat < 419 then
    texel (p.1.toNat - 160) (p.2.toNat - 60)
  else .black

/-- The texel in a column and a line of a picture. -/
def texelOf {w : Nat} (palette : BitVec w → Rgb 4) (rom : BitVec 17 → BitVec w) (x y : Nat) :
    Rgb 4 :=
  palette (rom (.ofNat 17 (320 * y + x)))

theorem Poster.romAddress_eq {p : Pixel} (h : Display.blank p = true) :
    romAddress p.1 p.2 = .ofNat 17 (320 * (p.2.toNat - 60) + (p.1.toNat - 160)) := by
  rw [Display.blank_iff] at h
  have hx : (p.1.setWidth 32).toNat = p.1.toNat := by
    rw [BitVec.toNat_setWidth]
    omega
  have hy : (p.2.setWidth 32).toNat = p.2.toNat := by
    rw [BitVec.toNat_setWidth]
    omega
  have h160 : (160 : BitVec 32).toNat = 160 := rfl
  have h60 : (60 : BitVec 32).toNat = 60 := rfl
  have h320 : (320 : BitVec 32).toNat = 320 := rfl
  apply BitVec.eq_of_toNat_eq
  rw [romAddress, BitVec.toNat_setWidth, BitVec.toNat_ofNat, BitVec.toNat_add, BitVec.toNat_mul,
    BitVec.toNat_sub, BitVec.toNat_sub, hx, hy, h160, h60, h320]
  omega

theorem Poster.gate_eq_framed {w : Nat} {rom : BitVec 17 → BitVec w} {palette : BitVec w → Rgb 4}
    {p : Pixel} {q : BitVec w} (hq : Display.blank p = true → q = rom (romAddress p.1 p.2)) :
    Rgb.gate (Display.blank p) (palette q) = framed (texelOf palette rom) p := by
  rw [framed]
  cases h : Display.blank p with
  | true => rw [Rgb.gate_true, if_pos ((Display.blank_iff p).1 h), hq h, romAddress_eq h, texelOf]
  | false =>
    have houtside := fun hp => Bool.false_ne_true (h.symm.trans ((Display.blank_iff p).2 hp))
    rw [Rgb.gate_false, if_neg houtside]

/-- The picture of a screen. The game has none. -/
def Screen.picture (roms : AllRoms) : Screen → Option (Pixel → Rgb 4)
  | .startScreen => some (framed (texelOf startPalette roms.start))
  | .win => some (framed (texelOf winPalette roms.win))
  | .lose => some (framed (texelOf losePalette roms.lose))
  | _ => none

namespace Chip

theorem settled_step (roms : AllRoms) {c : Chip} (h : c.video.ctrl.Settled) (e : ClkEvent) :
    (c.step roms e).video.ctrl.Settled := by
  show (run (Video.step roms) c.video (c.design.gameEvents e)).ctrl.Settled
  rw [Video.ctrl_run]
  exact run_invariant (P := StateController.Settled)
    (fun _ e h => StateController.settled_step roms.sprites h e) h _

theorem settled_run (roms : AllRoms) (es : List ClkEvent) :
    (run (step roms) powerUp es).video.ctrl.Settled :=
  run_invariant (P := fun c : Chip => c.video.ctrl.Settled) (fun _ e h => settled_step roms h e)
    StateController.settled_powerUp es

/-- The pins and the LEDs, with the raster at `p`. -/
structure ShowsPixel (roms : AllRoms) (p : Pixel) (c : Chip) : Prop where
  picture : ∀ f ∈ c.video.ctrl.state.picture roms, c.vgaRgb = f p
  leds : c.ledr = [Screen.startScreen, .play, .win, .lose].map fun x =>
    decide (x = c.video.ctrl.state)

theorem leds_of_settled {c : Chip} (h : c.video.ctrl.Settled) :
    c.ledr = [Screen.startScreen, .play, .win, .lose].map fun x =>
      decide (x = c.video.ctrl.state) := by
  obtain ⟨hlost, hwin⟩ := h.screen
  rw [ledr, stateOut]
  cases hs : c.video.ctrl.state with
  | pauseLost => exact absurd hs hlost
  | pauseWin => exact absurd hs hwin
  | _ => rfl

theorem picture_low {roms : AllRoms} {c : Chip} (h : c.Aligned roms)
    (hreset : c.video.ctrl.reset = false) (hclk : c.vga.clkdiv = false) (keycode : BitVec 8) :
    ∀ f ∈ (c.step roms (.posedgeClk keycode)).video.ctrl.state.picture roms,
      (c.step roms (.posedgeClk keycode)).vgaRgb = f c.position := by
  obtain ⟨hstart, hwin, hlose, hstate, -⟩ := video_low roms hreset hclk keycode
  have hread := h hclk
  intro f hf
  rw [vgaRgb, Video.rgb]
  cases hs : (c.step roms (.posedgeClk keycode)).video.ctrl.state with
  | startScreen =>
    rw [hs] at hf
    obtain rfl : framed (texelOf startPalette roms.start) = f := Option.some.inj hf
    have hbefore := StateController.start_of_stateNext hreset (hstate.symm.trans hs)
    rw [← Poster.gate_eq_framed fun hp => (hread hp).start]
    simp [hstart, startExample.posedgeVgaClk, Poster.posedgeVgaClk, hbefore, position]
  | win =>
    rw [hs] at hf
    obtain rfl : framed (texelOf winPalette roms.win) = f := Option.some.inj hf
    rw [← Poster.gate_eq_framed fun hp => (hread hp).win]
    simp [hwin, winExample.posedgeVgaClk, Poster.posedgeVgaClk, position]
  | lose =>
    rw [hs] at hf
    obtain rfl : framed (texelOf losePalette roms.lose) = f := Option.some.inj hf
    rw [← Poster.gate_eq_framed fun hp => (hread hp).lose]
    simp [hlose, loseExample.posedgeVgaClk, Poster.posedgeVgaClk, position]
  | play => simp [hs, Screen.picture] at hf
  | pauseLost => simp [hs, Screen.picture] at hf
  | pauseWin => simp [hs, Screen.picture] at hf

/-- The falling edge changes nothing that is seen. -/
theorem seen_high (roms : AllRoms) {c : Chip} (hreset : c.video.ctrl.reset = false)
    (hclk : c.vga.clkdiv = true) (keycode : BitVec 8) :
    (c.step roms (.posedgeClk keycode)).vgaRgb = c.vgaRgb ∧
      (c.step roms (.posedgeClk keycode)).video.ctrl.state = c.video.ctrl.state := by
  rw [step_high roms hreset hclk]
  exact ⟨rfl, rfl⟩

/-- **The pictures.** Whatever has happened, each pixel of the title screen and of the end screens
is the texel of its picture there, for the two board clocks that follow it, and the LED of the
screen is lit. -/
theorem shows_picture (roms : AllRoms) (es : List ClkEvent) {c : Chip}
    (hc : c = run (step roms) powerUp es) (hreset : c.video.ctrl.reset = false)
    (hclk : c.vga.clkdiv = false) (keycode keycode' : BitVec 8) :
    (c.step roms (.posedgeClk keycode)).ShowsPixel roms c.position ∧
      ((c.step roms (.posedgeClk keycode)).step roms (.posedgeClk keycode')).ShowsPixel roms
        c.position := by
  have haligned : c.Aligned roms := hc ▸ aligned_run roms es
  have hsettled : c.video.ctrl.Settled := hc ▸ settled_run roms es
  have hpicture := picture_low haligned hreset hclk keycode
  have hnext := settled_step roms hsettled (.posedgeClk keycode)
  have hhigh : (c.step roms (.posedgeClk keycode)).vga.clkdiv = true := by
    rw [step_low roms hreset hclk]
    rfl
  obtain ⟨hrgb, hstate⟩ := seen_high roms ((reset_step roms keycode).trans hreset) hhigh keycode'
  refine ⟨⟨hpicture, leds_of_settled hnext⟩, ?_, leds_of_settled (settled_step roms hnext _)⟩
  rw [hstate, hrgb]
  exact hpicture

/-- Pictures of one colour. -/
def plain : AllRoms where
  sprites := sprites
  colors := ⟨fun _ => 0, fun _ => 0⟩
  start := fun _ => 3
  win := fun _ => 1
  lose := fun _ => 1

/-- The chip `n` board clocks after power-up, with one key down throughout. -/
def held (keycode : BitVec 8) (n : Nat) : Chip :=
  run (step plain) powerUp (List.replicate n (.posedgeClk keycode))

theorem design_held (keycode : BitVec 8) (n : Nat) :
    (held keycode n).design = Design.scan sprites Design.powerUp (fun _ => keycode) n := by
  rw [held, design_run, Design.scan_held]
  rfl

theorem held_succ (keycode : BitVec 8) (n : Nat) :
    held keycode (n + 1) = (held keycode n).step plain (.posedgeClk keycode) := by
  rw [held, List.replicate_succ', run_concat]
  rfl

/-- Before pixel `p` of a frame. -/
theorem held_at (keycode : BitVec 8) {p : Pixel} {j : Nat} (hx : p.1.toNat < 800)
    (hj : j % 420000 = 800 * p.2.toNat + p.1.toNat) :
    (held keycode (2 * j)).video.ctrl.reset = false ∧
      (held keycode (2 * j)).vga.clkdiv = false ∧ (held keycode (2 * j)).position = p := by
  have hpixel := Design.atPixel_scan sprites Design.fresh_powerUp (fun _ => keycode) j
  rw [← design_held] at hpixel
  exact ⟨hpixel.reset, hpixel.clkdiv, hpixel.position_eq hx hj⟩

/-- Half a pixel before it. -/
theorem held_before (keycode : BitVec 8) {p : Pixel} {j : Nat} (hx : p.1.toNat < 800)
    (hj : (j + 1) % 420000 = 800 * p.2.toNat + p.1.toNat) :
    (held keycode (2 * j + 1)).video.ctrl.reset = false ∧
      (held keycode (2 * j + 1)).vga.clkdiv = true ∧ (held keycode (2 * j + 1)).position = p := by
  obtain ⟨hvga, hreset⟩ := Design.scan_odd sprites Design.fresh_powerUp (fun _ => keycode) j
  rw [← design_held] at hreset
  rw [← design_held, ← design_held] at hvga
  have hclk : (held keycode (2 * j + 1)).vga.clkdiv = true := congrArg VgaController.clkdiv hvga
  have hposition := (held_at keycode hx hj).2.2
  rw [Nat.mul_succ, held_succ, step_high plain hreset hclk] at hposition
  exact ⟨hreset, hclk, hposition⟩

theorem held_add (keycode : BitVec 8) (n m : Nat) :
    held keycode (n + m) = run (step plain) (held keycode n)
      (List.replicate m (.posedgeClk keycode)) := by
  rw [held, List.replicate_add, run_append]
  rfl

theorem unhindered_first (keycode : BitVec 8) :
    (Design.played sprites (fun _ => keycode) Design.powerUp 0).Unhindered := by
  have hone : (Design.played sprites (fun _ => keycode) Design.powerUp
    0).game.enemyBaseOne.toCorner = ⟨200, 100⟩ := rfl
  have htwo : (Design.played sprites (fun _ => keycode) Design.powerUp
    0).game.enemyBaseTwo.toCorner = ⟨400, 300⟩ := rfl
  refine ⟨?_, ?_, rfl, rfl, rfl⟩
  · rw [hone]
    decide
  · rw [htwo]
    decide

/-- The screen in the first frame: a movement key takes the title away. -/
theorem state_held (keycode : BitVec 8) {j : Nat}
    (hj : Design.InFrame (Design.tickPixel 0) (Design.tickPixel 1) j) :
    (held keycode (2 * j + 1)).video.ctrl.state =
      if StateController.IsMoveKey keycode then .play else .startScreen := by
  have hon : (Design.played sprites (fun _ => keycode) Design.powerUp 0).IsOn :=
    Round.isOn_tick ⟨false, keycode⟩ Design.powerUp.ctrl.round
  have hstate : (held keycode (2 * j + 1)).design.ctrl.state = _ :=
    (congrArg (fun s : Design => s.ctrl.state) (design_held keycode _)).trans
      (Design.state_of_played sprites (fun _ => keycode) Design.ready_powerUp hon hj
        (unhindered_first keycode))
  have hscreen : (Design.played sprites (fun _ => keycode) Design.powerUp 0).screen =
    .startScreen := rfl
  have hmoving : (Design.played sprites (fun _ => keycode) Design.powerUp 0).moving =
    decide (StateController.IsMoveKey keycode) := rfl
  refine hstate.trans ?_
  rw [hscreen, hmoving]
  by_cases hkey : StateController.IsMoveKey keycode <;> simp [hkey, Design.heldBetween]

/-- The middle of the title screen, with no key pressed so far. -/
theorem shows_picture_title :
    (held 0 (2 * 192320 + 1)).ShowsPixel plain (320, 240) ∧
      (held 0 (2 * 192320 + 2)).ShowsPixel plain (320, 240) ∧
      (held 0 (2 * 192320 + 1)).vgaRgb = ⟨0xE, 0x2, 0x2⟩ := by
  obtain ⟨hreset, hclk, hposition⟩ := held_at 0 (p := (320, 240)) (j := 192320) (by decide)
    (by decide)
  have hstate := state_held 0 (j := 192320) ⟨.inl rfl, by decide, by decide, by decide⟩
  have h := shows_picture plain _ (c := held 0 (2 * 192320)) rfl hreset hclk 0 0
  rw [← held_succ, ← held_succ, hposition] at h
  have hcolor := h.1.picture (framed (texelOf startPalette plain.start)) (by rw [hstate]; rfl)
  exact ⟨h.1, h.2, hcolor⟩

/-! ## The game -/

/-- Both pulses are low at the very start, where the raster rests, and then only beyond the
screen. -/
structure SyncsBeyond (v : VgaController) : Prop where
  hs : v.hs = false → (v.hc = 0 ∧ v.vc = 0) ∨ 656 ≤ v.hc.toNat
  vs : v.vs = false → (v.hc = 0 ∧ v.vc = 0) ∨ 489 ≤ v.vc.toNat

theorem syncsBeyond_posedgeClkdiv (v : VgaController) : SyncsBeyond v.posedgeClkdiv := by
  have hright : (v.hc + 1).toNat = (v.hc.toNat + 1) % 1024 := BitVec.toNat_add v.hc 1
  have hdown : (v.vc + 1).toNat = (v.vc.toNat + 1) % 1024 := BitVec.toNat_add v.vc 1
  constructor
  · intro hhs
    have hcol := (VgaController.hsyncProc_iff v).1 hhs
    have hlast : v.hc ≠ VgaController.hpixels := by
      intro hlast
      rw [hlast] at hcol
      exact absurd hcol (by decide)
    right
    show 656 ≤ v.counterProc.1.toNat
    rw [VgaController.counterProc, if_neg hlast, hright]
    omega
  · intro hvs
    have hline : v.vc.toNat = 489 ∨ v.vc.toNat = 490 := by
      have h := VgaController.vsyncProc_iff v
      rw [show v.vsyncProc = false from hvs] at h
      simp only [Bool.false_eq_true, false_iff] at h
      omega
    have hbottom : v.vc ≠ VgaController.vlines := by
      intro hbottom
      rw [hbottom] at hline
      exact absurd hline (by decide)
    right
    show 489 ≤ v.counterProc.2.toNat
    rw [VgaController.counterProc, if_neg hbottom]
    split_ifs
    · rw [hdown]
      omega
    · show 489 ≤ v.vc.toNat
      omega

theorem syncsBeyond_step (roms : AllRoms) {c : Chip} (h : SyncsBeyond c.vga) (e : ClkEvent) :
    SyncsBeyond (c.step roms e).vga := by
  have horigin : SyncsBeyond c.vga.posedgeReset :=
    ⟨fun _ => .inl ⟨rfl, rfl⟩, fun _ => .inl ⟨rfl, rfl⟩⟩
  cases e with
  | posedgeReset => exact horigin
  | negedgeReset => exact h
  | posedgeClk keycode =>
    show SyncsBeyond (if c.video.ctrl.reset then c.vga.posedgeReset
      else if c.vga.clkdiv then c.vga.negedgeClkdiv else c.vga.posedgeClkdiv)
    split_ifs
    · exact horigin
    · exact ⟨h.hs, h.vs⟩
    · exact syncsBeyond_posedgeClkdiv c.vga

theorem syncsBeyond_run (roms : AllRoms) (es : List ClkEvent) :
    SyncsBeyond (run (step roms) powerUp es).vga :=
  run_invariant (P := fun c : Chip => SyncsBeyond c.vga) (fun _ e h => syncsBeyond_step roms h e)
    ⟨fun _ => .inl ⟨rfl, rfl⟩, fun _ => .inl ⟨rfl, rfl⟩⟩ es

/-- The clock of a pixel, without a tick of the frame clock. -/
theorem step_step (roms : AllRoms) {c : Chip} (hreset : c.video.ctrl.reset = false)
    (hclk : c.vga.clkdiv = true) (hvs : c.vga.vs = true) (keycode keycode' : BitVec 8) :
    ((c.step roms (.posedgeClk keycode)).step roms (.posedgeClk keycode')).vga =
        c.vga.negedgeClkdiv.posedgeClkdiv ∧
      ((c.step roms (.posedgeClk keycode)).step roms (.posedgeClk keycode')).video.display =
        c.video.display.pixel roms.sprites roms.colors c.position ∧
      ((c.step roms (.posedgeClk keycode)).step roms (.posedgeClk keycode')).video.ctrl.state =
        c.video.ctrl.stateNext ∧
      ((c.step roms (.posedgeClk keycode)).step roms (.posedgeClk keycode')).video.ctrl.reset =
        false := by
  have hreset' := (reset_step roms keycode).trans hreset
  have hreset'' := (reset_step roms keycode').trans hreset'
  have hhigh := step_high roms hreset hclk keycode
  have hclk' : (c.step roms (.posedgeClk keycode)).vga.clkdiv = false := by
    rw [hhigh]
    rfl
  have hticks : (c.step roms (.posedgeClk keycode)).design.ticks = false := by
    have hvs' : (c.step roms (.posedgeClk keycode)).design.vga.vs = true := by
      rw [hhigh]
      exact hvs
    simp [Design.ticks, hvs']
  have hlow := step_low roms hreset' hclk' keycode'
  rw [hticks, if_neg Bool.false_ne_true] at hlow
  refine ⟨?_, ?_, ?_, hreset''⟩
  · rw [hlow, hhigh]
  · rw [hlow, hhigh]
    rfl
  · rw [hlow, hhigh]
    rfl

end Chip

/-! ### No crash under the game -/

namespace StateController

/-- The game is on or about to be. -/
def InGame (s : StateController) : Prop := s.state = .startScreen ∨ s.state = .play

theorem inGame_of_stateNext {s : StateController} (hreset : s.reset = false)
    (h : s.stateNext = .startScreen ∨ s.stateNext = .play) :
    s.game.collision = false ∧ s.InGame := by
  rw [stateNext, hreset, if_neg Bool.false_ne_true] at h
  by_cases hlost : s.game.lost = true
  · simp [hlost] at h
  by_cases hwin : s.game.win = true
  · simp [hlost, hwin] at h
  have hcollision : s.game.collision = false := by
    by_contra hc
    exact hlost (DisplayGame.lost_of_collision (by simpa using hc))
  rw [if_neg hlost, if_neg hwin] at h
  refine ⟨hcollision, ?_⟩
  cases hs : s.state with
  | startScreen => exact .inl hs
  | play => exact .inr hs
  | _ => simp only [nextState, hs] at h; (try split_ifs at h) <;> simp at h

end StateController

namespace Chip

/-- The raster is at `p`, its clock is about to fall, and no tick of the frame clock is near. -/
structure Drawing (p : Pixel) (c : Chip) : Prop where
  reset : c.video.ctrl.reset = false
  clkdiv : c.vga.clkdiv = true
  vs : c.vga.vs = true
  position : c.position = p
  visible : p.1.toNat < 640 ∧ p.2.toNat < 480

theorem drawing_of_run (roms : AllRoms) (es : List ClkEvent)
    (hreset : (run (step roms) powerUp es).video.ctrl.reset = false)
    (hclk : (run (step roms) powerUp es).vga.clkdiv = true) {p : Pixel}
    (hp : (run (step roms) powerUp es).position = p) (hx : 0 < p.1.toNat ∧ p.1.toNat < 640)
    (hy : p.2.toNat < 480) : Drawing p (run (step roms) powerUp es) := by
  refine ⟨hreset, hclk, ?_, hp, hx.2, hy⟩
  by_contra hlow
  have hcol : (run (step roms) powerUp es).vga.hc = p.1 := congrArg Prod.fst hp
  have hline : (run (step roms) powerUp es).vga.vc = p.2 := congrArg Prod.snd hp
  rcases (syncsBeyond_run roms es).vs (by simpa using hlow) with ⟨horigin, -⟩ | hpulse
  · rw [hcol] at horigin
    rw [horigin] at hx
    exact absurd hx.1 (by decide)
  · rw [hline] at hpulse
    omega

/-- The raster moves on by a pixel, and the pixel is taken over. -/
theorem Drawing.next (roms : AllRoms) {p : Pixel} {c : Chip} (h : Drawing p c)
    (hx : p.1.toNat + 1 < 640) (keycode keycode' : BitVec 8) :
    Drawing (p.1 + 1, p.2) (run (step roms) c [.posedgeClk keycode, .posedgeClk keycode']) ∧
      (run (step roms) c [.posedgeClk keycode, .posedgeClk keycode']).video.display =
        c.video.display.pixel roms.sprites roms.colors p ∧
      (run (step roms) c [.posedgeClk keycode, .posedgeClk keycode']).video.ctrl.state =
        c.video.ctrl.stateNext := by
  obtain ⟨hvga, hdisplay, hstate, hreset⟩ := step_step roms h.reset h.clkdiv h.vs keycode keycode'
  have hcol : c.vga.hc = p.1 := congrArg Prod.fst h.position
  have hline : c.vga.vc = p.2 := congrArg Prod.snd h.position
  have hlast : c.vga.hc ≠ VgaController.hpixels := by
    intro hlast
    have hnat : p.1.toNat = 799 := by rw [← hcol, hlast]; rfl
    omega
  have hcounter : c.vga.counterProc = (p.1 + 1, p.2) := by
    rw [VgaController.counterProc, if_neg hlast, hcol, hline]
  have hnext : (p.1 + 1).toNat = (p.1.toNat + 1) % 1024 := BitVec.toNat_add p.1 1
  have hvisible := h.visible
  rw [h.position] at hdisplay
  refine ⟨⟨hreset, ?_, ?_, ?_, ?_, hvisible.2⟩, hdisplay, hstate⟩
  · rw [run_cons, run_cons, run_nil, hvga]
    rfl
  · rw [run_cons, run_cons, run_nil, hvga]
    refine (VgaController.vsyncProc_iff c.vga).2 ?_
    rw [hline]
    omega
  · rw [run_cons, run_cons, run_nil, Chip.position, hvga]
    exact hcounter
  · show (p.1 + 1).toNat < 640
    omega

/-- What the pins show of the game: with the raster at `q` when its clock is about to fall and the
pixel `p` after it inside the frame, they have the layers at `p` after the third pixel clock, if
the game is still on then. -/
def ShowsGame (roms : AllRoms) (c : Chip) : Prop :=
  ∀ q p : Pixel, c.position = q → p = (q.1 + 1, q.2) → Display.blank p = true →
    c.video.ctrl.reset = false → c.vga.clkdiv = true → ∀ k₁ k₂ k₃ k₄ k₅ k₆ : BitVec 8,
      (run (step roms) c ([k₁, k₂, k₃, k₄, k₅, k₆].map .posedgeClk)).video.ctrl.state = .play →
        (run (step roms) c ([k₁, k₂, k₃, k₄, k₅, k₆].map .posedgeClk)).vgaRgb =
          c.video.ctrl.game.shown roms.sprites roms.colors q p

/-- **The game.** Every pixel of it comes to the pins in its own place, in every run. -/
theorem shows_game (roms : AllRoms) (es : List ClkEvent) :
    ShowsGame roms (run (step roms) powerUp es) := by
  rintro q p hq rfl hblank hreset hclk k₁ k₂ k₃ k₄ k₅ k₆ hplay
  have hframe := (Display.blank_iff (q.1 + 1, q.2)).1 hblank
  have hnext : (q.1 + 1).toNat = (q.1.toNat + 1) % 1024 := BitVec.toNat_add q.1 1
  have hnext₂ : (q.1 + 1 + 1).toNat = ((q.1 + 1).toNat + 1) % 1024 := BitVec.toNat_add (q.1 + 1) 1
  simp only [hnext] at hframe
  have hdrawing := drawing_of_run roms es hreset hclk hq (by omega) (by omega)
  generalize run (step roms) powerUp es = c at *
  obtain ⟨hdrawing₁, hdisplay₁, hstate₁⟩ := hdrawing.next roms (by omega) k₁ k₂
  generalize hd₁ : run (step roms) c [.posedgeClk k₁, .posedgeClk k₂] = d₁ at *
  obtain ⟨hdrawing₂, hdisplay₂, hstate₂⟩ :=
    hdrawing₁.next roms (show (q.1 + 1).toNat + 1 < 640 by omega) k₃ k₄
  generalize hd₂ : run (step roms) d₁ [.posedgeClk k₃, .posedgeClk k₄] = d₂ at *
  obtain ⟨-, hdisplay₃, hstate₃⟩ := hdrawing₂.next roms
    (show (q.1 + 1 + 1).toNat + 1 < 640 by omega) k₅ k₆
  have hrun : run (step roms) c ([k₁, k₂, k₃, k₄, k₅, k₆].map .posedgeClk) =
      run (step roms) d₂ [.posedgeClk k₅, .posedgeClk k₆] := by
    rw [← hd₂, ← hd₁]
    rfl
  rw [hrun] at hplay ⊢
  -- the game is on at each of the three pixel clocks, so none of them sees a crash
  obtain ⟨hcollision₂, hon₂⟩ := StateController.inGame_of_stateNext hdrawing₂.reset
    (.inr (hstate₃.symm.trans hplay))
  obtain ⟨hcollision₁, hon₁⟩ := StateController.inGame_of_stateNext hdrawing₁.reset
    (hstate₂ ▸ hon₂)
  obtain ⟨hcollision, -⟩ := StateController.inGame_of_stateNext hdrawing.reset
    (hstate₁ ▸ hon₁)
  have hgame₁ : (c.video.display.pixel roms.sprites roms.colors q).game.collision = false := by
    rw [← hdisplay₁]
    exact hcollision₁
  have hgame₂ : ((c.video.display.pixel roms.sprites roms.colors q).pixel roms.sprites roms.colors
      (q.1 + 1, q.2)).game.collision = false := by
    rw [← hdisplay₁, ← hdisplay₂]
    exact hcollision₂
  have hseen : (run (step roms) d₂ [.posedgeClk k₅, .posedgeClk k₆]).vgaRgb =
      (run (step roms) d₂ [.posedgeClk k₅, .posedgeClk k₆]).video.display.colors.rgb.low := by
    rw [vgaRgb, Video.rgb, hplay]
    rfl
  rw [hseen, hdisplay₃, hdisplay₂, hdisplay₁]
  exact Display.rgb_pixel hblank hcollision hgame₁ hgame₂

/-- The scene in the first frame. -/
theorem shown_held (keycode : BitVec 8) {j : Nat}
    (hj : Design.InFrame (Design.tickPixel 0) (Design.tickPixel 1) (j + 1)) (q p : Pixel) :
    (held keycode (2 * j + 1)).video.ctrl.game.shown plain.sprites plain.colors q p =
      (Design.powerUp.ctrl.round.tick ⟨false, keycode⟩).game.shown plain.sprites plain.colors
        q p := by
  have hon : (Design.played sprites (fun _ => keycode) Design.powerUp 0).IsOn :=
    Round.isOn_tick ⟨false, keycode⟩ Design.powerUp.ctrl.round
  have hgame := Design.still_of_played sprites (fun _ => keycode) Design.ready_powerUp hon hj
  rw [← Design.game_ctrlAt, Design.ctrlAt_succ sprites _ Design.fresh_powerUp, ← design_held]
    at hgame
  exact congrArg (fun s => s.shown plain.sprites plain.colors q p) hgame

/-- A light in the middle of base one, with `D` held since power-up. -/
theorem shows_game_base :
    (held 7 (2 * 109033 + 1)).video.ctrl.state = .play ∧
      (held 7 (2 * 109033 + 1)).vgaRgb = ⟨0xF, 0xF, 0xF⟩ := by
  obtain ⟨hreset, hclk, hposition⟩ := held_before 7 (p := (231, 136)) (j := 109030) (by decide)
    (by decide)
  have hstate := state_held 7 (j := 109033) ⟨.inl rfl, by decide, by decide, by decide⟩
  have hgame : ShowsGame plain (held 7 (2 * 109030 + 1)) := shows_game plain _
  have h := hgame _ _ hposition rfl (by decide) hreset hclk 7 7 7 7 7 7
  have hrun : run (step plain) (held 7 (2 * 109030 + 1)) ([7, 7, 7, 7, 7, 7].map .posedgeClk) =
    held 7 (2 * 109033 + 1) := (held_add 7 (2 * 109030 + 1) 6).symm
  rw [hrun, shown_held 7 ⟨.inl rfl, by decide, by decide, by decide⟩] at h
  exact ⟨hstate, (h hstate).trans (by decide +kernel)⟩

end Chip

end Bosconian
