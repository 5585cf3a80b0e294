import Bosconian.EventMachine
import Bosconian.Usb.Polls
import Bosconian.Usb.Reports
import Bosconian.Usb.TaskState

/-!
# The hex digits and the lamps

`main` shows a report on two ports: a number on the digits 4 and 3, one on the digits 1 and 0, and
signs, hundreds and buttons on the lamps. Two routines write the one port of the digits, each its
own half, by reading it back.

* `Readout` — what was shown last.
* `panel_shows` — in every run the ports show that, and the digits unless a number is -128: its
  absolute value is no `signed char`.
* `lamp_running` — at the start of every round the lamp 9 is lit while a device runs.
-/

namespace Bosconian.Soc

open EventMachine Scripted Usb

/-! ## The ports -/

/-- `data_out` of `lab62_soc_hex_digits_pio` and of `lab62_soc_leds_pio`. The board connects the
digits and leaves the lamps open. -/
structure Panel where
  hexDigits : BitVec 16
  leds : BitVec 14
deriving DecidableEq, Repr

namespace Panel

def powerUp : Panel := ⟨0, 0⟩

def setLED (led : Nat) (p : Panel) : Panel :=
  { p with leds := (p.leds.setWidth 32 ||| 1#32 <<< led).setWidth 14 }

def clearLED (led : Nat) (p : Panel) : Panel :=
  { p with leds := (p.leds.setWidth 32 &&& ~~~(1#32 <<< led)).setWidth 14 }

/-- `setLED` or `clearLED`. -/
def lamp (led : Nat) (on : Bool) (p : Panel) : Panel :=
  if on then p.setLED led else p.clearLED led

/-- `value` after its sign was taken, which leaves -128 as it is. -/
def absolute (value : Byte) : Byte := if value.slt 0 then -value else value

def hasHundred (value : Byte) : Bool := (absolute value).sdiv 100 != 0

def tens (value : Byte) : Byte := ((absolute value).srem 100).sdiv 10

def ones (value : Byte) : Byte := ((absolute value).srem 100).srem 10

/-- `pio_val` is a `WORD`. -/
def printSignedHex0 (value : Byte) (p : Panel) : Panel :=
  let q := (p.lamp 11 (value.slt 0)).lamp 13 (hasHundred value)
  { q with
    hexDigits := (p.hexDigits &&& 0x00FF#16) ||| (tens value).setWidth 16 <<< 12 |||
      (ones value).setWidth 16 <<< 8 }

/-- `pio_val` is a `DWORD`, and the digits are not cut to their half. -/
def printSignedHex1 (value : Byte) (p : Panel) : Panel :=
  let q := (p.lamp 10 (value.slt 0)).lamp 12 (hasHundred value)
  { q with
    hexDigits := ((p.hexDigits.setWidth 32 &&& 0xFF00#32) ||| (tens value).setWidth 32 <<< 4 |||
      (ones value).setWidth 32).setWidth 16 }

end Panel

/-- The segments of a digit are lit by a 0. -/
def hexDriver (in0 : BitVec 4) : BitVec 7 :=
  [0b1000000#7, 0b1111001#7, 0b0100100#7, 0b0110000#7, 0b0011001#7, 0b0010010#7, 0b0000010#7,
    0b1111000#7, 0b0000000#7, 0b0010000#7, 0b0001000#7, 0b0000011#7, 0b1000110#7, 0b0100001#7,
    0b0000110#7, 0b0001110#7].getD in0.toNat 0

namespace Panel

def hex4 (p : Panel) : BitVec 8 := 1#1 ++ hexDriver (p.hexDigits.extractLsb' 12 4)
def hex3 (p : Panel) : BitVec 8 := 1#1 ++ hexDriver (p.hexDigits.extractLsb' 8 4)
def hex1 (p : Panel) : BitVec 8 := 1#1 ++ hexDriver (p.hexDigits.extractLsb' 4 4)
def hex0 (p : Panel) : BitVec 8 := 1#1 ++ hexDriver (p.hexDigits.extractLsb' 0 4)

end Panel

/-! ## What `main` shows -/

/-- A device runs or not, the two numbers of a report, the buttons of a mouse. -/
inductive PanelEvent
  | running (on : Bool)
  | values (x y : Byte)
  | buttons (button : Byte)
deriving DecidableEq, Repr

def Panel.step (p : Panel) : PanelEvent → Panel
  | .running on => p.lamp 9 on
  | .values x y => (p.printSignedHex0 x).printSignedHex1 y
  | .buttons button =>
    ((p.lamp 2 (button.getLsbD 2)).lamp 1 (button.getLsbD 1)).lamp 0 (button.getLsbD 0)

def showKeyboard (kbdbuf : List Byte) : List PanelEvent :=
  [.values (kbdbuf.getD 2 0) (kbdbuf.getD 3 0)]

def showMouse (buf : List Byte) : List PanelEvent :=
  [.values (buf.getD 1 0) (buf.getD 2 0), .buttons (buf.getD 0 0)]

/-- What a call of `main` shows. -/
def displays (m : Main) (answers : List Dword) : List PanelEvent :=
  if m.call ≠ some .useDevice then []
  else if m.usbTaskState = usbStateRunning then
    if m.runningdebugflag = 0 then [.running true]
    else if m.device = hidK then (polled m.kbdbuf m answers).elim [] showKeyboard
    else if m.device = hidM then (polled m.buf m answers).elim [] showMouse
    else []
  else if m.usbTaskState = usbStateError then
    if m.errorflag = 0 then [.running false] else []
  else if (returned useDevice ⟨answers, m⟩).isSome then [.running false]
  else []

/-- The program and the two ports. -/
structure Bench where
  main : Main
  panel : Panel
deriving DecidableEq, Repr

namespace Bench

def powerUp (main : Main) : Bench := ⟨main, Panel.powerUp⟩

def step (b : Bench) (answers : List Dword) : Bench :=
  ⟨b.main.step answers, run Panel.step b.panel (displays b.main answers)⟩

end Bench

/-! ## What was shown last -/

structure Readout where
  running : Bool
  x : Byte
  y : Byte
  button : Byte
deriving DecidableEq, Repr

namespace Readout

def powerUp : Readout := ⟨false, 0, 0, 0⟩

def step (r : Readout) : PanelEvent → Readout
  | .running on => { r with running := on }
  | .values x y => { r with x := x, y := y }
  | .buttons button => { r with button := button }

end Readout

/-- The digit that the segments show. -/
def readDigit (hex : BitVec 8) : Option Nat :=
  (List.range 10).find? fun d => hex = 1#1 ++ hexDriver (.ofNat 4 d)

def readPair (high low : BitVec 8) : Option Nat :=
  (readDigit high).bind fun d => (readDigit low).map fun e => 10 * d + e

/-- `-128` has no absolute value. -/
def Printable (value : Byte) : Prop := value ≠ 0x80

instance (value : Byte) : Decidable (Printable value) := inferInstanceAs (Decidable (value ≠ _))

/-! ## The lamps -/

namespace Panel

theorem getLsbD_lamp {led : Nat} (hled : led < 14) (on : Bool) (p : Panel) (i : Nat) :
    (p.lamp led on).leds.getLsbD i = if i = led then on else p.leds.getLsbD i := by
  by_cases hi : i < 14
  · have hmask : ∀ led < 14, ∀ i < 14, (1#32 <<< led).getLsbD i = decide (i = led) := by decide
    have hbit := hmask led hled i hi
    have hi32 : i < 32 := Nat.lt_trans hi (by decide)
    cases on with
    | false =>
      show BitVec.getLsbD (BitVec.setWidth 14 _) i = _
      rw [BitVec.getLsbD_setWidth, BitVec.getLsbD_and, BitVec.getLsbD_not, hbit,
        BitVec.getLsbD_setWidth]
      by_cases h : i = led <;> simp [h, hi, hi32, hled]
    | true =>
      show BitVec.getLsbD (BitVec.setWidth 14 _) i = _
      rw [BitVec.getLsbD_setWidth, BitVec.getLsbD_or, hbit, BitVec.getLsbD_setWidth]
      by_cases h : i = led <;> simp [h, hi, hi32, hled]
  · have hge : 14 ≤ i := Nat.le_of_not_lt hi
    rw [BitVec.getLsbD_of_ge _ i hge, BitVec.getLsbD_of_ge _ i hge, if_neg (by omega)]

@[simp] theorem lamp_hexDigits (led : Nat) (on : Bool) (p : Panel) :
    (p.lamp led on).hexDigits = p.hexDigits := by
  cases on <;> rfl

theorem getLsbD_printSignedHex0 (value : Byte) (p : Panel) (i : Nat) :
    (p.printSignedHex0 value).leds.getLsbD i =
      if i = 13 then hasHundred value
      else if i = 11 then value.slt 0 else p.leds.getLsbD i := by
  show ((p.lamp 11 _).lamp 13 _).leds.getLsbD i = _
  rw [getLsbD_lamp (by decide), getLsbD_lamp (by decide)]

theorem getLsbD_printSignedHex1 (value : Byte) (p : Panel) (i : Nat) :
    (p.printSignedHex1 value).leds.getLsbD i =
      if i = 12 then hasHundred value
      else if i = 10 then value.slt 0 else p.leds.getLsbD i := by
  show ((p.lamp 10 _).lamp 12 _).leds.getLsbD i = _
  rw [getLsbD_lamp (by decide), getLsbD_lamp (by decide)]

theorem getLsbD_values (x y : Byte) (p : Panel) (i : Nat) :
    (p.step (.values x y)).leds.getLsbD i =
      if i = 12 then hasHundred y else if i = 10 then y.slt 0
      else if i = 13 then hasHundred x else if i = 11 then x.slt 0
      else p.leds.getLsbD i := by
  show ((p.printSignedHex0 x).printSignedHex1 y).leds.getLsbD i = _
  rw [getLsbD_printSignedHex1, getLsbD_printSignedHex0]

theorem getLsbD_buttons (button : Byte) (p : Panel) (i : Nat) :
    (p.step (.buttons button)).leds.getLsbD i =
      if i = 0 then button.getLsbD 0 else if i = 1 then button.getLsbD 1
      else if i = 2 then button.getLsbD 2 else p.leds.getLsbD i := by
  show ((((p.lamp 2 _).lamp 1 _).lamp 0 _ : Panel)).leds.getLsbD i = _
  rw [getLsbD_lamp (by decide), getLsbD_lamp (by decide), getLsbD_lamp (by decide)]

/-! ## The digits -/

/-- The two digits of a number. -/
def digits (value : Byte) : BitVec 8 :=
  ((tens value).setWidth 8 <<< 4) ||| ones value

/-- What `printSignedHex1` writes outside its half. -/
def overrun (value : Byte) : BitVec 8 := if Printable value then 0#8 else 0x0F#8

theorem digits_upper : ∀ value : Byte, (tens value).setWidth 16 <<< 12 |||
    (ones value).setWidth 16 <<< 8 = digits value ++ 0#8 := by
  decide +kernel

theorem digits_lower : ∀ value : Byte, ((tens value).setWidth 32 <<< 4 |||
    (ones value).setWidth 32).setWidth 16 = overrun value ++ digits value := by
  decide +kernel

theorem halves (h : BitVec 16) : h = h.extractLsb' 8 8 ++ h.extractLsb' 0 8 :=
  (@BitVec.extractLsb'_append_extractLsb' 8 8 h).symm

theorem hexDigits_printSignedHex0 (value : Byte) (p : Panel) :
    (p.printSignedHex0 value).hexDigits = digits value ++ p.hexDigits.extractLsb' 0 8 := by
  have hmask : 0x00FF#16 = 0#8 ++ BitVec.allOnes 8 := rfl
  show (p.hexDigits &&& 0x00FF#16) ||| (tens value).setWidth 16 <<< 12 |||
    (ones value).setWidth 16 <<< 8 = _
  rw [BitVec.or_assoc, digits_upper]
  conv_lhs => rw [halves p.hexDigits]
  rw [hmask, BitVec.and_append, BitVec.or_append, BitVec.and_zero, BitVec.zero_or,
    BitVec.and_allOnes, BitVec.or_zero]

theorem hexDigits_printSignedHex1 (value : Byte) (p : Panel) :
    (p.printSignedHex1 value).hexDigits =
      (p.hexDigits.extractLsb' 8 8 ||| overrun value) ++ digits value := by
  have hmask : 0xFF00#16 = BitVec.allOnes 8 ++ 0#8 := rfl
  have hkept : (p.hexDigits.setWidth 32 &&& 0xFF00#32).setWidth 16 =
      p.hexDigits &&& 0xFF00#16 := by
    rw [BitVec.setWidth_and, BitVec.setWidth_setWidth_of_le _ (by decide), BitVec.setWidth_eq]
    rfl
  show ((p.hexDigits.setWidth 32 &&& 0xFF00#32) ||| (tens value).setWidth 32 <<< 4 |||
    (ones value).setWidth 32).setWidth 16 = _
  rw [BitVec.or_assoc, BitVec.setWidth_or, hkept, digits_lower]
  conv_lhs => rw [halves p.hexDigits]
  rw [hmask, BitVec.and_append, BitVec.or_append, BitVec.and_zero, BitVec.zero_or,
    BitVec.and_allOnes]

/-- A report leaves the digits of its two numbers, whatever was there before. -/
theorem hexDigits_values (x y : Byte) (p : Panel) :
    (p.step (.values x y)).hexDigits = (digits x ||| overrun y) ++ digits y := by
  show ((p.printSignedHex0 x).printSignedHex1 y).hexDigits = _
  rw [hexDigits_printSignedHex1, hexDigits_printSignedHex0, BitVec.extractLsb'_append_eq_left]

end Panel

/-! ## The ports against what was shown last -/

/-- The lamp `i` after `r` was shown. -/
def Readout.lamps (r : Readout) (i : Nat) : Bool :=
  if i = 9 then r.running
  else if i ≤ 2 then r.button.getLsbD i
  else if i = 11 then r.x.slt 0
  else if i = 13 then Panel.hasHundred r.x
  else if i = 10 then r.y.slt 0
  else if i = 12 then Panel.hasHundred r.y
  else false

/-- The ports hold `r`. -/
structure Drawn (r : Readout) (p : Panel) : Prop where
  digits : p.hexDigits = (Panel.digits r.x ||| Panel.overrun r.y) ++ Panel.digits r.y
  lamps : ∀ i, p.leds.getLsbD i = r.lamps i

theorem drawn_powerUp : Drawn Readout.powerUp Panel.powerUp := by
  refine ⟨by decide, fun i => ?_⟩
  have hoff : (BitVec.ofNat 14 0).getLsbD i = false := BitVec.getLsbD_zero
  show (BitVec.ofNat 14 0).getLsbD i = _
  rw [hoff]
  unfold Readout.lamps
  have hzero : Panel.hasHundred 0#8 = false := by decide
  simp [Readout.powerUp, hzero]

theorem Drawn.step {r : Readout} {p : Panel} (h : Drawn r p) (e : PanelEvent) :
    Drawn (r.step e) (p.step e) := by
  cases e with
  | running on =>
    refine ⟨?_, fun i => ?_⟩
    · show (p.lamp 9 on).hexDigits = _
      rw [Panel.lamp_hexDigits, h.digits]
      rfl
    · show (p.lamp 9 on).leds.getLsbD i = _
      rw [Panel.getLsbD_lamp (by decide), h.lamps]
      by_cases hi : i = 9 <;> simp [Readout.step, Readout.lamps, hi]
  | values x y =>
    refine ⟨Panel.hexDigits_values x y p, fun i => ?_⟩
    rw [Panel.getLsbD_values, h.lamps]
    unfold Readout.lamps Readout.step
    split_ifs <;> first | rfl | omega
  | buttons button =>
    refine ⟨?_, fun i => ?_⟩
    · show ((((p.lamp 2 _).lamp 1 _).lamp 0 _ : Panel)).hexDigits = _
      rw [Panel.lamp_hexDigits, Panel.lamp_hexDigits, Panel.lamp_hexDigits, h.digits]
      rfl
    · rw [Panel.getLsbD_buttons, h.lamps]
      unfold Readout.lamps Readout.step
      split_ifs <;> first | rfl | omega | (subst_vars; rfl)

theorem drawn_run (es : List PanelEvent) :
    Drawn (run Readout.step Readout.powerUp es) (run Panel.step Panel.powerUp es) := by
  induction es using List.reverseRecOn with
  | nil => exact drawn_powerUp
  | append_singleton es e ih =>
    rw [run_concat, run_concat]
    exact ih.step e

/-! ## Reading the digits -/

/-- The four digits read as the last two digits of the absolute values. -/
structure Reads (p : Panel) (x y : Byte) : Prop where
  upper : readPair p.hex4 p.hex3 = some (x.toInt.natAbs % 100)
  lower : readPair p.hex1 p.hex0 = some (y.toInt.natAbs % 100)

def shownPair (digits : BitVec 8) : Option Nat :=
  readPair (1#1 ++ hexDriver (digits.extractLsb' 4 4)) (1#1 ++ hexDriver (digits.extractLsb' 0 4))

theorem shownPair_digits : ∀ value : Byte,
    shownPair (Panel.digits value) = some (value.toInt.natAbs % 100) ↔ Printable value := by
  decide +kernel

theorem reads_iff {x y : Byte} {p : Panel}
    (h : p.hexDigits = (Panel.digits x ||| Panel.overrun y) ++ Panel.digits y) :
    Reads p x y ↔ Printable x ∧ Printable y := by
  have hlower : readPair p.hex1 p.hex0 = shownPair (Panel.digits y) := by
    rw [Panel.hex1, Panel.hex0, h, BitVec.extractLsb'_append_eq_of_add_le (by decide),
      BitVec.extractLsb'_append_eq_of_add_le (by decide)]
    rfl
  have hupper : readPair p.hex4 p.hex3 = shownPair (Panel.digits x ||| Panel.overrun y) := by
    rw [Panel.hex4, Panel.hex3, h, BitVec.extractLsb'_append_eq_of_le (by decide),
      BitVec.extractLsb'_append_eq_of_le (by decide)]
    rfl
  constructor
  · intro hreads
    have hy : Printable y := (shownPair_digits y).1 (hlower.symm.trans hreads.lower)
    have hx := hupper.symm.trans hreads.upper
    rw [Panel.overrun, if_pos hy, BitVec.or_zero] at hx
    exact ⟨(shownPair_digits x).1 hx, hy⟩
  · rintro ⟨hx, hy⟩
    refine ⟨?_, hlower.trans ((shownPair_digits y).2 hy)⟩
    rw [hupper, Panel.overrun, if_pos hy, BitVec.or_zero]
    exact (shownPair_digits x).2 hx

/-! ## Runs -/

namespace Bench

/-- What `main` has shown in a run. -/
def shown (b : Bench) (answers : List (List Dword)) : List PanelEvent :=
  emit Bench.step (fun b => displays b.main) b answers

/-- **What was shown last is what the ports show.** -/
theorem panel_shows (main : Main) (answers : List (List Dword)) :
    let p := (run Bench.step (powerUp main) answers).panel
    let r := run Readout.step Readout.powerUp ((powerUp main).shown answers)
    (∀ i, p.leds.getLsbD i = r.lamps i) ∧
      (Reads p r.x r.y ↔ Printable r.x ∧ Printable r.y) := by
  intro p r
  have hrun : p = run Panel.step Panel.powerUp ((powerUp main).shown answers) :=
    run_emit (f := Bench.panel) (fun _ _ => rfl) (powerUp main) answers
  have hdrawn : Drawn r p := by
    rw [hrun]
    exact drawn_run _
  exact ⟨hdrawn.lamps, reads_iff hdrawn.digits⟩

end Bench

/-! ## The lamp of the device -/

/-- Once `main` has set the flag it stays set while the device is used. -/
theorem flag_meetDevice :
    Triple (fun _ => True) meetDevice (fun _ m => m.runningdebugflag ≠ 0) fun _ => True := by
  have hset : (1 : Byte) ≠ 0 := by decide
  refine Triple.bind (Q := fun _ m => m.runningdebugflag ≠ 0) (Triple.update fun _ _ => hset)
    fun _ => Keeps.triple ?_ fun _ _ => trivial
  exact Moves.bind (keeps_runningdebugflag (fun flag => flag ≠ 0) _) fun _ =>
    Keeps.update fun _ h => h

theorem flag_pollKeyboard : Keeps (fun m => m.runningdebugflag ≠ 0) pollKeyboard :=
  Moves.bind Moves.read fun _ =>
    Moves.bind (keeps_runningdebugflag (fun flag => flag ≠ 0) _) fun _ =>
    Moves.bind (Keeps.update fun _ h => h) fun _ =>
    Moves.onlyIf fun _ => keeps_runningdebugflag (fun flag => flag ≠ 0) _

theorem flag_pollMouse : Keeps (fun m => m.runningdebugflag ≠ 0) pollMouse :=
  Moves.bind Moves.read fun _ =>
    Moves.bind (keeps_runningdebugflag (fun flag => flag ≠ 0) _) fun _ =>
    Keeps.update fun _ h => h

theorem notRunning_startOver :
    Triple (fun _ => True) startOver (fun _ m => m.usbTaskState ≠ usbStateRunning)
      fun _ => True := by
  have hinit := triple_main triple_max3421eInit
  have husb := triple_main (triple_usbInit (C := fun _ => True))
  refine Triple.skip fun _ => Triple.bind (hinit.pre fun _ _ => trivial) fun _ =>
    husb.mono (fun _ => id) (fun _ m h hrun => ?_) fun _ => id
  have hbefore := h.2
  rw [hrun] at hbefore
  exact absurd hbefore (by decide)

/-- What a round leaves: a device is known exactly if one ran, and none runs that did not. -/
theorem triple_useDevice_known (m : Main) (hm : Current .useDevice m) :
    Triple (fun n => n = m) useDevice
      (fun _ n => (n.runningdebugflag ≠ 0 ↔ m.usbTaskState = usbStateRunning) ∧
        (n.usbTaskState = usbStateRunning → m.usbTaskState = usbStateRunning))
      fun _ => True := by
  refine Triple.read_bind fun n hn => ?_
  subst hn
  by_cases hrun : n.usbTaskState = usbStateRunning
  · have hknown {p : MainProg Unit}
        (hp : Triple (fun v => v = n) p (fun _ v => v.runningdebugflag ≠ 0) fun _ => True) :
        Triple (fun v => v = n) p (fun _ v =>
          (v.runningdebugflag ≠ 0 ↔ n.usbTaskState = usbStateRunning) ∧
          (v.usbTaskState = usbStateRunning → n.usbTaskState = usbStateRunning)) fun _ => True :=
      hp.mono (fun _ => id) (fun _ _ hflag => ⟨⟨fun _ => hrun, fun _ => hflag⟩, fun _ => hrun⟩)
        fun _ => id
    rw [if_pos hrun]
    split
    · exact hknown (flag_meetDevice.pre fun _ _ => trivial)
    next hflag =>
    have hpoll {p : MainProg Unit} (hp : Keeps (fun m => m.runningdebugflag ≠ 0) p) :=
      hknown ((hp.triple fun _ _ => trivial).pre fun v (hv : v = n) => hv ▸ hflag)
    split
    · exact hpoll flag_pollKeyboard
    split
    · exact hpoll flag_pollMouse
    · exact hpoll (Moves.pure ())
  · rw [if_neg hrun]
    have hdone (v : Main) (hflag : v.runningdebugflag = 0)
        (hstate : v.usbTaskState ≠ usbStateRunning) :
        (v.runningdebugflag ≠ 0 ↔ n.usbTaskState = usbStateRunning) ∧
          (v.usbTaskState = usbStateRunning → n.usbTaskState = usbStateRunning) :=
      ⟨⟨fun h => absurd hflag h, fun h => absurd h hrun⟩, fun h => absurd h hstate⟩
    split
    · next herror =>
      -- a device that was met is never found in `USB_STATE_ERROR`
      refine Triple.update fun v hv => ?_
      subst hv
      exact hdone _ (not_not.1 fun hflag => (hm hflag).noError herror) hrun
    · refine Triple.bind (Q := fun _ v => v.runningdebugflag = 0 ∧
        v.usbTaskState ≠ usbStateRunning) ?_ fun _ => Triple.update fun v hv => hdone _ hv.1 hv.2
      unfold onlyIf
      split
      · exact (untold_startOver.and notRunning_startOver).mono (fun _ _ => ⟨trivial, trivial⟩)
          (fun _ _ => id) fun _ h => h.1
      · next hflag =>
        exact Triple.pure fun v hv => hv ▸ ⟨not_not.1 hflag, hrun⟩

/-- What each call finds of the flag and the state, while the lamp is `lit`. -/
structure Known (lit : Bool) (c : Call) (m : Main) : Prop where
  lit : lit = true ↔ m.runningdebugflag ≠ 0
  init : c = .usbInit → m.usbTaskState ≠ usbStateRunning
  round : c = .max3421eTask → m.usbTaskState = usbStateRunning → m.runningdebugflag ≠ 0

/-- The calls before the device is used leave lamp and flag alone. -/
theorem known_exec {lit : Bool} {c : Call} (hc : c ≠ .useDevice) :
    Triple (Known lit c) (Main.exec c) (fun _ => Known lit c.next) fun _ => True := by
  have hlit {m : Usb.Task Unit} : Triple (Known lit c) (liftM m : MainProg Unit)
      (fun _ m => lit = true ↔ m.runningdebugflag ≠ 0) fun _ => True :=
    ((keeps_runningdebugflag (fun flag => lit = true ↔ flag ≠ 0) m).triple
      fun _ _ => trivial).pre fun _ h => h.lit
  cases c with
  | max3421eInit =>
    have hstate := triple_main triple_max3421eInit
    refine (hlit.and hstate).mono (fun _ h => ⟨h, trivial⟩)
      (fun _ m h => ⟨h.1, ?_, by simp [Call.next]⟩) fun _ _ => trivial
    intro _ hrun
    have hbefore := h.2
    rw [hrun] at hbefore
    exact absurd hbefore (by decide)
  | usbInit =>
    have hstate : Keeps (fun m : Main => m.usbTaskState ≠ usbStateRunning)
        (liftM (liftM usbInit : Usb.Task Unit) : MainProg Unit) :=
      Usb.Keeps.ofDriver (I := fun u => u.usbTaskState ≠ usbStateRunning) (fun _ _ h => h) usbInit
    refine (hlit.and (hstate.triple (C := fun _ => True) fun _ _ => trivial)).mono
      (fun _ h => ⟨h, h.init rfl⟩) (fun _ m h => ⟨h.1, by simp [Call.next], ?_⟩) fun _ _ => trivial
    intro _ hrun
    exact absurd hrun h.2
  | max3421eTask =>
    exact hlit.mono (fun _ => id)
      (fun _ _ h => ⟨h, by simp [Call.next], by simp [Call.next]⟩) fun _ => id
  | usbTask =>
    exact hlit.mono (fun _ => id)
      (fun _ _ h => ⟨h, by simp [Call.next], by simp [Call.next]⟩) fun _ => id
  | useDevice => exact absurd rfl hc

theorem lamp_of_spares {es : List PanelEvent} (h : ∀ e ∈ es, ∀ on, e ≠ .running on)
    (p : Panel) : (run Panel.step p es).leds.getLsbD 9 = p.leds.getLsbD 9 := by
  induction es generalizing p with
  | nil => rfl
  | cons e es ih =>
    obtain ⟨he, hes⟩ := List.forall_mem_cons.1 h
    rw [run_cons, ih hes]
    cases e with
    | running on => exact absurd rfl (he on)
    | values x y => rw [Panel.getLsbD_values]; rfl
    | buttons button => rw [Panel.getLsbD_buttons]; rfl

theorem lamp_running_on (on : Bool) (p : Panel) :
    (run Panel.step p [.running on]).leds.getLsbD 9 = on := by
  show (p.lamp 9 on).leds.getLsbD 9 = on
  rw [Panel.getLsbD_lamp (by decide), if_pos rfl]

/-- After a round that returns, the lamp tells whether a device ran. -/
theorem lamp_displays {m : Main} {answers : List Dword} {p : Panel}
    (hcall : m.call = some .useDevice) (hlit : p.leds.getLsbD 9 = true ↔ m.runningdebugflag ≠ 0)
    (hm : Current .useDevice m) (hreturned : (returned useDevice ⟨answers, m⟩).isSome) :
    (run Panel.step p (displays m answers)).leds.getLsbD 9 = true ↔
      m.usbTaskState = usbStateRunning := by
  unfold displays
  rw [if_neg (not_not.2 hcall)]
  by_cases hrun : m.usbTaskState = usbStateRunning
  · rw [if_pos hrun, iff_true_right hrun]
    split
    · exact lamp_running_on true p
    next hflag =>
    have hkept {es : List PanelEvent} (h : ∀ e ∈ es, ∀ on, e ≠ .running on) :
        (run Panel.step p es).leds.getLsbD 9 = true :=
      (lamp_of_spares h p).trans (hlit.2 hflag)
    split
    · rcases polled m.kbdbuf m answers with _ | buf
      · exact hkept (by simp)
      · exact hkept (by simp [showKeyboard])
    split
    · rcases polled m.buf m answers with _ | buf
      · exact hkept (by simp)
      · exact hkept (by simp [showMouse])
    · exact hkept (by simp)
  · rw [if_neg hrun, iff_false_right hrun]
    split
    · next herror =>
      have hflag : m.runningdebugflag = 0 := not_not.1 fun hflag => (hm hflag).noError herror
      split
      · rw [lamp_running_on]
        decide
      · exact fun hon => hlit.1 hon hflag
    · rw [lamp_running_on]
      decide

/-- What holds of the program and its lamp between two calls. -/
structure LampKept (b : Bench) : Prop where
  answer : AnswerKept b.main
  known : ∀ c, b.main.call = some c → Known (b.panel.leds.getLsbD 9) c b.main

theorem LampKept.step {b : Bench} (h : LampKept b) (answers : List Dword) :
    LampKept (b.step answers) := by
  refine ⟨answerKept_step b.main answers h.answer, fun c' hc' => ?_⟩
  rcases hcall : b.main.call with _ | c
  · have hnone : (b.main.step answers).call = none := by rw [Main.step_of_none hcall, hcall]
    rw [show (b.step answers).main.call = none from hnone] at hc'
    cases hc'
  have hstep := Main.step_of_some hcall answers
  rcases hrun : Main.exec c ⟨answers, b.main⟩ with ⟨u, v⟩ | ⟨e, v⟩
  · rw [final_ok hrun, returned, hrun] at hstep
    have hmain : (b.step answers).main = { v.st with call := some c.next } := hstep
    rw [hmain] at hc' ⊢
    obtain rfl : c.next = c' := Option.some.inj hc'
    by_cases hdevice : c = .useDevice
    · subst hdevice
      have hcurrent := h.answer _ hcall
      obtain ⟨hok, -⟩ := triple_useDevice_known b.main hcurrent ⟨answers, b.main⟩ rfl
      obtain ⟨hflag, hstate⟩ := hok u v hrun
      have hreturned : (returned useDevice ⟨answers, b.main⟩).isSome := by
        rw [returned, show useDevice ⟨answers, b.main⟩ = .ok u v from hrun]
        rfl
      have hlamp := lamp_displays hcall (h.known _ hcall).lit hcurrent hreturned
      exact ⟨hlamp.trans hflag.symm, by simp [Call.next], fun _ hon => hflag.2 (hstate hon)⟩
    · have hquiet : displays b.main answers = [] := by
        unfold displays
        rw [hcall, if_pos fun heq => hdevice (Option.some.inj heq)]
      have hpanel : (b.step answers).panel = b.panel := by
        show run Panel.step b.panel (displays b.main answers) = b.panel
        rw [hquiet, run_nil]
      rw [hpanel]
      obtain ⟨hok, -⟩ := known_exec hdevice ⟨answers, b.main⟩ (h.known c hcall)
      obtain ⟨hlit, hinit, hround⟩ := hok u v hrun
      exact ⟨hlit, hinit, hround⟩
  · rw [final_error hrun, returned, hrun] at hstep
    have hmain : (b.step answers).main = { v.st with call := none } := hstep
    rw [hmain] at hc'
    cases hc'

/-- **The lamp of the device.** -/
theorem lamp_running (buf kbdbuf : List Byte) (device : Byte) (answers : List (List Dword)) :
    Always Bench.step
      (fun b => b.main.call = some .max3421eTask →
        (b.panel.leds.getLsbD 9 = true ↔ b.main.usbTaskState = usbStateRunning))
      (Bench.powerUp (Main.powerUp buf kbdbuf device)) answers := by
  intro ds _ hcall
  have hstart : LampKept (Bench.powerUp (Main.powerUp buf kbdbuf device)) := by
    refine ⟨?_, ?_⟩
    · rintro c ⟨⟩
      exact rfl
    · rintro c ⟨⟩
      have hlit : Panel.powerUp.leds.getLsbD 9 = true ↔ (0 : Byte) ≠ 0 := by decide
      exact ⟨hlit, by simp, by simp⟩
  have hkept := run_invariant (P := LampKept) (fun b e h => h.step e) hstart ds
  have hknown := hkept.known _ hcall
  have hcurrent := hkept.answer _ hcall
  rw [hknown.lit]
  exact ⟨fun hflag => List.mem_singleton.1 (hcurrent hflag).state, hknown.round rfl⟩

end Bosconian.Soc
