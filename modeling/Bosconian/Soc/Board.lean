import Bosconian.Usb.Addressing
import Bosconian.Usb.Bounds
import Bosconian.Usb.Descriptors
import Bosconian.Usb.Keyboard
import Bosconian.Hdl.TitleScreen

/-!
# The board

The program on the soft processor and the design in the fabric, and the port between them that
carries one key. Either goes on whatever the other one does.

* `Keyed` — what the game needs to know of the program: the third byte of the last report, and
  whether a report went through.
* `board_refines` — the board is the design behind that, as far as no transfer stores past its
  destination.
* `only_reports_start`, `report_starts` — the title screen is left for a movement key in the third
  byte of a report, and for nothing else.
-/

namespace Bosconian.Soc

open EventMachine Usb StateController

/-! ## The whole board -/

/-- The program, the register `data_out` of the key port, and the design. -/
structure Board where
  main : Main
  keycode : BitVec 8
  design : Design
deriving DecidableEq, Repr

/-- The next call of the program with the answers it gets, an edge of the board clock, or the
button. -/
inductive BoardEvent
  | call (answers : List Dword)
  | posedgeClk
  | posedgeReset
  | negedgeReset
deriving DecidableEq, Repr

namespace Board

def powerUp (main : Main) : Board := ⟨main, 0, Design.powerUp⟩

/-- `lab62_soc_keycode` takes the low eight bits of every write. -/
def dataOut (keycode : BitVec 8) (writes : List Dword) : BitVec 8 :=
  writes.foldl (fun _ writedata => writedata.setWidth 8) keycode

/-- The button resets the design and not the processor. -/
def step (roms : Roms) (b : Board) : BoardEvent → Board
  | .call answers =>
    { b with
      main := b.main.step answers
      keycode := dataOut b.keycode
        ((b.main.step answers).keyWrites.drop b.main.keyWrites.length) }
  | .posedgeClk => { b with design := b.design.step roms (.posedgeClk b.keycode) }
  | .posedgeReset => { b with design := b.design.step roms .posedgeReset }
  | .negedgeReset => { b with design := b.design.step roms .negedgeReset }

end Board

/-! ## What the game knows of the program -/

/-- The third byte of the last report that had one, the key on the port, and the design. -/
structure Keyed where
  third : Byte
  port : BitVec 8
  design : Design
deriving DecidableEq, Repr

/-- A report, and whether it went through; or an edge that the design sees. -/
inductive KeyedEvent
  | report (bytes : List Byte) (through : Bool)
  | posedgeClk
  | posedgeReset
  | negedgeReset
deriving DecidableEq, Repr

namespace Keyed

def receive (bytes : List Byte) (through : Bool) (k : Keyed) : Keyed :=
  { k with
    third := bytes.getD 2 k.third
    port := if through then bytes.getD 2 k.third else k.port }

def step (roms : Roms) (k : Keyed) : KeyedEvent → Keyed
  | .report bytes through => k.receive bytes through
  | .posedgeClk => { k with design := k.design.step roms (.posedgeClk k.port) }
  | .posedgeReset => { k with design := k.design.step roms .posedgeReset }
  | .negedgeReset => { k with design := k.design.step roms .negedgeReset }

end Keyed

namespace Board

def keyed (b : Board) : Keyed := ⟨b.main.kbdbuf.getD 2 0, b.keycode, b.design⟩

/-- A poll comes back if the program can go on after it. -/
def keyedEvents (b : Board) : BoardEvent → List KeyedEvent
  | .call answers =>
    if b.main.PollsKeyboard ∧ (b.main.step answers).call ≠ none then
      [.report (b.main.report answers) (polled b.main.kbdbuf b.main answers).isSome]
    else []
  | .posedgeClk => [.posedgeClk]
  | .posedgeReset => [.posedgeReset]
  | .negedgeReset => [.negedgeReset]

theorem getD_overlay (bs data : List Byte) (i : Nat) (b : Byte) :
    (overlay bs data).getD i b = bs.getD i (data.getD i b) := by
  by_cases hi : i < bs.length
  · simp [overlay, List.getElem?_append_left hi, List.getElem?_eq_getElem hi]
  · have hle : bs.length ≤ i := Nat.le_of_not_lt hi
    simp [overlay, List.getElem?_append_right hle, List.getElem?_drop, Nat.add_sub_cancel' hle,
      List.getElem?_eq_none hle]

/-- A call that has written nothing new leaves the port as it is. -/
theorem keyed_call_same (roms : Roms) {b : Board} {answers : List Dword}
    (hbuf : (b.main.step answers).kbdbuf = b.main.kbdbuf)
    (hwrites : (b.main.step answers).keyWrites = b.main.keyWrites) :
    (b.step roms (.call answers)).keyed = b.keyed := by
  have hport : dataOut b.keycode
      ((b.main.step answers).keyWrites.drop b.main.keyWrites.length) = b.keycode := by
    rw [hwrites, List.drop_length]
    rfl
  simp only [keyed, step, hbuf, hport]

/-- The program is, for the game, the reports that come back from its polls. -/
theorem keyed_step (roms : Roms) (b : Board) (e : BoardEvent) :
    (b.step roms e).keyed = run (Keyed.step roms) b.keyed (b.keyedEvents e) := by
  cases e with
  | posedgeClk => rfl
  | posedgeReset => rfl
  | negedgeReset => rfl
  | call answers =>
    by_cases hpoll : b.main.PollsKeyboard
    · rcases Main.poll_outcome hpoll answers with ⟨hcall, hbuf, hwrites⟩ | ⟨hcall, hbuf, hwrites⟩
      · rw [keyedEvents, if_neg fun h => h.2 hcall, run_nil, keyed_call_same roms hbuf hwrites]
      · have hthird : (b.main.step answers).kbdbuf.getD 2 0 =
            (b.main.report answers).getD 2 (b.main.kbdbuf.getD 2 0) := by
          rw [hbuf, getD_overlay]
        have hport : dataOut b.keycode
            ((b.main.step answers).keyWrites.drop b.main.keyWrites.length) =
              if (polled b.main.kbdbuf b.main answers).isSome then
                (b.main.step answers).kbdbuf.getD 2 0 else b.keycode := by
          rw [hwrites, List.drop_left]
          split
          · simp [dataOut]
          · rfl
        rw [keyedEvents, if_pos ⟨hpoll, hcall⟩, run_cons, run_nil]
        simp only [keyed, step, Keyed.step, Keyed.receive, hport, hthird]
    · obtain ⟨hbuf, hwrites⟩ := Main.step_of_not_polls hpoll answers
      rw [keyedEvents, if_neg fun h => hpoll h.1, run_nil, keyed_call_same roms hbuf hwrites]

/-! ### Runs in bounds -/

theorem bounded_step (roms : Roms) (b : Board) (e : BoardEvent) :
    Bounded b.main.toTables (b.step roms e).main.toTables := by
  cases e with
  | call answers => exact Main.bounded_step b.main answers
  | _ => exact refl_of Bounded _

theorem bounded_run (roms : Roms) (b : Board) (es : List BoardEvent) :
    Bounded b.main.toTables (run (step roms) b es).main.toTables := by
  induction es generalizing b with
  | nil => exact refl_of Bounded _
  | cons e es ih => exact trans_of Bounded (bounded_step roms b e) (ih (b.step roms e))

/-- As far as a run stays in bounds, the buffers have the bytes that they have in memory. -/
theorem sized_run (roms : Roms) {b : Board} (hb : b.main.Sized) {es : List BoardEvent}
    (hin : (run (step roms) b es).main.InBounds) : (run (step roms) b es).main.Sized := by
  induction es generalizing b with
  | nil => exact hb
  | cons e es ih =>
    have hlog := (bounded_run roms (b.step roms e) es).log
    refine ih ?_ hin
    cases e with
    | call answers => exact Main.sized_step hb (hin.of_prefix hlog)
    | _ => exact hb

/-- **The board is the design with the keys that the reports put on its port**, over every run in
which no transfer stores past its destination; and in such a run the buffers keep the bytes that
they have in memory. -/
theorem board_refines (roms : Roms) {b : Board} (hb : b.main.Sized) {es : List BoardEvent}
    (hin : (run (step roms) b es).main.InBounds) :
    (run (step roms) b es).keyed =
        run (Keyed.step roms) b.keyed (emit (step roms) keyedEvents b es) ∧
      (run (step roms) b es).main.Sized :=
  ⟨run_emit (keyed_step roms) b es, sized_run roms hb hin⟩

/-- A keyboard is attached, enumerated and found by the second probe; then it is asked for its idle
rate and its protocol, and polled once. -/
def keyboardRounds (report : List Dword) : List (List Dword) :=
  attached ++
    [[1, 0], (keyboardAnswers 0x81).take 73 ++ keyboardAnswers 0x81,
      [0] ++ acknowledged ++ lastPacket [0] ++ acknowledged ++
        acknowledged ++ lastPacket [0] ++ acknowledged] ++
    [[1, 0], [], lastPacket report]

/-- B held down, which is none of the movement keys. -/
def reportB : List Dword := [0, 0, 0x05, 0, 0, 0, 0, 0]

/-- The rounds with board clocks between the calls, and a press of the button at the end. -/
def keyboardEvents (report : List Dword) : List BoardEvent :=
  (keyboardRounds report).flatMap (fun answers => [.call answers, .posedgeClk]) ++
    [.posedgeReset, .negedgeReset, .posedgeClk]

def freshBoard : Board := powerUp (Main.powerUp (.replicate 8 0) (.replicate 8 0) 0)

theorem board_refines_keyB :
    (run (step sprites) freshBoard (keyboardEvents reportB)).keyed =
        run (Keyed.step sprites) freshBoard.keyed
          (emit (step sprites) keyedEvents freshBoard (keyboardEvents reportB)) ∧
      (run (step sprites) freshBoard (keyboardEvents reportB)).main.Sized :=
  board_refines sprites (Main.sized_powerUp rfl rfl 0) (by decide +kernel)

end Board

/-! ## On the title screen -/

namespace Keyed

/-- The third byte of a report is not a movement key. -/
def NoMoveKey : KeyedEvent → Prop
  | .report bytes _ => ∀ key ∈ bytes[2]?, ¬ IsMoveKey key
  | _ => True

instance : DecidablePred NoMoveKey
  | .report bytes _ => inferInstanceAs (Decidable (∀ key ∈ bytes[2]?, ¬ IsMoveKey key))
  | .posedgeClk | .posedgeReset | .negedgeReset => isTrue trivial

/-- The title screen is shown, and no movement key is about. -/
structure AtTitle (k : Keyed) : Prop where
  design : k.design.ctrl.AtTitle
  port : ¬ IsMoveKey k.port
  third : ¬ IsMoveKey k.third

theorem atTitle_step (roms : Roms) {k : Keyed} (h : k.AtTitle) {e : KeyedEvent}
    (he : NoMoveKey e) : (step roms k e).AtTitle := by
  have hdesign {e : ClkEvent} (he : Design.NoMoveKey e) :
      (k.design.step roms e).ctrl.AtTitle :=
    atTitle_run roms h.design (Design.noMoveKey_gameEvents he)
  cases e with
  | posedgeClk => exact ⟨hdesign (e := .posedgeClk k.port) h.port, h.port, h.third⟩
  | posedgeReset => exact ⟨hdesign (e := .posedgeReset) trivial, h.port, h.third⟩
  | negedgeReset => exact ⟨hdesign (e := .negedgeReset) trivial, h.port, h.third⟩
  | report bytes through =>
    have hthird : ¬ IsMoveKey (bytes.getD 2 k.third) := by
      rw [List.getD_eq_getElem?_getD]
      cases hbyte : bytes[2]? with
      | none => exact h.third
      | some key => exact he key (by rw [hbyte]; rfl)
    refine ⟨h.design, ?_, hthird⟩
    show ¬ IsMoveKey (if through = true then bytes.getD 2 k.third else k.port)
    split
    · exact hthird
    · exact h.port

theorem atTitle_run (roms : Roms) {k : Keyed} (h : k.AtTitle) {es : List KeyedEvent}
    (hes : ∀ e ∈ es, NoMoveKey e) : (run (step roms) k es).AtTitle := by
  induction es generalizing k with
  | nil => exact h
  | cons e es ih =>
    obtain ⟨he, hes⟩ := List.forall_mem_cons.1 hes
    exact ih (atTitle_step roms h he) hes

end Keyed

namespace Board

theorem always_onTitle (roms : Roms) {b : Board} (h : b.keyed.AtTitle) {es : List BoardEvent}
    (hes : ∀ e ∈ emit (step roms) keyedEvents b es, Keyed.NoMoveKey e) :
    Always (step roms) (fun b => b.design.OnTitle) b es := by
  induction es generalizing b with
  | nil => exact always_nil.2 (Design.OnTitle.of_atTitle h.design)
  | cons e es ih =>
    have hnow : ∀ d ∈ b.keyedEvents e, Keyed.NoMoveKey d := fun d hd =>
      hes d (List.mem_append_left _ hd)
    have hnext : (b.step roms e).keyed.AtTitle := by
      rw [keyed_step]
      exact Keyed.atTitle_run roms h hnow
    refine always_cons.2 ⟨Design.OnTitle.of_atTitle h.design, ih hnext fun d hd => ?_⟩
    exact hes d (List.mem_append_right _ hd)

/-- **Only a report starts the game**: as far as no transfer stores past its destination, whatever
happens on the bus, in the program and to the button, the title screen stays until the third byte
of a report is a movement key. -/
theorem only_reports_start (roms : Roms) {buf kbdbuf : List Byte} (hbuf : buf.length = 8)
    (hkbdbuf : kbdbuf.length = 8) (device : Byte) (hstack : ¬ IsMoveKey (kbdbuf.getD 2 0))
    {es : List BoardEvent}
    (hin : (run (step roms) (powerUp (.powerUp buf kbdbuf device)) es).main.InBounds)
    (hes : ∀ e ∈ emit (step roms) keyedEvents (powerUp (.powerUp buf kbdbuf device)) es,
      Keyed.NoMoveKey e) :
    Always (step roms) (fun b => b.design.OnTitle ∧ b.main.Sized)
      (powerUp (.powerUp buf kbdbuf device)) es := by
  have hport : ¬ IsMoveKey 0 := by decide
  have hstart : (powerUp (.powerUp buf kbdbuf device)).keyed.AtTitle :=
    ⟨Design.atTitle_powerUp, hport, hstack⟩
  intro ds hds
  obtain ⟨fs, rfl⟩ := hds
  rw [run_append] at hin
  refine ⟨always_onTitle roms hstart hes ds (List.prefix_append ds fs), ?_⟩
  exact sized_run roms (Main.sized_powerUp hbuf hkbdbuf device)
    (hin.of_prefix (bounded_run roms _ fs).log)

/-- The report of B comes through, and the title screen stays. -/
theorem only_reports_start_keyB :
    .report (reportB.map (·.setWidth 8)) true ∈
        emit (step sprites) keyedEvents freshBoard (keyboardEvents reportB) ∧
      Always (step sprites) (fun b => b.design.OnTitle ∧ b.main.Sized) freshBoard
        (keyboardEvents reportB) :=
  ⟨by decide +kernel, only_reports_start sprites rfl rfl 0 (by decide) (by decide +kernel)
    (by decide +kernel)⟩

end Board

/-! ## The start -/

namespace Started

/-- `moving` is set, or the title screen is left already. -/
def Going (s : StateController) : Prop :=
  s.reset = false ∧ (s.moving = true ∨ s.state ≠ .startScreen)

def Left (s : StateController) : Prop := s.reset = false ∧ s.state ≠ .startScreen

/-- A movement key at a pixel clock sets `moving`, unless the game ends there. -/
theorem going_posedgeVgaClk {s : StateController} (hreset : s.reset = false)
    {keycode : BitVec 8} (hkey : IsMoveKey keycode) (drawX drawY : BitVec 10) :
    Going (s.posedgeVgaClk drawX drawY keycode) := by
  refine ⟨(s.reset_posedgeVgaClk drawX drawY keycode).trans hreset, ?_⟩
  show s.movingNext keycode = true ∨ s.stateNext ≠ .startScreen
  rw [movingNext, stateNext, hreset, if_neg Bool.false_ne_true, if_neg Bool.false_ne_true]
  by_cases hlost : s.game.lost = true
  · exact .inr (by rw [if_pos hlost]; simp)
  by_cases hwin : s.game.win = true
  · exact .inr (by rw [if_neg hlost, if_pos hwin]; simp)
  · exact .inl (by rw [if_neg hlost, if_neg hwin, if_pos hkey])

/-- The pixel clock after that leaves the title screen. -/
theorem left_posedgeVgaClk {s : StateController} (h : Going s) (drawX drawY : BitVec 10)
    (keycode : BitVec 8) : Left (s.posedgeVgaClk drawX drawY keycode) := by
  obtain ⟨hreset, hgoing⟩ := h
  refine ⟨(s.reset_posedgeVgaClk drawX drawY keycode).trans hreset, ?_⟩
  show s.stateNext ≠ .startScreen
  by_cases hstate : s.state = .startScreen
  · have hmoving : s.moving = true := hgoing.resolve_right (not_not.2 hstate)
    have hnext : s.nextState = .play := by
      rw [nextState, hstate, hmoving]
      rfl
    rw [stateNext, hreset, if_neg Bool.false_ne_true, hnext]
    split_ifs <;> simp
  · exact fun hnext => hstate (start_of_stateNext hreset hnext)

/-- Nothing but the button undoes either. -/
theorem stays {I : StateController → Prop} (hI : I = Going ∨ I = Left) (roms : Roms)
    {s : StateController} (h : I s) {e : GameEvent} (he : e ≠ .posedgeReset) :
    I (StateController.step roms s e) := by
  cases e with
  | posedgeReset => exact absurd rfl he
  | posedgeVgaClk drawX drawY keycode =>
    rcases hI with rfl | rfl
    · have hleft := left_posedgeVgaClk h drawX drawY keycode
      exact ⟨hleft.1, .inr hleft.2⟩
    · exact left_posedgeVgaClk ⟨h.1, .inr h.2⟩ drawX drawY keycode
  | negedgeVgaClk => rcases hI with rfl | rfl <;> exact h
  | posedgeFrameClk => rcases hI with rfl | rfl <;> exact h
  | negedgeReset => rcases hI with rfl | rfl <;> exact ⟨rfl, h.2⟩

theorem stays_run {I : StateController → Prop} (hI : I = Going ∨ I = Left) (roms : Roms)
    {s : StateController} (h : I s) {es : List GameEvent} (hes : .posedgeReset ∉ es) :
    I (run (StateController.step roms) s es) := by
  induction es generalizing s with
  | nil => exact h
  | cons e es ih =>
    have he : e ≠ .posedgeReset := fun he => hes (he ▸ List.mem_cons_self)
    exact ih (stays hI roms h he) fun hmem => hes (List.mem_cons_of_mem e hmem)

/-! A board clock is a pixel clock if the divider is low. -/

section Design

variable (roms : Roms) {s : Design}

theorem posedgeReset_not_mem_gameEvents (keycode : BitVec 8) :
    .posedgeReset ∉ s.gameEvents (.posedgeClk keycode) := by
  simp only [Design.gameEvents]
  split_ifs <;> simp

/-- The divider turns at every board clock. -/
theorem clkdiv_step (hreset : s.ctrl.reset = false) (keycode : BitVec 8) :
    (s.step roms (.posedgeClk keycode)).vga.clkdiv = !s.vga.clkdiv := by
  show (s.vgaNext (.posedgeClk keycode)).clkdiv = _
  rw [Design.vgaNext, hreset, if_neg Bool.false_ne_true]
  cases hdiv : s.vga.clkdiv <;> rfl

theorem stays_step {I : StateController → Prop} (hI : I = Going ∨ I = Left) (h : I s.ctrl)
    (keycode : BitVec 8) : I (s.step roms (.posedgeClk keycode)).ctrl :=
  stays_run hI roms h (posedgeReset_not_mem_gameEvents keycode)

theorem step_of_low (hreset : s.ctrl.reset = false) (hdiv : s.vga.clkdiv = false)
    (keycode : BitVec 8) :
    ∃ es, .posedgeReset ∉ es ∧ (s.step roms (.posedgeClk keycode)).ctrl =
      run (StateController.step roms) (s.ctrl.posedgeVgaClk s.vga.hc s.vga.vc keycode) es := by
  refine ⟨if !s.vga.vs && s.vga.posedgeClkdiv.vs then [.posedgeFrameClk keycode] else [], ?_, ?_⟩
  · split_ifs <;> simp
  · show run _ _ (s.gameEvents (.posedgeClk keycode)) = _
    rw [Design.gameEvents, hreset, if_neg Bool.false_ne_true, hdiv, if_neg Bool.false_ne_true]
    rfl

/-- Two board clocks have a pixel clock among them, and a movement key is seen there. -/
theorem going_of_key (hreset : s.ctrl.reset = false) {keycode : BitVec 8}
    (hkey : IsMoveKey keycode) :
    Going ((s.step roms (.posedgeClk keycode)).step roms (.posedgeClk keycode)).ctrl := by
  have hpixel {s : Design} (hreset : s.ctrl.reset = false) (hdiv : s.vga.clkdiv = false) :
      Going (s.step roms (.posedgeClk keycode)).ctrl := by
    obtain ⟨es, hes, hctrl⟩ := step_of_low roms hreset hdiv keycode
    rw [hctrl]
    exact stays_run (.inl rfl) roms (going_posedgeVgaClk hreset hkey _ _) hes
  cases hdiv : s.vga.clkdiv with
  | false => exact stays_step roms (.inl rfl) (hpixel hreset hdiv) keycode
  | true =>
    have hdiv' : (s.step roms (.posedgeClk keycode)).vga.clkdiv = false := by
      rw [clkdiv_step roms hreset, hdiv]
      rfl
    have hreset' : (s.step roms (.posedgeClk keycode)).ctrl.reset = false := by
      show (run (StateController.step roms) s.ctrl (s.gameEvents (.posedgeClk keycode))).reset =
        false
      rw [Design.gameEvents, hreset, if_neg Bool.false_ne_true, hdiv, if_pos rfl]
      exact hreset
    exact hpixel hreset' hdiv'

end Design

/-! What is left to wait for, in board clocks. -/

/-- The title screen is left within `n` board clocks. -/
def Due (s : Design) (n : Nat) : Prop :=
  Going s.ctrl ∧ (Left s.ctrl ∨ (if s.vga.clkdiv then 2 else 1) ≤ n)

theorem due_posedgeClk (roms : Roms) {s : Design} {n : Nat} (h : Due s (n + 1))
    (keycode : BitVec 8) : Due (s.step roms (.posedgeClk keycode)) n := by
  obtain ⟨hgoing, hleft⟩ := h
  refine ⟨stays_step roms (.inl rfl) hgoing keycode, ?_⟩
  rcases hleft with hleft | hwait
  · exact .inl (stays_step roms (.inr rfl) hleft keycode)
  · cases hdiv : s.vga.clkdiv with
    | false =>
      obtain ⟨es, hes, hctrl⟩ := step_of_low roms hgoing.1 hdiv keycode
      refine .inl ?_
      rw [hctrl]
      exact stays_run (.inr rfl) roms (left_posedgeVgaClk hgoing _ _ keycode) hes
    | true =>
      refine .inr ?_
      rw [clkdiv_step roms hgoing.1, hdiv]
      rw [hdiv] at hwait
      exact Nat.le_of_succ_le_succ hwait

theorem due_run (roms : Roms) {b : Board} {es : List BoardEvent}
    (h : Due b.design (es.count .posedgeClk)) (hes : .posedgeReset ∉ es) :
    Left (run (Board.step roms) b es).design.ctrl := by
  induction es generalizing b with
  | nil =>
    rcases h.2 with hleft | hwait
    · exact hleft
    · exact absurd hwait (by split <;> decide)
  | cons e es ih =>
    have hrest : BoardEvent.posedgeReset ∉ es := fun hmem => hes (List.mem_cons_of_mem e hmem)
    cases e with
    | posedgeReset => exact absurd List.mem_cons_self hes
    | posedgeClk =>
      rw [List.count_cons_self] at h
      exact ih (b := b.step roms .posedgeClk) (due_posedgeClk roms h b.keycode) hrest
    | call answers =>
      have hcount : (BoardEvent.call answers :: es).count .posedgeClk = es.count .posedgeClk :=
        List.count_cons_of_ne (by simp)
      rw [hcount] at h
      exact ih (b := b.step roms (.call answers)) h hrest
    | negedgeReset =>
      have hcount : (BoardEvent.negedgeReset :: es).count .posedgeClk = es.count .posedgeClk :=
        List.count_cons_of_ne (by simp)
      rw [hcount] at h
      have hstep : Due (b.step roms .negedgeReset).design (es.count .posedgeClk) :=
        ⟨⟨rfl, h.1.2⟩, h.2.imp (fun hleft => ⟨rfl, hleft.2⟩) id⟩
      exact ih hstep hrest

end Started

namespace Board

open Started

/-- **A report starts the game**: a movement key in the third byte of a report that went through
has left the title screen two pixel clocks later, whatever the program goes on to do, and the
title screen does not come back before the button is pressed. -/
theorem report_starts (roms : Roms) {b : Board} {answers : List Dword} {bytes : List Byte}
    {key : Byte} {es : List BoardEvent} (hreset : b.design.ctrl.reset = false)
    (hreport : b.keyedEvents (.call answers) = [.report bytes true])
    (hbyte : bytes[2]? = some key) (hkey : IsMoveKey key) (hes : .posedgeReset ∉ es)
    (hclks : 2 ≤ es.count .posedgeClk) :
    (run (step roms) b (.call answers :: .posedgeClk :: .posedgeClk :: es)).design.ctrl.state ≠
      .startScreen := by
  have hkeyed := keyed_step roms b (.call answers)
  rw [hreport, run_cons, run_nil] at hkeyed
  have hport : (b.step roms (.call answers)).keycode = key := by
    have h := congrArg Keyed.port hkeyed
    simp only [keyed, Keyed.step, Keyed.receive, if_true, List.getD_eq_getElem?_getD, hbyte,
      Option.getD_some] at h
    exact h
  have hgoing : Going (run (step roms) b [.call answers, .posedgeClk, .posedgeClk]).design.ctrl :=
    going_of_key roms hreset (hport.symm ▸ hkey)
  have hdue : Due (run (step roms) b [.call answers, .posedgeClk, .posedgeClk]).design
      (es.count .posedgeClk) := by
    refine ⟨hgoing, .inr (le_trans ?_ hclks)⟩
    split <;> decide
  rw [show BoardEvent.call answers :: .posedgeClk :: .posedgeClk :: es =
    [.call answers, .posedgeClk, .posedgeClk] ++ es from rfl, run_append]
  exact (due_run roms hdue hes).2

/-- A keyboard is there, and the next thing to do is to poll it. -/
def polling : Board := powerUp {
  Main.powerUp (.replicate 8 0) (.replicate 8 0) hidK with
  devtable := .replicate _ ⟨.hidEp, hidK⟩
  hidEp := .replicate _ ⟨0x81, 3, 8, 10, 0, 0⟩
  hidDevice := ⟨1, 0⟩
  usbTaskState := usbStateRunning
  call := some .useDevice
  runningdebugflag := 1 }

/-- The report of W held down. -/
def reportW : List Dword := [0, 0, 0x1a, 0, 0, 0, 0, 0]

theorem report_starts_polling :
    (run (step sprites) polling
      [.call (lastPacket reportW), .posedgeClk, .posedgeClk, .call [], .posedgeClk,
        .posedgeClk]).design.ctrl.state ≠ .startScreen :=
  @report_starts sprites polling (lastPacket reportW) (reportW.map (·.setWidth 8)) 0x1a _ rfl
    (by decide) (by decide) (by decide) (by decide) (by decide)

end Board

end Bosconian.Soc
