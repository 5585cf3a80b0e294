import Bosconian.Usb.Received
import Bosconian.Usb.Footprint

/-!
# The calls that read a report

Of the calls of `main` two fill a report buffer, the polls of the keyboard and of the mouse. What
such a call does is what its one transfer did, and then the buffer is as the transfer left it.
Every other call touches neither buffer.

* `step_of_pollKeyboard`, `step_of_pollMouse` — the call, off the outcome of the transfer.
* `touches_step` — any other call.
-/

namespace Bosconian.Usb

open Scripted

/-! ## Other calls -/

/-- The tables went along `Q`, and both report buffers are as they were. -/
structure Touches (Q : Tables → Tables → Prop) (m m' : Main) : Prop where
  tables : Q m.toTables m'.toTables
  buf : m'.buf = m.buf
  kbdbuf : m'.kbdbuf = m.kbdbuf

instance isPreorder_touches (Q : Tables → Tables → Prop) [IsPreorder Tables Q] :
    IsPreorder Main (Touches Q) where
  refl _ := ⟨refl_of Q _, rfl, rfl⟩
  trans _ _ _ h₁ h₂ := ⟨trans_of Q h₁.tables h₂.tables, h₂.buf.trans h₁.buf,
    h₂.kbdbuf.trans h₁.kbdbuf⟩

section Touches

variable {Q : Tables → Tables → Prop}

theorem touches_task {α : Type} {m : Task α} (hm : Moves (along Host.toTables Q) m) :
    Moves (along id (Touches Q)) (liftM m : MainProg α) := by
  show Moves _ (zoom Main.toHost (fun u s => { s with toHost := u }) m)
  exact Moves.zoom hm fun u s h => ⟨h, rfl, rfl⟩

variable [IsPreorder Tables Q]

/-- An assignment to another local of `main`. -/
theorem touches_locals {f : Main → Main}
    (hf : ∀ m, (f m).toTables = m.toTables ∧ (f m).buf = m.buf ∧ (f m).kbdbuf = m.kbdbuf) :
    Moves (along id (Touches Q)) (update f : MainProg Unit) := by
  refine Moves.update_along fun m => ⟨?_, (hf m).2.1, (hf m).2.2⟩
  show Q m.toTables (f m).toTables
  rw [(hf m).1]
  exact refl_of Q _

end Touches

/-- A key is written to the port. -/
def Tables.keyWritten (val : Dword) (t : Tables) : Tables :=
  { t with log := t.log ++ [.pioWr .keycode val] }

@[simp] theorem Tables.keyWrites_keyWritten (val : Dword) (t : Tables) :
    (t.keyWritten val).keyWrites = t.keyWrites ++ [val] := by
  simp [Tables.keyWritten, Tables.keyWrites, Access.keyWrite]

namespace Main

/-- The next call polls the keyboard. -/
abbrev PollsKeyboard (m : Main) : Prop :=
  m.call = some .useDevice ∧ m.usbTaskState = usbStateRunning ∧ m.runningdebugflag ≠ 0 ∧
    m.device = hidK

/-- The next call polls the mouse. -/
abbrev PollsMouse (m : Main) : Prop :=
  m.call = some .useDevice ∧ m.usbTaskState = usbStateRunning ∧ m.runningdebugflag ≠ 0 ∧
    m.device = hidM

section Touches

variable {Q : Tables → Tables → Prop} [IsPreorder Tables Q] (hQ : Footprint Q)
include hQ

theorem touches_meetDevice : Moves (along id (Touches Q)) meetDevice := by
  refine Moves.bind (touches_locals fun _ => ⟨rfl, rfl, rfl⟩) fun _ => ?_
  have hreport := (hQ.allowsDriver.requests mainAddr).getDriverandReport
  refine Moves.bind (touches_task (hQ.allowsHost.driver hreport)) fun device => ?_
  exact touches_locals fun _ => ⟨rfl, rfl, rfl⟩

theorem touches_startOver : Moves (along id (Touches Q)) startOver := by
  refine Moves.bind (touches_locals fun _ => ⟨rfl, rfl, rfl⟩) fun _ => ?_
  refine Moves.bind (touches_task hQ.allowsHost.allowsProbe.controller.max3421eInit) fun _ => ?_
  exact touches_task (hQ.allowsHost.driver hQ.allowsDriver.usbInit)

theorem touches_exec {m : Main} {c : Call} (hc : m.call = some c) (hk : ¬ m.PollsKeyboard)
    (hm : ¬ m.PollsMouse) (answers : List Dword) :
    Touches Q m (final (exec c) ⟨answers, m⟩).st := by
  have hmoves {p : MainProg Unit} (hp : Moves (along id (Touches Q)) p) :
      Touches Q m (final p ⟨answers, m⟩).st := hp ⟨answers, m⟩
  cases c with
  | max3421eInit => exact hmoves (touches_task hQ.allowsHost.allowsProbe.controller.max3421eInit)
  | usbInit => exact hmoves (touches_task (hQ.allowsHost.driver hQ.allowsDriver.usbInit))
  | max3421eTask => exact hmoves (touches_task hQ.allowsHost.max3421eTask)
  | usbTask => exact hmoves (touches_task hQ.allowsHost.usbTask)
  | useDevice =>
    show Touches Q m (final (if m.usbTaskState = usbStateRunning then _ else _) ⟨answers, m⟩).st
    split_ifs with hrun hflag hkeyboard hmouse herror
    · exact hmoves (touches_meetDevice hQ)
    · exact absurd ⟨hc, hrun, hflag, hkeyboard⟩ hk
    · exact absurd ⟨hc, hrun, hflag, hmouse⟩ hm
    · exact hmoves (Moves.pure ())
    · exact hmoves (touches_locals fun _ => ⟨rfl, rfl, rfl⟩)
    · refine hmoves (Moves.bind (Moves.onlyIf fun _ => touches_startOver hQ) fun _ => ?_)
      exact touches_locals fun _ => ⟨rfl, rfl, rfl⟩

/-- A call that polls nothing. -/
theorem touches_step {m : Main} (hk : ¬ m.PollsKeyboard) (hm : ¬ m.PollsMouse)
    (answers : List Dword) : Touches Q m (m.step answers) := by
  cases hc : m.call with
  | none =>
    rw [step_of_none hc]
    exact refl_of (Touches Q) m
  | some c =>
    rw [step_of_some hc]
    obtain ⟨htables, hbuf, hkbdbuf⟩ := touches_exec hQ hc hk hm answers
    exact ⟨htables, hbuf, hkbdbuf⟩

end Touches

/-! ## Polls -/

section Polls

variable {m : Main} {answers : List Dword}

/-- The tables behind a poll, in the state of `main`. -/
def withTables (m : Main) (t : Tables) : Main :=
  { m with toHost := { m.toHost with toTables := t } }

theorem liftM_bootPoll (m : Main) (answers : List Dword) (buf : List Byte) :
    (liftM (liftM (bootPoll buf) : Task (Byte × List Byte)) : MainProg (Byte × List Byte))
        ⟨answers, m⟩ =
      match bootPoll buf ⟨answers, m.toTables⟩ with
      | .ok r v => .ok r ⟨v.script, m.withTables v.st⟩
      | .error e v => .error e ⟨v.script, m.withTables v.st⟩ := by
  show zoom Main.toHost (fun u s => { s with toHost := u })
    (zoom Host.toTables (fun t u => { u with toTables := t }) (bootPoll buf)) ⟨answers, m⟩ = _
  unfold zoom
  cases bootPoll buf ⟨answers, m.toTables⟩ <;> rfl

/-- What a poll of the keyboard leaves: the port has its third byte, if it went through. -/
theorem step_of_pollKeyboard (h : m.PollsKeyboard) :
    m.step answers =
      match bootPoll m.kbdbuf ⟨answers, m.toTables⟩ with
      | .ok (rcode, kbdbuf) v =>
        { m.withTables (if rcode = 0 then v.st.keyWritten ((kbdbuf.getD 2 0).setWidth 32)
            else v.st) with
          kbdbuf := kbdbuf
          call := some .max3421eTask }
      | .error _ v => { m.withTables v.st with call := none } := by
  obtain ⟨hc, hrun, hflag, hk⟩ := h
  have hexec : exec .useDevice ⟨answers, m⟩ = pollKeyboard ⟨answers, m⟩ := by
    show (if m.usbTaskState = usbStateRunning then _ else _ : MainProg Unit) ⟨answers, m⟩ = _
    rw [if_pos hrun, if_neg hflag, if_pos hk]
  have hread : (read : MainProg Main) ⟨answers, m⟩ = .ok m ⟨answers, m⟩ := rfl
  have hlift := liftM_bootPoll m answers m.kbdbuf
  rw [step_of_some hc, final_congr hexec, returned, hexec]
  rcases hpoll : bootPoll m.kbdbuf ⟨answers, m.toTables⟩ with ⟨⟨rcode, kbdbuf⟩, v⟩ | ⟨e, v⟩
  · rw [hpoll] at hlift
    by_cases hzero : rcode = 0
    · have hrun : pollKeyboard ⟨answers, m⟩ = .ok () ⟨v.script,
          { m.withTables (v.st.keyWritten ((kbdbuf.getD 2 0).setWidth 32)) with
            kbdbuf := kbdbuf }⟩ := by
        rw [pollKeyboard, bind_ok hread]
        refine (bind_ok hlift).trans ?_
        simp only [onlyIf, if_pos hzero]
        rfl
      rw [final_ok hrun, hrun]
      simp only [if_pos hzero]
      rfl
    · have hrun : pollKeyboard ⟨answers, m⟩ =
          .ok () ⟨v.script, { m.withTables v.st with kbdbuf := kbdbuf }⟩ := by
        rw [pollKeyboard, bind_ok hread]
        refine (bind_ok hlift).trans ?_
        simp only [onlyIf, if_neg hzero]
        rfl
      rw [final_ok hrun, hrun]
      simp only [if_neg hzero]
      rfl
  · rw [hpoll] at hlift
    have hrun : pollKeyboard ⟨answers, m⟩ = .error e ⟨v.script, m.withTables v.st⟩ := by
      rw [pollKeyboard, bind_ok hread]
      exact bind_error hlift
    rw [final_error hrun, hrun]
    rfl

/-- What a poll of the mouse leaves. -/
theorem step_of_pollMouse (h : m.PollsMouse) :
    m.step answers =
      match bootPoll m.buf ⟨answers, m.toTables⟩ with
      | .ok (_, buf) v => { m.withTables v.st with buf := buf, call := some .max3421eTask }
      | .error _ v => { m.withTables v.st with call := none } := by
  obtain ⟨hc, hrun, hflag, hmouse⟩ := h
  have hk : m.device ≠ hidK := by
    rw [hmouse]
    decide
  have hexec : exec .useDevice ⟨answers, m⟩ = pollMouse ⟨answers, m⟩ := by
    show (if m.usbTaskState = usbStateRunning then _ else _ : MainProg Unit) ⟨answers, m⟩ = _
    rw [if_pos hrun, if_neg hflag, if_neg hk, if_pos hmouse]
  have hread : (read : MainProg Main) ⟨answers, m⟩ = .ok m ⟨answers, m⟩ := rfl
  have hlift := liftM_bootPoll m answers m.buf
  rw [step_of_some hc, final_congr hexec, returned, hexec]
  rcases hpoll : bootPoll m.buf ⟨answers, m.toTables⟩ with ⟨⟨rcode, buf⟩, v⟩ | ⟨e, v⟩
  · rw [hpoll] at hlift
    have hrun : pollMouse ⟨answers, m⟩ =
        .ok () ⟨v.script, { m.withTables v.st with buf := buf }⟩ := by
      rw [pollMouse, bind_ok hread]
      exact (bind_ok hlift).trans rfl
    rw [final_ok hrun, hrun]
    rfl
  · rw [hpoll] at hlift
    have hrun : pollMouse ⟨answers, m⟩ = .error e ⟨v.script, m.withTables v.st⟩ := by
      rw [pollMouse, bind_ok hread]
      exact bind_error hlift
    rw [final_error hrun, hrun]
    rfl

end Polls

end Main

/-- The report of a poll that went through. -/
def polled (buf : List Byte) (m : Main) (answers : List Dword) : Option (List Byte) :=
  (returned (bootPoll buf) ⟨answers, m.toTables⟩).bind fun r => if r.1 = 0 then some r.2 else none

end Bosconian.Usb
