import Bosconian.Usb.Addressing
import Bosconian.Usb.Deadlines
import Bosconian.Usb.TaskState

/-!
# The order of an enumeration

`USB_Task` asks an attached device for its descriptor after it has let the bus settle, reset it,
seen the end of the reset and seen a start of frame. Two things get in the way: the test for the
start of frame is always true, and a bus event moves the task on whatever its step was waiting
for. In every run in which neither happens out of turn, the first request of an attachment comes
after these steps, in this order.

* `Prepared` — the steps, as the history and the log show them.
* `TakenSince` — the first so many of them; `Enumerating` says how many each state stands for.
* `request_prepared` — along a run of the calls in any order, the calls of `main` among them.
-/

namespace Bosconian.Usb

open Scripted EventMachine

/-! ## Calls in any order -/

/-- One call of any kind, unless an earlier one has not returned. -/
def Main.perform (m : Main) (e : Call × List Dword) : Main :=
  Main.step { m with call := m.call.map fun _ => e.1 } e.2

/-- The calls that `main` makes, from `c` on. -/
def inTurn : Call → List (List Dword) → List (Call × List Dword)
  | _, [] => []
  | c, answers :: run => (c, answers) :: inTurn c.next run

/-- There is a next call only after one that returned. -/
theorem Main.returned_of_call {m : Main} {c : Call} (h : m.call = some c)
    {answers : List Dword} (hnext : (m.step answers).call ≠ none) :
    ∃ v, Main.exec c ⟨answers, m⟩ = .ok () v ∧ (m.step answers).toHost = v.st.toHost := by
  rw [Main.step_of_some h] at hnext ⊢
  rcases hrun : Main.exec c ⟨answers, m⟩ with ⟨_, v⟩ | ⟨_, v⟩
  · exact ⟨v, rfl, by rw [final_ok hrun]⟩
  · rw [returned, hrun] at hnext
    exact absurd rfl hnext

theorem Main.step_eq_perform {m : Main} {c : Call} (h : m.call = some c ∨ m.call = none)
    (answers : List Dword) : m.step answers = m.perform (c, answers) := by
  have hcall : (m.call.map fun _ => c) = m.call := by
    rcases h with h | h <;> rw [h] <;> rfl
  rw [Main.perform, hcall]

/-- After a call of `main` comes the next one, or none. -/
theorem Main.call_step {m : Main} {c : Call} (h : m.call = some c ∨ m.call = none)
    (answers : List Dword) :
    (m.step answers).call = some c.next ∨ (m.step answers).call = none := by
  rcases h with h | h
  · rw [Main.step_of_some h]
    cases returned (Main.exec c) ⟨answers, m⟩ with
    | none => exact .inr rfl
    | some _ => exact .inl rfl
  · rw [Main.step_of_none h]
    exact .inr h

/-- A run of `main` is one of the runs in any order. -/
theorem run_step_eq_run_perform (run : List (List Dword)) {m : Main} {c : Call}
    (h : m.call = some c ∨ m.call = none) :
    EventMachine.run Main.step m run = EventMachine.run Main.perform m (inTurn c run) := by
  induction run generalizing m c with
  | nil => rfl
  | cons answers run ih =>
    rw [inTurn, run_cons, run_cons, ← Main.step_eq_perform h answers]
    exact ih (Main.call_step h answers)

/-! ## The steps of an enumeration -/

/-- The clock is found past the deadline. -/
def Access.ShowsExpired (deadline : Dword) : Access → Prop
  | .ticks t => deadline < millisecondsAt t
  | _ => False

def Access.ResetsBus : Access → Prop
  | .regWr reg val => reg = rHCTL ∧ val = bmBUSRST
  | _ => False

def Access.ReadsHctl : Access → Prop
  | .regRd reg _ => reg = rHCTL
  | _ => False

def Access.ShowsResetDone : Access → Prop
  | .regRd reg val => reg = rHCTL ∧ val &&& bmBUSRST = 0
  | _ => False

def Access.ShowsFrame : Access → Prop
  | .regRd reg val => reg = rHIRQ ∧ val &&& bmFRAMEIRQ ≠ 0
  | _ => False

instance : DecidablePred Access.ReadsHctl := fun e => by
  cases e <;> unfold Access.ReadsHctl <;> infer_instance

instance : DecidablePred Access.ShowsFrame := fun e => by
  cases e <;> unfold Access.ShowsFrame <;> infer_instance

theorem Access.ShowsResetDone.readsHctl {e : Access} (h : e.ShowsResetDone) : e.ReadsHctl := by
  cases e with
  | regRd reg val => exact h.1
  | _ => exact h

/-- What the accesses show in turn once `usb_delay` is armed. -/
def resetSteps (deadline : Dword) : List (Access → Prop) :=
  [Access.ShowsExpired deadline, Access.ResetsBus, Access.ShowsResetDone, Access.ShowsFrame]

def TaskEvent.EntersAttached : TaskEvent → Prop
  | .set _ new _ => new = usbStateAttached
  | .arm _ _ => False

instance : DecidablePred TaskEvent.EntersAttached := fun e => by
  cases e <;> unfold TaskEvent.EntersAttached <;> infer_instance

/-- The task has entered `USB_STATE_ATTACHED`, and since then a deadline was armed and the first
`n` of the steps were taken. -/
def TakenSince (n : Nat) (deadline : Dword) (u : Host) : Prop :=
  (∃ e ∈ u.history, e.EntersAttached) ∧
    ∃ armed ≤ u.log.length,
      .arm deadline armed ∈ sinceLast TaskEvent.EntersAttached u.history ∧
        InOrder ((resetSteps deadline).take n) (u.log.drop armed)

/-- **The bus is ready for a request**: since the attachment, the settle delay was armed and found
expired, the bus was reset, the reset was seen to be over, and then a start of frame was seen. -/
def Prepared (u : Host) : Prop := ∃ deadline, TakenSince (resetSteps deadline).length deadline u

/-- The packet that `XferGetDevDescr( 0, 0, 8, .. )` sets a request up with. -/
def deviceRequest : Access := .bytesWr rSUDFIFO (setupPkt bmREQ_GET_DESCR 6 0 1 0 8)

/-- The call is one of `USB_Task` that asks for the size of the device descriptor. -/
def Requests (m : Main) (e : Call × List Dword) : Prop :=
  m.call ≠ none ∧ e.1 = .usbTask ∧
    m.usbTaskState = usbAttachedSubstateGetDeviceDescriptorSize ∧
      deviceRequest ∈ (m.perform e).log.drop m.log.length

instance (m : Main) (e : Call × List Dword) : Decidable (Requests m e) := by
  unfold Requests; infer_instance

/-! ## What skips no step -/

/-- A start of frame has been seen since `HCTL` was last read. -/
def FrameSeen (u : Host) : Prop := ∃ e ∈ sinceLast Access.ReadsHctl u.log, e.ShowsFrame

instance (u : Host) : Decidable (FrameSeen u) := by
  unfold FrameSeen; infer_instance

/-- The wait for a start of frame may end with this `HIRQ`. -/
def FrameShown (u : Host) (hirq : Dword) : Prop :=
  hirq.setWidth 8 &&& bmFRAMEIRQ ≠ 0 ∨ FrameSeen u

/-- A bus event flagged with a change of the connection finds the line down, or the answers end
before the probe has written a state. `answers` start with the sample of the bus. -/
def ProbeSkipsNone (state : Byte) : List Dword → Prop
  | [] => True
  | hrsl :: answers => busSampleOf hrsl = bmJSTATUS ∨ busSampleOf hrsl = bmKSTATUS →
      state ≠ usbAttachedSubstateWaitResetComplete ∧ answers = []

/-- A bus event would skip the step that the state waits for. -/
def Waits (state : Byte) : Prop :=
  state = usbStateAttached ∨ state = usbAttachedSubstateSettle ∨
    state = usbAttachedSubstateResetDevice ∨ state = usbAttachedSubstateWaitResetComplete

/-- The call does not move the task past a step that has not been taken: `USB_Task` sees the start
of frame that it waits for, and a bus event finds nothing to skip. -/
def SkipsNone (u : Host) : Call × List Dword → Prop
  | (.usbTask, hirq :: _) => u.usbTaskState = usbAttachedSubstateWaitSof → FrameShown u hirq
  | (.max3421eTask, irq :: hirq :: answers) =>
    irq = 0 → hirq.setWidth 8 &&& bmBUSEVENTIRQ ≠ 0 →
      if hirq.setWidth 8 &&& bmCONDETIRQ = 0 then
        ¬ Waits u.usbTaskState ∧
          (u.usbTaskState = usbAttachedSubstateWaitSof → FrameShown u hirq)
      else ProbeSkipsNone u.usbTaskState answers
  | _ => True

instance (state : Byte) : Decidable (Waits state) := by
  unfold Waits; infer_instance

instance (u : Host) (hirq : Dword) : Decidable (FrameShown u hirq) := by
  unfold FrameShown; infer_instance

instance (state : Byte) (answers : List Dword) : Decidable (ProbeSkipsNone state answers) := by
  cases answers <;> unfold ProbeSkipsNone <;> infer_instance

instance (u : Host) (e : Call × List Dword) : Decidable (SkipsNone u e) := by
  obtain ⟨c, answers⟩ := e
  cases c <;> rcases answers with _ | ⟨irq, _ | ⟨hirq, answers⟩⟩ <;> unfold SkipsNone <;>
    infer_instance

/-! ## Stages -/

/-- One more access. -/
def Host.logged (e : Access) (u : Host) : Host := { u with log := u.log ++ [e] }

section TakenSince

variable {n : Nat} {deadline : Dword} {u : Host}

theorem takenSince_armUsbDelay (h : ∃ e ∈ u.history, e.EntersAttached) (deadline : Dword) :
    TakenSince 0 deadline (u.armUsbDelay deadline) := by
  obtain ⟨e, he, hentry⟩ := h
  refine ⟨⟨e, List.mem_append_left _ he, hentry⟩, u.log.length, Nat.le_refl _, ?_, inOrder_nil⟩
  rw [Host.armUsbDelay, sinceLast_concat_of_not (by simp [TaskEvent.EntersAttached])]
  exact List.mem_append_right _ (List.mem_singleton_self _)

theorem TakenSince.tables (h : TakenSince n deadline u) {t : Tables} (hlog : u.log <+: t.log) :
    TakenSince n deadline { u with toTables := t } := by
  obtain ⟨hentry, armed, hle, harm, horder⟩ := h
  obtain ⟨new, hnew⟩ := hlog
  refine ⟨hentry, armed, ?_, harm, ?_⟩
  · show armed ≤ t.log.length
    rw [← hnew, List.length_append]
    omega
  · show InOrder _ (t.log.drop armed)
    rw [← hnew, List.drop_append_of_le_length hle]
    exact horder.append

theorem TakenSince.logged (h : TakenSince n deadline u) (e : Access) :
    TakenSince n deadline (u.logged e) := h.tables (List.prefix_append u.log [e])

/-- The next step is taken. -/
theorem TakenSince.next (h : TakenSince n deadline u) {kind : Access → Prop} {e : Access}
    (hnext : (resetSteps deadline)[n]? = some kind) (he : kind e) :
    TakenSince (n + 1) deadline (u.logged e) := by
  obtain ⟨hentry, armed, hle, harm, horder⟩ := h
  refine ⟨hentry, armed, ?_, harm, ?_⟩
  · rw [Host.logged, List.length_append]
    omega
  · rw [Host.logged, List.drop_append_of_le_length hle, List.take_add_one, hnext]
    exact horder.concat (List.mem_singleton_self e) he

theorem TakenSince.setTaskState (h : TakenSince n deadline u) {new : Byte}
    (hnew : new ≠ usbStateAttached) : TakenSince n deadline (u.setTaskState new) := by
  obtain ⟨⟨e, he, hentry⟩, armed, hle, harm, horder⟩ := h
  refine ⟨⟨e, List.mem_append_left _ he, hentry⟩, armed, hle, ?_, horder⟩
  have hno : ¬ (TaskEvent.set u.usbTaskState new u.log.length).EntersAttached := hnew
  rw [Host.setTaskState, sinceLast_concat_of_not hno]
  exact List.mem_append_left _ harm

/-- A start of frame that was seen after the end of the reset counts. -/
theorem TakenSince.frameSeen (h : TakenSince 3 deadline u) (hseen : FrameSeen u) :
    TakenSince 4 deadline u := by
  obtain ⟨hentry, armed, hle, harm, horder⟩ := h
  refine ⟨hentry, armed, hle, harm, ?_⟩
  obtain ⟨e, he, hframe⟩ := hseen
  have hhctl (e : Access) (h : e.ShowsResetDone) : e.ReadsHctl := h.readsHctl
  have hmem : Access.ShowsResetDone ∈ (resetSteps deadline).take 3 := by simp [resetSteps]
  obtain ⟨done, hdone, hreset⟩ := horder.exists_mem hmem
  rw [← List.take_append_drop armed u.log,
    sinceLast_append _ ⟨done, hdone, hhctl done hreset⟩] at he
  have hsplit : (resetSteps deadline).take 3 =
      (resetSteps deadline).take 2 ++ [Access.ShowsResetDone] := rfl
  rw [hsplit] at horder
  exact horder.concat_sinceLast hhctl he hframe

end TakenSince

/-- The substates on the way, each with one more step taken than the one before. -/
def attachedSubstates : List Byte :=
  [usbAttachedSubstateSettle, usbAttachedSubstateResetDevice,
    usbAttachedSubstateWaitResetComplete, usbAttachedSubstateWaitSof,
    usbAttachedSubstateGetDeviceDescriptorSize]

theorem attached_not_mem : usbStateAttached ∉ attachedSubstates := by decide

/-- The steps that the state stands for have been taken. -/
structure Enumerating (u : Host) : Prop where
  entered : u.usbTaskState = usbStateAttached → ∃ e ∈ u.history, e.EntersAttached
  taken : ∀ n, attachedSubstates[n]? = some u.usbTaskState → TakenSince n u.usbDelay u

/-- The state stands for no step. -/
def Elsewhere (u : Host) : Prop := u.usbTaskState ∉ usbStateAttached :: attachedSubstates

theorem Elsewhere.enumerating {u : Host} (h : Elsewhere u) : Enumerating u := by
  refine ⟨fun hstate => ?_, fun n hn => ?_⟩
  · exact absurd (hstate ▸ List.mem_cons_self) h
  · exact absurd (List.mem_cons_of_mem _ (List.mem_of_getElem? hn)) h

theorem TakenSince.enumerating {n : Nat} {u : Host} (h : TakenSince n u.usbDelay u)
    (hn : attachedSubstates[n]? = some u.usbTaskState) : Enumerating u := by
  have hnodup : attachedSubstates.Nodup := by decide
  refine ⟨fun hstate => ?_, fun m hm => ?_⟩
  · exact absurd (List.mem_of_getElem? hn) (hstate ▸ attached_not_mem)
  · obtain ⟨hlt, -⟩ := List.getElem?_eq_some_iff.1 hm
    rwa [(List.getElem?_inj hlt hnodup).1 (hm.trans hn.symm)]

theorem enumerating_attached (u : Host) : Enumerating (u.setTaskState usbStateAttached) := by
  refine ⟨fun _ => ⟨_, List.mem_append_right _ (List.mem_singleton_self _), rfl⟩, fun n hn => ?_⟩
  exact absurd (List.mem_of_getElem? hn) attached_not_mem

theorem Enumerating.tables {u : Host} (h : Enumerating u) {t : Tables} (hlog : u.log <+: t.log) :
    Enumerating { u with toTables := t } :=
  ⟨h.entered, fun n hn => (h.taken n hn).tables hlog⟩

theorem Enumerating.logged {u : Host} (h : Enumerating u) (e : Access) :
    Enumerating (u.logged e) := h.tables (List.prefix_append u.log [e])

/-- The next substate is entered with the next step taken. -/
theorem TakenSince.enter {n : Nat} {u : Host} (h : TakenSince n u.usbDelay u) {new : Byte}
    (hn : attachedSubstates[n]? = some new) : Enumerating (u.setTaskState new) := by
  have hnew : new ≠ usbStateAttached := fun hnew =>
    attached_not_mem (hnew ▸ List.mem_of_getElem? hn)
  exact (h.setTaskState hnew).enumerating hn

/-! ## What keeps the stage -/

/-- What only adds to the log. -/
theorem keeps_enumerating {α : Type} {m : Driver α}
    (hm : Moves (along (fun t : Tables => t.log) (· <+: ·)) m) :
    Keeps Enumerating (liftM m : Task α) := by
  have hput : Moves (along id fun u v : Host => Enumerating u → Enumerating v)
      (liftM m : Task α) := Moves.zoom hm fun _ _ hlog h => h.tables hlog
  exact hput.keeps fun _ _ h => h

theorem allows_grows (P : Access → Prop) :
    AllowsAccesses P fun _ m => Moves (along (fun t : Tables => t.log) (· <+: ·)) m :=
  (allows_log (f := id) fun log e _ => List.prefix_append log [e]).accesses

theorem allowsBusprobe_enumerating : AllowsBusprobe fun _ m => Keeps Enumerating m where
  toSequential := Moves.sequential
  regWr _ _ hreg := keeps_enumerating ((allows_grows Access.OfHost).emit _ hreg)
  regRd _ := keeps_enumerating ((allows_grows fun _ => True).maxRegRd fun _ => trivial)
  pioRd _ := keeps_enumerating ((allows_grows fun _ => True).pioRd fun _ => trivial)
  reset := keeps_enumerating (allows_grows Access.OfHost).max3421eReset
  set new hnew := by
    refine Keeps.update fun u _ => ?_
    by_cases hattached : new = usbStateAttached
    · rw [hattached]
      exact enumerating_attached u
    · have helsewhere : ∀ new ∈ busprobeStates, new ≠ usbStateAttached →
          new ∉ usbStateAttached :: attachedSubstates := by decide
      exact Elsewhere.enumerating (helsewhere new hnew hattached)

/-! ## The task -/

section Task

variable (u : Host) (reg : Byte)

theorem triple_maxRegRd : Triple (fun v => v = u) (liftM (maxRegRd reg) : Task Byte)
    (fun val v => v = u.logged (.regRd reg val)) fun _ => True := by
  rintro ⟨is, v⟩ rfl
  refine ⟨fun val w h => ?_, fun _ _ _ => trivial⟩
  cases is with
  | nil => cases h
  | cons i is =>
    cases h
    rfl

theorem triple_maxRegWr (val : Byte) :
    Triple (fun v => v = u) (liftM (maxRegWr reg val) : Task Unit)
      (fun _ v => v = u.logged (.regWr reg val)) fun _ => True := by
  rintro ⟨is, v⟩ rfl
  refine ⟨fun _ w h => ?_, fun _ _ _ => trivial⟩
  cases h
  rfl

theorem triple_milliseconds : Triple (fun v => v = u) (liftM milliseconds : Task Dword)
    (fun ms v => ∃ t, ms = millisecondsAt t ∧ v = u.logged (.ticks t)) fun _ => True := by
  rintro ⟨is, v⟩ rfl
  refine ⟨fun ms w h => ?_, fun _ _ _ => trivial⟩
  cases is with
  | nil => cases h
  | cons t is =>
    cases h
    exact ⟨t, rfl, rfl⟩

end Task

theorem keepsUnattached_elsewhere : KeepsUnattached Elsewhere where
  tables _ _ h := h
  errors _ _ h := h
  tmpAddr _ _ h := h
  set new hnew u _ := by
    have hno : ∀ new ∈ unattachedStates, new ∉ usbStateAttached :: attachedSubstates := by decide
    exact hno new hnew

theorem triple_setTaskState_elsewhere {P C : Host → Prop} {new : Byte}
    (hnew : new ∉ usbStateAttached :: attachedSubstates) :
    Triple P (setTaskState new) (fun _ => Elsewhere) C := Triple.update fun _ _ => hnew

theorem triple_taskError_elsewhere {P : Host → Prop} (rcode : Byte) :
    Triple P (taskError rcode) (fun _ => Elsewhere) fun _ => True :=
  Triple.skip fun _ => triple_setTaskState_elsewhere (by decide)

/-- Each step but the look for a start of frame leads to the next substate when it is taken. -/
theorem triple_taskAttached {u : Host} (h : Enumerating u)
    (hwait : u.usbTaskState ≠ usbAttachedSubstateWaitSof) :
    Triple (fun v => v = u) (taskAttached u.usbTaskState) (fun _ => Enumerating)
      fun _ => True := by
  unfold taskAttached
  split
  · -- the delay is armed
    next hstate =>
    refine Triple.bind (triple_milliseconds u) fun ms => Triple.bind
      (Q := fun _ v => TakenSince 0 v.usbDelay v) (Triple.update ?_) fun _ =>
      Triple.update fun v hv => hv.enter rfl
    rintro _ ⟨t, -, rfl⟩
    have hentered : ∃ e ∈ (u.logged (.ticks t)).history, e.EntersAttached := h.entered hstate
    exact takenSince_armUsbDelay hentered _
  split
  · -- the delay may have expired
    next hstate =>
    have htaken : TakenSince 0 u.usbDelay u := h.taken 0 (by rw [hstate]; rfl)
    refine Triple.read_bind fun v hv => ?_
    rw [hv]
    refine Triple.bind (triple_milliseconds u) fun ms => ?_
    split
    · next hlate =>
      refine Triple.update ?_
      rintro _ ⟨t, rfl, rfl⟩
      have hexpired : Access.ShowsExpired u.usbDelay (.ticks t) := hlate
      exact (htaken.next rfl hexpired).enter rfl
    · refine Triple.pure ?_
      rintro _ ⟨t, -, rfl⟩
      exact h.logged _
  split
  · -- the bus is reset
    next hstate =>
    have htaken : TakenSince 1 u.usbDelay u := h.taken 1 (by rw [hstate]; rfl)
    refine Triple.bind (triple_maxRegWr u _ _) fun _ =>
      Triple.bind (triple_maxRegWr _ _ _) fun _ => Triple.update ?_
    rintro _ rfl
    have hreset : Access.ResetsBus (.regWr rHCTL bmBUSRST) := ⟨rfl, rfl⟩
    exact ((htaken.logged _).next rfl hreset).enter rfl
  split
  · -- the reset may be over
    next hstate =>
    have htaken : TakenSince 2 u.usbDelay u := h.taken 2 (by rw [hstate]; rfl)
    refine Triple.bind (triple_maxRegRd u _) fun hctl => ?_
    split
    · next hclear =>
      refine Triple.bind (triple_maxRegRd _ _) fun mode => Triple.bind (triple_maxRegWr _ _ _)
        fun _ => Triple.update ?_
      rintro _ rfl
      have hdone : Access.ShowsResetDone (.regRd rHCTL hctl) := ⟨rfl, hclear⟩
      exact (((htaken.next rfl hdone).logged _).logged _).enter rfl
    · refine Triple.pure ?_
      rintro _ rfl
      exact h.logged _
  split
  · -- whatever the requests return, the state is left
    have helsewhere : Triple (fun v => v = u) (do
        let rcode ← getDeviceDescriptor
        if rcode = 0 then setTaskState usbStateAddressing else taskError rcode)
        (fun _ => Elsewhere) fun _ => True := by
      refine Triple.skip fun rcode => ?_
      split
      · exact triple_setTaskState_elsewhere (by decide)
      · exact triple_taskError_elsewhere rcode
    exact helsewhere.mono (fun _ => id) (fun _ _ h => h.enumerating) fun _ => id
  · exact Triple.pure fun v hv => hv ▸ h

/-- The look at `HIRQ` that may end the wait for a start of frame takes the last step. -/
theorem Enumerating.frameShown {u : Host} (h : Enumerating u)
    (hwait : u.usbTaskState = usbAttachedSubstateWaitSof) {hirq : Dword}
    (hframe : FrameShown u hirq) :
    TakenSince 4 u.usbDelay (u.logged (.regRd rHIRQ (hirq.setWidth 8))) := by
  have htaken : TakenSince 3 u.usbDelay u := h.taken 3 (by rw [hwait]; rfl)
  rcases hframe with hframe | hseen
  · have hshown : Access.ShowsFrame (.regRd rHIRQ (hirq.setWidth 8)) := ⟨rfl, hframe⟩
    exact htaken.next rfl hshown
  · exact (htaken.frameSeen hseen).logged _

/-- A call of `USB_Task` that returns has taken the step that it moved past. -/
theorem enumerating_usbTask {u : Host} (h : Enumerating u) {answers : List Dword}
    (hskip : SkipsNone u (.usbTask, answers)) {v : World Dword Host}
    (hv : usbTask ⟨answers, u⟩ = .ok () v) : Enumerating v.st := by
  have hgroup {group : Byte} (h : u.usbTaskState &&& usbStateMask = group)
      (hne : group ≠ usbStateAttached) : Elsewhere u := by
    have hattached : ∀ s ∈ usbStateAttached :: attachedSubstates,
        s &&& usbStateMask = usbStateAttached := by decide
    exact fun hmem => hne (h.symm.trans (hattached _ hmem))
  have hI := keepsUnattached_elsewhere.allows
  have hrun : usbTask ⟨answers, u⟩ =
      (if u.usbTaskState &&& usbStateMask = usbStateDetached then taskDetached u.usbTaskState
      else if u.usbTaskState &&& usbStateMask = usbStateAttached then taskAttached u.usbTaskState
      else if u.usbTaskState &&& usbStateMask = usbStateAddressing then taskAddressing
      else if u.usbTaskState &&& usbStateMask = usbStateConfiguring then taskConfiguring
      else pure ()) ⟨answers, u⟩ := rfl
  rw [hrun] at hv
  split at hv
  · next hstate =>
    exact ((hI.taskDetached _).of_ok hv (hgroup hstate (by decide))).enumerating
  split at hv
  · by_cases hwait : u.usbTaskState = usbAttachedSubstateWaitSof
    · rw [hwait] at hv
      cases answers with
      | nil => cases hv
      | cons hirq answers =>
        have halways : ∀ b : Byte, b ||| bmFRAMEIRQ ≠ 0 := by decide
        have hlook : taskAttached usbAttachedSubstateWaitSof ⟨hirq :: answers, u⟩ =
            (if hirq.setWidth 8 ||| bmFRAMEIRQ ≠ 0 then
              setTaskState usbAttachedSubstateGetDeviceDescriptorSize else pure ())
              ⟨answers, u.logged (.regRd rHIRQ (hirq.setWidth 8))⟩ := rfl
        rw [hlook, if_pos (halways _)] at hv
        cases hv
        exact (h.frameShown hwait (hskip hwait)).enter rfl
    · exact (triple_taskAttached h hwait ⟨answers, u⟩ rfl).1 () v hv
  split at hv
  · next hstate =>
    exact (hI.taskAddressing.of_ok hv (hgroup hstate (by decide))).enumerating
  split at hv
  · next hstate =>
    exact (hI.taskConfiguring.of_ok hv (hgroup hstate (by decide))).enumerating
  · cases hv
    exact h

/-! ## The interrupt handler -/

/-- A bus event has nothing to skip. -/
structure Passable (u : Host) : Prop where
  not_waits : ¬ Waits u.usbTaskState
  frame : u.usbTaskState = usbAttachedSubstateWaitSof → TakenSince 4 u.usbDelay u

theorem Elsewhere.passable {u : Host} (h : Elsewhere u) : Passable u := by
  have hwaits : ∀ s, Waits s → s ∈ usbStateAttached :: attachedSubstates := by decide
  refine ⟨fun hstate => h (hwaits _ hstate), fun hwait => ?_⟩
  exact absurd (hwait ▸ by decide) h

theorem Passable.logged {u : Host} (h : Passable u) (e : Access) : Passable (u.logged e) :=
  ⟨h.not_waits, fun hwait => (h.frame hwait).logged e⟩

theorem Passable.advance {u : Host} (h : Passable u) :
    Enumerating (u.setTaskState (u.usbTaskState + 1)) := by
  by_cases hwait : u.usbTaskState = usbAttachedSubstateWaitSof
  · exact (h.frame hwait).enter (by rw [hwait]; rfl)
  by_cases hattached : u.usbTaskState + 1 = usbStateAttached
  · rw [hattached]
    exact enumerating_attached u
  · have hnext : ∀ s : Byte, ¬ Waits s → s ≠ usbAttachedSubstateWaitSof →
        s + 1 ≠ usbStateAttached → s + 1 ∉ usbStateAttached :: attachedSubstates := by decide
    exact Elsewhere.enumerating (hnext _ h.not_waits hwait hattached)

theorem keeps_serviceBusEvent_enumerating {hirq : Byte} (hbus : hirq &&& bmBUSEVENTIRQ = 0) :
    Keeps Enumerating (serviceBusEvent hirq) := by
  have hwrite := allowsBusprobe_enumerating.regWr
  refine Moves.bind (Moves.onlyIf fun _ => hwrite _ _ (by decide)) fun _ => ?_
  exact Moves.bind (Moves.onlyIf fun hno => absurd hbus hno) fun _ => hwrite _ _ (by decide)

/-- The bus event moves the task on. -/
theorem triple_serviceBusEvent {hirq : Byte} (hbus : hirq &&& bmBUSEVENTIRQ ≠ 0) :
    Triple Passable (serviceBusEvent hirq) (fun _ => Enumerating) fun _ => True := by
  have hwrite (reg val : Byte) : Triple Passable (liftM (maxRegWr reg val) : Task Unit)
      (fun _ => Passable) fun _ => True :=
    Triple.ghost (f := id) fun u hu => (triple_maxRegWr u reg val).mono (fun _ => id)
      (fun _ v hv => hv ▸ hu.logged _) fun _ => id
  have hadvance : Triple Passable advanceTaskState (fun _ => Enumerating) fun _ => True :=
    Triple.read_bind fun u hu => Triple.update fun v hv => by
      rw [hv]
      exact hu.advance
  refine Triple.bind (Triple.onlyIf (fun _ => hwrite _ _) fun _ => id) fun _ => ?_
  rw [onlyIf, if_pos hbus]
  exact Triple.bind hadvance fun _ =>
    Keeps.triple (allowsBusprobe_enumerating.regWr _ _ (by decide)) fun _ _ => trivial

/-- A line that is down leads away from the attached states. -/
theorem triple_busprobeSwitch_down {busSample : Byte}
    (h : ¬ (busSample = bmJSTATUS ∨ busSample = bmKSTATUS)) :
    Triple (fun _ => True) (busprobeSwitch busSample) (fun _ => Elsewhere) fun _ => True := by
  rw [not_or] at h
  rw [busprobeSwitch, if_neg h.1, if_neg h.2]
  split
  · exact triple_setTaskState_elsewhere (by decide)
  · refine Triple.read_bind fun u _ => ?_
    split
    · exact triple_setTaskState_elsewhere (by decide)
    · exact Triple.skip fun _ => triple_setTaskState_elsewhere (by decide)

/-- A probe that returns leaves a bus event nothing to skip. -/
theorem passable_maxBusprobe {u : Host} {answers : List Dword}
    (hskip : ProbeSkipsNone u.usbTaskState answers) {v : World Dword Host}
    (hv : maxBusprobe ⟨answers, u⟩ = .ok () v) : Passable v.st := by
  rcases answers with _ | ⟨hrsl, answers⟩
  · cases hv
  have hrun : maxBusprobe ⟨hrsl :: answers, u⟩ = busprobeSwitch (busSampleOf hrsl)
      ⟨answers, u.logged (.regRd rHRSL (hrsl.setWidth 8))⟩ := rfl
  rw [hrun] at hv
  by_cases hup : busSampleOf hrsl = bmJSTATUS ∨ busSampleOf hrsl = bmKSTATUS
  · obtain ⟨hne, rfl⟩ := hskip hup
    have hstop (jStatus : Bool) := startHost_nil
      (u := u.logged (.regRd rHRSL (hrsl.setWidth 8))) hne jStatus
    rw [busprobeSwitch] at hv
    rcases hup with hs | hs
    · rw [if_pos hs, hstop] at hv
      cases hv
    · rw [hs, if_neg (by decide), if_pos rfl, hstop] at hv
      cases hv
  · exact ((triple_busprobeSwitch_down hup _ trivial).1 () v hv).passable

/-- The steps that the state and `HIRQ` stand for are enough for a bus event to pass. -/
theorem Enumerating.passable {u : Host} (h : Enumerating u) {hirq : Dword}
    (hwaits : ¬ Waits u.usbTaskState)
    (hframe : u.usbTaskState = usbAttachedSubstateWaitSof → FrameShown u hirq) :
    Passable (u.logged (.regRd rHIRQ (hirq.setWidth 8))) :=
  ⟨hwaits, fun hwait => h.frameShown hwait (hframe hwait)⟩

theorem SkipsNone.logged {u : Host} {answers : List Dword}
    (h : SkipsNone u (.max3421eTask, answers)) {e : Access} (he : ¬ e.ReadsHctl) :
    SkipsNone (u.logged e) (.max3421eTask, answers) := by
  have hseen (h : FrameSeen u) : FrameSeen (u.logged e) := by
    obtain ⟨d, hd, hframe⟩ := h
    refine ⟨d, ?_, hframe⟩
    rw [Host.logged, sinceLast_concat_of_not he]
    exact List.mem_append_left _ hd
  rcases answers with _ | ⟨irq, _ | ⟨hirq, answers⟩⟩
  · exact trivial
  · exact trivial
  · intro hline hbus
    have hskip := h hline hbus
    by_cases hcond : hirq.setWidth 8 &&& bmCONDETIRQ = 0
    · rw [if_pos hcond] at hskip ⊢
      exact ⟨hskip.1, fun hwait => (hskip.2 hwait).imp_right hseen⟩
    · rw [if_neg hcond] at hskip ⊢
      exact hskip

theorem enumerating_maxIntHandler {u : Host} (h : Enumerating u) {answers : List Dword}
    (hskip : SkipsNone u (.max3421eTask, 0 :: answers)) {v : World Dword Host}
    (hv : maxIntHandler ⟨answers, u⟩ = .ok () v) : Enumerating v.st := by
  rcases answers with _ | ⟨hirq, answers⟩
  · cases hv
  have hrun : maxIntHandler ⟨hirq :: answers, u⟩ = serviceIrq (hirq.setWidth 8)
      ⟨answers, u.logged (.regRd rHIRQ (hirq.setWidth 8))⟩ := rfl
  rw [hrun, serviceIrq] at hv
  obtain ⟨_, w, hw, hv⟩ := of_bind_ok hv
  by_cases hbus : hirq.setWidth 8 &&& bmBUSEVENTIRQ = 0
  · refine (keeps_serviceBusEvent_enumerating hbus).of_ok hv ?_
    have hprobe : Keeps Enumerating
        (onlyIf (hirq.setWidth 8 &&& bmCONDETIRQ ≠ 0) maxBusprobe) :=
      Moves.onlyIf fun _ => allowsBusprobe_enumerating.controller.busprobe
    exact hprobe.of_ok hw (h.logged _)
  · have hpass : Passable w.st := by
      have hskip := hskip rfl hbus
      by_cases hcond : hirq.setWidth 8 &&& bmCONDETIRQ = 0
      · rw [if_pos hcond] at hskip
        rw [onlyIf, if_neg (not_not.2 hcond)] at hw
        cases hw
        exact h.passable hskip.1 hskip.2
      · rw [if_neg hcond] at hskip
        rw [onlyIf, if_pos hcond] at hw
        exact passable_maxBusprobe (u := u.logged _) hskip hw
    exact (triple_serviceBusEvent hbus w hpass).1 () v hv

/-- A call of `MAX3421E_Task` that returns has not moved the task past a step. -/
theorem enumerating_max3421eTask {u : Host} (h : Enumerating u) {answers : List Dword}
    (hskip : SkipsNone u (.max3421eTask, answers)) {v : World Dword Host}
    (hv : max3421eTask ⟨answers, u⟩ = .ok () v) : Enumerating v.st := by
  rcases answers with _ | ⟨irq, answers⟩
  · cases hv
  have hrun : max3421eTask ⟨irq :: answers, u⟩ = (do
      onlyIf (irq = 0) maxIntHandler
      if (← pioRd .usbGpx) = 1 then maxGpxHandler : Task Unit)
        ⟨answers, u.logged (.pioRd .usbIrq irq)⟩ := rfl
  rw [hrun] at hv
  obtain ⟨_, w, hw, hv⟩ := of_bind_ok hv
  have hgpx := allowsBusprobe_enumerating.controller.serviceGpx
  refine hgpx.of_ok hv ?_
  by_cases hirq : irq = 0
  · rw [onlyIf, if_pos hirq] at hw
    rw [hirq] at hskip hw
    have hread : ¬ Access.ReadsHctl (.pioRd .usbIrq 0) := id
    exact enumerating_maxIntHandler (h.logged _) (hskip.logged hread) hw
  · rw [onlyIf, if_neg hirq] at hw
    cases hw
    exact h.logged _

/-! ## Calls and runs -/

theorem keeps_usbInit_enumerating : Keeps Enumerating (liftM usbInit : Task Unit) := by
  have hinit : Accesses (fun _ => True) usbInit := Accesses.update fun _ => ⟨rfl, rfl⟩
  exact keeps_enumerating hinit.grows

/-- Starting over leaves the task where it is or in a state that the probe leads to. -/
theorem keeps_startOver_enumerating : Keeps (fun m => Enumerating m.toHost) startOver := by
  refine Moves.bind (Keeps.locals fun _ => rfl) fun _ => ?_
  refine Moves.bind (Keeps.task allowsBusprobe_enumerating.controller.max3421eInit) fun _ => ?_
  exact Keeps.task keeps_usbInit_enumerating

/-- The rest of a round uses the device, or starts over. -/
theorem triple_useDevice_enumerating :
    Triple (fun m => Enumerating m.toHost) useDevice (fun _ m => Enumerating m.toHost)
      fun _ => True := by
  refine Triple.read_bind fun m hm => ?_
  have hkept {I : Host → Prop} (hI : ∀ u, I u → Enumerating u) (hm : I m.toHost)
      {p : MainProg Unit} (hp : Keeps (fun m => I m.toHost) p) :
      Triple (fun n => n = m) p (fun _ n => Enumerating n.toHost) fun _ => True := by
    have hkeeps : Triple (fun n : Main => I n.toHost) p (fun _ n => I n.toHost) fun _ => True :=
      Keeps.triple hp fun _ _ => trivial
    exact hkeeps.mono (fun n hn => hn ▸ hm) (fun _ n hn => hI n.toHost hn) fun _ => id
  split
  · next hstate =>
    have hrunning : Elsewhere m.toHost := by
      rw [Elsewhere, hstate]
      decide
    have hused {p : MainProg Unit} := hkept (p := p) (fun _ h => h.enumerating) hrunning
    have huse := allowsUse_keeps keepsUnattached_elsewhere.tables
    split
    · exact hused huse.meetDevice
    split
    · exact hused huse.pollKeyboard
    split
    · exact hused huse.pollMouse
    · exact hused (Moves.pure ())
  split
  · exact hkept (fun _ => id) hm (Keeps.locals fun _ => rfl)
  · exact hkept (fun _ => id) hm (Moves.bind
      (Moves.onlyIf fun _ => keeps_startOver_enumerating) fun _ => Keeps.locals fun _ => rfl)

theorem enumerating_exec {m : Main} (h : Enumerating m.toHost) {e : Call × List Dword}
    (hskip : SkipsNone m.toHost e) {v : World Dword Main}
    (hv : Main.exec e.1 ⟨e.2, m⟩ = .ok () v) : Enumerating v.st.toHost := by
  obtain ⟨c, answers⟩ := e
  have htask {p : Task Unit} {u : World Dword Main}
      (hp : ∀ w, p ⟨answers, m.toHost⟩ = .ok () w → Enumerating w.st)
      (hu : (liftM p : MainProg Unit) ⟨answers, m⟩ = .ok () u) : Enumerating u.st.toHost := by
    have hzoom : (liftM p : MainProg Unit) ⟨answers, m⟩ =
        zoom Main.toHost (fun u m => { m with toHost := u }) p ⟨answers, m⟩ := rfl
    rw [hzoom, zoom] at hu
    rcases hrun : p ⟨answers, m.toHost⟩ with ⟨_, w⟩ | ⟨_, w⟩
    · rw [hrun] at hu
      cases hu
      exact hp w hrun
    · rw [hrun] at hu
      cases hu
  cases c with
  | max3421eInit => exact (Keeps.task allowsBusprobe_enumerating.controller.max3421eInit).of_ok hv h
  | usbInit => exact (Keeps.task keeps_usbInit_enumerating).of_ok hv h
  | max3421eTask => exact htask (fun w hw => enumerating_max3421eTask h hskip hw) hv
  | usbTask => exact htask (fun w hw => enumerating_usbTask h hskip hw) hv
  | useDevice => exact (triple_useDevice_enumerating _ h).1 () v hv

/-- Between the calls that return, the steps that the state stands for have been taken. -/
def InStep (m : Main) : Prop := m.call ≠ none → Enumerating m.toHost

theorem InStep.perform {m : Main} (h : InStep m) {e : Call × List Dword}
    (hskip : m.call ≠ none → SkipsNone m.toHost e) : InStep (m.perform e) := by
  rcases hcall : m.call with _ | c
  · rw [← Main.step_eq_perform (.inr hcall), Main.step_of_none hcall]
    exact h
  · have hne : m.call ≠ none := by simp [hcall]
    have hperform : m.perform e = Main.step { m with call := some e.1 } e.2 := by
      rw [Main.perform, hcall]
      rfl
    intro hnext
    rw [hperform] at hnext ⊢
    obtain ⟨v, hv, hhost⟩ := Main.returned_of_call rfl hnext
    rw [hhost]
    exact enumerating_exec (m := { m with call := some e.1 }) (h hne) (hskip hne) hv

/-- **A request finds the bus ready** in every run, of the calls in any order, in which no call
moves the task past a step that has not been taken. -/
theorem request_prepared (buf kbdbuf : List Byte) (device : Byte)
    (run : List (Call × List Dword))
    (h : EachStep Main.perform (fun m e => m.call ≠ none → SkipsNone m.toHost e)
      (Main.powerUp buf kbdbuf device) run) :
    EachStep Main.perform (fun m e => Requests m e → Prepared m.toHost)
      (Main.powerUp buf kbdbuf device) run := by
  have hno : usbDetachedSubstateInitialize ∉ usbStateAttached :: attachedSubstates := by decide
  have hstart : InStep (Main.powerUp buf kbdbuf device) := fun _ => Elsewhere.enumerating hno
  have hinv : Always Main.perform InStep (Main.powerUp buf kbdbuf device) run :=
    h.always (fun _ _ hm he => hm.perform he) (fun _ => id) hstart
  intro ds e hds hreq
  obtain ⟨hcall, -, hstate, -⟩ := hreq
  have hm := hinv ds ((List.prefix_append _ _).trans hds) hcall
  exact ⟨_, hm.taken 4 (by rw [hstate]; rfl)⟩

/-- A device is there when the controller is set up, and enumerated without an interrupt up to its
first request. `hirq` is read in `USB_ATTACHED_SUBSTATE_WAIT_SOF`. -/
def untilRequest (hirq : Dword) : List (Call × List Dword) :=
  inTurn .max3421eInit ([[0x01, 0x80, 0], []] ++
    ([[0], [1000], [], [0, 0], [hirq]] : List (List Dword)).flatMap quietRound ++ [[1, 0]])

/-- The call that issues the request, with 18 bytes of a local that was never written. -/
def requestCall : Call × List Dword := (.usbTask, List.replicate 18 0)

/-- With a start of frame the bus is ready for the request. -/
theorem request_prepared_frame :
    Requests (run Main.perform (Main.powerUp [] [] 0) (untilRequest 0x40)) requestCall ∧
      Prepared (run Main.perform (Main.powerUp [] [] 0) (untilRequest 0x40)).toHost := by
  have hreq : Requests (run Main.perform (Main.powerUp [] [] 0) (untilRequest 0x40))
      requestCall := by decide +kernel
  exact ⟨hreq, request_prepared [] [] 0 (untilRequest 0x40 ++ [requestCall]) (by decide +kernel)
    (untilRequest 0x40) requestCall List.prefix_rfl hreq⟩

/-- Without one the request is issued all the same. -/
theorem request_not_prepared :
    ¬ EachStep Main.perform (fun m e => Requests m e → Prepared m.toHost)
      (Main.powerUp [] [] 0) (untilRequest 0 ++ [requestCall]) := by
  intro h
  have hreq : Requests (run Main.perform (Main.powerUp [] [] 0) (untilRequest 0))
      requestCall := by decide +kernel
  obtain ⟨deadline, -, armed, -, -, horder⟩ := h _ _ List.prefix_rfl hreq
  have hmem : Access.ShowsFrame ∈ (resetSteps deadline).take 4 := by simp [resetSteps]
  obtain ⟨e, he, hframe⟩ := horder.exists_mem hmem
  have hnone : ∀ e ∈ (run Main.perform (Main.powerUp [] [] 0) (untilRequest 0)).log,
      ¬ e.ShowsFrame := by decide +kernel
  exact hnone e (List.mem_of_mem_drop he) hframe

end Bosconian.Usb
