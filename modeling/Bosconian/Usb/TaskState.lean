import Bosconian.EventMachine
import Bosconian.Usb.TaskRoutines

/-!
# The states of the USB task

`USB_Task` and `MAX_busprobe` write the states they know. `MaxIntHandler` adds one to whatever
the state is when a bus event is flagged, after it has probed the bus: the states stay the known
ones, and `USB_ATTACHED_SUBSTATE_SETTLE` is only reached with its delay armed, exactly when every
such event comes in turn.

* `AllowsTask` — what an invariant must allow for the task and the probe to keep it, and
  `AllowsUnattached` for the task outside `USB_STATE_ATTACHED`.
* `task_state_defined_iff` — along a run, in terms of its bus events.
-/

namespace Bosconian.Usb

open Scripted EventMachine

/-! ## What is to hold -/

/-- The states that the tasks handle. -/
def Defined (state : Byte) : Prop :=
  state ∈ [usbDetachedSubstateInitialize, usbDetachedSubstateWaitForDevice,
    usbDetachedSubstateIllegal, usbStateAttached, usbAttachedSubstateSettle,
    usbAttachedSubstateResetDevice, usbAttachedSubstateWaitResetComplete,
    usbAttachedSubstateWaitSof, usbAttachedSubstateGetDeviceDescriptorSize, usbStateAddressing,
    usbStateConfiguring, usbStateRunning, usbStateError]

instance (state : Byte) : Decidable (Defined state) := by
  unfold Defined; infer_instance

/-- Each step from `USB_STATE_ATTACHED` to `USB_ATTACHED_SUBSTATE_SETTLE` comes right after
`usb_delay` was armed. -/
def SettlesArmed (history : List TaskEvent) : Prop :=
  ∀ before stamp after,
    history = before ++ .set usbStateAttached usbAttachedSubstateSettle stamp :: after →
      ∃ deadline stamp', before.getLast? = some (.arm deadline stamp')

structure Sound (u : Host) : Prop where
  defined : Defined u.usbTaskState
  armed : SettlesArmed u.history

theorem settlesArmed_append {history : List TaskEvent} {e : TaskEvent} :
    SettlesArmed (history ++ [e]) ↔ SettlesArmed history ∧
      ∀ stamp, e = .set usbStateAttached usbAttachedSubstateSettle stamp →
        ∃ deadline stamp', history.getLast? = some (.arm deadline stamp') := by
  constructor
  · intro h
    refine ⟨fun before stamp after hsplit => ?_, fun stamp he => ?_⟩
    · exact h before stamp (after ++ [e]) (by rw [hsplit]; simp)
    · exact h history stamp [] (by rw [he])
  · rintro ⟨h, he⟩ before stamp after hsplit
    rcases List.eq_nil_or_concat after with rfl | ⟨after', e', rfl⟩
    · obtain ⟨rfl, hlast⟩ := List.append_inj' hsplit rfl
      exact he stamp (by simpa using hlast)
    · rw [List.concat_eq_append, ← List.cons_append, ← List.append_assoc] at hsplit
      obtain ⟨hinit, -⟩ := List.append_inj' hsplit rfl
      exact h before stamp after' hinit

/-! ## What the tasks keep -/

/-- The steps of `USB_Task` outside `USB_STATE_ATTACHED` keep `I`: the transfers, the other globals
of the task, and the states that are written. -/
structure KeepsUnattached (I : Host → Prop) : Prop where
  tables : ∀ t u, I u → I { u with toTables := t }
  errors : ∀ rcode u, I u → I { u with usbError := rcode, lastUsbTaskState := u.usbTaskState }
  tmpAddr : ∀ addr u, I u → I { u with tmpAddr := addr }
  set : ∀ new ∈ unattachedStates, ∀ u, I u → I (u.setTaskState new)

section KeepsUnattached

variable {I : Host → Prop} (hI : KeepsUnattached I)
include hI

theorem KeepsUnattached.driver {α : Type} (m : Driver α) : Keeps I (liftM m : Task α) :=
  Keeps.zoom hI.tables m

theorem KeepsUnattached.allows : AllowsUnattached fun _ m => Keeps I m where
  toSequential := Moves.sequential
  regWr _ _ _ := hI.driver _
  init := hI.driver _
  setDevRecord _ _ := hI.driver _
  setAddr _ := hI.driver _
  tmpAddr addr := Keeps.update (hI.tmpAddr addr)
  clientDrivers _ := hI.driver _
  set new hnew := Keeps.update (hI.set new hnew)
  error rcode := Moves.bind (Keeps.update (hI.errors rcode)) fun _ =>
    Keeps.update (hI.set _ (by decide))

end KeepsUnattached

/-- The steps of `USB_Task` and `MAX_busprobe` keep `I`: the transfers, the other globals of the
task, a write of a known state other than `USB_ATTACHED_SUBSTATE_SETTLE`, and that one with its
delay armed. -/
structure AllowsTask (I : Host → Prop) : Prop where
  tables : ∀ t u, I u → I { u with toTables := t }
  errors : ∀ rcode u, I u → I { u with usbError := rcode, lastUsbTaskState := u.usbTaskState }
  tmpAddr : ∀ addr u, I u → I { u with tmpAddr := addr }
  set : ∀ new u, Defined new ∧ new ≠ usbAttachedSubstateSettle → I u → I (u.setTaskState new)
  settle : ∀ deadline u, I u →
    I ((u.armUsbDelay deadline).setTaskState usbAttachedSubstateSettle)

section AllowsTask

variable {I : Host → Prop} (hI : AllowsTask I)
include hI

theorem AllowsTask.unattached : KeepsUnattached I where
  tables := hI.tables
  errors := hI.errors
  tmpAddr := hI.tmpAddr
  set new hnew u := by
    have hdefined : ∀ new ∈ unattachedStates, Defined new ∧ new ≠ usbAttachedSubstateSettle := by
      decide
    exact hI.set new u (hdefined new hnew)

theorem AllowsTask.driver {α : Type} (m : Driver α) : Keeps I (liftM m : Task α) :=
  hI.unattached.driver m

theorem AllowsTask.setTaskState {new : Byte}
    (hnew : Defined new ∧ new ≠ usbAttachedSubstateSettle) : Keeps I (setTaskState new) :=
  Keeps.update fun u => hI.set new u hnew

theorem AllowsTask.allowsProbe : AllowsProbe fun _ m => Keeps I m where
  toSequential := Moves.sequential
  regWr _ _ _ := hI.driver _
  regRd _ := hI.driver _
  pioRd _ := hI.driver _
  milliseconds := hI.driver _
  reset := hI.driver _
  descriptor := hI.driver _
  set new hnew := by
    have hdefined : ∀ new ∈ probeStates, Defined new ∧ new ≠ usbAttachedSubstateSettle := by decide
    exact hI.setTaskState (hdefined new hnew)
  settle deadline w hw := hI.settle deadline w.st hw
  error := hI.unattached.allows.error

theorem AllowsTask.usbTask : Keeps I usbTask := hI.unattached.allows.usbTask hI.allowsProbe

end AllowsTask

theorem allowsTask_sound : AllowsTask Sound where
  tables _ _ h := ⟨h.defined, h.armed⟩
  errors _ _ h := ⟨h.defined, h.armed⟩
  tmpAddr _ _ h := ⟨h.defined, h.armed⟩
  set new u hnew h := by
    refine ⟨hnew.1, settlesArmed_append.2 ⟨h.armed, fun stamp he => ?_⟩⟩
    injection he with _ he
    exact absurd he hnew.2
  settle deadline u h := by
    have hdefined : Defined usbAttachedSubstateSettle := by decide
    refine ⟨hdefined, settlesArmed_append.2 ⟨settlesArmed_append.2 ⟨h.armed, ?_⟩, ?_⟩⟩
    · intro stamp he
      cases he
    · intro stamp _
      exact ⟨deadline, _, List.getLast?_concat⟩

/-! ## Bus events -/

/-- The last thing that happened was not that the delay was armed. -/
def NotJustArmed (u : Host) : Prop :=
  ∀ deadline stamp, u.history.getLast? ≠ some (.arm deadline stamp)

theorem notJustArmed_setTaskState (new : Byte) (u : Host) : NotJustArmed (u.setTaskState new) := by
  intro deadline stamp h
  rw [Host.setTaskState, List.getLast?_concat] at h
  cases h

theorem allowsTask_notJustArmed : AllowsTask NotJustArmed where
  tables _ _ h := h
  errors _ _ h := h
  tmpAddr _ _ h := h
  set new u _ _ := notJustArmed_setTaskState new u
  settle _ _ _ := notJustArmed_setTaskState _ _

/-- The states that a bus event may come in. -/
def InTurn (state : Byte) : Prop :=
  state ∈ [usbDetachedSubstateWaitForDevice, usbAttachedSubstateSettle,
    usbAttachedSubstateResetDevice, usbAttachedSubstateWaitResetComplete,
    usbAttachedSubstateWaitSof]

instance (state : Byte) : Decidable (InTurn state) := by
  unfold InTurn; infer_instance

/-- They are the known states that a known one follows, but for the one whose successor is to be
entered with its delay armed. -/
theorem inTurn_iff : ∀ state, Defined state →
    (InTurn state ↔ Defined (state + 1) ∧ state ≠ usbStateAttached) := by
  decide

/-- A history in order, with the task in `state`. -/
structure At (state : Byte) (u : Host) : Prop where
  state_eq : u.usbTaskState = state
  defined : Defined state
  armed : SettlesArmed u.history
  notJustArmed : NotJustArmed u

theorem At.sound {state : Byte} {u : Host} (h : At state u) : Sound u :=
  ⟨h.state_eq ▸ h.defined, h.armed⟩

theorem At.tables {state : Byte} {u : Host} (h : At state u) (t : Tables) :
    At state { u with toTables := t } := ⟨h.state_eq, h.defined, h.armed, h.notJustArmed⟩

theorem At.setTaskState {state new : Byte} {u : Host} (h : At state u)
    (hnew : Defined new ∧ new ≠ usbAttachedSubstateSettle) : At new (u.setTaskState new) := by
  refine ⟨rfl, hnew.1, settlesArmed_append.2 ⟨h.armed, fun stamp he => ?_⟩,
    notJustArmed_setTaskState _ _⟩
  injection he with _ he
  exact absurd he hnew.2

/-- One more than the state is as it should be exactly when the event comes in turn. -/
theorem At.sound_advance_iff {state : Byte} {u : Host} (h : At state u) :
    Sound (u.setTaskState (u.usbTaskState + 1)) ↔ InTurn state := by
  rw [inTurn_iff state h.defined, h.state_eq]
  constructor
  · intro hs
    refine ⟨hs.defined, fun hstate => ?_⟩
    have hlast := (settlesArmed_append.1 hs.armed).2 u.log.length
    rw [h.state_eq, hstate] at hlast
    obtain ⟨deadline, stamp, harm⟩ := hlast rfl
    exact h.notJustArmed deadline stamp harm
  · rintro ⟨hdefined, hne⟩
    refine ⟨hdefined, settlesArmed_append.2 ⟨h.armed, fun stamp he => ?_⟩⟩
    injection he with he
    exact absurd (h.state_eq.symm.trans he) hne

theorem sound_iff_tables (p : Prop) (t : Tables) (u : Host) (h : Sound u ↔ p) :
    Sound { u with toTables := t } ↔ p :=
  Iff.trans ⟨fun hs => ⟨hs.defined, hs.armed⟩, fun hs => ⟨hs.defined, hs.armed⟩⟩ h

theorem keeps_sound_iff {α : Type} (p : Prop) (m : Driver α) :
    Keeps (fun u => Sound u ↔ p) (liftM m : Task α) := Keeps.zoom (sound_iff_tables p) m

theorem sound_serviceBusEvent_iff {hirq state : Byte} (hbus : hirq &&& bmBUSEVENTIRQ ≠ 0)
    {w : World Dword Host} (h : At state w.st) :
    Sound (final (serviceBusEvent hirq) w).st ↔ InTurn state := by
  obtain ⟨v, hv, hat⟩ : ∃ v, onlyIf (hirq &&& bmSNDBAVIRQ ≠ 0)
      (liftM (maxRegWr rSNDBC 0x00) : Task Unit) w = .ok () v ∧ At state v.st := by
    by_cases hs : hirq &&& bmSNDBAVIRQ ≠ 0
    · rw [onlyIf, if_pos hs]
      exact ⟨_, rfl, h.tables _⟩
    · rw [onlyIf, if_neg hs]
      exact ⟨w, rfl, h⟩
  rw [serviceBusEvent, final_congr (bind_ok hv), onlyIf, if_pos hbus]
  refine Leads.final_bind (J := fun u => Sound u ↔ InTurn state) ?_ fun _ => keeps_sound_iff _ _
  exact hat.sound_advance_iff

/-- The sample of the bus, as `MAX_busprobe` masks it. -/
def busSampleOf (hrsl : Dword) : Byte := hrsl.setWidth 8 &&& (bmJSTATUS ||| bmKSTATUS)

theorem busSample_cases (hrsl : Dword) :
    busSampleOf hrsl = bmJSTATUS ∨ busSampleOf hrsl = bmKSTATUS ∨ busSampleOf hrsl = bmSE1 ∨
      busSampleOf hrsl = bmSE0 := by
  have h : ∀ b : Byte, b &&& (bmJSTATUS ||| bmKSTATUS) = bmJSTATUS ∨
      b &&& (bmJSTATUS ||| bmKSTATUS) = bmKSTATUS ∨ b &&& (bmJSTATUS ||| bmKSTATUS) = bmSE1 ∨
      b &&& (bmJSTATUS ||| bmKSTATUS) = bmSE0 := by decide
  exact h _

/-- A bus event flagged with a change of the connection comes in turn: a line that is up while the
reset of the bus is awaited (or the answers end before the state is written), or one that is down
while nothing was attached. `answers` start with the sample of the bus. -/
def InTurnProbed (state : Byte) : List Dword → Prop
  | [] => True
  | hrsl :: answers =>
    (busSampleOf hrsl = bmJSTATUS ∨ busSampleOf hrsl = bmKSTATUS) ∧
        (state = usbAttachedSubstateWaitResetComplete ∨ answers = []) ∨
      busSampleOf hrsl = bmSE0 ∧ state &&& usbStateMask = usbStateDetached

/-- A bus event in a call of `MAX3421E_Task` comes in turn, if there is one: `answers` are the
interrupt line, `HIRQ` and, with a change of the connection, `HRSL`. -/
def BusEventInTurn (state : Byte) : List Dword → Prop
  | [] | [_] => True
  | irq :: hirq :: answers =>
    irq = 0 → hirq.setWidth 8 &&& bmBUSEVENTIRQ ≠ 0 →
      if hirq.setWidth 8 &&& bmCONDETIRQ = 0 then InTurn state else InTurnProbed state answers

theorem startHost_eq (jStatus : Bool) (is : List Dword) (u : Host) :
    startHost jStatus ⟨is, u⟩ =
      (if u.usbTaskState ≠ usbAttachedSubstateWaitResetComplete then (do
        let fullSpeed := decide ((← maxRegRd rMODE) &&& bmLOWSPEED = 0)
        maxRegWr rMODE (if fullSpeed = jStatus then modeFsHost else modeLsHost)
        setTaskState usbStateAttached) else pure () : Task Unit) ⟨is, u⟩ := rfl

theorem startHost_nil {u : Host} (h : u.usbTaskState ≠ usbAttachedSubstateWaitResetComplete)
    (jStatus : Bool) : startHost jStatus ⟨[], u⟩ = .error .waiting ⟨[], u⟩ := by
  rw [startHost_eq, if_pos h]
  rfl

section Handler

variable {hirq state : Byte} (hbus : hirq &&& bmBUSEVENTIRQ ≠ 0)
include hbus

/-- After a step of the probe that returned in `t`, the bus event decides. -/
theorem sound_of_outcome {m : Task Unit} {t : Byte} {v w : World Dword Host}
    (hm : m w = .ok () v) (hv : At t v.st) :
    Sound (final (do m; serviceBusEvent hirq) w).st ↔ InTurn t := by
  rw [final_congr (bind_ok hm)]
  exact sound_serviceBusEvent_iff hbus hv

theorem sound_startHost_iff (jStatus : Bool) {w : World Dword Host} (h : At state w.st) :
    Sound (final (do startHost jStatus; serviceBusEvent hirq) w).st ↔
      state = usbAttachedSubstateWaitResetComplete ∨ w.script = [] := by
  obtain ⟨is, u⟩ := w
  by_cases hwait : state = usbAttachedSubstateWaitResetComplete
  · have hskip : startHost jStatus ⟨is, u⟩ = .ok () ⟨is, u⟩ := by
      rw [startHost_eq, if_neg (by rw [h.state_eq]; exact not_not.2 hwait)]
      rfl
    rw [sound_of_outcome hbus hskip h, hwait]
    exact ⟨fun _ => .inl rfl, fun _ => by decide⟩
  · have hgoes : u.usbTaskState ≠ usbAttachedSubstateWaitResetComplete := by
      rw [h.state_eq]
      exact hwait
    cases is with
    | nil =>
      rw [final_error (bind_error (startHost_nil hgoes jStatus))]
      exact ⟨fun _ => .inr rfl, fun _ => h.sound⟩
    | cons mode is =>
      have hread := startHost_eq jStatus (mode :: is) u
      rw [if_pos hgoes] at hread
      obtain ⟨v, hv, hat⟩ : ∃ v, startHost jStatus ⟨mode :: is, u⟩ = .ok () v ∧
          At usbStateAttached v.st :=
        ⟨_, hread, ((h.tables _).tables _).setTaskState (by decide)⟩
      rw [sound_of_outcome hbus hv hat]
      exact ⟨fun hturn => absurd hturn (by decide), fun hno => by simp [hwait] at hno⟩

theorem sound_busprobeSwitch_iff (hrsl : Dword) {w : World Dword Host} (h : At state w.st) :
    Sound (final (do busprobeSwitch (busSampleOf hrsl); serviceBusEvent hirq) w).st ↔
      InTurnProbed state (hrsl :: w.script) := by
  rw [InTurnProbed, busprobeSwitch]
  rcases busSample_cases hrsl with hs | hs | hs | hs <;> rw [hs]
  · rw [if_pos rfl, sound_startHost_iff hbus true h]
    simp [bmJSTATUS, bmSE0]
  · rw [if_neg (by decide), if_pos rfl, sound_startHost_iff hbus false h]
    simp [bmKSTATUS, bmSE0]
  · have hset : At usbDetachedSubstateIllegal
        (w.st.setTaskState usbDetachedSubstateIllegal) := h.setTaskState (by decide)
    have hrun : setTaskState usbDetachedSubstateIllegal w =
        .ok () ⟨w.script, w.st.setTaskState usbDetachedSubstateIllegal⟩ := rfl
    rw [if_neg (by decide), if_neg (by decide), if_pos rfl, sound_of_outcome hbus hrun hset]
    have hno : ¬ (bmSE1 = bmJSTATUS ∨ bmSE1 = bmKSTATUS) := by decide
    simp [hno, show bmSE1 ≠ bmSE0 by decide, show ¬ InTurn usbDetachedSubstateIllegal by decide]
  · rw [if_neg (by decide), if_neg (by decide), if_neg (by decide)]
    have hno : ¬ (bmSE0 = bmJSTATUS ∨ bmSE0 = bmKSTATUS) := by decide
    have hread : ((do
        if (← read).usbTaskState &&& usbStateMask ≠ usbStateDetached then
          setTaskState usbDetachedSubstateInitialize
        else
          maxRegWr rMODE modeFsHost
          setTaskState usbDetachedSubstateWaitForDevice) : Task Unit) w =
        (if w.st.usbTaskState &&& usbStateMask ≠ usbStateDetached then
          setTaskState usbDetachedSubstateInitialize
        else do
          maxRegWr rMODE modeFsHost
          setTaskState usbDetachedSubstateWaitForDevice : Task Unit) w := rfl
    by_cases hdetached : state &&& usbStateMask = usbStateDetached
    · rw [if_neg (by rw [h.state_eq]; exact not_not.2 hdetached)] at hread
      obtain ⟨v, hv, hset⟩ : ∃ v, (do
          maxRegWr rMODE modeFsHost
          setTaskState usbDetachedSubstateWaitForDevice : Task Unit) w = .ok () v ∧
            At usbDetachedSubstateWaitForDevice v.st :=
        ⟨_, rfl, (h.tables _).setTaskState (by decide)⟩
      rw [sound_of_outcome hbus (hread.trans hv) hset]
      simp [hno, hdetached, show InTurn usbDetachedSubstateWaitForDevice by decide]
    · rw [if_pos (by rw [h.state_eq]; exact hdetached)] at hread
      have hset : At usbDetachedSubstateInitialize
          (w.st.setTaskState usbDetachedSubstateInitialize) :=
        h.setTaskState (by decide)
      have hrun := hread.trans (show setTaskState usbDetachedSubstateInitialize w =
        .ok () ⟨w.script, w.st.setTaskState usbDetachedSubstateInitialize⟩ from rfl)
      rw [sound_of_outcome hbus hrun hset]
      simp [hno, hdetached, show ¬ InTurn usbDetachedSubstateInitialize by decide]

end Handler

/-- Without a bus event the handler keeps what the probe keeps. -/
theorem AllowsTask.serviceIrq {I : Host → Prop} (hI : AllowsTask I) {hirq : Byte}
    (hbus : ¬ hirq &&& bmBUSEVENTIRQ ≠ 0) : Keeps I (serviceIrq hirq) :=
  hI.allowsProbe.controller.serviceIrq fun h => absurd h hbus

theorem sound_maxIntHandler_iff {state : Byte} {u : Host} (h : At state u) (answers : List Dword) :
    Sound (final maxIntHandler ⟨answers, u⟩).st ↔ BusEventInTurn state (0 :: answers) := by
  rcases answers with _ | ⟨hirq, answers⟩
  · exact ⟨fun _ => trivial, fun _ => h.sound⟩
  have hrun : ∃ t, final maxIntHandler ⟨hirq :: answers, u⟩ =
      final (serviceIrq (hirq.setWidth 8)) ⟨answers, { u with toTables := t }⟩ := ⟨_, rfl⟩
  obtain ⟨t, hrun⟩ := hrun
  rw [hrun, BusEventInTurn]
  by_cases hbus : hirq.setWidth 8 &&& bmBUSEVENTIRQ ≠ 0
  · rw [forall_prop_of_true rfl, forall_prop_of_true hbus, serviceIrq]
    by_cases hcond : hirq.setWidth 8 &&& bmCONDETIRQ = 0
    · rw [if_pos hcond, onlyIf, if_neg (not_not.2 hcond)]
      exact sound_serviceBusEvent_iff hbus (h.tables t)
    · rw [if_neg hcond, onlyIf, if_pos hcond]
      rcases answers with _ | ⟨hrsl, answers⟩
      · exact ⟨fun _ => trivial, fun _ => (h.tables t).sound⟩
      · exact sound_busprobeSwitch_iff hbus hrsl ((h.tables t).tables _)
  · exact ⟨fun _ _ hno => absurd hno hbus,
      fun _ => allowsTask_sound.serviceIrq hbus ⟨answers, _⟩ (h.tables t).sound⟩

theorem sound_max3421eTask_iff {state : Byte} {u : Host} (h : At state u) (answers : List Dword) :
    Sound (final max3421eTask ⟨answers, u⟩).st ↔ BusEventInTurn state answers := by
  rcases answers with _ | ⟨irq, answers⟩
  · exact ⟨fun _ => trivial, fun _ => h.sound⟩
  have hrun : ∃ t, final max3421eTask ⟨irq :: answers, u⟩ = final (do
      onlyIf (irq = 0) maxIntHandler
      if (← pioRd .usbGpx) = 1 then maxGpxHandler : Task Unit)
        ⟨answers, { u with toTables := t }⟩ := ⟨_, rfl⟩
  obtain ⟨t, hrun⟩ := hrun
  rw [hrun]
  refine Leads.final_bind (J := fun u => Sound u ↔ BusEventInTurn state (irq :: answers)) ?_
    fun _ => ?_
  · by_cases hirq : irq = 0
    · rw [onlyIf, if_pos hirq, hirq]
      exact sound_maxIntHandler_iff (h.tables t) answers
    · rw [onlyIf, if_neg hirq]
      refine ⟨fun _ => ?_, fun _ => (h.tables t).sound⟩
      rcases answers with _ | ⟨_, answers⟩
      · exact trivial
      · exact fun hno => absurd hno hirq
  · apply Moves.bind (keeps_sound_iff _ _)
    intro gpx
    split
    · exact keeps_sound_iff _ _
    · exact Moves.pure ()

/-! ## Runs of `main` -/

section Main

variable {I : Host → Prop}

theorem Keeps.task {α : Type} {m : Task α} (hm : Keeps I m) :
    Keeps (fun m => I m.toHost) (liftM m : MainProg α) := by
  show Leads (fun m : Main => I m.toHost) (fun m : Main => I m.toHost)
    (zoom Main.toHost (fun u m => { m with toHost := u }) m)
  exact Leads.zoom hm (fun _ h => h) fun _ _ _ h => h

theorem Keeps.locals {f : Main → Main} (hf : ∀ m, (f m).toHost = m.toHost) :
    Keeps (ι := Dword) (fun m => I m.toHost) (update f) :=
  Keeps.update fun m h => by rwa [hf]

theorem Keeps.ofDriver (hI : ∀ t u, I u → I { u with toTables := t }) {α : Type} (m : Driver α) :
    Keeps (fun m => I m.toHost) (liftM (liftM m : Task α) : MainProg α) :=
  Keeps.task (Keeps.zoom hI m)

/-- The device is used through the transfers alone. -/
theorem allowsUse_keeps (hI : ∀ t u, I u → I { u with toTables := t }) :
    AllowsUse fun _ m => Keeps (fun m => I m.toHost) m where
  toSequential := Moves.sequential
  report := Keeps.ofDriver hI _
  poll _ := Keeps.ofDriver hI _
  port _ := Keeps.ofDriver hI _
  locals := Keeps.locals

theorem keeps_startOver (hI : ∀ t u, I u → I { u with toTables := t })
    (hinit : Keeps I max3421eInit) : Keeps (fun m => I m.toHost) startOver := by
  refine Moves.bind (Keeps.locals fun _ => rfl) fun _ => ?_
  refine Moves.bind (Keeps.task hinit) fun _ => ?_
  exact Keeps.ofDriver hI usbInit

/-- Every call keeps what the tables do not say and the three routines keep. -/
theorem keeps_exec (hI : ∀ t u, I u → I { u with toTables := t })
    (hinit : Keeps I max3421eInit) (husb : Keeps I usbTask) {c : Call}
    (hmax : c = .max3421eTask → Keeps I max3421eTask) :
    Keeps (fun m => I m.toHost) (Main.exec c) := by
  cases c with
  | max3421eInit => exact Keeps.task hinit
  | usbInit => exact Keeps.ofDriver hI usbInit
  | max3421eTask => exact Keeps.task (hmax rfl)
  | usbTask => exact Keeps.task husb
  | useDevice => exact (allowsUse_keeps hI).useDevice (keeps_startOver hI hinit)

/-- Every call but `MAX3421E_Task` keeps what the task keeps. -/
theorem AllowsTask.exec (hI : AllowsTask I) {c : Call} (hc : c ≠ .max3421eTask) :
    Keeps (fun m => I m.toHost) (Main.exec c) :=
  keeps_exec hI.tables hI.allowsProbe.controller.max3421eInit hI.usbTask
    fun h => absurd h hc

/-- A bus event ends a write of the state, so no call leaves the delay just armed. -/
theorem notJustArmed_max3421eTask : Keeps NotJustArmed max3421eTask := by
  have hadvance : Keeps NotJustArmed advanceTaskState :=
    Moves.bind Moves.read fun u => Keeps.update fun v _ => notJustArmed_setTaskState _ v
  exact allowsTask_notJustArmed.allowsProbe.controller.max3421eTask hadvance

theorem notJustArmed_step (m : Main) (answers : List Dword) (h : NotJustArmed m.toHost) :
    NotJustArmed (m.step answers).toHost := by
  rcases hcall : m.call with _ | c
  · rw [Main.step_of_none hcall]
    exact h
  rw [Main.step_of_some hcall]
  by_cases hc : c = .max3421eTask
  · rw [hc]
    exact Keeps.task notJustArmed_max3421eTask ⟨answers, m⟩ h
  · exact allowsTask_notJustArmed.exec hc ⟨answers, m⟩ h

/-- One call keeps the states known and `usb_delay` armed exactly when a bus event it handles comes
in turn. -/
theorem sound_step_iff {m : Main} (hlast : NotJustArmed m.toHost) (h : Sound m.toHost)
    (answers : List Dword) :
    Sound (m.step answers).toHost ↔
      (m.call = some .max3421eTask → BusEventInTurn m.usbTaskState answers) := by
  rcases hcall : m.call with _ | c
  · rw [Main.step_of_none hcall]
    simpa using h
  rw [Main.step_of_some hcall]
  by_cases hc : c = .max3421eTask
  · have hat : At m.usbTaskState m.toHost := ⟨rfl, h.defined, h.armed, hlast⟩
    have hhost : (final (Main.exec .max3421eTask) ⟨answers, m⟩).st.toHost =
        (final max3421eTask ⟨answers, m.toHost⟩).st := by
      show (final (zoom Main.toHost (fun u m => { m with toHost := u }) max3421eTask)
        ⟨answers, m⟩).st.toHost = _
      rw [final_zoom]
    rw [hc]
    show Sound (final (Main.exec .max3421eTask) ⟨answers, m⟩).st.toHost ↔ _
    rw [hhost, sound_max3421eTask_iff hat answers]
    simp
  · have hkept : Sound (final (Main.exec c) ⟨answers, m⟩).st.toHost :=
      allowsTask_sound.exec hc ⟨answers, m⟩ h
    simpa [hc] using hkept

end Main

theorem sound_powerUp : Sound Host.powerUp := by
  refine ⟨by decide, fun before stamp after h => ?_⟩
  simp [Host.powerUp] at h

/-- **The states of the task are the known ones**, and its settle delay is armed, after every call
of a run exactly when each bus event that a call of `MAX3421E_Task` handles comes in turn. -/
theorem task_state_defined_iff (buf kbdbuf : List Byte) (device : Byte) (run : List (List Dword)) :
    Always Main.step (fun m => Defined m.usbTaskState ∧ SettlesArmed m.history)
        (Main.powerUp buf kbdbuf device) run ↔
      EachStep Main.step
        (fun m answers => m.call = some .max3421eTask → BusEventInTurn m.usbTaskState answers)
        (Main.powerUp buf kbdbuf device) run := by
  refine always_iff_eachStep (J := fun m => NotJustArmed m.toHost) notJustArmed_step ?_ ?_
    (fun _ _ h => by cases h) ⟨sound_powerUp.defined, sound_powerUp.armed⟩ run
  · intro m answers hlast h hturn
    have hs := (sound_step_iff hlast ⟨h.1, h.2⟩ answers).2 hturn
    exact ⟨hs.defined, hs.armed⟩
  · intro m answers hlast h hs
    exact (sound_step_iff hlast ⟨h.1, h.2⟩ answers).1 ⟨hs.1, hs.2⟩

/-- The controller samples the illegal SE1 when it is set up, and then flags a bus event. -/
def illegalBusEvent : List (List Dword) := [[0x01, 0xc0], [], [0, 0x01, 0]]

/-- A device is there when the controller is set up, and then a bus event is flagged. -/
def attachedBusEvent : List (List Dword) := [[0x01, 0x80, 0], [], [0, 0x01, 0]]

/-- The first run leaves the known states, and the second settles with no delay. -/
theorem task_state_not_defined :
    ¬ Defined (run Main.step (Main.powerUp [] [] 0) illegalBusEvent).usbTaskState ∧
      ¬ SettlesArmed (run Main.step (Main.powerUp [] [] 0) attachedBusEvent).history := by
  refine ⟨by decide, fun h => ?_⟩
  have hhistory : (run Main.step (Main.powerUp [] [] 0) attachedBusEvent).history =
      [.set usbDetachedSubstateInitialize usbStateAttached 13,
        .set usbStateAttached usbAttachedSubstateSettle 17] := by decide
  obtain ⟨deadline, stamp, harm⟩ := h [_] _ [] hhistory
  cases harm

end Bosconian.Usb
