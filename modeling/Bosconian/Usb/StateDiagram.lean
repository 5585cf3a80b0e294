import Bosconian.Usb.TaskState

/-!
# The state diagram of the USB task

Three routines write `usb_task_state`: `USB_Task` as it enumerates a device, `MAX_busprobe` by the
lines of the bus, and `MaxIntHandler`, which adds one to whatever is there. Together they have the
edges below and no other, in every run of `main`.

* `reaches_run` — the history of every run is a walk of the diagram.
* `enumerated_run` — whatever bus events come, a device that runs was attached, described,
  addressed and configured, in this order, and has not fallen back since.
-/

namespace Bosconian.Usb

open Scripted EventMachine

/-! ## The diagram -/

/-- A step of `usb_task_state`. -/
inductive Edge : Byte → Byte → Prop
  | next (s : Byte) : Edge s (s + 1)
  | lineUp {s : Byte} (h : s ≠ usbAttachedSubstateWaitResetComplete) : Edge s usbStateAttached
  | illegal (s : Byte) : Edge s usbDetachedSubstateIllegal
  | lineDown {s : Byte} (h : s &&& usbStateMask ≠ usbStateDetached) :
      Edge s usbDetachedSubstateInitialize
  | noLine {s : Byte} (h : s &&& usbStateMask = usbStateDetached) :
      Edge s usbDetachedSubstateWaitForDevice
  | described : Edge usbAttachedSubstateGetDeviceDescriptorSize usbStateAddressing
  | addressed {s : Byte} (h : s &&& usbStateMask = usbStateAddressing) :
      Edge s usbStateConfiguring
  | claimed {s : Byte} (h : s &&& usbStateMask = usbStateConfiguring) : Edge s usbStateRunning
  | undescribed : Edge usbAttachedSubstateGetDeviceDescriptorSize usbStateError
  | unaddressed {s : Byte} (h : s &&& usbStateMask = usbStateAddressing) : Edge s usbStateError
  | unclaimed : Edge usbStateConfiguring usbStateError

/-- A history walks the diagram from `USB_DETACHED_SUBSTATE_INITIALIZE`. The delay is armed in
`USB_STATE_ATTACHED` alone. -/
inductive Reaches : List TaskEvent → Byte → Prop
  | start : Reaches [] usbDetachedSubstateInitialize
  | set {history : List TaskEvent} {old new : Byte} (stamp : Nat) :
      Reaches history old → Edge old new → Reaches (history ++ [.set old new stamp]) new
  | arm {history : List TaskEvent} (deadline : Dword) (stamp : Nat) :
      Reaches history usbStateAttached →
        Reaches (history ++ [.arm deadline stamp]) usbStateAttached

/-- The history has come to where the task is. -/
def OnDiagram (u : Host) : Prop := Reaches u.history u.usbTaskState

/-- And that is `s`. -/
structure In (s : Byte) (u : Host) : Prop where
  state : u.usbTaskState = s
  reaches : Reaches u.history s

theorem In.onDiagram {s : Byte} {u : Host} (h : In s u) : OnDiagram u := by
  rw [OnDiagram, h.state]
  exact h.reaches

/-! ## The routines -/

/-- From `s` the program walks the diagram. -/
def Walks {α : Type} (s : Byte) (m : Task α) : Prop :=
  Triple (In s) m (fun _ => OnDiagram) OnDiagram

section Walks

variable {α β : Type} {s t : Byte}

theorem keeps_of_walks {m : Task α} (hm : ∀ s, Walks s m) : Keeps OnDiagram m :=
  Triple.keeps (Triple.ghost (f := fun u : Host => (u.usbTaskState, u.history)) fun u hu =>
    (hm u.usbTaskState).pre fun v hv => by
      obtain ⟨hstate, hhistory⟩ := Prod.mk.inj hv
      exact ⟨hstate, by rw [hhistory]; exact hu⟩)

theorem walks_of_keeps {m : Task α} (hm : Keeps OnDiagram m) (s : Byte) : Walks s m :=
  (hm.triple fun _ => id).pre fun _ => In.onDiagram

theorem walks_pure (a : α) : Walks s (pure a : Task α) := Triple.pure fun _ => In.onDiagram

/-- The tables are no part of it. -/
theorem Walks.driver {f : α → Task β} (m : Driver α) (hf : ∀ a, Walks s (f a)) :
    Walks s ((liftM m : Task α) >>= f) := by
  have hm : Keeps (In s) (liftM m : Task α) := Keeps.zoom (fun _ _ h => ⟨h.state, h.reaches⟩) m
  exact Triple.bind (hm.triple fun _ => In.onDiagram) hf

theorem onDiagram_tables (t : Tables) (u : Host) (h : OnDiagram u) :
    OnDiagram { u with toTables := t } := h

theorem keeps_driver (m : Driver α) : Keeps OnDiagram (liftM m : Task α) :=
  Keeps.zoom onDiagram_tables m

theorem Walks.read_bind {f : Host → Task β}
    (hf : ∀ u : Host, u.usbTaskState = s → Walks s (f u)) : Walks s (read >>= f) :=
  Triple.read_bind fun u hu => (hf u hu.state).pre fun _ hv => hv ▸ hu

theorem walks_setTaskState (h : Edge s t) : Walks s (setTaskState t) := by
  refine Triple.update fun u hu => ?_
  show Reaches (u.history ++ [.set u.usbTaskState t u.log.length]) t
  rw [hu.state]
  exact .set _ hu.reaches h

theorem walks_taskError (h : Edge s usbStateError) (rcode : Byte) : Walks s (taskError rcode) :=
  Triple.bind (Q := fun _ => In s) (Triple.update fun _ hu => ⟨hu.state, hu.reaches⟩) fun _ =>
    walks_setTaskState h

/-! `MAX_busprobe` and what runs it. -/

theorem walks_startHost (jStatus : Bool) : Walks s (startHost jStatus) := by
  refine Walks.read_bind fun u hu => ?_
  split
  · next h =>
    rw [hu] at h
    exact Walks.driver _ fun _ => Walks.driver _ fun _ => walks_setTaskState (.lineUp h)
  · exact walks_pure ()

theorem walks_busprobeSwitch (busSample : Byte) : Walks s (busprobeSwitch busSample) := by
  unfold busprobeSwitch
  split
  · exact walks_startHost true
  split
  · exact walks_startHost false
  split
  · exact walks_setTaskState (.illegal s)
  · refine Walks.read_bind fun u hu => ?_
    split
    · next h => exact walks_setTaskState (.lineDown (hu ▸ h))
    · next h => exact Walks.driver _ fun _ => walks_setTaskState (.noLine (hu ▸ not_not.1 h))

theorem onDiagram_maxBusprobe : Keeps OnDiagram maxBusprobe :=
  keeps_of_walks fun _ => Walks.driver _ fun _ => walks_busprobeSwitch _

theorem allowsController_onDiagram : AllowsController fun _ m => Keeps OnDiagram m where
  toSequential := Moves.sequential
  regWr _ _ _ := keeps_driver _
  regRd _ := keeps_driver _
  pioRd _ := keeps_driver _
  reset := keeps_driver _
  busprobe := onDiagram_maxBusprobe

theorem onDiagram_advanceTaskState : Keeps OnDiagram advanceTaskState :=
  keeps_of_walks fun s => Walks.read_bind fun u hu => by
    rw [hu]
    exact walks_setTaskState (.next s)

/-! `USB_Task`. -/

theorem walks_taskDetached (h : s &&& usbStateMask = usbStateDetached) :
    Walks s (taskDetached s) := by
  unfold taskDetached
  split
  · exact Walks.driver _ fun _ => walks_setTaskState (.noLine h)
  split
  · exact walks_of_keeps (keeps_driver _) s
  · exact walks_pure ()

theorem walks_taskAttached : Walks s (taskAttached s) := by
  unfold taskAttached
  split
  · next h =>
    refine Walks.driver _ fun t => Triple.bind (Q := fun _ => In s) ?_ fun _ => ?_
    · refine Triple.update fun u hu => ⟨hu.state, ?_⟩
      rw [h] at hu ⊢
      exact .arm _ _ hu.reaches
    · rw [h]
      exact walks_setTaskState (.next usbStateAttached)
  split
  · next h =>
    refine Walks.read_bind fun u _ => Walks.driver _ fun t => ?_
    split
    · rw [h]
      exact walks_setTaskState (.next usbAttachedSubstateSettle)
    · exact walks_pure ()
  split
  · next h =>
    rw [h]
    exact Walks.driver _ fun _ => Walks.driver _ fun _ =>
      walks_setTaskState (.next usbAttachedSubstateResetDevice)
  split
  · next h =>
    refine Walks.driver _ fun hctl => ?_
    split
    · rw [h]
      exact Walks.driver _ fun _ => Walks.driver _ fun _ =>
        walks_setTaskState (.next usbAttachedSubstateWaitResetComplete)
    · exact walks_pure ()
  split
  · next h =>
    refine Walks.driver _ fun hirq => ?_
    split
    · rw [h]
      exact walks_setTaskState (.next usbAttachedSubstateWaitSof)
    · exact walks_pure ()
  split
  · next h =>
    refine Walks.driver _ fun rcode => ?_
    rw [h]
    split
    · exact walks_setTaskState .described
    · exact walks_taskError .undescribed rcode
  · exact walks_pure ()

theorem walks_assignAddress (h : s &&& usbStateMask = usbStateAddressing) :
    Walks s assignAddress := by
  refine Walks.read_bind fun u _ => ?_
  rcases u.freeSlot with _ | i
  · exact walks_pure ()
  · refine Walks.read_bind fun u _ => Walks.driver _ fun _ => Walks.driver _ fun rcode => ?_
    split
    · exact Triple.bind (Q := fun _ => In s) (Triple.update fun _ hu => ⟨hu.state, hu.reaches⟩)
        fun _ => walks_setTaskState (.addressed h)
    · exact walks_taskError (.unaddressed h) rcode

/-- The task gives up if it is still where it was. -/
theorem onDiagram_giveUp {state rcode : Byte} (h : Edge state usbStateError) :
    Keeps OnDiagram (do if (← read).usbTaskState = state then taskError rcode : Task Unit) :=
  keeps_of_walks fun s => Walks.read_bind fun u hu => by
    split
    · next hstill =>
      rw [← hu, hstill]
      exact walks_taskError h rcode
    · exact walks_pure ()

theorem walks_taskAddressing (h : s &&& usbStateMask = usbStateAddressing) :
    Walks s taskAddressing :=
  Triple.bind (walks_assignAddress h) fun _ =>
    (onDiagram_giveUp (.unaddressed (by decide))).triple fun _ => id

theorem walks_taskConfiguring (h : s &&& usbStateMask = usbStateConfiguring) :
    Walks s taskConfiguring := by
  refine Walks.read_bind fun u _ => Walks.driver _ fun found =>
    Triple.bind (Triple.onlyIf (Q := OnDiagram) (fun _ => ?_) fun _ => In.onDiagram) fun _ => ?_
  · exact walks_setTaskState (.claimed h)
  · exact (onDiagram_giveUp .unclaimed).triple fun _ => id

theorem onDiagram_usbTask : Keeps OnDiagram usbTask := by
  refine keeps_of_walks fun s => Walks.read_bind fun u hu => ?_
  show Walks s (if u.usbTaskState &&& usbStateMask = usbStateDetached then _ else _)
  rw [hu]
  split
  · next h => exact walks_taskDetached h
  split
  · exact walks_taskAttached
  split
  · next h => exact walks_taskAddressing h
  split
  · next h => exact walks_taskConfiguring h
  · exact walks_pure ()

end Walks

/-! ## Runs of `main` -/

theorem onDiagram_step (m : Main) (answers : List Dword) (h : OnDiagram m.toHost) :
    OnDiagram (m.step answers).toHost := by
  rcases hcall : m.call with _ | c
  · rw [Main.step_of_none hcall]
    exact h
  · rw [Main.step_of_some hcall]
    have hmax := allowsController_onDiagram.max3421eTask onDiagram_advanceTaskState
    exact keeps_exec onDiagram_tables allowsController_onDiagram.max3421eInit onDiagram_usbTask
      (fun _ => hmax) ⟨answers, m⟩ h

/-- **The state diagram.** -/
theorem reaches_run (buf kbdbuf : List Byte) (device : Byte) (answers : List (List Dword)) :
    Always Main.step (fun m => Reaches m.history m.usbTaskState)
      (Main.powerUp buf kbdbuf device) answers := by
  intro ds _
  have hstart : OnDiagram (Main.powerUp buf kbdbuf device).toHost := .start
  exact run_invariant (P := fun m : Main => OnDiagram m.toHost) onDiagram_step hstart ds

/-! ## The stages of an enumeration -/

/-- How far the device at the port has got: attached, in addressing, in configuring, running. -/
def stage (s : Byte) : Nat :=
  if s &&& usbStateMask = usbStateAttached then 1
  else if s &&& usbStateMask = usbStateAddressing then 2
  else if s &&& usbStateMask = usbStateConfiguring then 3
  else if s &&& usbStateMask = usbStateRunning then 4
  else 0

/-- A step keeps the stage or takes the next one, or it starts with a device attached, or there is
none. -/
theorem Edge.stage_cases {s t : Byte} (h : Edge s t) (ht : stage t ≠ 0) :
    t = usbStateAttached ∨ stage s ≠ 0 ∧ (stage t = stage s ∨ stage t = stage s + 1) := by
  cases h with
  | next =>
    have hnext : ∀ s : Byte, stage (s + 1) ≠ 0 → s + 1 = usbStateAttached ∨
        stage s ≠ 0 ∧ (stage (s + 1) = stage s ∨ stage (s + 1) = stage s + 1) := by decide
    exact hnext s ht
  | lineUp => exact .inl rfl
  | illegal => exact absurd rfl ht
  | lineDown => exact absurd rfl ht
  | noLine => exact absurd rfl ht
  | described => exact .inr (by decide)
  | addressed h =>
    have hs : stage s = 2 := by simp [stage, h]; decide
    rw [hs]
    exact .inr (by decide)
  | claimed h =>
    have hs : stage s = 3 := by simp [stage, h]; decide
    rw [hs]
    exact .inr (by decide)
  | undescribed => exact absurd rfl ht
  | unaddressed => exact absurd rfl ht
  | unclaimed => exact absurd rfl ht

/-- A device comes to the port. -/
def Attaches : TaskEvent → Prop
  | .set _ new _ => new = usbStateAttached
  | .arm .. => False

/-- The device goes on from a stage to the next one. -/
def Climbs (n : Nat) : TaskEvent → Prop
  | .set old new _ => stage old = n ∧ stage new = n + 1
  | .arm .. => False

/-- The device goes back, or away. -/
def Falls : TaskEvent → Prop
  | .set old new _ => stage new < stage old
  | .arm .. => False

/-- Since the device in `s` came to the port it has taken its stages one after the other. -/
def Enumerated (history : List TaskEvent) (s : Byte) : Prop :=
  stage s ≠ 0 → ∃ before attach since, history = before ++ attach :: since ∧ Attaches attach ∧
    InOrder ((List.range' 1 (stage s - 1)).map Climbs) since ∧ ∀ e ∈ since, ¬ Falls e

/-- Any walk of the diagram enumerates. -/
theorem Reaches.enumerated {history : List TaskEvent} {s : Byte} (h : Reaches history s) :
    Enumerated history s := by
  induction h with
  | start => exact fun hs => absurd rfl hs
  | arm deadline stamp h ih =>
    intro hs
    obtain ⟨before, attach, since, rfl, hattach, horder, hfalls⟩ := ih hs
    refine ⟨before, attach, since ++ [.arm deadline stamp], by simp, hattach, horder.append, ?_⟩
    intro e he
    rcases List.mem_append.1 he with he | he
    · exact hfalls e he
    · rw [List.mem_singleton.1 he]
      exact id
  | @set history old new stamp h hedge ih =>
    intro hs
    rcases hedge.stage_cases hs with hattached | ⟨hold, hstage⟩
    · exact ⟨history, .set old new stamp, [], rfl, hattached, by rw [hattached]; exact inOrder_nil,
        nofun⟩
    · obtain ⟨before, attach, since, rfl, hattach, horder, hfalls⟩ := ih hold
      refine ⟨before, attach, since ++ [.set old new stamp], by simp, hattach, ?_, ?_⟩
      · rcases hstage with hsame | hclimb
        · rw [hsame]
          exact horder.append
        · have hkinds : (List.range' 1 (stage new - 1)).map Climbs =
              (List.range' 1 (stage old - 1)).map Climbs ++ [Climbs (stage old)] := by
            obtain ⟨n, hn⟩ := Nat.exists_eq_succ_of_ne_zero hold
            rw [hclimb, hn, Nat.add_sub_cancel, Nat.succ_eq_add_one, Nat.add_sub_cancel,
              List.range'_concat, List.map_append, List.map_singleton, Nat.one_mul, Nat.add_comm 1]
          rw [hkinds]
          exact horder.concat (e := .set old new stamp) (by simp) ⟨rfl, hclimb⟩
      · intro e he
        rcases List.mem_append.1 he with he | he
        · exact hfalls e he
        · rw [List.mem_singleton.1 he]
          show ¬ stage new < stage old
          omega

/-- **Enumeration.** -/
theorem enumerated_run (buf kbdbuf : List Byte) (device : Byte) (answers : List (List Dword)) :
    Always Main.step (fun m => Enumerated m.history m.usbTaskState)
      (Main.powerUp buf kbdbuf device) answers := by
  intro ds _
  have hstart : OnDiagram (Main.powerUp buf kbdbuf device).toHost := .start
  exact (run_invariant (P := fun m : Main => OnDiagram m.toHost) onDiagram_step hstart
    ds).enumerated

end Bosconian.Usb
