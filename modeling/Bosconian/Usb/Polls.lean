import Bosconian.Usb.Addressing

/-!
# What `main` polls the device as

`main` asks for the class of the device once, when it first finds one running, and polls by that
answer from then on. The table of devices is filled anew for every device, so the answer can go
stale: a device may leave and another one come while `main` still holds the class of the first.
It never polls by a stale answer, because no call of the two tasks takes a device that leaves
through to one that runs, and the call in between throws the answer away.

* `Current` — what each call finds of the answer.
* `polls_current` — in every run of `main` the answer it polls by is that of the device that runs.
-/

namespace Bosconian.Usb

open Scripted EventMachine

/-! ## The class of the device -/

/-- What `GetDriverandReport` looks for. -/
def Tables.lastClass (t : Tables) : Byte :=
  ((t.devtable.toList.take usbNumdevices).drop 1).foldl
    (fun device tpl => if tpl.epinfo ≠ .null then tpl.devclass else device) 0xff

theorem transferFree_lastClass : TransferFree Tables.lastClass where
  log _ _ := rfl
  rcvToggle b slot t := by cases slot <;> rfl

/-- The task is in one of `states`, and `d` is still the class of the device. -/
structure Shown (d : Byte) (states : List Byte) (u : Host) : Prop where
  current : u.lastClass = d
  state : u.usbTaskState ∈ states

/-- A running device has the class `d`. No call leaves the task in `USB_STATE_ERROR`. -/
structure Trusted (d : Byte) (u : Host) : Prop where
  current : u.usbTaskState = usbStateRunning → u.lastClass = d
  noError : u.usbTaskState ≠ usbStateError

section Shown

variable {α : Type} {d new : Byte} {states : List Byte} {C : Host → Prop}

theorem Shown.weaken {states' : List Byte} {u : Host} (h : Shown d states u)
    (hsub : states ⊆ states') : Shown d states' u := ⟨h.current, hsub h.state⟩

theorem Shown.trusted {u : Host} (h : Shown d states u) (hno : usbStateError ∉ states) :
    Trusted d u := ⟨fun _ => h.current, fun herr => hno (herr ▸ h.state)⟩

theorem keeps_shown {m : Driver α} (hm : Preserves Tables.lastClass m) :
    Keeps (Shown d states) (liftM m : Task α) := by
  have hclass : Leads (fun t => t.lastClass = d) (fun t => t.lastClass = d) m := by
    intro w hw
    have hkept : w.st.lastClass = (final m w).st.lastClass := hm w
    exact hkept.symm.trans hw
  exact Leads.zoom hclass (fun _ h => h.current) fun _ _ h ht => ⟨ht, h.state⟩

theorem shown_driver {m : Driver α} (hm : Preserves Tables.lastClass m) :
    Triple (Shown d states) (liftM m : Task α) (fun _ => Shown d states) fun _ => True :=
  (keeps_shown hm).triple fun _ _ => trivial

theorem shown_setTaskState (hnew : new ∈ states) {states' : List Byte} :
    Triple (Shown d states') (setTaskState new) (fun _ => Shown d states) C :=
  Triple.update fun _ h => ⟨h.current, hnew⟩

theorem trusted_setTaskState {P : Host → Prop} (hrun : new ≠ usbStateRunning)
    (herr : new ≠ usbStateError) :
    Triple P (setTaskState new) (fun _ => Trusted d) C :=
  Triple.update fun _ _ => ⟨fun h => absurd h hrun, herr⟩

end Shown

/-! ## `MAX3421E_Task` -/

/-- The states that a probe of the bus leaves a running device in. -/
def probedStates : List Byte :=
  [usbStateRunning, usbStateAttached, usbDetachedSubstateIllegal, usbDetachedSubstateInitialize,
    usbDetachedSubstateWaitForDevice]

/-- And a bus event after it. -/
def interruptedStates : List Byte := probedStates ++ probedStates.map (· + 1)

section Max3421eTask

variable {d : Byte} {C : Host → Prop}

theorem shown_startHost (jStatus : Bool) :
    Triple (Shown d probedStates) (startHost jStatus) (fun _ => Shown d probedStates)
      fun _ => True := by
  have hf := transferFree_lastClass
  refine Triple.read_bind fun u hu => Triple.pre ?_ fun v hv => hv ▸ hu
  split
  · exact Triple.bind (shown_driver (preserves_maxRegRd hf _)) fun _ =>
      Triple.bind (shown_driver (preserves_emit hf _)) fun _ =>
      shown_setTaskState (by decide)
  · exact Triple.pure fun _ => id

theorem shown_maxBusprobe :
    Triple (Shown d probedStates) maxBusprobe (fun _ => Shown d probedStates) fun _ => True := by
  have hf := transferFree_lastClass
  refine Triple.bind (shown_driver (preserves_maxRegRd hf _)) fun hrsl => ?_
  show Triple _ (busprobeSwitch (hrsl &&& (bmJSTATUS ||| bmKSTATUS))) _ _
  unfold busprobeSwitch
  split
  · exact shown_startHost true
  split
  · exact shown_startHost false
  split
  · exact shown_setTaskState (by decide)
  · refine Triple.read_bind fun u hu => Triple.pre ?_ fun v hv => hv ▸ hu
    split
    · exact shown_setTaskState (by decide)
    · exact Triple.bind (shown_driver (preserves_emit hf _)) fun _ =>
        shown_setTaskState (by decide)

theorem shown_advanceTaskState :
    Triple (Shown d probedStates) advanceTaskState (fun _ => Shown d interruptedStates) C := by
  refine Triple.read_bind fun u hu => Triple.update ?_
  rintro v rfl
  exact ⟨hu.current, List.mem_append_right _ (List.mem_map_of_mem hu.state)⟩

/-- One call takes a running device at most to a probed state and one on. -/
theorem shown_max3421eTask :
    Triple (Shown d [usbStateRunning]) max3421eTask (fun _ => Shown d interruptedStates)
      fun _ => True := by
  have hf := transferFree_lastClass
  have hstart (u : Host) (h : Shown d [usbStateRunning] u) : Shown d probedStates u :=
    h.weaken (by decide)
  have hend (u : Host) (h : Shown d probedStates u) : Shown d interruptedStates u :=
    h.weaken (List.subset_append_left _ _)
  refine Triple.pre ?_ hstart
  refine Triple.bind (shown_driver (preserves_pioRd hf _)) fun irq =>
    Triple.bind (Q := fun _ => Shown d interruptedStates)
      (Triple.onlyIf (fun _ => ?_) hend) fun _ =>
    Triple.bind (shown_driver (preserves_pioRd hf _)) fun gpx => ?_
  · refine Triple.bind (shown_driver (preserves_maxRegRd hf _)) fun hirq =>
      Triple.bind (Triple.onlyIf (fun _ => shown_maxBusprobe) fun _ => id) fun _ =>
      Triple.bind (Triple.onlyIf (fun _ => ?_) fun _ => id) fun _ =>
      Triple.bind (Triple.onlyIf (fun _ => shown_advanceTaskState) hend) fun _ => ?_
    · exact shown_driver (preserves_emit hf _)
    · exact shown_driver (preserves_emit hf _)
  · split
    · exact shown_driver (Moves.bind (preserves_maxRegRd hf _) fun _ => Moves.pure _)
    · exact Triple.pure fun _ => id

end Max3421eTask

/-! ## `USB_Task` -/

section UsbTask

variable {d : Byte}

theorem trusted_taskDetached (state : Byte) :
    Triple (Shown d interruptedStates) (taskDetached state) (fun _ => Trusted d)
      fun _ => True := by
  have hno : usbStateError ∉ interruptedStates := by decide
  unfold taskDetached
  split
  · exact Triple.skip fun _ => trusted_setTaskState (by decide) (by decide)
  split
  · exact (shown_driver (preserves_emit transferFree_lastClass _)).mono (fun _ => id)
      (fun _ _ h => h.trusted hno) fun _ => id
  · exact Triple.pure fun _ h => h.trusted hno

theorem trusted_taskAttached {state : Byte} (hstate : state ∈ interruptedStates) :
    Triple (Shown d interruptedStates) (taskAttached state) (fun _ => Trusted d)
      fun _ => True := by
  have hno : usbStateError ∉ interruptedStates := by decide
  have hlate : ∀ s ∈ [usbAttachedSubstateResetDevice, usbAttachedSubstateWaitResetComplete,
      usbAttachedSubstateWaitSof, usbAttachedSubstateGetDeviceDescriptorSize],
      s ∉ interruptedStates := by decide
  unfold taskAttached
  split
  · exact Triple.skip fun _ => Triple.skip fun _ =>
      trusted_setTaskState (by decide) (by decide)
  split
  · refine Triple.read_bind fun u hu => Triple.pre ?_ fun v hv => hv ▸ hu
    refine Triple.bind (shown_driver (preserves_milliseconds transferFree_lastClass)) fun t => ?_
    split
    · exact trusted_setTaskState (by decide) (by decide)
    · exact Triple.pure fun _ h => h.trusted hno
  -- the later states are more than one bus event away from a probe
  rw [if_neg fun h => hlate state (by simp [h]) hstate,
    if_neg fun h => hlate state (by simp [h]) hstate,
    if_neg fun h => hlate state (by simp [h]) hstate,
    if_neg fun h => hlate state (by simp [h]) hstate]
  exact Triple.pure fun _ h => h.trusted hno

theorem trusted_usbTask :
    Triple (Shown d interruptedStates) usbTask (fun _ => Trusted d) fun _ => True := by
  have hno : usbStateError ∉ interruptedStates := by decide
  have hgroup : ∀ s ∈ interruptedStates, s &&& usbStateMask ≠ usbStateAddressing ∧
      s &&& usbStateMask ≠ usbStateConfiguring := by decide
  refine Triple.read_bind fun u hu => Triple.pre ?_ fun v hv => hv ▸ hu
  obtain ⟨haddressing, hconfiguring⟩ := hgroup _ hu.state
  show Triple _ (if _ then _ else _) _ _
  split
  · exact trusted_taskDetached _
  split
  · exact trusted_taskAttached hu.state
  · exact Triple.pure fun _ h => h.trusted hno

end UsbTask

/-! ## Runs of `main` -/

/-- What each call finds of the answer, if `main` has one. Before the loop it has none. -/
def Current : Call → Main → Prop
  | .max3421eInit, m => m.runningdebugflag = 0
  | .usbInit, m => m.runningdebugflag = 0
  | .max3421eTask, m => m.runningdebugflag ≠ 0 → Shown m.device [usbStateRunning] m.toHost
  | .usbTask, m => m.runningdebugflag ≠ 0 → Shown m.device interruptedStates m.toHost
  | .useDevice, m => m.runningdebugflag ≠ 0 → Trusted m.device m.toHost

/-- The tasks know nothing of what `main` has been told. -/
theorem keeps_runningdebugflag {α : Type} (I : Byte → Prop) (m : Task α) :
    Keeps (fun m : Main => I m.runningdebugflag) (liftM m : MainProg α) := by
  show Keeps _ (zoom Main.toHost (fun u m => { m with toHost := u }) m)
  refine Keeps.zoom ?_ m
  intro u m h
  exact h

theorem untold_main (m : Task Unit) :
    Triple (fun m : Main => m.runningdebugflag = 0) (liftM m : MainProg Unit)
      (fun _ m => m.runningdebugflag = 0) fun _ => True :=
  (keeps_runningdebugflag (fun flag => flag = 0) m).triple fun _ _ => trivial

theorem triple_told {P Q : Byte → Host → Prop} {m : Task Unit}
    (hm : ∀ d, Triple (P d) m (fun _ => Q d) fun _ => True) :
    Triple (fun m => m.runningdebugflag ≠ 0 → P m.device m.toHost) (liftM m : MainProg Unit)
      (fun _ m => m.runningdebugflag ≠ 0 → Q m.device m.toHost) fun _ => True := by
  refine Triple.ghost (f := id) fun n hn => ?_
  by_cases hflag : n.runningdebugflag = 0
  · refine (untold_main m).mono (fun v hv => ?_) (fun _ _ hzero hflag => absurd hzero hflag)
      fun _ => id
    obtain rfl : v = n := hv
    exact hflag
  · show Triple _ (zoom Main.toHost (fun u m => { m with toHost := u }) m) _ _
    refine (hm n.device).zoom (fun v hv => ?_) (fun _ t v hv ht _ => ?_) fun _ _ _ _ => trivial
    · obtain rfl : v = n := hv
      exact hn hflag
    · obtain rfl : v = n := hv
      exact ht

/-- `GetDriverandReport` returns the class of the device, and leaves it the device it found. -/
theorem triple_getDriverandReport :
    Triple (fun _ => True) getDriverandReport (fun device t => t.lastClass = device)
      fun _ => True := by
  have hf := transferFree_lastClass
  refine Triple.read_bind fun t _ =>
    Triple.pre (P := fun v => v.lastClass = t.lastClass) ?_ fun v hv => by rw [hv]
  have hkeeps {α : Type} {p : Driver α} (hp : Preserves Tables.lastClass p) :
      Triple (fun v => v.lastClass = t.lastClass) p (fun _ v => v.lastClass = t.lastClass)
        fun _ => True :=
    (hp.keeps fun _ _ heq h => heq.symm.trans h).triple fun _ _ => trivial
  exact Triple.bind (hkeeps (preserves_uninitialised 1)) fun _ =>
    Triple.bind (hkeeps (preserves_xferCtrlReq hf _ _ _ _ _ _ _ _ _)) fun _ =>
    Triple.bind (hkeeps (preserves_xferCtrlReq hf _ _ _ _ _ _ _ _ _)) fun _ =>
    Triple.pure fun _ => id

section UseDevice

variable {d : Byte}

/-- The device that runs is of the class that `main` was told. -/
def Told (d : Byte) (m : Main) : Prop :=
  m.device = d ∧ Shown d [usbStateRunning] m.toHost

theorem Told.current {m : Main} (h : Told d m) : Current .max3421eTask m := by
  intro _
  rw [h.1]
  exact h.2

theorem told_meetDevice :
    Triple (fun m => m.usbTaskState = usbStateRunning) meetDevice
      (fun _ => Current .max3421eTask) fun _ => True := by
  have hasked : Triple (fun m : Main => m.usbTaskState = usbStateRunning)
      (liftM (liftM getDriverandReport : Task Byte) : MainProg Byte)
      (fun device m => Shown device [usbStateRunning] m.toHost) fun _ => True := by
    refine triple_main (P := fun u => u.usbTaskState = usbStateRunning)
      (Q := fun device => Shown device [usbStateRunning]) (C := fun _ => True) ?_
    rw [liftM_driver]
    refine triple_getDriverandReport.zoom (fun _ _ => trivial) ?_ fun _ _ _ _ => trivial
    intro device t u hrun hclass
    exact ⟨hclass, List.mem_singleton.2 hrun⟩
  refine Triple.bind (Q := fun _ m => m.usbTaskState = usbStateRunning)
    (Triple.update fun _ h => h) fun _ => Triple.bind hasked fun device => ?_
  exact Triple.update fun _ h _ => h

theorem told_main {α : Type} {m : Driver α} (hm : Preserves Tables.lastClass m) :
    Keeps (Told d) (liftM (liftM m : Task α) : MainProg α) := by
  have hshown : Keeps (Shown d [usbStateRunning]) (liftM m : Task α) := keeps_shown hm
  exact Leads.zoom hshown (fun _ h => h.2) fun _ _ h hu => ⟨h.1, hu⟩

theorem told_pollKeyboard : Keeps (Told d) pollKeyboard :=
  Moves.bind Moves.read fun _ =>
    Moves.bind (told_main (preserves_bootPoll transferFree_lastClass _)) fun _ =>
    Moves.bind (Keeps.update fun _ h => h) fun _ =>
    Moves.onlyIf fun _ => told_main (preserves_emit transferFree_lastClass _)

theorem told_pollMouse : Keeps (Told d) pollMouse :=
  Moves.bind Moves.read fun _ =>
    Moves.bind (told_main (preserves_bootPoll transferFree_lastClass _)) fun _ =>
    Keeps.update fun _ h => h

/-- Starting over, `main` forgets what it was told. -/
theorem untold_startOver :
    Triple (fun _ => True) startOver (fun _ m => m.runningdebugflag = 0) fun _ => True :=
  Triple.bind (Q := fun _ m => m.runningdebugflag = 0) (Triple.update fun _ _ => rfl)
    fun _ => Triple.bind (untold_main _) fun _ => untold_main _

theorem current_useDevice :
    Triple (Current .useDevice) useDevice (fun _ => Current .max3421eTask) fun _ => True := by
  refine Triple.read_bind fun m hm => ?_
  have hpoll (hrun : m.usbTaskState = usbStateRunning) (hflag : m.runningdebugflag ≠ 0)
      {p : MainProg Unit} (hp : Keeps (Told m.device) p) :
      Triple (fun n => n = m) p (fun _ => Current .max3421eTask) fun _ => True := by
    have htold : Told m.device m := ⟨rfl, (hm hflag).current hrun, List.mem_singleton.2 hrun⟩
    exact (hp.triple fun _ _ => trivial).mono (fun _ hn => hn ▸ htold)
      (fun _ _ h => h.current) fun _ => id
  split
  · next hrun =>
    split
    · exact told_meetDevice.pre fun _ hn => hn ▸ hrun
    next hflag =>
    split
    · exact hpoll hrun hflag told_pollKeyboard
    split
    · exact hpoll hrun hflag told_pollMouse
    · exact hpoll hrun hflag (Moves.pure ())
  split
  · next herror =>
    refine Triple.update fun n hn hflag => ?_
    subst hn
    exact absurd herror (hm hflag).noError
  · refine Triple.bind (Q := fun _ n => n.runningdebugflag = 0) ?_ fun _ =>
      Triple.update fun _ hzero hflag => absurd hzero hflag
    unfold onlyIf
    split
    · exact untold_startOver.pre fun _ _ => trivial
    · next hzero =>
      exact Triple.pure fun n hn => hn ▸ not_not.1 hzero

end UseDevice

theorem current_exec (c : Call) :
    Triple (Current c) (Main.exec c) (fun _ => Current c.next) fun _ => True := by
  cases c with
  | max3421eInit => exact untold_main max3421eInit
  | usbInit =>
    exact (untold_main (liftM usbInit)).mono (fun _ => id)
      (fun _ _ hzero hflag => absurd hzero hflag) fun _ => id
  | max3421eTask =>
    exact triple_told (P := fun d => Shown d [usbStateRunning])
      (Q := fun d => Shown d interruptedStates) fun _ => shown_max3421eTask
  | usbTask =>
    exact triple_told (P := fun d => Shown d interruptedStates) (Q := Trusted)
      fun _ => trusted_usbTask
  | useDevice => exact current_useDevice

/-- Every call finds the answer as it needs it. -/
def AnswerKept (m : Main) : Prop := ∀ c, m.call = some c → Current c m

theorem Current.withCall {c : Call} {m : Main} (h : Current c m) (call : Option Call) :
    Current c { m with call := call } := by
  cases c <;> exact h

theorem answerKept_step (m : Main) (answers : List Dword) (h : AnswerKept m) :
    AnswerKept (m.step answers) := by
  rcases hcall : m.call with _ | c
  · rw [Main.step_of_none hcall]
    exact h
  · obtain ⟨hok, -⟩ := current_exec c ⟨answers, m⟩ (h c hcall)
    rw [Main.step_of_some hcall]
    rcases hrun : Main.exec c ⟨answers, m⟩ with ⟨a, v⟩ | ⟨e, v⟩
    · rw [final_ok hrun, returned, hrun]
      rintro c' ⟨⟩
      exact (hok a v hrun).withCall _
    · rw [final_error hrun, returned, hrun]
      rintro c' ⟨⟩

/-- **No stale answer.** When `main` comes to use the device and has been told its class, the task
is not in `USB_STATE_ERROR`, and if a device runs it is of that class. -/
theorem polls_current (buf kbdbuf : List Byte) (device : Byte) (answers : List (List Dword)) :
    Always Main.step
      (fun m => m.call = some .useDevice → m.runningdebugflag ≠ 0 →
        m.usbTaskState ≠ usbStateError ∧
          (m.usbTaskState = usbStateRunning → m.device = m.lastClass))
      (Main.powerUp buf kbdbuf device) answers := by
  intro ds _ hcall hflag
  have hstart : AnswerKept (Main.powerUp buf kbdbuf device) := by
    rintro c ⟨⟩
    exact rfl
  have htrusted := run_invariant (P := AnswerKept) answerKept_step hstart ds .useDevice hcall hflag
  exact ⟨htrusted.noError, fun hrun => (htrusted.current hrun).symm⟩

end Bosconian.Usb
