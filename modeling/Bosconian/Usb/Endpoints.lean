import Bosconian.Usb.Bounds
import Bosconian.Usb.Enlisted

/-!
# No call faults

`main` asks the driver for endpoint 0 of the device at address 1, once it runs, and then polls
endpoint 1 of the device that was probed. Neither checks that it is still there, but `main` goes on
to poll only while the state of the task is `USB_STATE_RUNNING` in each round.

* `AfterRunning` — the states that a round can make of `USB_STATE_RUNNING` before `USB_Task`.
* `ReadyFor` — what each call of `main` may rely on.
* `never_faults` — as far as no transfer stores past its destination, no call follows an `epinfo`
  that is not there.
-/

namespace Bosconian.Usb

open Scripted

/-! ## From `USB_STATE_RUNNING` on -/

/-- The states that one call of `MAX3421E_Task` can make of `USB_STATE_RUNNING`. -/
abbrev AfterRunning (state : Byte) : Prop :=
  state ∈ [usbStateRunning, usbStateAttached, usbDetachedSubstateIllegal,
    usbDetachedSubstateInitialize, usbStateRunning + 1, usbStateAttached + 1,
    usbDetachedSubstateIllegal + 1, usbDetachedSubstateInitialize + 1]

/-- Those of them before the bus event. -/
abbrev AfterProbe (state : Byte) : Prop :=
  state ∈ [usbStateRunning, usbStateAttached, usbDetachedSubstateIllegal,
    usbDetachedSubstateInitialize]

section Running

/-- The driver does not write the state of the task. -/
theorem triple_driver {α : Type} (m : Driver α) (P : Byte → Prop) :
    Triple (fun u => P u.usbTaskState) (liftM m : Task α) (fun _ u => P u.usbTaskState)
      fun _ => True := by
  have hkeeps : Keeps (fun u : Host => P u.usbTaskState) (liftM m : Task α) := by
    rw [liftM_driver]
    refine Keeps.zoom ?_ m
    intro t u h
    exact h
  exact hkeeps.triple fun _ _ => trivial

theorem triple_set {P : Host → Prop} {Q : Byte → Prop} {new : Byte} (hnew : Q new) :
    Triple P (setTaskState new) (fun _ u => Q u.usbTaskState) fun _ => True :=
  Triple.update fun _ _ => hnew

theorem triple_maxBusprobe_running :
    Triple (fun u => u.usbTaskState = usbStateRunning) maxBusprobe
      (fun _ u => AfterProbe u.usbTaskState) fun _ => True := by
  have hattached : AfterProbe usbStateAttached := by decide
  have hstart (jStatus : Bool) : Triple (fun u => u.usbTaskState = usbStateRunning)
      (startHost jStatus) (fun _ u => AfterProbe u.usbTaskState) fun _ => True := by
    refine Triple.read_bind fun u hu => ?_
    rw [hu, if_pos (by decide)]
    exact Triple.skip fun _ => Triple.skip fun _ => triple_set hattached
  refine Triple.bind (triple_driver _ (· = usbStateRunning)) fun hrsl => ?_
  show Triple _ (busprobeSwitch (hrsl &&& (bmJSTATUS ||| bmKSTATUS))) _ _
  unfold busprobeSwitch
  split
  · exact hstart true
  split
  · exact hstart false
  split
  · exact triple_set (by decide)
  · refine Triple.read_bind fun u hu => ?_
    rw [hu, if_pos (by decide)]
    exact triple_set (by decide)

theorem triple_serviceIrq_running (hirq : Byte) :
    Triple (fun u => u.usbTaskState = usbStateRunning) (serviceIrq hirq)
      (fun _ u => AfterRunning u.usbTaskState) fun _ => True := by
  have hstay : AfterProbe usbStateRunning := by decide
  have hbyte : ∀ s : Byte, AfterProbe s → AfterRunning s ∧ AfterRunning (s + 1) := by decide
  have hemit (P : Byte → Prop) (c : Prop) [Decidable c] (e : Access) :
      Triple (fun u => P u.usbTaskState) (onlyIf c (liftM (emit e) : Task Unit))
        (fun _ u => P u.usbTaskState) fun _ => True :=
    Triple.onlyIf (fun _ => triple_driver (emit e) P) fun _ => id
  refine Triple.bind (Triple.onlyIf (fun _ => triple_maxBusprobe_running)
    fun u hu => by rw [hu]; exact hstay) fun _ =>
    Triple.bind (hemit AfterProbe _ _) fun _ =>
    Triple.bind (Triple.onlyIf (fun _ => ?_) fun u hu => (hbyte _ hu).1) fun _ =>
    triple_driver (emit _) AfterRunning
  refine Triple.read_bind fun u hu => Triple.update fun v hv => ?_
  rw [hv]
  exact (hbyte _ hu).2

theorem triple_max3421eTask_running :
    Triple (fun u => u.usbTaskState = usbStateRunning) max3421eTask
      (fun _ u => AfterRunning u.usbTaskState) fun _ => True := by
  have hstay : AfterRunning usbStateRunning := by decide
  refine Triple.bind (triple_driver _ (· = usbStateRunning)) fun irq =>
    Triple.bind (Triple.onlyIf (fun _ => ?_) fun u hu => by rw [hu]; exact hstay) fun _ =>
    Triple.bind (triple_driver _ AfterRunning) fun gpx => ?_
  · exact Triple.bind (triple_driver _ (· = usbStateRunning)) fun _ =>
      triple_serviceIrq_running _
  · split
    · exact triple_driver _ AfterRunning
    · exact Triple.pure fun _ => id

/-- After such a call `USB_Task` does not reach the device. -/
theorem triple_usbTask_running {x : Naming} :
    Triple (fun u => AfterRunning u.usbTaskState ∧ u.naming = x) usbTask
      (fun _ u => u.usbTaskState ≠ usbStateError ∧
        (u.usbTaskState = usbStateRunning → u.naming = x)) fun _ => True := by
  refine Triple.read_bind fun u hu => ?_
  obtain ⟨hstate, hnaming⟩ := hu
  have hgone {P : Host → Prop} {new : Byte}
      (hnew : new ≠ usbStateError ∧ new ≠ usbStateRunning) :
      Triple P (setTaskState new) (fun _ u => u.usbTaskState ≠ usbStateError ∧
        (u.usbTaskState = usbStateRunning → u.naming = x)) fun _ => True :=
    Triple.update fun _ _ => ⟨hnew.1, fun hrun => absurd hrun hnew.2⟩
  have hbyte : ∀ s : Byte, AfterRunning s → s ≠ usbStateError ∧
      s &&& usbStateMask ≠ usbStateAddressing ∧ s &&& usbStateMask ≠ usbStateConfiguring ∧
      (s &&& usbStateMask = usbStateAttached → s = usbStateAttached ∨
        s = usbAttachedSubstateSettle) ∧
      (s &&& usbStateMask = usbStateDetached → s ≠ usbDetachedSubstateWaitForDevice) := by decide
  obtain ⟨hne, haddressing, hconfiguring, hattached, hdetached⟩ := hbyte u.usbTaskState hstate
  have hstay : Triple (fun v => v = u) (pure () : Task Unit) (fun _ u =>
      u.usbTaskState ≠ usbStateError ∧ (u.usbTaskState = usbStateRunning → u.naming = x))
      fun _ => True := Triple.pure fun v hv => hv ▸ ⟨hne, fun _ => hnaming⟩
  show Triple _ (if _ then _ else _) _ _
  split
  · next h =>
    unfold taskDetached
    split
    · exact Triple.skip fun _ => hgone (by decide)
    · rw [if_neg (hdetached h)]
      exact hstay
  split
  · next h =>
    rcases hattached h with hs | hs
    · rw [taskAttached, if_pos hs]
      exact Triple.skip fun _ => Triple.skip fun _ => hgone (by decide)
    · rw [taskAttached, hs, if_neg (by decide), if_pos rfl]
      have hsettle : usbAttachedSubstateSettle ≠ usbStateError ∧
        usbAttachedSubstateSettle ≠ usbStateRunning := by decide
      refine Triple.read_bind fun v hv => ?_
      refine (Triple.bind (triple_driver milliseconds
        fun s => s ≠ usbStateError ∧ s ≠ usbStateRunning) fun t => ?_).pre
          fun w hw => by rw [hw, hv, hs]; exact hsettle
      split
      · exact hgone (by decide)
      · exact Triple.pure fun w hw => ⟨hw.1, fun hrun => absurd hrun hw.2⟩
  · exact hstay

end Running

/-- `MAX3421E_Task` leaves the naming alone. -/
theorem preserves_naming_max3421eTask :
    Preserves (fun u : Host => u.naming) max3421eTask := by
  have hf := transferFree_naming
  have hdriver {α : Type} {m : Driver α} (hm : Preserves Tables.naming m) :
      Preserves (fun u : Host => u.naming) (liftM m : Task α) := by
    rw [liftM_driver]
    exact Moves.zoom hm fun _ _ => id
  have hset (g : Host → Byte) :
      Preserves (fun u : Host => u.naming) (update fun u => u.setTaskState (g u) : Task Unit) :=
    Preserves.update fun _ => rfl
  have hprobe : AllowsBusprobe fun _ m => Preserves (fun u : Host => u.naming) m :=
    { toSequential := Moves.sequential
      regWr := fun reg val _ => hdriver (preserves_emit hf (.regWr reg val))
      regRd := fun reg => hdriver (preserves_maxRegRd hf reg)
      pioRd := fun port => hdriver (preserves_pioRd hf port)
      reset := hdriver (hf.allows Access.OfHost).max3421eReset
      set := fun new _ => hset fun _ => new }
  exact hprobe.controller.max3421eTask (Moves.bind Moves.read fun _ => Preserves.update fun _ => rfl)

/-! ## `main` -/

/-- A device that is polled has its endpoint. -/
def PollsEndpoint (device : Byte) (x : Naming) : Prop :=
  device = hidK ∨ device = hidM → x.Names x.hidDevice.addr 1

section UseDevice

/-- The class that is printed is that of a slot, if there is one. -/
theorem devclass_of_foldl (l : List DevRecord) (device : Byte) :
    l.foldl (fun device tpl => if tpl.epinfo ≠ .null then tpl.devclass else device) device =
        device ∨
      ∃ d ∈ l, l.foldl (fun device tpl => if tpl.epinfo ≠ .null then tpl.devclass else device)
        device = d.devclass := by
  induction l generalizing device with
  | nil => exact .inl rfl
  | cons tpl l ih =>
    rw [List.foldl_cons]
    rcases ih (if tpl.epinfo ≠ .null then tpl.devclass else device) with hinit | ⟨d, hd, heq⟩
    · rw [hinit]
      split_ifs
      · exact .inr ⟨tpl, List.mem_cons_self, rfl⟩
      · exact .inl rfl
    · exact .inr ⟨d, List.mem_cons_of_mem _ hd, heq⟩

theorem Naming.Wired.pollsEndpoint {x : Naming} (h : x.Wired) :
    PollsEndpoint (((x.devtable.toList.take usbNumdevices).drop 1).foldl
      (fun device tpl => if tpl.epinfo ≠ .null then tpl.devclass else device) 0xff) x := by
  intro hclass
  rcases devclass_of_foldl ((x.devtable.toList.take usbNumdevices).drop 1) 0xff with
    hnone | ⟨d, hd, heq⟩
  · rw [hnone] at hclass
    rcases hclass with hclass | hclass <;> cases hclass
  · rw [heq] at hclass
    obtain ⟨i, hi⟩ := List.mem_iff_getElem?.1 (List.mem_of_mem_take (List.mem_of_mem_drop hd))
    rw [Vector.getElem?_toList] at hi
    exact h.hid ⟨i, d, hi, hclass⟩

theorem safe_getDriverandReport {x : Naming} (hwired : x.Wired) (h : x.Names mainAddr 0) :
    Safe (Tables.At x) getDriverandReport
      fun device t => t.At x ∧ PollsEndpoint device x := by
  refine Safe.read_bind fun t ht => ?_
  have hx : t.naming = x := ht
  subst hx
  have hrequests := requests_at h
  refine Safe.mono (P := Tables.At t.naming) ?_ (fun s hs => hs ▸ ht) fun _ _ => id
  refine Safe.bind (hrequests.uninitialised 1) fun tmpbyte => ?_
  refine Safe.bind (hrequests.dataIn (by decide) _ _ _ _ _ _) fun idle => ?_
  refine Safe.bind (hrequests.dataIn (by decide) _ _ _ _ _ _) fun proto => ?_
  exact Safe.pure fun s hs => ⟨hs, hwired.pollsEndpoint⟩

theorem safe_bootPoll {x : Naming} (h : x.Names x.hidDevice.addr 1) (buf : List Byte) :
    Safe (Tables.At x) (bootPoll buf) fun _ => Tables.At x := by
  refine Safe.read_bind fun t ht => ?_
  have hx : t.naming = x := ht
  subst hx
  have htransfers := transfers_at h
  refine Safe.mono (P := Tables.At t.naming) ?_ (fun s hs => hs ▸ ht) fun _ _ => id
  refine Safe.bind (htransfers.emit _ trivial) fun _ => ?_
  refine Safe.bind htransfers.epRecord fun r => ?_
  exact htransfers.xferInTransfer 8 buf _

end UseDevice

/-- What a call may rely on, and the locals of `main` with it. -/
def ReadyFor : Call → Main → Prop
  | .max3421eInit, m | .usbInit, m =>
    m.tmpAddr.toNat < usbNumdevices ∧ BeforeAddress m.usbTaskState ∧ m.runningdebugflag = 0
  | .max3421eTask, m =>
    Enlisted nextAddressing m.toHost ∧
      (m.runningdebugflag ≠ 0 →
        m.usbTaskState = usbStateRunning ∧ PollsEndpoint m.device m.naming)
  | .usbTask, m =>
    Enlisted (nextAddressing + 1) m.toHost ∧
      (m.runningdebugflag ≠ 0 → AfterRunning m.usbTaskState ∧ PollsEndpoint m.device m.naming)
  | .useDevice, m =>
    Enlisted nextAddressing m.toHost ∧
      (m.runningdebugflag ≠ 0 → m.usbTaskState ≠ usbStateError ∧
        (m.usbTaskState = usbStateRunning → PollsEndpoint m.device m.naming))

theorem readyFor_call {c : Call} {m : Main} {next : Option Call} (h : ReadyFor c m) :
    ReadyFor c { m with call := next } := by
  cases c <;> exact h

section Exec

/-- A program of the task, under the locals of `main`. -/
theorem safe_task {α : Type} {m : Task α} {P : Host → Prop} {Q : α → Host → Prop}
    (hm : Safe P m Q) (n : Main) :
    Safe (fun m => P m.toHost ∧ m.runningdebugflag = n.runningdebugflag ∧ m.device = n.device)
      (liftM m : MainProg α)
      fun a m => Q a m.toHost ∧ m.runningdebugflag = n.runningdebugflag ∧
        m.device = n.device := by
  show Safe _ (zoom Main.toHost (fun u m => { m with toHost := u }) m) _
  exact hm.zoom (fun _ h => h.1) fun _ _ _ h hq => ⟨hq, h.2⟩

theorem safe_exec_max3421eTask :
    Safe (ReadyFor .max3421eTask) (liftM max3421eTask : MainProg Unit)
      fun _ => ReadyFor .usbTask := by
  intro w hw
  obtain ⟨hlisted, hrunning⟩ := hw
  by_cases hflag : w.st.runningdebugflag = 0
  · obtain ⟨hok, hfault⟩ := safe_task safe_max3421eTask w.st w ⟨hlisted, rfl, rfl⟩
    refine ⟨fun a v h => ?_, hfault⟩
    obtain ⟨hlisted', hflag', -⟩ := hok a v h
    exact ⟨hlisted', fun hne => absurd (hflag'.trans hflag) hne⟩
  · obtain ⟨hstate, hpolls⟩ := hrunning hflag
    have hnaming : Triple (fun u : Host => u.naming = w.st.naming) max3421eTask
        (fun _ u => u.naming = w.st.naming) fun _ => True :=
      (preserves_naming_max3421eTask.keeps fun _ _ heq h => heq.symm.trans h).triple
        fun _ _ => trivial
    obtain ⟨hok, hfault⟩ := safe_task (safe_max3421eTask.and
      (triple_max3421eTask_running.and hnaming)) w.st w ⟨⟨hlisted, hstate, rfl⟩, rfl, rfl⟩
    refine ⟨fun a v h => ?_, hfault⟩
    obtain ⟨⟨hlisted', hstate', hnaming'⟩, -, hdevice⟩ := hok a v h
    refine ⟨hlisted', fun _ => ⟨hstate', ?_⟩⟩
    show PollsEndpoint v.st.device v.st.naming
    rw [hdevice, hnaming']
    exact hpolls

theorem safe_exec_usbTask :
    Safe (ReadyFor .usbTask) (liftM usbTask : MainProg Unit) fun _ => ReadyFor .useDevice := by
  intro w hw
  obtain ⟨hlisted, hrunning⟩ := hw
  by_cases hflag : w.st.runningdebugflag = 0
  · obtain ⟨hok, hfault⟩ := safe_task safe_usbTask w.st w ⟨hlisted, rfl, rfl⟩
    refine ⟨fun a v h => ?_, hfault⟩
    obtain ⟨hlisted', hflag', -⟩ := hok a v h
    exact ⟨hlisted', fun hne => absurd (hflag'.trans hflag) hne⟩
  · obtain ⟨hstate, hpolls⟩ := hrunning hflag
    obtain ⟨hok, hfault⟩ := safe_task (safe_usbTask.and triple_usbTask_running) w.st w
      ⟨⟨hlisted, hstate, rfl⟩, rfl, rfl⟩
    refine ⟨fun a v h => ?_, hfault⟩
    obtain ⟨⟨hlisted', hne, hnaming⟩, -, hdevice⟩ := hok a v h
    refine ⟨hlisted', fun _ => ⟨hne, fun hrun => ?_⟩⟩
    show PollsEndpoint v.st.device v.st.naming
    rw [hdevice, hnaming hrun]
    exact hpolls

/-- The controller is set up, from whatever state the task is in. -/
theorem safe_exec_max3421eInit :
    Safe (fun m => m.tmpAddr.toNat < usbNumdevices ∧ m.runningdebugflag = 0)
      (liftM max3421eInit : MainProg Unit) fun _ => ReadyFor .usbInit := by
  have htmp : Keeps (fun u : Host => u.tmpAddr.toNat < usbNumdevices) max3421eInit :=
    allowsBusprobe_undisturbed.controller.max3421eInit.keeps fun _ _ hu h => hu.tmpAddr ▸ h
  have hfault := allowsBusprobe_noFault.controller.max3421eInit
  have hinit := (hfault.safe htmp).and triple_max3421eInit
  intro w hw
  obtain ⟨htmp, hflag⟩ := hw
  obtain ⟨hok, hfault⟩ := safe_task hinit w.st w ⟨⟨htmp, trivial⟩, rfl, rfl⟩
  refine ⟨fun a v h => ?_, hfault⟩
  obtain ⟨⟨htmp', hbefore'⟩, hflag', -⟩ := hok a v h
  exact ⟨htmp', hbefore', hflag'.trans hflag⟩

/-- The tables are set up, with no device met. -/
theorem safe_exec_usbInit :
    Safe (ReadyFor .usbInit) (liftM (liftM usbInit : Task Unit) : MainProg Unit)
      fun _ m => Enlisted nextAddressing m.toHost ∧ m.runningdebugflag = 0 := by
  intro w hw
  obtain ⟨htmp, hbefore, hflag⟩ := hw
  obtain ⟨hok, hfault⟩ := safe_task (safe_usbInit (k := nextAddressing) (by decide)) w.st w
    ⟨⟨htmp, hbefore⟩, rfl, rfl⟩
  refine ⟨fun a v h => ?_, hfault⟩
  obtain ⟨hlisted, hflag', -⟩ := hok a v h
  exact ⟨hlisted, hflag'.trans hflag⟩

/-- A program of the driver that leaves the naming of a running device alone. -/
theorem safe_running {α : Type} {m : Driver α} {n : Main} {Q : α → Prop}
    (hlisted : Enlisted nextAddressing n.toHost) (hrun : n.usbTaskState = usbStateRunning)
    (hm : Safe (Tables.At n.naming) m fun a t => t.At n.naming ∧ Q a) :
    Safe (fun m => m = n) (liftM (liftM m : Task α) : MainProg α) fun a m =>
      Enlisted nextAddressing m.toHost ∧ m.usbTaskState = usbStateRunning ∧
        m.naming = n.naming ∧ m.runningdebugflag = n.runningdebugflag ∧ m.device = n.device ∧
        Q a := by
  have htask : Safe (fun u => u = n.toHost) (liftM m : Task α) fun a u =>
      Undisturbed n.toHost u ∧ u.usbTaskState = usbStateRunning ∧ Q a := by
    rw [liftM_driver]
    refine hm.zoom (fun u hu => hu ▸ rfl) ?_
    rintro a t u rfl ht
    exact ⟨⟨ht.1.symm, rfl, .inl rfl⟩, hrun, ht.2⟩
  refine (safe_task htask n).mono (fun m hm => hm ▸ ⟨rfl, rfl, rfl⟩) fun a m hm => ?_
  obtain ⟨⟨hsame, hstate, hq⟩, hflag, hdevice⟩ := hm
  exact ⟨hlisted.undisturbed (by decide) hsame, hstate, hsame.naming.symm, hflag, hdevice, hq⟩

theorem safe_meetDevice {n : Main} (hlisted : Enlisted nextAddressing n.toHost)
    (hrun : n.usbTaskState = usbStateRunning) :
    Safe (fun m => m = n) meetDevice fun _ => ReadyFor .max3421eTask := by
  have hnames : n.naming.Names mainAddr 0 := by
    have hhas : HasAddress usbStateRunning := by decide
    exact (hlisted.first (hrun ▸ hhas)).names
  refine Safe.bind (Q := fun _ m => m = { n with runningdebugflag := 1 })
    (Safe.update fun m hm => hm ▸ rfl) fun _ =>
    Safe.bind (safe_running (n := { n with runningdebugflag := 1 }) hlisted hrun
      (safe_getDriverandReport hlisted.wired hnames)) fun device => Safe.update fun m hm => ?_
  obtain ⟨hlisted', hrun', hnaming, -, -, hpolls⟩ := hm
  refine ⟨hlisted', fun _ => ⟨hrun', ?_⟩⟩
  show PollsEndpoint device m.naming
  rw [hnaming]
  exact hpolls

/-- What a round that only polls leaves alone. -/
def Polled (n m : Main) : Prop :=
  Enlisted nextAddressing m.toHost ∧ m.usbTaskState = usbStateRunning ∧ m.naming = n.naming ∧
    m.runningdebugflag = n.runningdebugflag ∧ m.device = n.device

theorem Polled.readyFor {n m : Main} (h : Polled n m)
    (hpolls : PollsEndpoint n.device n.naming) : ReadyFor .max3421eTask m := by
  obtain ⟨hlisted, hrun, hnaming, -, hdevice⟩ := h
  refine ⟨hlisted, fun _ => ⟨hrun, ?_⟩⟩
  rw [hdevice, hnaming]
  exact hpolls

theorem safe_poll {n : Main} (hlisted : Enlisted nextAddressing n.toHost)
    (hrun : n.usbTaskState = usbStateRunning)
    (hnames : n.naming.Names n.hidDevice.addr 1) (buf : List Byte) :
    Safe (fun m => m = n)
      (liftM (liftM (bootPoll buf) : Task (Byte × List Byte)) : MainProg (Byte × List Byte))
      fun _ => Polled n := by
  have hpoll : Safe (Tables.At n.naming) (bootPoll buf) fun _ t => t.At n.naming ∧ True :=
    (safe_bootPoll hnames buf).mono (fun _ h => h) fun _ _ h => ⟨h, trivial⟩
  refine (safe_running hlisted hrun hpoll).mono (fun _ h => h) fun _ m h => ?_
  obtain ⟨hlisted', hrun', hnaming, hflag, hdevice, -⟩ := h
  exact ⟨hlisted', hrun', hnaming, hflag, hdevice⟩

theorem safe_pollKeyboard {n : Main} (hlisted : Enlisted nextAddressing n.toHost)
    (hrun : n.usbTaskState = usbStateRunning)
    (hnames : n.naming.Names n.hidDevice.addr 1) (hpolls : PollsEndpoint n.device n.naming) :
    Safe (fun m => m = n) pollKeyboard fun _ => ReadyFor .max3421eTask := by
  refine Safe.read_bind fun m hm => ?_
  subst hm
  refine Safe.bind (safe_poll hlisted hrun hnames _) fun p =>
    Safe.bind (Q := fun _ => Polled m) (Safe.update fun v hv => hv) fun _ =>
      (Safe.onlyIf (fun _ => ?_) fun _ => id).mono (fun v hv => hv) fun _ v hv =>
        Polled.readyFor hv hpolls
  -- The port is none of the tables.
  have hport : Safe (Tables.At m.naming)
      (pioWr .keycode ((p.2.getD 2 0).setWidth 32)) fun _ t => t.At m.naming ∧ True :=
    ((allows_at fun _ => True).emit _ trivial).mono (fun _ h => h) fun _ _ h => ⟨h, trivial⟩
  intro w hw
  obtain ⟨hlisted', hrun', hnaming, hflag, hdevice⟩ := hw
  obtain ⟨hok, hfault⟩ := safe_running hlisted' hrun' (hnaming ▸ hport) w rfl
  refine ⟨fun a v h => ?_, hfault⟩
  obtain ⟨hlisted'', hrun'', hnaming', hflag', hdevice', -⟩ := hok a v h
  exact ⟨hlisted'', hrun'', hnaming'.trans hnaming, hflag'.trans hflag, hdevice'.trans hdevice⟩

theorem safe_pollMouse {n : Main} (hlisted : Enlisted nextAddressing n.toHost)
    (hrun : n.usbTaskState = usbStateRunning)
    (hnames : n.naming.Names n.hidDevice.addr 1) (hpolls : PollsEndpoint n.device n.naming) :
    Safe (fun m => m = n) pollMouse fun _ => ReadyFor .max3421eTask := by
  refine Safe.read_bind fun m hm => ?_
  subst hm
  exact Safe.bind (safe_poll hlisted hrun hnames _) fun _ =>
    Safe.update fun v hv => Polled.readyFor hv hpolls

theorem safe_startOver {n : Main} (hlisted : Enlisted nextAddressing n.toHost) :
    Safe (fun m => m = n) startOver fun _ m =>
      Enlisted nextAddressing m.toHost ∧ m.runningdebugflag = 0 :=
  Safe.bind (Safe.update fun _ hm => hm ▸ ⟨hlisted.tmpAddr, rfl⟩) fun _ =>
    Safe.bind safe_exec_max3421eInit fun _ => safe_exec_usbInit

theorem safe_useDevice :
    Safe (ReadyFor .useDevice) useDevice fun _ => ReadyFor .max3421eTask := by
  refine Safe.read_bind fun m hm => ?_
  obtain ⟨hlisted, hflagged⟩ := hm
  split
  · next hrun =>
    split
    · exact safe_meetDevice hlisted hrun
    · next hflag =>
      have hpolls := (hflagged hflag).2 hrun
      split
      · next hdevice => exact safe_pollKeyboard hlisted hrun (hpolls (.inl hdevice)) hpolls
      split
      · next hdevice => exact safe_pollMouse hlisted hrun (hpolls (.inr hdevice)) hpolls
      · exact Safe.pure fun v hv => hv ▸ ⟨hlisted, fun _ => ⟨hrun, hpolls⟩⟩
  split
  · next herror =>
    refine Safe.update fun v hv => ?_
    rw [hv]
    exact ⟨hlisted, fun hflag => absurd herror (hflagged hflag).1⟩
  · refine Safe.bind (Q := fun _ m => Enlisted nextAddressing m.toHost ∧ m.runningdebugflag = 0)
      ?_ fun _ => Safe.update fun v hv => ⟨hv.1, fun hne => absurd hv.2 hne⟩
    unfold onlyIf
    split
    · exact safe_startOver hlisted
    · next hflag => exact Safe.pure fun v hv => hv ▸ ⟨hlisted, not_not.1 hflag⟩

theorem safe_exec (c : Call) : Safe (ReadyFor c) (Main.exec c) fun _ => ReadyFor c.next := by
  cases c with
  | max3421eInit => exact safe_exec_max3421eInit.mono (fun _ h => ⟨h.1, h.2.2⟩) fun _ _ => id
  | usbInit => exact safe_exec_usbInit.mono (fun _ => id) fun _ _ h =>
      ⟨h.1, fun hne => absurd h.2 hne⟩
  | max3421eTask => exact safe_exec_max3421eTask
  | usbTask => exact safe_exec_usbTask
  | useDevice => exact safe_useDevice

end Exec

/-- Whatever call comes next can be made. -/
def ReadyToCall (m : Main) : Prop := ∀ c, m.call = some c → ReadyFor c m

theorem readyToCall_powerUp (buf kbdbuf : List Byte) (device : Byte) :
    ReadyToCall (Main.powerUp buf kbdbuf device) := by
  rintro c ⟨⟩
  have hbefore : BeforeAddress usbDetachedSubstateInitialize := by decide
  exact ⟨Nat.succ_pos 7, hbefore, rfl⟩

theorem readyToCall_step {m : Main} (answers : List Dword) (h : ReadyToCall m) :
    ReadyToCall (m.step answers) := by
  cases hcall : m.call with
  | none =>
    rw [Main.step_of_none hcall]
    exact h
  | some c =>
    rw [Main.step_of_some hcall]
    rcases hrun : Main.exec c ⟨answers, m⟩ with ⟨a, v⟩ | ⟨e, v⟩
    · rw [final_ok hrun, returned, hrun]
      rintro c' ⟨⟩
      exact readyFor_call ((safe_exec c ⟨answers, m⟩ (h c hcall)).1 a v hrun)
    · rw [final_error hrun, returned, hrun]
      rintro c' ⟨⟩

/-- **No call faults**: as far as no transfer stores past its destination, whatever the controller
and the device answer, no call of `main` follows an `epinfo` that is `NULL` or asks it for an
endpoint that it does not have; and `bigbuf`, which lies before the table, keeps to its 256 bytes. -/
theorem never_faults (buf kbdbuf : List Byte) (device : Byte) (run : List (List Dword))
    (answers : List Dword)
    (hin : (EventMachine.run Main.step (Main.powerUp buf kbdbuf device)
      (run ++ [answers])).InBounds) :
    ((EventMachine.run Main.step (Main.powerUp buf kbdbuf device) run).call.bind fun c =>
        stopped (Main.exec c) ⟨answers, EventMachine.run Main.step
          (Main.powerUp buf kbdbuf device) run⟩) ≠ some .fault ∧
      (EventMachine.run Main.step (Main.powerUp buf kbdbuf device)
        (run ++ [answers])).bigbuf.length = 256 := by
  refine ⟨?_, (Main.bounded_run _ _).bigbuf hin List.length_replicate⟩
  have hready := EventMachine.run_invariant (fun m as => readyToCall_step (m := m) as)
    (readyToCall_powerUp buf kbdbuf device) run
  generalize EventMachine.run Main.step (Main.powerUp buf kbdbuf device) run = m at hready ⊢
  cases hcall : m.call with
  | none => simp
  | some c =>
    have hfault := (safe_exec c ⟨answers, m⟩ (hready c hcall)).2
    rw [Option.bind_some, stopped]
    rcases hrun : Main.exec c ⟨answers, m⟩ with ⟨a, v⟩ | ⟨e, v⟩
    · simp
    · rintro ⟨⟩
      exact hfault v hrun

/-- A device is attached and given an address, and is probed next. -/
theorem never_faults_attached :
    ((EventMachine.run Main.step (Main.powerUp [] [] 0) attached).call.bind fun c =>
        stopped (Main.exec c) ⟨[1, 0], EventMachine.run Main.step (Main.powerUp [] [] 0) attached⟩) ≠
        some .fault ∧
      (EventMachine.run Main.step (Main.powerUp [] [] 0) (attached ++ [[1, 0]])).bigbuf.length =
        256 :=
  never_faults [] [] 0 attached [1, 0] (by decide +kernel)

end Bosconian.Usb
