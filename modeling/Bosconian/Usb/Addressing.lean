import Bosconian.EventMachine
import Bosconian.Usb.Slots

/-!
# One device, one slot

As long as no device is given an address while slot 1 is taken, a device that has an address has
slot 1, and no other slot is taken: the address `main` asks for the idle rate is the one that was
given. But a device that comes back is given its next address without a pass through `USB_init`,
and then it is not.

Each call is taken through its outcomes, the one that returns and those that stop for want of an
answer: `triple_exec` has what every call relies on and what it leaves, and `one_slot_of_free`
follows along a run.
-/

namespace Bosconian.Usb

open Scripted EventMachine

/-! ## Setting up -/

theorem liftM_driver {α : Type} (m : Driver α) :
    (liftM m : Task α) = zoom Host.toTables (fun t u => { u with toTables := t }) m := rfl

/-- `USB_init` frees the slots, and no device has an address then. -/
theorem triple_usbInit {C : Host → Prop} :
    Triple (fun u => BeforeAddress u.usbTaskState) (liftM usbInit : Task Unit)
      (fun _ u => Fresh u ∧ BeforeAddress u.usbTaskState) C := by
  have hinit : Triple (fun _ => True) usbInit (fun _ t => t.takenSlots = [] ∧ t.Taken 0)
      fun _ => False := by
    refine Triple.update fun t _ => ⟨rfl, fun hnull => ?_⟩
    cases hnull
  rw [liftM_driver]
  refine hinit.zoom (fun _ _ => trivial) ?_ fun _ _ _ hno => hno.elim
  rintro - t u hstate ⟨htaken, hdev0⟩
  have hno := hstate.noAddress
  refine ⟨⟨⟨⟨.inl htaken, fun haddr => absurd haddr hno.1, fun hgroup => .inl (hno.2 hgroup)⟩,
    hdev0⟩, fun hnext => ?_⟩, hstate⟩
  exact absurd (hnext ▸ hstate) (by decide)

theorem triple_setTaskState {P C : Host → Prop} {new : Byte} (hnew : BeforeAddress new) :
    Triple P (setTaskState new) (fun _ u => BeforeAddress u.usbTaskState) C :=
  Triple.update fun _ _ => hnew

theorem triple_startHost (jStatus : Bool) :
    Triple (fun _ => True) (startHost jStatus) (fun _ u => BeforeAddress u.usbTaskState)
      fun _ => True := by
  refine Triple.read_bind fun u _ => ?_
  split
  · exact Triple.skip fun _ => Triple.skip fun _ => triple_setTaskState (by decide)
  · next hwait =>
    refine Triple.pure fun v hv => ?_
    rw [hv, not_not.1 hwait]
    decide

/-- Whatever the bus shows, the probe ends before an address is given. -/
theorem triple_maxBusprobe :
    Triple (fun _ => True) maxBusprobe (fun _ u => BeforeAddress u.usbTaskState)
      fun _ => True := by
  refine Triple.skip fun hrsl => ?_
  show Triple _ (busprobeSwitch (hrsl &&& (bmJSTATUS ||| bmKSTATUS))) _ _
  unfold busprobeSwitch
  split
  · exact triple_startHost true
  split
  · exact triple_startHost false
  split
  · exact triple_setTaskState (by decide)
  · refine Triple.skip fun u => ?_
    split
    · exact triple_setTaskState (by decide)
    · exact Triple.skip fun _ => triple_setTaskState (by decide)

theorem triple_max3421eInit :
    Triple (fun _ => True) max3421eInit (fun _ u => BeforeAddress u.usbTaskState)
      fun _ => True := by
  have hkeeps (e : Access) :
      Keeps (fun u => BeforeAddress u.usbTaskState) (liftM (emit e) : Task Unit) := by
    apply Keeps.zoom
    intro t u h
    exact h
  refine Triple.skip fun _ => Triple.skip fun _ => Triple.skip fun _ =>
    Triple.skip fun _ => Triple.skip fun _ => Triple.skip fun _ =>
    Triple.bind triple_maxBusprobe fun _ => ?_
  exact Keeps.triple (Moves.bind (hkeeps _) fun _ => hkeeps _) fun _ _ => trivial

/-! ## `MAX3421E_Task` -/

/-- A bus event takes no device to a state with an address: the one state that it follows has not
had its turn. -/
theorem Fresh.advance {u : Host} (h : Fresh u) : Booted (u.setTaskState (u.usbTaskState + 1)) := by
  have hbyte : ∀ s : Byte, (HasAddress (s + 1) →
      HasAddress s ∨ s &&& usbStateMask = usbStateAddressing ∧ s ≠ usbStateAddressing) ∧
      (s + 1 &&& usbStateMask = usbStateAddressing →
        s + 1 = usbStateAddressing ∨ s &&& usbStateMask = usbStateAddressing) := by decide
  obtain ⟨haddr, hgroup⟩ := hbyte u.usbTaskState
  have haddressing : u.usbTaskState &&& usbStateMask = usbStateAddressing →
      u.usbTaskState = usbStateAddressing := by
    intro hs
    exact (h.addressing hs).resolve_right h.not_next
  refine ⟨⟨h.slots, fun hs => ?_, fun hs => ?_⟩, h.dev0⟩
  · rcases haddr hs with hs | ⟨hs, hne⟩
    · exact h.address hs
    · exact absurd (haddressing hs) hne
  · refine (hgroup hs).imp id fun hs => ?_
    show u.usbTaskState + 1 = _
    rw [haddressing hs]

theorem triple_serviceIrq (hirq : Byte) :
    Triple Fresh (serviceIrq hirq) (fun _ => Booted) Booted := by
  have hprobe := allowsProbe_retreats.controller.busprobe
  refine Triple.bind (Retreats.fresh (Moves.onlyIf fun _ => hprobe)) fun _ => ?_
  refine Triple.bind (Retreats.fresh (Moves.onlyIf fun _ => Retreats.emit _)) fun _ => ?_
  refine Triple.bind (Triple.onlyIf (fun _ => ?_) fun _ h => h.toBooted) fun _ =>
    Retreats.booted (Retreats.emit _)
  refine Triple.read_bind fun u hu => Triple.update ?_
  rintro v rfl
  exact hu.advance

theorem triple_max3421eTask : Triple Fresh max3421eTask (fun _ => Booted) Booted := by
  have hcontroller := allowsProbe_retreats.controller
  refine Triple.bind (Retreats.fresh (hcontroller.pioRd .usbIrq)) fun irq => ?_
  refine Triple.bind (Triple.onlyIf (fun _ => ?_) fun _ h => h.toBooted) fun _ =>
    Retreats.booted hcontroller.serviceGpx
  exact Triple.bind (Retreats.fresh (Retreats.maxRegRd _)) fun _ => triple_serviceIrq _

/-! ## The probes -/

/-- Slot 1 is taken, and but for slot 0 it is the only one. -/
structure OnlyFirst (t : Tables) : Prop where
  dev0 : t.Taken 0
  taken : t.takenSlots = [1]

theorem OnlyFirst.first {t : Tables} (h : OnlyFirst t) : t.Taken 1 := by
  have hmem : 1 ∈ t.takenSlots := by simp [h.taken]
  simpa using (List.mem_filter.1 hmem).2

theorem keeps_onlyFirst {α : Type} {m : Driver α} (hm : Preserves Tables.devtable m) :
    Keeps OnlyFirst m :=
  hm.keeps fun _ _ heq h => ⟨(taken_congr heq 0).1 h.dev0, takenSlots_congr heq ▸ h.taken⟩

/-- The slot of the device that is probed stays taken. -/
theorem keeps_setDevRecord {g : DevRecord → DevRecord}
    (hg : ∀ d, d.epinfo ≠ .null → (g d).epinfo ≠ .null) :
    Keeps OnlyFirst (setDevRecord mainAddr g) := by
  have hlt : 1 < usbNumdevices + 1 := by decide
  refine Moves.bind Moves.read fun _ => ?_
  rw [dif_pos (show mainAddr.toNat < usbNumdevices + 1 from hlt)]
  refine Keeps.update fun t h => ?_
  have hfirst := h.first
  have hd : (g t.devtable[1]).epinfo ≠ .null := by
    refine hg _ fun hnull => hfirst ?_
    rw [Vector.getElem?_eq_getElem hlt, Option.map_some, hnull]
  show OnlyFirst (t.setDev 1 hlt (g t.devtable[1]))
  exact ⟨(taken_setDev hd 0).2 (.inr h.dev0), (takenSlots_setDev_of_taken hd hfirst).trans h.taken⟩

theorem keeps_claimInterface (devclass : Byte) (p : Nat) :
    Keeps OnlyFirst (claimInterface mainAddr devclass p) := by
  have htables {f : Tables → Tables} (hf : ∀ t, (f t).devtable = t.devtable) :
      Keeps OnlyFirst (update f : Driver Unit) := keeps_onlyFirst (Preserves.update hf)
  refine Moves.bind (keeps_setDevRecord fun _ => id) fun _ => ?_
  refine Moves.bind (keeps_onlyFirst (preserves_epRecord _ 0)) fun r => ?_
  refine Moves.bind (htables fun _ => rfl) fun _ => ?_
  refine Moves.bind (keeps_setDevRecord fun _ _ => nofun) fun _ => ?_
  refine Moves.bind (keeps_onlyFirst ((endpoint_devtable _ 0).setEpRecord _)) fun _ => ?_
  refine Moves.bind (keeps_onlyFirst (preserves_bigbufRd transferFree_devtable _)) fun _ => ?_
  exact htables fun _ => rfl

/-- Whatever the probes find, slot 1 stays the one that is taken. -/
theorem clients_onlyFirst : AllowsClients mainAddr fun _ m => Keeps OnlyFirst m where
  toSequential := Moves.sequential
  ask := keeps_onlyFirst Preserves.ask
  askN n := keeps_onlyFirst (Preserves.askN n)
  emit e _ := keeps_onlyFirst (preserves_emit transferFree_devtable e)
  request bRequest wValLo wValHi wInd nbytes _ hdir := keeps_onlyFirst
    ((endpoint_devtable mainAddr 1).request bRequest wValLo wValHi wInd nbytes hdir)
  setEpRecord g := keeps_onlyFirst ((endpoint_devtable mainAddr 1).setEpRecord g)
  claimInterface := keeps_claimInterface
  confDescr nbytes := keeps_onlyFirst
    (preserves_confDescrToBigbuf transferFree_devtable (fun _ _ => rfl) mainAddr nbytes)

/-! ## `USB_Task` -/

theorem triple_taskError (rcode : Byte) :
    Triple Booted (taskError rcode) (fun _ => Fresh) Booted := by
  refine Triple.bind (Retreats.booted (Moves.update_along fun _ => ⟨rfl, rfl, .inl rfl⟩))
    fun _ => Triple.update fun u h => ?_
  have hno : NoAddress usbStateError := by decide
  have hgroup : usbStateError &&& usbStateMask ≠ usbStateAddressing := by decide
  have hbooted : Booted (u.setTaskState usbStateError) := h.retreat ⟨rfl, rfl, .inr hno⟩
  exact hbooted.fresh hgroup

theorem triple_taskDetached (state : Byte) :
    Triple (fun u => Fresh u ∧ BeforeAddress u.usbTaskState) (taskDetached state)
      (fun _ => Fresh) Booted := by
  unfold taskDetached
  split
  · refine Triple.bind (triple_usbInit.mono (fun _ h => h.2) (fun _ _ h => h.1) fun _ => id)
      fun _ => Retreats.fresh (Retreats.setTaskState (by decide))
  split
  · exact (Retreats.fresh (Retreats.emit _)).pre fun _ h => h.1
  · exact Triple.pure fun _ h => h.1

theorem setDevRecord_mainAddr (g : DevRecord → DevRecord) :
    setDevRecord mainAddr g = update fun t => t.setDev 1 (by decide) (g t.devtable[1]) := rfl

/-- The device that is given slot 1 while it is free is the only one. -/
theorem triple_takeFirst {u : Host} (h : Booted u) (hfree : u.takenSlots = [])
    (hno : ¬ HasAddress u.usbTaskState) {g : DevRecord → DevRecord}
    (hg : ∀ d, (g d).epinfo ≠ .null) {C : Host → Prop} :
    Triple (fun v => v = u) (liftM (setDevRecord mainAddr g) : Task Unit)
      (fun _ v => Booted v ∧ v.takenSlots = [1]) C := by
  have hset : Triple (fun t => t = u.toTables) (setDevRecord mainAddr g)
      (fun _ t => t.Taken 0 ∧ t.takenSlots = [1]) fun _ => False := by
    rw [setDevRecord_mainAddr]
    refine Triple.update ?_
    rintro t rfl
    exact ⟨(taken_setDev (hg _) 0).2 (.inr h.dev0), takenSlots_setDev_one (hg _) hfree⟩
  rw [liftM_driver]
  refine hset.zoom (fun v hv => by rw [hv]) ?_ fun _ _ _ hno => hno.elim
  rintro - t v rfl ⟨hdev0, htaken⟩
  exact ⟨⟨⟨.inr htaken, fun haddr => absurd haddr hno, h.addressing⟩, hdev0⟩, htaken⟩

/-- With slot 1 taken and its number known, a device may have an address. -/
theorem Fresh.assigned {u : Host} (hdev0 : u.Taken 0)
    (h : u.takenSlots = [1] ∧ u.tmpAddr = mainAddr) {new : Byte} (hnew : HasAddress new) :
    Fresh (u.setTaskState new) := by
  have hbyte : ∀ s, HasAddress s → s &&& usbStateMask ≠ usbStateAddressing := by decide
  have hbooted : Booted (u.setTaskState new) :=
    ⟨⟨.inr h.1, fun _ => h, fun hgroup => absurd hgroup (hbyte new hnew)⟩, hdev0⟩
  exact hbooted.fresh (hbyte new hnew)

theorem triple_assignAddress :
    Triple (fun u => Booted u ∧ 1 ∉ u.takenSlots ∧
        u.usbTaskState &&& usbStateMask = usbStateAddressing)
      assignAddress (fun _ => Fresh) Booted := by
  refine Triple.read_bind fun u hu => ?_
  obtain ⟨hbooted, hfree, hgroup⟩ := hu
  have hempty : u.takenSlots = [] := hbooted.slots.resolve_right fun h => hfree (by simp [h])
  have hdev0 : u.devtable[0].epinfo ≠ .null := by
    refine fun hnull => hbooted.dev0 ?_
    rw [Vector.getElem?_eq_getElem (by decide), Option.map_some, hnull]
  have hno : ¬ HasAddress u.usbTaskState := by
    rcases hbooted.addressing hgroup with hs | hs <;> rw [hs] <;> decide
  rw [freeSlot_of_not_taken hfree]
  refine Triple.read_bind fun v hv => ?_
  obtain rfl : v = u := hv
  have htake {C : Host → Prop} := triple_takeFirst hbooted hempty hno
    (g := fun d => { d with epinfo := v.devtable[0].epinfo }) (fun _ => hdev0) (C := C)
  have hkeeps : Keeps (fun u => Booted u ∧ u.takenSlots = [1])
      (liftM (xferSetAddr 0 0 mainAddr) : Task Byte) := by
    refine Moves.keeps (Retreats.driver (preserves_xferSetAddr transferFree_devtable _ _ _)) ?_
    exact fun u v hr h => ⟨h.1.retreat hr, (takenSlots_congr hr.devtable).symm.trans h.2⟩
  refine Triple.bind htake fun _ => Triple.bind (hkeeps.triple fun _ h => h.1) fun rcode => ?_
  split
  · refine Triple.bind (Q := fun _ u => u.Taken 0 ∧ u.takenSlots = [1] ∧ u.tmpAddr = mainAddr)
      (Triple.update fun u h => ⟨h.1.dev0, h.2, rfl⟩) fun _ => Triple.update fun u h => ?_
    exact Fresh.assigned h.1 h.2 (by decide)
  · exact (triple_taskError rcode).pre fun _ h => h.1

theorem triple_taskAddressing :
    Triple (fun u => Booted u ∧ 1 ∉ u.takenSlots ∧
        u.usbTaskState &&& usbStateMask = usbStateAddressing)
      taskAddressing (fun _ => Fresh) Booted := by
  refine Triple.bind triple_assignAddress fun _ => Triple.read_bind fun u hu => ?_
  split
  · exact (triple_taskError 0xfe).pre fun v hv => hv ▸ hu.toBooted
  · exact Triple.pure fun v hv => hv ▸ hu

/-- The probes leave the device its address. -/
theorem triple_taskConfiguring :
    Triple (fun u => Fresh u ∧ HasAddress u.usbTaskState) taskConfiguring (fun _ => Fresh)
      Booted := by
  refine Triple.read_bind fun u hu => ?_
  obtain ⟨hfresh, haddr⟩ := hu
  obtain ⟨htaken, htmp⟩ := hfresh.address haddr
  rw [htmp]
  have hprobes : Triple (fun v => v = u) (liftM (runProbes mainAddr clientDriverTable) : Task Bool)
      (fun _ v => Fresh v ∧ v.takenSlots = [1] ∧ v.tmpAddr = mainAddr) Booted := by
    have hkept : Triple OnlyFirst (runProbes mainAddr clientDriverTable) (fun _ => OnlyFirst)
        OnlyFirst := Keeps.triple clients_onlyFirst.clientDrivers fun _ => id
    have hput : ∀ t, OnlyFirst t → Fresh { u with toTables := t } := fun t ht =>
      ⟨⟨⟨.inr ht.taken, fun _ => ⟨ht.taken, htmp⟩, hfresh.addressing⟩, ht.dev0⟩, hfresh.not_next⟩
    rw [liftM_driver]
    refine hkept.zoom (fun v hv => by rw [hv]; exact ⟨hfresh.dev0, htaken⟩) ?_ ?_
    · rintro found t v rfl ht
      exact ⟨hput t ht, ht.taken, htmp⟩
    · rintro t v rfl ht
      exact (hput t ht).toBooted
  refine Triple.bind hprobes fun found => Triple.bind (Q := fun _ => Fresh)
    (Triple.onlyIf (fun _ => Triple.update fun v hv => ?_) fun _ h => h.1) fun _ =>
    Triple.read_bind fun v hv => ?_
  · exact Fresh.assigned hv.1.dev0 hv.2 (by decide)
  · split
    · exact (triple_taskError 0xfd).pre fun w hw => hw ▸ hv.toBooted
    · exact Triple.pure fun w hw => hw ▸ hv

/-- What a call of `USB_Task` leaves when it finds slot 1 free where it gives an address. -/
theorem triple_usbTask :
    Triple (fun u => Booted u ∧
        (u.usbTaskState &&& usbStateMask = usbStateAddressing → 1 ∉ u.takenSlots))
      usbTask (fun _ => Fresh) Booted := by
  refine Triple.read_bind fun u hu => ?_
  obtain ⟨hbooted, hfree⟩ := hu
  have hgroup {group : Byte} (h : u.usbTaskState &&& usbStateMask = group)
      (hne : group ≠ usbStateAddressing) : Fresh u := hbooted.fresh (h ▸ hne)
  show Triple _ (if _ then _ else _) _ _
  split
  · next h =>
    exact (triple_taskDetached _).pre fun v hv => hv ▸ ⟨hgroup h (by decide), .inl h⟩
  split
  · next h =>
    exact (Retreats.fresh (allowsProbe_retreats.taskAttached _)).pre
      fun v hv => hv ▸ hgroup h (by decide)
  split
  · next h =>
    exact triple_taskAddressing.pre fun v hv => hv ▸ ⟨hbooted, hfree h, h⟩
  split
  · next h =>
    exact triple_taskConfiguring.pre fun v hv => hv ▸ ⟨hgroup h (by decide), .inl h⟩
  · next hne _ =>
    exact Triple.pure fun v hv => hv ▸ hbooted.fresh hne

/-! ## `main` -/

theorem triple_main {α : Type} {m : Task α} {P C : Host → Prop} {Q : α → Host → Prop}
    (hm : Triple P m Q C) :
    Triple (fun m => P m.toHost) (liftM m : MainProg α) (fun a m => Q a m.toHost)
      fun m => C m.toHost := by
  show Triple _ (zoom Main.toHost (fun u m => { m with toHost := u }) m) _ _
  exact hm.zoom (fun _ => id) (fun _ _ _ _ => id) fun _ _ _ => id

/-- The device is used with the slots as they are. -/
theorem Retreats.main {α : Type} {m : Driver α} (hm : Preserves Tables.devtable m) :
    Moves (along Main.toHost Retreats) (liftM (liftM m : Task α) : MainProg α) := by
  show Moves (along Main.toHost Retreats)
    (zoom Main.toHost (fun u m => { m with toHost := u }) (liftM m : Task α))
  exact Moves.zoom (Retreats.driver hm) fun _ _ => id

theorem Retreats.locals {f : Main → Main} (hf : ∀ m, (f m).toHost = m.toHost) :
    Moves (along Main.toHost Retreats) (update f : MainProg Unit) := by
  refine Moves.update_along fun m => ?_
  rw [hf]
  exact refl_of Retreats _

theorem Retreats.fresh_main {α : Type} {m : MainProg α}
    (hm : Moves (along Main.toHost Retreats) m) :
    Triple (fun m => Fresh m.toHost) m (fun _ m => Fresh m.toHost) fun m => Booted m.toHost :=
  Keeps.triple (hm.keeps fun _ _ hr h => h.retreat hr) fun _ h => h.toBooted

theorem allowsUse_fresh : AllowsUse fun _ m =>
    Triple (fun m => Fresh m.toHost) m (fun _ m => Fresh m.toHost) fun m => Booted m.toHost where
  toSequential := Triple.sequential fun _ h => h.toBooted
  report := Retreats.fresh_main
    (Retreats.main (transferFree_devtable.requests mainAddr).getDriverandReport)
  poll buf := Retreats.fresh_main (Retreats.main (preserves_bootPoll transferFree_devtable buf))
  port val := Retreats.fresh_main
    (Retreats.main (preserves_emit transferFree_devtable (.pioWr .keycode val)))
  locals hf := Retreats.fresh_main (Retreats.locals hf)

/-- Starting over frees the slots only when the controller has been set up, and then no device has
an address. -/
theorem triple_startOver :
    Triple (fun m => Fresh m.toHost) startOver (fun _ m => Fresh m.toHost)
      fun m => Booted m.toHost := by
  have hinit : Triple Fresh max3421eInit (fun _ u => BeforeAddress u.usbTaskState) Booted :=
    ((Retreats.fresh allowsProbe_retreats.controller.max3421eInit).and triple_max3421eInit).mono
      (fun _ h => ⟨h, trivial⟩) (fun _ _ h => h.2) fun _ h => h.1
  refine Triple.bind (Retreats.fresh_main (Retreats.locals fun _ => rfl)) fun _ =>
    Triple.bind (triple_main hinit) fun _ => ?_
  exact (triple_main triple_usbInit).mono (fun _ => id) (fun _ _ h => h.1) fun _ => id

theorem triple_useDevice :
    Triple (fun m => Fresh m.toHost) useDevice (fun _ m => Fresh m.toHost)
      fun m => Booted m.toHost := allowsUse_fresh.useDevice triple_startOver

/-- What a call may rely on. -/
def Ready : Call → Host → Prop
  | .max3421eInit, u => Slotted u ∧ BeforeAddress u.usbTaskState
  | .usbInit, u => Slotted u ∧ BeforeAddress u.usbTaskState
  | .max3421eTask, u => Fresh u
  | .usbTask, u => Booted u
  | .useDevice, u => Fresh u

theorem Ready.slotted {c : Call} {u : Host} (h : Ready c u) : Slotted u := by
  cases c with
  | max3421eInit => exact h.1
  | usbInit => exact h.1
  | max3421eTask => exact h.toSlotted
  | usbTask => exact h.toSlotted
  | useDevice => exact h.toSlotted

/-- A call of `USB_Task` that is to give an address finds slot 1 free. -/
def SlotFree (m : Main) : Prop :=
  m.call = some .usbTask → m.usbTaskState &&& usbStateMask = usbStateAddressing →
    1 ∉ m.takenSlots

instance (m : Main) : Decidable (SlotFree m) := by
  unfold SlotFree; infer_instance

theorem triple_exec (c : Call) :
    Triple (fun m => Ready c m.toHost ∧ (c = .usbTask →
        m.usbTaskState &&& usbStateMask = usbStateAddressing → 1 ∉ m.takenSlots))
      (Main.exec c) (fun _ m => Ready c.next m.toHost) fun m => Slotted m.toHost := by
  cases c with
  | max3421eInit =>
    have hslots : Triple Slotted max3421eInit (fun _ => Slotted) Slotted :=
      Keeps.triple (Retreats.slotted allowsProbe_retreats.controller.max3421eInit) fun _ => id
    exact (triple_main (hslots.and triple_max3421eInit)).mono (fun _ h => ⟨h.1.1, trivial⟩)
      (fun _ _ => id) fun _ h => h.1
  | usbInit =>
    exact (triple_main triple_usbInit).mono (fun _ h => h.1.2) (fun _ _ h => h.1) fun _ => id
  | max3421eTask =>
    exact (triple_main triple_max3421eTask).mono (fun _ h => h.1) (fun _ _ => id)
      fun _ h => h.toSlotted
  | usbTask =>
    exact (triple_main triple_usbTask).mono (fun _ h => ⟨h.1, h.2 rfl⟩) (fun _ _ => id)
      fun _ h => h.toSlotted
  | useDevice =>
    exact triple_useDevice.mono (fun _ h => h.1) (fun _ _ => id) fun _ h => h.toSlotted

structure SlotsReady (m : Main) : Prop where
  slotted : Slotted m.toHost
  ready : ∀ c, m.call = some c → Ready c m.toHost

theorem SlotsReady.step {m : Main} (h : SlotsReady m) (hfree : SlotFree m)
    (answers : List Dword) : SlotsReady (m.step answers) := by
  rcases hcall : m.call with _ | c
  · rw [Main.step_of_none hcall]
    exact h
  · obtain ⟨hok, herror⟩ := triple_exec c ⟨answers, m⟩
      ⟨h.ready c hcall, fun hc => hfree (hc ▸ hcall)⟩
    rw [Main.step_of_some hcall]
    rcases hrun : Main.exec c ⟨answers, m⟩ with ⟨a, v⟩ | ⟨e, v⟩
    · rw [final_ok hrun, returned, hrun]
      have hready := hok a v hrun
      refine ⟨hready.slotted, ?_⟩
      rintro c' ⟨⟩
      exact hready
    · rw [final_error hrun, returned, hrun]
      refine ⟨herror e v hrun, ?_⟩
      rintro c' ⟨⟩

theorem slotsReady_powerUp (buf kbdbuf : List Byte) (device : Byte) :
    SlotsReady (Main.powerUp buf kbdbuf device) := by
  have hstate : BeforeAddress usbDetachedSubstateInitialize := by decide
  have hno := hstate.noAddress
  have hslotted : Slotted Host.powerUp :=
    ⟨.inl (by decide), fun haddr => absurd haddr hno.1, fun hgroup => .inl (hno.2 hgroup)⟩
  refine ⟨hslotted, ?_⟩
  rintro c ⟨⟩
  exact ⟨hslotted, hstate⟩

theorem Slotted.oneSlot {u : Host} (h : Slotted u)
    (hstate : u.usbTaskState = usbStateConfiguring ∨ u.usbTaskState = usbStateRunning) :
    OneSlot u := by
  have haddr : HasAddress u.usbTaskState := by
    rcases hstate with hs | hs <;> rw [hs] <;> decide
  obtain ⟨htaken, htmp⟩ := h.address haddr
  exact ⟨by rw [htaken, htmp]; rfl, htmp⟩

/-- **One attached device occupies one address slot** in every run in which `USB_Task` gives an
address only while slot 1 is free: whenever a device is configured or runs, it has slot 1, and no
other slot is taken. -/
theorem one_slot_of_free (buf kbdbuf : List Byte) (device : Byte) (run : List (List Dword))
    (h : EachStep Main.step (fun m _ => SlotFree m) (Main.powerUp buf kbdbuf device) run) :
    Always Main.step
      (fun m => m.usbTaskState = usbStateConfiguring ∨ m.usbTaskState = usbStateRunning →
        OneSlot m.toHost)
      (Main.powerUp buf kbdbuf device) run :=
  h.always (fun _ answers hm hfree => hm.step hfree answers) (fun _ hm => hm.slotted.oneSlot)
    (slotsReady_powerUp buf kbdbuf device)

/-! ## A device that comes back -/

/-- A round of `main` without an interrupt: the answers are those to `USB_Task`. -/
def quietRound (answers : List Dword) : List (List Dword) := [[1, 0], answers, []]

/-- A device descriptor of a keyboard with packets of 64 bytes. -/
def deviceDescriptor : List Dword :=
  [18, 1, 0x10, 1, 0, 0, 0, 64, 0x5e, 0x04, 0x01, 0, 0, 1, 0, 0, 0, 1]

/-- The answers to `USB_Task` from `USB_STATE_ATTACHED` to `USB_STATE_CONFIGURING`. -/
def enumeration : List (List Dword) :=
  [[0], [1000], [], [0, 0], [0x40],
    List.replicate 18 0 ++ acknowledged ++ lastPacket (deviceDescriptor.take 8) ++ acknowledged ++
      acknowledged ++ lastPacket deviceDescriptor ++ acknowledged,
    acknowledged ++ acknowledged]

/-- A device is there when the controller is set up, and is given an address. -/
def attached : List (List Dword) := [[0x01, 0x80, 0], []] ++ enumeration.flatMap quietRound

/-- Then the connection changes and the idle line of a device is sampled at once. -/
def reattached : List (List Dword) :=
  attached ++ [[0, 0x20, 0x80, 0, 0]] ++ (enumeration.flatMap quietRound).tail

theorem one_slot_attached :
    Always Main.step
      (fun m => m.usbTaskState = usbStateConfiguring ∨ m.usbTaskState = usbStateRunning →
        OneSlot m.toHost)
      (Main.powerUp [] [] 0) attached :=
  one_slot_of_free [] [] 0 attached (by decide +kernel)

/-- The device that comes back is given slot 2, and slot 1 stays taken. -/
theorem two_slots_reattached :
    ¬ Always Main.step
      (fun m => m.usbTaskState = usbStateConfiguring ∨ m.usbTaskState = usbStateRunning →
        OneSlot m.toHost)
      (Main.powerUp [] [] 0) reattached := by
  intro h
  have hstate : (run Main.step (Main.powerUp [] [] 0) reattached).usbTaskState =
      usbStateConfiguring := by decide +kernel
  have htaken : (run Main.step (Main.powerUp [] [] 0) reattached).takenSlots = [1, 2] := by
    decide +kernel
  have hone := (h reattached List.prefix_rfl (.inl hstate)).taken
  rw [htaken] at hone
  have hlength : 2 = 1 := congrArg List.length hone
  omega

end Bosconian.Usb
