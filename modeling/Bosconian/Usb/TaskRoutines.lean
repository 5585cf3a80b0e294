import Bosconian.Usb.Routines

/-!
# What the tasks are made of

What goes through the driver goes through the two tasks that call it, if it has nothing to say of
the globals that the tasks keep beside the tables. Here the routines of the tasks are walked
through for such properties, as those of the driver are.

* `AllowsController`, `AllowsBusprobe` — the set-up of the controller, its task, and the probe.
* `AllowsProbe` — the states of an attached device, which end in another state or in an error.
* `AllowsUnattached` — the states without a device, and those in which it is configured.
* `AllowsHost` — the two tasks, for a property that the driver has.
* `AllowsUse` — what `main` does with the device.
-/

namespace Bosconian.Usb

open Scripted

/-! ## The controller -/

theorem liftM_maxGpxHandler : (liftM maxGpxHandler : Task Unit) = (do
    let _ ← (liftM (maxRegRd rGPINIRQ) : Task Byte)) := by
  funext w
  obtain ⟨_ | ⟨val, script⟩, u⟩ := w
  · rfl
  · rfl

/-- What the set-up of the controller and `MAX3421E_Task` are made of. -/
structure AllowsController (T : (α : Type) → Task α → Prop) : Prop extends Sequential T where
  regWr : ∀ reg val, reg ≠ rPERADDR ∧ reg ≠ rHXFR → T Unit (liftM (maxRegWr reg val))
  regRd : ∀ reg, T Byte (liftM (maxRegRd reg))
  pioRd : ∀ port, T Dword (liftM (pioRd port))
  reset : T Unit (liftM max3421eReset)
  busprobe : T Unit maxBusprobe

namespace AllowsController

variable {T : (α : Type) → Task α → Prop} (hT : AllowsController T)
include hT

theorem max3421eInit : T Unit max3421eInit := by
  refine hT.bind (hT.regWr _ _ (by decide)) fun _ => ?_
  refine hT.bind hT.reset fun _ => ?_
  refine hT.bind (hT.regWr _ _ (by decide)) fun _ => ?_
  refine hT.bind (hT.regWr _ _ (by decide)) fun _ => ?_
  refine hT.bind (hT.regWr _ _ (by decide)) fun _ => ?_
  refine hT.bind (hT.regWr _ _ (by decide)) fun _ => ?_
  refine hT.bind hT.busprobe fun _ => ?_
  exact hT.bind (hT.regWr _ _ (by decide)) fun _ => hT.regWr _ _ (by decide)

/-- A bus event advances the state if one is flagged. -/
theorem serviceIrq {hirq : Byte} (h : hirq &&& bmBUSEVENTIRQ ≠ 0 → T Unit advanceTaskState) :
    T Unit (serviceIrq hirq) := by
  refine hT.bind (hT.onlyIf fun _ => hT.busprobe) fun _ => ?_
  refine hT.bind (hT.onlyIf fun _ => hT.regWr _ _ (by decide)) fun _ => ?_
  exact hT.bind (hT.onlyIf h) fun _ => hT.regWr _ _ (by decide)

theorem serviceGpx :
    T Unit (do if (← Usb.pioRd .usbGpx) = 1 then maxGpxHandler) := by
  refine hT.bind (hT.pioRd .usbGpx) fun gpx => ?_
  split
  · rw [liftM_maxGpxHandler]
    exact hT.bind (hT.regRd rGPINIRQ) fun _ => hT.pure ()
  · exact hT.pure ()

theorem max3421eTask (h : T Unit advanceTaskState) : T Unit max3421eTask := by
  refine hT.bind (hT.pioRd .usbIrq) fun irq => ?_
  refine hT.bind (hT.onlyIf fun _ => ?_) fun _ => hT.serviceGpx
  exact hT.bind (hT.regRd _) fun hirq => hT.serviceIrq fun _ => h

end AllowsController

/-! ## The probe of the bus -/

/-- The states that the probe of the bus leads to. -/
def busprobeStates : List Byte :=
  [usbDetachedSubstateInitialize, usbDetachedSubstateWaitForDevice,
    usbDetachedSubstateIllegal, usbStateAttached]

/-- The states that the probe and the attached states lead to, but for
`USB_ATTACHED_SUBSTATE_SETTLE`, which is entered with its delay armed, and `USB_STATE_ERROR`. -/
def probeStates : List Byte :=
  [usbDetachedSubstateInitialize, usbDetachedSubstateWaitForDevice,
    usbDetachedSubstateIllegal, usbStateAttached, usbAttachedSubstateResetDevice,
    usbAttachedSubstateWaitResetComplete, usbAttachedSubstateWaitSof,
    usbAttachedSubstateGetDeviceDescriptorSize, usbStateAddressing]

/-- What the probe of the bus and the set-up of the controller are made of. -/
structure AllowsBusprobe (T : (α : Type) → Task α → Prop) : Prop extends Sequential T where
  regWr : ∀ reg val, reg ≠ rPERADDR ∧ reg ≠ rHXFR → T Unit (liftM (maxRegWr reg val))
  regRd : ∀ reg, T Byte (liftM (maxRegRd reg))
  pioRd : ∀ port, T Dword (liftM (pioRd port))
  reset : T Unit (liftM max3421eReset)
  set : ∀ new ∈ busprobeStates, T Unit (setTaskState new)

namespace AllowsBusprobe

variable {T : (α : Type) → Task α → Prop} (hT : AllowsBusprobe T)
include hT

theorem startHost (jStatus : Bool) : T Unit (startHost jStatus) := by
  refine hT.bind hT.read fun u => ?_
  split
  · refine hT.bind (hT.regRd _) fun mode => ?_
    exact hT.bind (hT.regWr _ _ (by decide)) fun _ => hT.set _ (by decide)
  · exact hT.pure ()

theorem busprobeSwitch (busSample : Byte) : T Unit (busprobeSwitch busSample) := by
  unfold Usb.busprobeSwitch
  by_cases hJ : busSample = bmJSTATUS
  · rw [if_pos hJ]
    exact hT.startHost true
  rw [if_neg hJ]
  by_cases hK : busSample = bmKSTATUS
  · rw [if_pos hK]
    exact hT.startHost false
  rw [if_neg hK]
  split
  · exact hT.set _ (by decide)
  · refine hT.bind hT.read fun u => ?_
    split
    · exact hT.set _ (by decide)
    · exact hT.bind (hT.regWr _ _ (by decide)) fun _ => hT.set _ (by decide)

theorem controller : AllowsController T where
  toSequential := hT.toSequential
  regWr := hT.regWr
  regRd := hT.regRd
  pioRd := hT.pioRd
  reset := hT.reset
  busprobe := hT.bind (hT.regRd _) fun _ => hT.busprobeSwitch _

end AllowsBusprobe

/-- What the probe of the bus and the states of an attached device are made of. -/
structure AllowsProbe (T : (α : Type) → Task α → Prop) : Prop extends Sequential T where
  regWr : ∀ reg val, reg ≠ rPERADDR ∧ reg ≠ rHXFR → T Unit (liftM (maxRegWr reg val))
  regRd : ∀ reg, T Byte (liftM (maxRegRd reg))
  pioRd : ∀ port, T Dword (liftM (pioRd port))
  milliseconds : T Dword (liftM milliseconds)
  reset : T Unit (liftM max3421eReset)
  descriptor : T Byte (liftM getDeviceDescriptor)
  set : ∀ new ∈ probeStates, T Unit (setTaskState new)
  settle : ∀ deadline, T Unit (do
    armUsbDelay deadline
    setTaskState usbAttachedSubstateSettle)
  error : ∀ rcode, T Unit (taskError rcode)

namespace AllowsProbe

variable {T : (α : Type) → Task α → Prop} (hT : AllowsProbe T)
include hT

theorem busprobe : AllowsBusprobe T where
  toSequential := hT.toSequential
  regWr := hT.regWr
  regRd := hT.regRd
  pioRd := hT.pioRd
  reset := hT.reset
  set new hnew := by
    have hprobe : ∀ new ∈ busprobeStates, new ∈ probeStates := by decide
    exact hT.set new (hprobe new hnew)

theorem controller : AllowsController T := hT.busprobe.controller

theorem taskAttached (state : Byte) : T Unit (taskAttached state) := by
  unfold Usb.taskAttached
  split
  · exact hT.bind hT.milliseconds fun t => hT.settle _
  split
  · refine hT.bind hT.read fun u => ?_
    refine hT.bind hT.milliseconds fun t => ?_
    split
    · exact hT.set _ (by decide)
    · exact hT.pure ()
  split
  · refine hT.bind (hT.regWr _ _ (by decide)) fun _ => ?_
    exact hT.bind (hT.regWr _ _ (by decide)) fun _ => hT.set _ (by decide)
  split
  · refine hT.bind (hT.regRd _) fun hctl => ?_
    split
    · refine hT.bind (hT.regRd _) fun mode => ?_
      exact hT.bind (hT.regWr _ _ (by decide)) fun _ => hT.set _ (by decide)
    · exact hT.pure ()
  split
  · refine hT.bind (hT.regRd _) fun hirq => ?_
    split
    · exact hT.set _ (by decide)
    · exact hT.pure ()
  split
  · refine hT.bind hT.descriptor fun rcode => ?_
    split
    · exact hT.set _ (by decide)
    · exact hT.error rcode
  · exact hT.pure ()

end AllowsProbe

/-! ## `USB_Task` -/

/-- The states that `USB_Task` writes while no device is being attached. -/
def unattachedStates : List Byte :=
  [usbDetachedSubstateWaitForDevice, usbStateConfiguring, usbStateRunning, usbStateError]

/-- What the states without a device, and those of one that is given an address and a driver, are
made of. -/
structure AllowsUnattached (T : (α : Type) → Task α → Prop) : Prop extends Sequential T where
  regWr : ∀ reg val, reg ≠ rPERADDR ∧ reg ≠ rHXFR → T Unit (liftM (maxRegWr reg val))
  init : T Unit (liftM usbInit)
  setDevRecord : ∀ addr g, T Unit (liftM (setDevRecord addr g))
  setAddr : ∀ newaddr, T Byte (liftM (xferSetAddr 0 0 newaddr))
  tmpAddr : ∀ addr, T Unit (update fun u => { u with tmpAddr := addr })
  clientDrivers : ∀ addr, T Bool (liftM (runProbes addr clientDriverTable))
  set : ∀ new ∈ unattachedStates, T Unit (setTaskState new)
  error : ∀ rcode, T Unit (taskError rcode)

namespace AllowsUnattached

variable {T : (α : Type) → Task α → Prop} (hT : AllowsUnattached T)
include hT

theorem taskDetached (state : Byte) : T Unit (taskDetached state) := by
  unfold Usb.taskDetached
  split_ifs
  · exact hT.bind hT.init fun _ => hT.set _ (by decide)
  · exact hT.regWr _ _ (by decide)
  · exact hT.pure ()

theorem assignAddress : T Unit assignAddress := by
  refine hT.bind hT.read fun u => ?_
  rcases u.freeSlot with _ | i
  · exact hT.pure ()
  · refine hT.bind hT.read fun u => ?_
    refine hT.bind (hT.setDevRecord _ _) fun _ => ?_
    refine hT.bind (hT.setAddr _) fun rcode => ?_
    split
    · exact hT.bind (hT.tmpAddr _) fun _ => hT.set _ (by decide)
    · exact hT.error rcode

theorem taskAddressing : T Unit taskAddressing := by
  refine hT.bind hT.assignAddress fun _ => ?_
  refine hT.bind hT.read fun u => ?_
  split
  · exact hT.error 0xfe
  · exact hT.pure ()

theorem taskConfiguring : T Unit taskConfiguring := by
  refine hT.bind hT.read fun u => ?_
  refine hT.bind (hT.clientDrivers u.tmpAddr) fun found => ?_
  refine hT.bind (hT.onlyIf fun _ => hT.set _ (by decide)) fun _ => ?_
  refine hT.bind hT.read fun u => ?_
  split
  · exact hT.error 0xfd
  · exact hT.pure ()

theorem usbTask (hP : AllowsProbe T) : T Unit usbTask := by
  refine hT.bind hT.read fun u => ?_
  show T Unit (if _ then _ else _)
  split
  · exact hT.taskDetached _
  split
  · exact hP.taskAttached _
  split
  · exact hT.taskAddressing
  split
  · exact hT.taskConfiguring
  · exact hT.pure ()

end AllowsUnattached

/-! ## The tasks -/

/-- What is in `T` on the tables is in `T'` on the globals of the task, and so is an assignment to
one of these. -/
structure AllowsHost (T : (α : Type) → Driver α → Prop) (T' : (α : Type) → Task α → Prop) :
    Prop extends Sequential T' where
  allowsDriver : AllowsDriver T
  driver : ∀ {α : Type} {m : Driver α}, T α m → T' α (liftM m)
  globals : ∀ {f : Host → Host}, (∀ u, (f u).toTables = u.toTables) → T' Unit (update f)

namespace AllowsHost

variable {T : (α : Type) → Driver α → Prop} {T' : (α : Type) → Task α → Prop}
  (hT : AllowsHost T T')
include hT

theorem setTaskState (new : Byte) : T' Unit (setTaskState new) := hT.globals fun _ => rfl

theorem taskError (rcode : Byte) : T' Unit (taskError rcode) :=
  hT.bind (hT.globals fun _ => rfl) fun _ => hT.globals fun _ => rfl

theorem allowsProbe : AllowsProbe T' where
  toSequential := hT.toSequential
  regWr _ _ hreg := hT.driver (hT.allowsDriver.accesses.emit _ hreg)
  regRd _ := hT.driver (hT.allowsDriver.accesses.maxRegRd fun _ => trivial)
  pioRd _ := hT.driver (hT.allowsDriver.accesses.pioRd fun _ => trivial)
  milliseconds := hT.driver (hT.allowsDriver.accesses.milliseconds fun _ => trivial)
  reset := hT.driver hT.allowsDriver.accesses.max3421eReset
  descriptor := hT.driver (hT.allowsDriver.endpoint 0 0).getDeviceDescriptor
  set new _ := hT.setTaskState new
  settle _ := hT.bind (hT.globals fun _ => rfl) fun _ => hT.setTaskState _
  error := hT.taskError

theorem max3421eTask : T' Unit max3421eTask :=
  hT.allowsProbe.controller.max3421eTask
    (hT.bind hT.read fun _ => hT.setTaskState _)

theorem allowsUnattached : AllowsUnattached T' where
  toSequential := hT.toSequential
  regWr := hT.allowsProbe.regWr
  init := hT.driver hT.allowsDriver.usbInit
  setDevRecord addr g := hT.driver (hT.allowsDriver.tables (accesses_setDevRecord addr g))
  setAddr newaddr := hT.driver ((hT.allowsDriver.requests 0).xferSetAddr newaddr)
  tmpAddr _ := hT.globals fun _ => rfl
  clientDrivers addr := hT.driver (hT.allowsDriver.clients addr).clientDrivers
  set new _ := hT.setTaskState new
  error := hT.taskError

theorem usbTask : T' Unit usbTask := hT.allowsUnattached.usbTask hT.allowsProbe

end AllowsHost

/-! ## `main` -/

/-- What a round of `main` does with the device, when the tasks have had their turn. -/
structure AllowsUse (T : (α : Type) → MainProg α → Prop) : Prop extends Sequential T where
  report : T Byte (liftM (liftM getDriverandReport : Task Byte))
  poll : ∀ buf, T (Byte × List Byte) (liftM (liftM (bootPoll buf) : Task (Byte × List Byte)))
  port : ∀ val, T Unit (liftM (liftM (pioWr .keycode val) : Task Unit))
  locals : ∀ {f : Main → Main}, (∀ m, (f m).toHost = m.toHost) → T Unit (update f)

namespace AllowsUse

variable {T : (α : Type) → MainProg α → Prop} (hT : AllowsUse T)
include hT

theorem meetDevice : T Unit meetDevice := by
  refine hT.bind (hT.locals fun _ => rfl) fun _ => ?_
  exact hT.bind hT.report fun _ => hT.locals fun _ => rfl

theorem pollKeyboard : T Unit pollKeyboard := by
  refine hT.bind hT.read fun m => ?_
  refine hT.bind (hT.poll _) fun report => ?_
  refine hT.bind (hT.locals fun _ => rfl) fun _ => ?_
  exact hT.onlyIf fun _ => hT.port _

theorem pollMouse : T Unit pollMouse := by
  refine hT.bind hT.read fun m => ?_
  exact hT.bind (hT.poll _) fun report => hT.locals fun _ => rfl

theorem useDevice (hstart : T Unit startOver) : T Unit useDevice := by
  refine hT.bind hT.read fun m => ?_
  split
  · split
    · exact hT.meetDevice
    split
    · exact hT.pollKeyboard
    split
    · exact hT.pollMouse
    · exact hT.pure _
  split
  · exact hT.locals fun _ => rfl
  · refine hT.bind (hT.onlyIf fun _ => hstart) fun _ => ?_
    exact hT.locals fun _ => rfl

end AllowsUse

end Bosconian.Usb
