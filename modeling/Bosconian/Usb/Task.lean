import Bosconian.Usb.Hid

/-!
# The USB task

The state machine of `USB_Task`, and the probe of the bus and the interrupt handler of
`MAX3421E.c` that write the same `usb_task_state`. The history keeps every write to it and every
arming of `usb_delay`, each with the length the log of accesses had then.
-/

namespace Bosconian.Usb

open Scripted

/-! ## State -/

def usbStateMask : Byte := 0xf0
def usbStateDetached : Byte := 0x00
def usbDetachedSubstateInitialize : Byte := 0x01
def usbDetachedSubstateWaitForDevice : Byte := 0x03
def usbDetachedSubstateIllegal : Byte := 0x04
def usbStateAttached : Byte := 0x10
def usbAttachedSubstateSettle : Byte := 0x11
def usbAttachedSubstateResetDevice : Byte := 0x12
def usbAttachedSubstateWaitResetComplete : Byte := 0x13
def usbAttachedSubstateWaitSof : Byte := 0x14
def usbAttachedSubstateGetDeviceDescriptorSize : Byte := 0x15
def usbStateAddressing : Byte := 0x20
def usbStateConfiguring : Byte := 0x30
def usbStateRunning : Byte := 0x40
def usbStateError : Byte := 0xff

/-- A write to `usb_task_state`, or to `usb_delay`. -/
inductive TaskEvent
  | set (old new : Byte) (stamp : Nat)
  | arm (deadline : Dword) (stamp : Nat)
deriving DecidableEq, Repr

/-- The globals of the task over those of the transfers. -/
structure Host extends Tables where
  usbTaskState : Byte
  usbError : Byte
  lastUsbTaskState : Byte
  usbDelay : Dword
  tmpAddr : Byte
  history : List TaskEvent
deriving DecidableEq, Repr

def Host.powerUp : Host where
  toTables := .powerUp
  usbTaskState := usbDetachedSubstateInitialize
  usbError := 0
  lastUsbTaskState := 0
  usbDelay := 0
  tmpAddr := 0
  history := []

abbrev Task := Prog Dword Host

/-- The transfers run on the tables, and on nothing else of the task. -/
instance : MonadLift Driver Task := ⟨zoom Host.toTables fun t u => { u with toTables := t }⟩

namespace Host

def setTaskState (new : Byte) (u : Host) : Host :=
  { u with usbTaskState := new, history := u.history ++ [.set u.usbTaskState new u.log.length] }

def armUsbDelay (deadline : Dword) (u : Host) : Host :=
  { u with usbDelay := deadline, history := u.history ++ [.arm deadline u.log.length] }

end Host

def setTaskState (new : Byte) : Task Unit := update (Host.setTaskState new)

def armUsbDelay (deadline : Dword) : Task Unit := update (Host.armUsbDelay deadline)

/-- `usb_error` is set and the task stays in `USB_STATE_ERROR`. -/
def taskError (rcode : Byte) : Task Unit := do
  update fun u => { u with usbError := rcode, lastUsbTaskState := u.usbTaskState }
  setTaskState usbStateError

/-! ## The controller -/

/-- The chip comes out of reset when its oscillator is stable. -/
def max3421eReset : Driver Unit := do
  pioWr .usbRst 0
  pioWr .usbRst 1
  maxRegWr rUSBCTL bmCHIPRES
  maxRegWr rUSBCTL 0x00
  forever (fun _ => do
    if (← maxRegRd rUSBIRQ) &&& bmOSCOKIRQ = 0 then return .inl () else return .inr ()) ()

/-- The cases `bmJSTATUS` and `bmKSTATUS` of `MAX_busprobe`: J is the idle line of a device at the
speed the controller is set to, K of one at the other. -/
def startHost (jStatus : Bool) : Task Unit := do
  if (← read).usbTaskState ≠ usbAttachedSubstateWaitResetComplete then
    let fullSpeed := decide ((← maxRegRd rMODE) &&& bmLOWSPEED = 0)
    maxRegWr rMODE (if fullSpeed = jStatus then modeFsHost else modeLsHost)
    setTaskState usbStateAttached

def busprobeSwitch (busSample : Byte) : Task Unit := do
  if busSample = bmJSTATUS then startHost true
  else if busSample = bmKSTATUS then startHost false
  else if busSample = bmSE1 then setTaskState usbDetachedSubstateIllegal
  else if (← read).usbTaskState &&& usbStateMask ≠ usbStateDetached then
    setTaskState usbDetachedSubstateInitialize
  else
    maxRegWr rMODE modeFsHost
    setTaskState usbDetachedSubstateWaitForDevice

def maxBusprobe : Task Unit := do
  busprobeSwitch ((← maxRegRd rHRSL) &&& (bmJSTATUS ||| bmKSTATUS))

def max3421eInit : Task Unit := do
  maxRegWr rPINCTL (bmFDUPSPI + bmINTLEVEL + bmGPXB)
  max3421eReset
  maxRegWr rGPINIEN bmGPINIEN7
  maxRegWr rMODE (bmDPPULLDN ||| bmDMPULLDN ||| bmHOST ||| bmSEPIRQ)
  maxRegWr rHIEN bmCONDETIE
  maxRegWr rHCTL bmSAMPLEBUS
  maxBusprobe
  maxRegWr rHIRQ bmCONDETIRQ
  maxRegWr rCPUCTL 0x01

/-- `usb_task_state++`. -/
def advanceTaskState : Task Unit := do setTaskState ((← read).usbTaskState + 1)

/-- What `MaxIntHandler` does after the probe. -/
def serviceBusEvent (hirq : Byte) : Task Unit := do
  onlyIf (hirq &&& bmSNDBAVIRQ ≠ 0) (maxRegWr rSNDBC 0x00 : Driver Unit)
  onlyIf (hirq &&& bmBUSEVENTIRQ ≠ 0) advanceTaskState
  maxRegWr rHIRQ (hirq &&& (bmFRAMEIRQ ||| bmCONDETIRQ ||| bmBUSEVENTIRQ))

/-- What `MaxIntHandler` does with the `HIRQ` it has read. -/
def serviceIrq (hirq : Byte) : Task Unit := do
  onlyIf (hirq &&& bmCONDETIRQ ≠ 0) maxBusprobe
  serviceBusEvent hirq

def maxIntHandler : Task Unit := do serviceIrq (← maxRegRd rHIRQ)

def maxGpxHandler : Driver Unit := do
  let _ ← maxRegRd rGPINIRQ

def max3421eTask : Task Unit := do
  onlyIf ((← pioRd .usbIrq) = 0) maxIntHandler
  if (← pioRd .usbGpx) = 1 then maxGpxHandler

/-! ## Enumeration -/

def usbInit : Driver Unit :=
  update fun t => { t with
    devtable := (Vector.replicate _ ⟨.null, 0⟩).set 0 ⟨.dev0ep, 0⟩
    dev0ep := { t.dev0ep with maxPktSize := 0, sndToggle := bmSNDTOG0, rcvToggle := bmRCVTOG0 } }

/-- A byte of `bString`, or of what lies behind it. -/
def stringRd (bString : List Byte) (i : Nat) : Driver Byte := do
  emit (.stringRd i)
  match bString[i]? with
  | some b => return b
  | none => return (← ask).setWidth 8

/-- A store behind `bString` leaves it as it is. -/
def stringWr (bString : List Byte) (i : Nat) (b : Byte) : Driver (List Byte) := do
  emit (.stringWr i)
  return bString.set i b

def convUTF8ToStr (utf8 : List Byte) (length : Byte) : Driver (List Byte) := do
  let utf8 ← (List.range length.toNat).foldlM (fun utf8 i => do
    stringWr utf8 i (← stringRd utf8 (2 * i))) utf8
  stringWr utf8 length.toNat 0x00

/-- Fetch the string descriptor `index` for the console, whatever the requests return. -/
def fetchString (index : Byte) : Driver Unit := do
  let strDesc ← uninitialised 256
  let (_, strDesc) ← xferGetStrDescr 0 0 2 index langEnUs strDesc
  let bLength := strDesc.getD 0 0
  let (_, strDesc) ← xferGetStrDescr 0 0 (bLength.setWidth 16) index langEnUs strDesc
  let bLength := strDesc.getD 0 0
  let _ ← convUTF8ToStr (strDesc.drop 2) ((bLength >>> 1) - 1)

/-- The transfers of `USB_ATTACHED_SUBSTATE_GET_DEVICE_DESCRIPTOR_SIZE`, with the result code of
the first one. In a device descriptor `bLength` is the byte 0, `bMaxPacketSize0` 7,
`iManufacturer` 14 and `iProduct` 15. -/
def getDeviceDescriptor : Driver Byte := do
  setEpRecord 0 0 fun r => { r with maxPktSize := 0x0008 }
  let buf ← uninitialised 18
  let (rcode, buf) ← xferGetDevDescr 0 0 8 buf
  if rcode ≠ 0 then return rcode
  else
    let bMaxPacketSize0 := buf.getD 7 0
    setEpRecord 0 0 fun r => { r with maxPktSize := bMaxPacketSize0.setWidth 16 }
    let (_, buf) ← xferGetDevDescr 0 0 ((buf.getD 0 0).setWidth 16) buf
    onlyIf (buf.getD 14 0 ≠ 0) (fetchString (buf.getD 14 0))
    onlyIf (buf.getD 15 0 ≠ 0) (fetchString (buf.getD 15 0))
    return rcode

/-- The first slot of `devtable` from 1 on that no device has. -/
def Tables.freeSlot (t : Tables) : Option Nat :=
  (List.range' 1 (usbNumdevices - 1)).find? fun i => (t.devtable[i]?.map (·.epinfo)) = some .null

def msdProbe (_addr : Byte) : Driver Bool := return false

def dummyProbe (_addr : Byte) : Driver Bool := return false

def clientDriverTable : List (Byte → Driver Bool) := [msdProbe, hidmProbe, hidkProbe, dummyProbe]

/-- Run the probes until one returns `TRUE`. -/
def runProbes (addr : Byte) : List (Byte → Driver Bool) → Driver Bool
  | [] => return false
  | probe :: probes => do
    if ← probe addr then return true
    else runProbes addr probes

/-! ## `USB_Task` -/

section UsbTask

def taskDetached (state : Byte) : Task Unit := do
  if state = usbDetachedSubstateInitialize then
    usbInit
    setTaskState usbDetachedSubstateWaitForDevice
  else if state = usbDetachedSubstateWaitForDevice then maxRegWr rHCTL bmSAMPLEBUS

def taskAttached (state : Byte) : Task Unit := do
  if state = usbStateAttached then
    armUsbDelay ((← milliseconds) + 200)
    setTaskState usbAttachedSubstateSettle
  else if state = usbAttachedSubstateSettle then
    if (← read).usbDelay < (← milliseconds) then setTaskState usbAttachedSubstateResetDevice
  else if state = usbAttachedSubstateResetDevice then
    maxRegWr rHIRQ bmBUSEVENTIRQ
    maxRegWr rHCTL bmBUSRST
    setTaskState usbAttachedSubstateWaitResetComplete
  else if state = usbAttachedSubstateWaitResetComplete then
    if (← maxRegRd rHCTL) &&& bmBUSRST = 0 then
      let tmpdata := (← maxRegRd rMODE) ||| bmSOFKAENAB
      maxRegWr rMODE tmpdata
      setTaskState usbAttachedSubstateWaitSof
  else if state = usbAttachedSubstateWaitSof then
    if (← maxRegRd rHIRQ) ||| bmFRAMEIRQ ≠ 0 then
      setTaskState usbAttachedSubstateGetDeviceDescriptorSize
  else if state = usbAttachedSubstateGetDeviceDescriptorSize then
    let rcode ← getDeviceDescriptor
    if rcode = 0 then setTaskState usbStateAddressing else taskError rcode

/-- Give the device the first free address. -/
def assignAddress : Task Unit := do
  match (← read).freeSlot with
  | none => return ()
  | some i =>
    let epinfo := (← read).devtable[0].epinfo
    setDevRecord (.ofNat 8 i) fun d => { d with epinfo := epinfo }
    let rcode ← xferSetAddr 0 0 (.ofNat 8 i)
    if rcode = 0 then
      update fun u => { u with tmpAddr := .ofNat 8 i }
      setTaskState usbStateConfiguring
    else taskError rcode

def taskAddressing : Task Unit := do
  assignAddress
  if (← read).usbTaskState = usbStateAddressing then taskError 0xfe

def taskConfiguring : Task Unit := do
  let found ← runProbes (← read).tmpAddr clientDriverTable
  onlyIf (found = true) (setTaskState usbStateRunning)
  if (← read).usbTaskState = usbStateConfiguring then taskError 0xfd

/-- The states that the two nested switches do not name are left alone. -/
def usbTask : Task Unit := do
  let state := (← read).usbTaskState
  if state &&& usbStateMask = usbStateDetached then taskDetached state
  else if state &&& usbStateMask = usbStateAttached then taskAttached state
  else if state &&& usbStateMask = usbStateAddressing then taskAddressing
  else if state &&& usbStateMask = usbStateConfiguring then taskConfiguring

end UsbTask

end Bosconian.Usb
