import Bosconian.Usb.Transfer

/-!
# The boot keyboard and mouse

`HID.c`: the probes that look through the configuration descriptor in `bigbuf`, and the polls. A
descriptor is read where the lengths in the data put it, in `bigbuf` or behind it; a field of two
bytes is read as its bytes, low byte first.
-/

namespace Bosconian.Usb

open Scripted

def hidK : Byte := 1
def hidM : Byte := 2
def confDescrLen : Word := 9
def usbDescriptorInterface : Byte := 4
def usbDescriptorEndpoint : Byte := 5
def hidIntf : Byte := 3
def bootIntfSubclass : Byte := 1
def hidProtocolKeyboard : Byte := 1
def hidProtocolMouse : Byte := 2
def bootProtocol : Byte := 0

/-! ## Reading the descriptors -/

/-- The byte at `bigbuf + i`. What lies behind the array was not written by the driver. -/
def bigbufRd (i : Nat) : Driver Byte := do
  emit (.bigbufRd i)
  match (← read).bigbuf[i]? with
  | some b => return b
  | none => return (← ask).setWidth 8

def bigbufRdWord (i : Nat) : Driver Word := do
  let lo ← bigbufRd i
  let hi ← bigbufRd (i + 1)
  return hi ++ lo

/-- A configuration descriptor read into `bigbuf`. -/
def confDescrToBigbuf (addr : Byte) (nbytes : Word) : Driver Byte := do
  let (rcode, bytes) ← xferGetConfDescr addr 0 nbytes 0 (← read).bigbuf
  update fun t => { t with bigbuf := bytes }
  return rcode

/-! ## Probes -/

def hidInit : Driver Unit :=
  update fun t =>
    { t with
      hidEp := t.hidEp.set 1 { t.hidEp[1] with sndToggle := bmSNDTOG0, rcvToggle := bmRCVTOG0 } }

/-- The tables once the interface descriptor at `p` has matched. -/
def claimInterface (addr devclass : Byte) (p : Nat) : Driver Unit := do
  setDevRecord addr fun d => { d with devclass := devclass }
  let tmpbyte : Byte := (← epRecord addr 0).maxPktSize.setWidth 8
  hidInit
  setDevRecord addr fun d => { d with epinfo := .hidEp }
  setEpRecord addr 0 fun r => { r with maxPktSize := tmpbyte.setWidth 16 }
  let interface ← bigbufRd (p + 2)
  update fun t => { t with hidDevice := ⟨addr, interface⟩ }

/-- The endpoint descriptor at `p` is taken over and the device configured. -/
def configureEndpoint (addr confvalue : Byte) (p : Nat) : Driver Bool := do
  let epAddr ← bigbufRd (p + 2)
  setEpRecord addr 1 fun r => { r with epAddr := epAddr }
  let attr ← bigbufRd (p + 3)
  setEpRecord addr 1 fun r => { r with attr := attr }
  let maxPktSize ← bigbufRdWord (p + 4)
  setEpRecord addr 1 fun r => { r with maxPktSize := maxPktSize }
  let interval ← bigbufRd (p + 6)
  setEpRecord addr 1 fun r => { r with interval := interval }
  let rcode ← xferSetConf addr 0 confvalue
  if rcode ≠ 0 then return false
  else
    let rcode ← xferSetProto addr 0 (← read).hidDevice.interface bootProtocol
    return rcode = 0

/-- The inner loop, on the index `byte_ptr` points to: find an endpoint descriptor. -/
def endpointRound (addr confvalue : Byte) (totalLength p : Nat) : Driver (Nat ⊕ Bool) := do
  if p < totalLength then
    if (← bigbufRd (p + 1)) ≠ usbDescriptorEndpoint then return .inl (p + (← bigbufRd p).toNat)
    else return .inr (← configureEndpoint addr confvalue p)
  else return .inr false

/-- More rounds than there are bytes to start a descriptor at do not end: a round that goes on
without moving on repeats for ever. -/
def scanFuel (totalLength : Nat) : Nat := totalLength + 1

/-- The outer loop: find an interface descriptor, and give up unless it is the one wanted. When
the inner loop leaves without an endpoint, so does this one. -/
def interfaceRound (addr protocol devclass confvalue : Byte) (totalLength p : Nat) :
    Driver (Nat ⊕ Bool) := do
  if p < totalLength then
    if (← bigbufRd (p + 1)) ≠ usbDescriptorInterface then return .inl (p + (← bigbufRd p).toNat)
    else
      let cls ← bigbufRd (p + 5)
      let subclass ← bigbufRd (p + 6)
      let proto ← bigbufRd (p + 7)
      if cls = hidIntf ∧ subclass = bootIntfSubclass ∧ proto = protocol then
        claimInterface addr devclass p
        let next := p + (← bigbufRd p).toNat
        return .inr (← loop (endpointRound addr confvalue totalLength) (scanFuel totalLength) next)
      else return .inr false
  else return .inr false

/-- Both probes: they differ in the protocol they look for and the class they record. -/
def bootProbe (protocol devclass addr : Byte) : Driver Bool := do
  let rcode ← confDescrToBigbuf addr confDescrLen
  if rcode ≠ 0 then return false
  else
    let wTotalLength ← bigbufRdWord 2
    let totalLength : Word := if 256 < wTotalLength then 256 else wTotalLength
    let rcode ← confDescrToBigbuf addr totalLength
    if rcode ≠ 0 then return false
    else
      let confvalue ← bigbufRd 5
      loop (interfaceRound addr protocol devclass confvalue totalLength.toNat)
        (scanFuel totalLength.toNat) 0

def hidmProbe (addr : Byte) : Driver Bool := bootProbe hidProtocolMouse hidM addr

def hidkProbe (addr : Byte) : Driver Bool := bootProbe hidProtocolKeyboard hidK addr

/-! ## Polls -/

/-- Both polls: eight bytes from endpoint 1. -/
def bootPoll (buf : List Byte) : Driver (Byte × List Byte) := do
  let addr := (← read).hidDevice.addr
  maxRegWr rPERADDR addr
  let r ← epRecord addr 1
  xferInTransfer addr 1 8 buf (r.maxPktSize.setWidth 8)

def mousePoll (buf : List Byte) : Driver (Byte × List Byte) := bootPoll buf

def kbdPoll (buf : List Byte) : Driver (Byte × List Byte) := bootPoll buf

end Bosconian.Usb
