import Bosconian.Usb.Chip

/-!
# Transfers

`transfer.c` up to the requests: a packet launched with its retries, an IN transfer over several
packets, and control transfers with and without a data stage.
-/

namespace Bosconian.Usb

open Scripted

/-! ## Packets -/

def usbXferTimeout : Dword := 5000
def usbNakLimit : Byte := 200
def usbRetryLimit : Byte := 3

/-- The inner loop of `XferDispatchPkt`: wait for the end of the transfer or for the deadline. -/
def awaitRound (timeout : Dword) : Driver (Unit ⊕ Byte) := do
  if (← milliseconds) < timeout then
    let tmpdata ← maxRegRd rHIRQ
    if tmpdata &&& bmHXFRDNIRQ ≠ 0 then
      maxRegWr rHIRQ bmHXFRDNIRQ
      return .inr 0x00
    else return .inl ()
  else return .inr 0xff

def awaitTransfer (timeout : Dword) : Driver Byte := forever (fun _ => awaitRound timeout) ()

/-- What becomes of `retry_count` and `nak_count` after a result code: another round, or the code
is returned. -/
def afterResult (rcode : Byte) : Byte × Byte → (Byte × Byte) ⊕ Byte
  | (retryCount, nakCount) =>
    if rcode = hrNAK then
      if nakCount + 1 = usbNakLimit then .inr rcode else .inl (retryCount, nakCount + 1)
    else if rcode = hrTIMEOUT then
      if retryCount + 1 = usbRetryLimit then .inr rcode else .inl (retryCount + 1, nakCount)
    else .inr rcode

/-- One round of the outer loop. -/
def dispatchRound (token ep : Byte) (timeout : Dword) (counts : Byte × Byte) :
    Driver ((Byte × Byte) ⊕ Byte) := do
  maxRegWr rHXFR (token ||| ep)
  let rcode ← awaitTransfer timeout
  if rcode ≠ 0x00 then return .inr rcode
  else return afterResult ((← maxRegRd rHRSL) &&& 0x0f) counts

def xferDispatchPkt (token ep : Byte) : Driver Byte := do
  let timeout := (← milliseconds) + usbXferTimeout
  forever (dispatchRound token ep timeout) (0, 0)

section Accesses

open Access

/-- A wait reads the clock and `HIRQ`, and clears the bit it has seen. -/
theorem Accesses.awaitRound {P : Access → Prop} (hticks : ∀ t, P (.ticks t))
    (hread : ∀ val, P (.regRd rHIRQ val)) (hclear : P (.regWr rHIRQ bmHXFRDNIRQ))
    {timeout : Dword} : Accesses P (awaitRound timeout) := by
  apply Accesses.bind (Accesses.milliseconds hticks)
  intro t
  split
  · apply Accesses.bind (Accesses.maxRegRd hread)
    intro tmpdata
    split
    · exact Accesses.bind (Accesses.emit hclear) fun _ => Accesses.pure _
    · exact Accesses.pure _
  · exact Accesses.pure _

/-- Each wait reads the clock, so the loops unroll. -/
theorem uses_awaitRound (timeout : Dword) : Uses (awaitRound timeout) := by
  apply Uses.bind_left uses_milliseconds
  intro t
  split
  · apply Moves.bind (accesses_maxRegRd rHIRQ).draws
    intro tmpdata
    split
    · exact Moves.bind (accesses_maxRegWr (by decide) _).draws fun _ => Moves.pure _
    · exact Moves.pure _
  · exact Moves.pure _

theorem Accesses.awaitTransfer {P : Access → Prop} (hticks : ∀ t, P (.ticks t))
    (hread : ∀ val, P (.regRd rHIRQ val)) (hclear : P (.regWr rHIRQ bmHXFRDNIRQ))
    {timeout : Dword} : Accesses P (awaitTransfer timeout) :=
  Accesses.forever (fun _ => Accesses.awaitRound hticks hread hclear)
    (fun _ => uses_awaitRound timeout) ()

theorem accesses_awaitTransfer (timeout : Dword) :
    Accesses OfRegister (awaitTransfer timeout) :=
  Accesses.awaitTransfer (fun _ => trivial) (fun _ => trivial)
    (by show rHIRQ ≠ rPERADDR; decide)

theorem accesses_dispatchRound (token ep : Byte) (timeout : Dword) (c : Byte × Byte) :
    Accesses OfRegister (dispatchRound token ep timeout c) := by
  refine Accesses.bind (accesses_maxRegWr (by decide) _) fun _ =>
    Accesses.bind (accesses_awaitTransfer timeout) fun r => ?_
  split
  · exact Accesses.pure _
  · exact Accesses.bind (accesses_maxRegRd rHRSL) fun _ => Accesses.pure _

theorem uses_dispatchRound (token ep : Byte) (timeout : Dword) (c : Byte × Byte) :
    Uses (dispatchRound token ep timeout c) := by
  refine Uses.bind_right (accesses_maxRegWr (by decide) _).draws fun _ =>
    Uses.bind_left (Uses.forever (fun _ => uses_awaitRound timeout) ()) fun r => ?_
  split
  · exact Moves.pure _
  · exact Moves.bind (accesses_maxRegRd rHRSL).draws fun _ => Moves.pure _

/-- A packet is sent no more often than the answers allow, and stores nothing. -/
theorem accesses_xferDispatchPkt (token ep : Byte) :
    Accesses OfRegister (xferDispatchPkt token ep) :=
  Accesses.bind accesses_milliseconds fun _ =>
    Accesses.forever (accesses_dispatchRound token ep _) (uses_dispatchRound token ep _) _

theorem uses_xferDispatchPkt (token ep : Byte) : Uses (xferDispatchPkt token ep) :=
  Uses.bind_left uses_milliseconds fun _ =>
    Moves.forever (fun c => (accesses_dispatchRound token ep _ c).draws) _

end Accesses

section Related

variable {R : Tables → Tables → Prop} (hR : KeptByLog R)
include hR

theorem related_awaitRound (timeout : Dword) :
    Related R (awaitRound timeout) (awaitRound timeout) := by
  apply Related.bind (related_milliseconds hR)
  intro t
  split
  · apply Related.bind (related_maxRegRd hR rHIRQ)
    intro tmpdata
    split
    · exact Related.bind (related_emit hR _) fun _ => Related.pure _
    · exact Related.pure _
  · exact Related.pure _

theorem related_dispatchRound (token ep : Byte) (timeout : Dword) (c : Byte × Byte) :
    Related R (dispatchRound token ep timeout c) (dispatchRound token ep timeout c) := by
  refine Related.bind (related_emit hR _) fun _ =>
    Related.bind (Related.forever (fun _ => related_awaitRound hR timeout) ()) fun r => ?_
  split
  · exact Related.pure _
  · exact Related.bind (related_maxRegRd hR rHRSL) fun _ => Related.pure _

theorem related_xferDispatchPkt (token ep : Byte) :
    Related R (xferDispatchPkt token ep) (xferDispatchPkt token ep) :=
  Related.bind (related_milliseconds hR) fun _ =>
    Related.forever (related_dispatchRound hR token ep _) _

end Related

/-! ## IN transfers -/

/-- The accesses of one round of `XferInTransfer` up to freeing the buffer of the controller: an
error code, or `pktsize` and the bytes of the packet. -/
def receivePkt (ep : Byte) : Driver (Byte ⊕ Byte × List Byte) := do
  let rcode ← xferDispatchPkt tokIN ep
  if rcode ≠ 0x00 then return .inl rcode
  else if (← maxRegRd rHIRQ) &&& bmRCVDAVIRQ = 0 then return .inl 0xf0
  else
    let pktsize ← maxRegRd rRCVBC
    let bytes ← maxBytesRd rRCVFIFO pktsize
    maxRegWr rHIRQ bmRCVDAVIRQ
    return .inr (pktsize, bytes)

/-- Save the toggle of the last packet. -/
def saveToggle (addr ep : Byte) : Driver Unit := do
  if (← maxRegRd rHRSL) &&& bmRCVTOGRD ≠ 0 then
    setEpRecord addr ep fun r => { r with rcvToggle := bmRCVTOG1 }
  else setEpRecord addr ep fun r => { r with rcvToggle := bmRCVTOG0 }

/-- The end of a round, after `data` and `xfrlen` have moved on by the packet: a short packet or
`nbytes` bytes complete the transfer. -/
def countPkt (addr ep : Byte) (nbytes : Word) (maxpktsize pktsize : Byte) (xfrlen : Word)
    (data : Cursor) : Driver ((Word × Cursor) ⊕ Byte × Cursor) :=
  if pktsize < maxpktsize ∨ nbytes ≤ xfrlen then do
    saveToggle addr ep
    return .inr (0, data)
  else return .inl (xfrlen, data)

/-- One round of the loop, on `xfrlen` and `data`. -/
def inRound (addr ep : Byte) (nbytes : Word) (maxpktsize : Byte) :
    Word × Cursor → Driver ((Word × Cursor) ⊕ Byte × Cursor)
  | (xfrlen, data) => do
    match ← receivePkt ep with
    | .inl rcode => return .inr (rcode, data)
    | .inr (pktsize, bytes) =>
      countPkt addr ep nbytes maxpktsize pktsize (xfrlen + pktsize.setWidth 16) (data.write bytes)

/-- Returns with the result code what the destination holds afterwards. -/
def xferInTransfer (addr ep : Byte) (nbytes : Word) (data : List Byte) (maxpktsize : Byte) :
    Driver (Byte × List Byte) := do
  let r ← epRecord addr ep
  maxRegWr rHCTL r.rcvToggle
  let (rcode, data) ← forever (inRound addr ep nbytes maxpktsize) (0, ⟨data, 0⟩)
  return (rcode, data.bytes)

/-! A transfer makes its accesses round by round, each for an answer. -/

theorem accesses_receivePkt (ep : Byte) : Accesses Access.OfTransfer (receivePkt ep) := by
  apply Accesses.bind (accesses_xferDispatchPkt tokIN ep).ofTransfer
  intro rcode
  split
  · exact Accesses.pure _
  · apply Accesses.bind (accesses_maxRegRd rHIRQ).ofTransfer
    intro _
    split
    · exact Accesses.pure _
    · exact Accesses.bind (accesses_maxRegRd rRCVBC).ofTransfer fun p =>
        Accesses.bind (accesses_maxBytesRd _ p) fun _ =>
          Accesses.bind (Accesses.emit trivial) fun _ => Accesses.pure _

theorem uses_receivePkt (ep : Byte) : Uses (receivePkt ep) := by
  apply Uses.bind_left (uses_xferDispatchPkt tokIN ep)
  intro rcode
  split
  · exact Moves.pure _
  · apply Moves.bind (accesses_maxRegRd rHIRQ).draws
    intro _
    split
    · exact Moves.pure _
    · exact Moves.bind (accesses_maxRegRd rRCVBC).draws fun p =>
        Moves.bind (accesses_maxBytesRd _ p).draws fun _ =>
          Moves.bind (accesses_maxRegWr (by decide) _).draws fun _ => Moves.pure _

theorem related_receivePkt {R : Tables → Tables → Prop} (hR : KeptByLog R) (ep : Byte) :
    Related R (receivePkt ep) (receivePkt ep) := by
  apply Related.bind (related_xferDispatchPkt hR tokIN ep)
  intro rcode
  split
  · exact Related.pure _
  · apply Related.bind (related_maxRegRd hR rHIRQ)
    intro _
    split
    · exact Related.pure _
    · exact Related.bind (related_maxRegRd hR rRCVBC) fun p =>
        Related.bind (related_maxBytesRd hR _ p) fun _ =>
          Related.bind (related_emit hR _) fun _ => Related.pure _

section Loop

variable (addr ep : Byte) (nbytes : Word) (maxpktsize : Byte)

theorem accesses_countPkt (pktsize : Byte) (xfrlen : Word) (data : Cursor) :
    Accesses Access.OfRegister
      (countPkt addr ep nbytes maxpktsize pktsize xfrlen data) := by
  unfold countPkt
  split
  · refine Accesses.bind ?_ fun _ => Accesses.pure _
    apply Accesses.bind (accesses_maxRegRd rHRSL)
    intro _
    split
    · exact accesses_setEpRecord addr ep _
    · exact accesses_setEpRecord addr ep _
  · exact Accesses.pure _

theorem accesses_inRound (s : Word × Cursor) :
    Accesses Access.OfTransfer (inRound addr ep nbytes maxpktsize s) := by
  apply Accesses.bind (accesses_receivePkt ep)
  intro r
  rcases r with rcode | ⟨p, bytes⟩
  · exact Accesses.pure _
  · exact (accesses_countPkt addr ep nbytes maxpktsize p _ _).ofTransfer

theorem uses_inRound (s : Word × Cursor) : Uses (inRound addr ep nbytes maxpktsize s) := by
  apply Uses.bind_left (uses_receivePkt ep)
  intro r
  rcases r with rcode | ⟨p, bytes⟩
  · exact Moves.pure _
  · exact (accesses_countPkt addr ep nbytes maxpktsize p _ _).draws

theorem accesses_xferInTransfer (data : List Byte) :
    Accesses Access.OfTransfer (xferInTransfer addr ep nbytes data maxpktsize) :=
  Accesses.bind (accesses_epRecord addr ep) fun _ =>
    Accesses.bind (Accesses.emit trivial) fun _ =>
    Accesses.bind (Accesses.forever (accesses_inRound addr ep nbytes maxpktsize)
      (uses_inRound addr ep nbytes maxpktsize) _) fun _ => Accesses.pure _

/-- The bound of the model on its rounds is never met: a transfer returns, waits for the
controller, or stops at an endpoint that is not there. -/
theorem ends_xferInTransfer (data : List Byte) :
    Ends (xferInTransfer addr ep nbytes data maxpktsize) :=
  (accesses_xferInTransfer addr ep nbytes maxpktsize data).ends

end Loop

/-! ## Control transfers -/

def xferCtrlData (addr ep : Byte) (nbytes : Word) (dataptr : List Byte) (direction : Bool) :
    Driver (Byte × List Byte) := do
  if direction then
    setEpRecord addr ep fun r => { r with rcvToggle := bmRCVTOG1 }
    let r ← epRecord addr ep
    let (rcode, data) ← xferInTransfer addr ep nbytes dataptr (r.maxPktSize.setWidth 8)
    if rcode ≠ 0 then return (rcode, data)
    else return (← xferDispatchPkt tokOUTHS ep, data)
  else return (0xff, dataptr)

def xferCtrlND (ep : Byte) (direction : Bool) : Driver Byte :=
  if direction then xferDispatchPkt tokOUTHS ep else xferDispatchPkt tokINHS ep

/-- `SETUP_PKT` as it lies in memory. -/
def setupPkt (bmReqType bRequest wValLo wValHi : Byte) (wInd wLength : Word) : List Byte :=
  [bmReqType, bRequest, wValLo, wValHi, wInd.setWidth 8, (wInd >>> 8).setWidth 8,
    wLength.setWidth 8, (wLength >>> 8).setWidth 8]

/-- A `NULL` `dataptr` is `none`: there is no data stage. -/
def xferCtrlReq (addr ep bmReqType bRequest wValLo wValHi : Byte) (wInd nbytes : Word)
    (dataptr : Option (List Byte)) : Driver (Byte × List Byte) := do
  maxRegWr rPERADDR addr
  let direction := decide (bmReqType &&& 0x80 ≠ 0)
  maxBytesWr rSUDFIFO (setupPkt bmReqType bRequest wValLo wValHi wInd nbytes)
  let rcode ← xferDispatchPkt tokSETUP ep
  if rcode ≠ 0 then return (rcode, dataptr.getD [])
  else
    match dataptr with
    | none => return (← xferCtrlND ep direction, [])
    | some data => xferCtrlData addr ep nbytes data direction

section Accesses

variable (addr ep : Byte) (nbytes : Word)

theorem accesses_xferCtrlData (dataptr : List Byte) (direction : Bool) :
    Accesses Access.OfTransfer (xferCtrlData addr ep nbytes dataptr direction) := by
  unfold xferCtrlData
  split
  · apply Accesses.bind (accesses_setEpRecord addr ep _)
    intro _
    apply Accesses.bind (accesses_epRecord addr ep)
    intro r
    apply Accesses.bind (accesses_xferInTransfer addr ep nbytes _ dataptr)
    rintro ⟨rcode, data⟩
    show Accesses _ (if rcode ≠ 0 then _ else _)
    split
    · exact Accesses.pure _
    · exact Accesses.bind (accesses_xferDispatchPkt _ _).ofTransfer fun _ => Accesses.pure _
  · exact Accesses.pure _

theorem accesses_xferCtrlND (direction : Bool) :
    Accesses Access.OfRegister (xferCtrlND ep direction) := by
  unfold xferCtrlND
  split
  · exact accesses_xferDispatchPkt _ _
  · exact accesses_xferDispatchPkt _ _

theorem accesses_xferCtrlReq (bmReqType bRequest wValLo wValHi : Byte) (wInd : Word)
    (dataptr : Option (List Byte)) :
    Accesses Access.OfTransfer
      (xferCtrlReq addr ep bmReqType bRequest wValLo wValHi wInd nbytes dataptr) := by
  apply Accesses.bind (Accesses.emit trivial)
  intro _
  apply Accesses.bind (Accesses.emit trivial)
  intro _
  apply Accesses.bind (accesses_xferDispatchPkt tokSETUP ep).ofTransfer
  intro rcode
  split
  · exact Accesses.pure _
  · cases dataptr with
    | none => exact Accesses.bind (accesses_xferCtrlND ep _).ofTransfer fun _ => Accesses.pure _
    | some data => exact accesses_xferCtrlData addr ep nbytes data _

end Accesses

/-! ## Requests -/

def bmREQ_GET_DESCR : Byte := 0x80
def bmREQ_SET : Byte := 0x00
def bmREQ_HIDOUT : Byte := 0x21
def bmREQ_HIDIN : Byte := 0xa1
def langEnUs : Word := 0x0409

def xferSetAddr (oldaddr ep newaddr : Byte) : Driver Byte := do
  return (← xferCtrlReq oldaddr ep bmREQ_SET 5 newaddr 0 0 0 none).1

def xferSetConf (addr ep confValue : Byte) : Driver Byte := do
  return (← xferCtrlReq addr ep bmREQ_SET 9 confValue 0 0 0 none).1

def xferGetDevDescr (addr ep : Byte) (nbytes : Word) (dataptr : List Byte) :
    Driver (Byte × List Byte) :=
  xferCtrlReq addr ep bmREQ_GET_DESCR 6 0 1 0 nbytes (some dataptr)

def xferGetConfDescr (addr ep : Byte) (nbytes : Word) (conf : Byte) (dataptr : List Byte) :
    Driver (Byte × List Byte) :=
  xferCtrlReq addr ep bmREQ_GET_DESCR 6 conf 2 0 nbytes (some dataptr)

def xferGetStrDescr (addr ep : Byte) (nbytes : Word) (index : Byte) (langid : Word)
    (dataptr : List Byte) : Driver (Byte × List Byte) :=
  xferCtrlReq addr ep bmREQ_GET_DESCR 6 index 3 langid nbytes (some dataptr)

def xferSetProto (addr ep interface protocol : Byte) : Driver Byte := do
  return (← xferCtrlReq addr ep bmREQ_HIDOUT 0x0b protocol 0 (interface.setWidth 16) 0 none).1

def xferGetProto (addr ep interface : Byte) (dataptr : List Byte) : Driver (Byte × List Byte) :=
  xferCtrlReq addr ep bmREQ_HIDIN 0x03 0 0 (interface.setWidth 16) 1 (some dataptr)

def xferGetIdle (addr ep interface reportID : Byte) (dataptr : List Byte) :
    Driver (Byte × List Byte) :=
  xferCtrlReq addr ep bmREQ_HIDIN 0x02 reportID 0 (interface.setWidth 16) 1 (some dataptr)

/-! ## Answers of a device that is there -/

/-- A token that is acknowledged at once. -/
def acknowledged : List Dword := [0, 0, 0x80, 0]

/-- A packet that ends an IN transfer. -/
def lastPacket (bytes : List Dword) : List Dword :=
  acknowledged ++ [0x04, .ofNat 32 bytes.length] ++ bytes ++ [0]

end Bosconian.Usb
