import Bosconian.Usb.Main

/-!
# What the routines of the driver are made of

A property that the accesses have, the requests and the changes to the tables, and that goes
through sequences and loops, is one of the whole driver. Here each routine is walked through once,
for every such property, and what a routine leaves alone, where it cannot fault or how it keeps to
a protocol are cases of it.

* `AllowsAccesses` — the property is one of accesses: registers, tokens, `bigbuf` and strings.
* `AllowsTransfers` — it is one of following a pointer to an endpoint: a transfer.
* `AllowsRequests`, `AllowsEndpoint`, `AllowsClients` — it is one of requests to an address, of
  changes to one of its endpoints, and of the claim of a device: descriptors, and the probes.
* `AllowsDriver` — it is one of all that the driver does.
-/

namespace Bosconian.Usb

open Scripted

/-! ## Accesses -/

/-- An access that is no part of a transfer, and none that the game sees. -/
def Access.OfHost : Access → Prop
  | .regWr reg _ => reg ≠ rPERADDR ∧ reg ≠ rHXFR
  | .bytesRd _ _ | .bytesWr _ _ | .pioWr .keycode _ => False
  | _ => True

/-- The accesses in `P` are in `T`, and so is what is put together of them. -/
structure AllowsAccesses (P : Access → Prop) (T : (α : Type) → Driver α → Prop) : Prop
    extends Sequential T where
  ask : T Dword ask
  askN : ∀ n, T (List Dword) (askN n)
  emit : ∀ e, P e → T Unit (emit e)

/-- Where the accesses lead, what is put together of them leads. -/
theorem Allows.accesses {P : Access → Prop} {R : World Dword Tables → World Dword Tables → Prop}
    [IsPreorder _ R] (hR : Allows P R) : AllowsAccesses P fun _ m => Moves R m where
  toSequential := Moves.sequential
  ask := hR.ask
  askN := hR.askN
  emit := hR.emit

namespace AllowsAccesses

variable {P : Access → Prop} {T : (α : Type) → Driver α → Prop}

theorem mono {Q : Access → Prop} (hT : AllowsAccesses P T) (h : ∀ e, Q e → P e) :
    AllowsAccesses Q T where
  toSequential := hT.toSequential
  ask := hT.ask
  askN := hT.askN
  emit e he := hT.emit e (h e he)

section

variable (hT : AllowsAccesses P T)
include hT

theorem maxRegRd {reg : Byte} (h : ∀ val, P (.regRd reg val)) : T Byte (maxRegRd reg) := by
  refine hT.bind hT.ask fun val => ?_
  exact hT.bind (hT.emit _ (h _)) fun _ => hT.pure _

theorem maxBytesRd {reg : Byte} (h : ∀ bytes, P (.bytesRd reg bytes)) (nbytes : Byte) :
    T (List Byte) (maxBytesRd reg nbytes) := by
  refine hT.bind (hT.askN _) fun bytes => ?_
  exact hT.bind (hT.emit _ (h _)) fun _ => hT.pure _

theorem pioRd {port : Pio} (h : ∀ val, P (.pioRd port val)) : T Dword (pioRd port) := by
  refine hT.bind hT.ask fun val => ?_
  exact hT.bind (hT.emit _ (h _)) fun _ => hT.pure _

theorem milliseconds (h : ∀ t, P (.ticks t)) : T Dword milliseconds := by
  have hticks : T Dword altNticks := by
    refine hT.bind hT.ask fun t => ?_
    exact hT.bind (hT.emit _ (h t)) fun _ => hT.pure _
  exact hT.bind hticks fun _ => hT.pure _

theorem uninitialised (n : Nat) : T (List Byte) (uninitialised n) :=
  hT.bind (hT.askN n) fun _ => hT.pure _

end

/-! ### Packets -/

section Packets

variable (hT : AllowsAccesses Access.OfTransfer T)
include hT

theorem awaitRound (timeout : Dword) : T (Unit ⊕ Byte) (awaitRound timeout) := by
  refine hT.bind (hT.milliseconds fun _ => trivial) fun ms => ?_
  split
  · refine hT.bind (hT.maxRegRd fun _ => trivial) fun tmpdata => ?_
    split
    · exact hT.bind (hT.emit _ trivial) fun _ => hT.pure _
    · exact hT.pure _
  · exact hT.pure _

theorem dispatchRound (token ep : Byte) (timeout : Dword) (counts : Byte × Byte) :
    T ((Byte × Byte) ⊕ Byte) (dispatchRound token ep timeout counts) := by
  refine hT.bind (hT.emit _ trivial) fun _ => ?_
  refine hT.bind (hT.forever (fun _ => hT.awaitRound timeout) ()) fun rcode => ?_
  split
  · exact hT.pure _
  · exact hT.bind (hT.maxRegRd fun _ => trivial) fun _ => hT.pure _

theorem xferDispatchPkt (token ep : Byte) : T Byte (xferDispatchPkt token ep) := by
  refine hT.bind (hT.milliseconds fun _ => trivial) fun ms => ?_
  exact hT.forever (hT.dispatchRound token ep _) _

theorem receivePkt (ep : Byte) : T (Byte ⊕ Byte × List Byte) (receivePkt ep) := by
  refine hT.bind (hT.xferDispatchPkt tokIN ep) fun rcode => ?_
  split
  · exact hT.pure _
  · refine hT.bind (hT.maxRegRd fun _ => trivial) fun hirq => ?_
    split
    · exact hT.pure _
    · refine hT.bind (hT.maxRegRd fun _ => trivial) fun pktsize => ?_
      refine hT.bind (hT.maxBytesRd (fun _ => trivial) pktsize) fun bytes => ?_
      exact hT.bind (hT.emit _ trivial) fun _ => hT.pure _

theorem xferCtrlND (ep : Byte) (direction : Bool) : T Byte (xferCtrlND ep direction) := by
  unfold Usb.xferCtrlND
  split
  · exact hT.xferDispatchPkt tokOUTHS ep
  · exact hT.xferDispatchPkt tokINHS ep

/-- A request without a data stage. -/
theorem xferCtrlReq_none (addr ep bmReqType bRequest wValLo wValHi : Byte) (wInd nbytes : Word) :
    T (Byte × List Byte)
      (xferCtrlReq addr ep bmReqType bRequest wValLo wValHi wInd nbytes none) := by
  refine hT.bind (hT.emit _ trivial) fun _ => ?_
  refine hT.bind (hT.emit _ trivial) fun _ => ?_
  refine hT.bind (hT.xferDispatchPkt tokSETUP ep) fun rcode => ?_
  split
  · exact hT.pure _
  · exact hT.bind (hT.xferCtrlND ep _) fun _ => hT.pure _

end Packets

/-! ### Memory, and the reset of the controller -/

section Host

variable (hT : AllowsAccesses Access.OfHost T)
include hT

theorem bigbufRd (i : Nat) : T Byte (bigbufRd i) := by
  refine hT.bind (hT.emit _ trivial) fun _ => ?_
  refine hT.bind hT.read fun t => ?_
  split
  · exact hT.pure _
  · exact hT.bind hT.ask fun _ => hT.pure _

theorem bigbufRdWord (i : Nat) : T Word (bigbufRdWord i) := by
  refine hT.bind (hT.bigbufRd i) fun lo => ?_
  exact hT.bind (hT.bigbufRd (i + 1)) fun _ => hT.pure _

theorem convUTF8ToStr (utf8 : List Byte) (length : Byte) :
    T (List Byte) (convUTF8ToStr utf8 length) := by
  have hread (utf8 : List Byte) (i : Nat) : T Byte (stringRd utf8 i) := by
    refine hT.bind (hT.emit _ trivial) fun _ => ?_
    split
    · exact hT.pure _
    · exact hT.bind hT.ask fun _ => hT.pure _
  have hwrite (utf8 : List Byte) (i : Nat) (b : Byte) : T (List Byte) (stringWr utf8 i b) :=
    hT.bind (hT.emit _ trivial) fun _ => hT.pure _
  refine hT.bind (hT.foldlM (fun utf8 i => ?_) _ _) fun utf8 => hwrite utf8 _ _
  exact hT.bind (hread utf8 _) fun _ => hwrite utf8 i _

theorem max3421eReset : T Unit max3421eReset := by
  refine hT.bind (hT.emit _ trivial) fun _ => ?_
  refine hT.bind (hT.emit _ trivial) fun _ => ?_
  refine hT.bind (hT.emit _ ⟨by decide, by decide⟩) fun _ => ?_
  refine hT.bind (hT.emit _ ⟨by decide, by decide⟩) fun _ => ?_
  refine hT.forever (fun _ => hT.bind (hT.maxRegRd fun _ => trivial) fun irq => ?_) ()
  split
  · exact hT.pure _
  · exact hT.pure _

end Host

end AllowsAccesses

/-! ## Transfers -/

/-- And so is to follow `devtable[addr].epinfo[ep]`, for the record or to set its toggle. -/
structure AllowsTransfers (addr ep : Byte) (T : (α : Type) → Driver α → Prop) : Prop
    extends AllowsAccesses Access.OfTransfer T where
  epRecord : T EpRecord (epRecord addr ep)
  setToggle : ∀ toggle, T Unit (setEpRecord addr ep fun r => { r with rcvToggle := toggle })

namespace AllowsTransfers

variable {addr ep : Byte} {T : (α : Type) → Driver α → Prop} (hT : AllowsTransfers addr ep T)
include hT

theorem saveToggle : T Unit (saveToggle addr ep) := by
  refine hT.bind (hT.maxRegRd fun _ => trivial) fun hrsl => ?_
  split
  · exact hT.setToggle _
  · exact hT.setToggle _

theorem countPkt (nbytes : Word) (maxpktsize pktsize : Byte) (xfrlen : Word) (data : Cursor) :
    T ((Word × Cursor) ⊕ Byte × Cursor)
      (countPkt addr ep nbytes maxpktsize pktsize xfrlen data) := by
  unfold Usb.countPkt
  split
  · exact hT.bind hT.saveToggle fun _ => hT.pure _
  · exact hT.pure _

theorem inRound (nbytes : Word) (maxpktsize : Byte) (s : Word × Cursor) :
    T ((Word × Cursor) ⊕ Byte × Cursor) (inRound addr ep nbytes maxpktsize s) := by
  refine hT.bind (hT.receivePkt ep) ?_
  rintro (rcode | ⟨pktsize, bytes⟩)
  · exact hT.pure _
  · exact hT.countPkt nbytes maxpktsize pktsize _ _

theorem xferInTransfer (nbytes : Word) (data : List Byte) (maxpktsize : Byte) :
    T (Byte × List Byte) (xferInTransfer addr ep nbytes data maxpktsize) := by
  refine hT.bind hT.epRecord fun r => ?_
  refine hT.bind (hT.emit _ trivial) fun _ => ?_
  exact hT.bind (hT.forever (hT.inRound nbytes maxpktsize) _) fun _ => hT.pure _

theorem xferCtrlData (nbytes : Word) (dataptr : List Byte) (direction : Bool) :
    T (Byte × List Byte) (xferCtrlData addr ep nbytes dataptr direction) := by
  unfold Usb.xferCtrlData
  split
  · refine hT.bind (hT.setToggle _) fun _ => ?_
    refine hT.bind hT.epRecord fun r => ?_
    refine hT.bind (hT.xferInTransfer nbytes dataptr _) ?_
    rintro ⟨rcode, data⟩
    show T (Byte × List Byte) (if rcode ≠ 0 then _ else _)
    split
    · exact hT.pure _
    · exact hT.bind (hT.xferDispatchPkt tokOUTHS ep) fun _ => hT.pure _
  · exact hT.pure _

theorem xferCtrlReq (bmReqType bRequest wValLo wValHi : Byte) (wInd nbytes : Word)
    (dataptr : Option (List Byte)) :
    T (Byte × List Byte)
      (xferCtrlReq addr ep bmReqType bRequest wValLo wValHi wInd nbytes dataptr) := by
  cases dataptr with
  | none => exact hT.xferCtrlReq_none addr ep bmReqType bRequest wValLo wValHi wInd nbytes
  | some data =>
    refine hT.bind (hT.emit _ trivial) fun _ => ?_
    refine hT.bind (hT.emit _ trivial) fun _ => ?_
    refine hT.bind (hT.xferDispatchPkt tokSETUP ep) fun rcode => ?_
    split
    · exact hT.pure _
    · exact hT.xferCtrlData nbytes data _

end AllowsTransfers

/-! ## Requests -/

/-- And so are the requests to `addr` that have a place for what they ask for. -/
structure AllowsRequests (addr : Byte) (T : (α : Type) → Driver α → Prop) : Prop
    extends AllowsAccesses Access.OfHost T where
  request : ∀ {bmReqType : Byte} (bRequest wValLo wValHi : Byte) (wInd nbytes : Word)
    {dataptr : Option (List Byte)}, (bmReqType &&& 0x80 ≠ 0 ↔ dataptr.isSome) →
    T (Byte × List Byte) (xferCtrlReq addr 0 bmReqType bRequest wValLo wValHi wInd nbytes dataptr)

namespace AllowsRequests

variable {addr : Byte} {T : (α : Type) → Driver α → Prop}

section

variable (hT : AllowsRequests addr T)
include hT

/-- A request for data. -/
theorem dataIn {bmReqType : Byte} (h : bmReqType &&& 0x80 ≠ 0) (bRequest wValLo wValHi : Byte)
    (wInd nbytes : Word) (data : List Byte) :
    T (Byte × List Byte)
      (xferCtrlReq addr 0 bmReqType bRequest wValLo wValHi wInd nbytes (some data)) :=
  hT.request bRequest wValLo wValHi wInd nbytes (iff_of_true h rfl)

theorem noData {bmReqType : Byte} (h : bmReqType &&& 0x80 = 0) (bRequest wValLo wValHi : Byte)
    (wInd : Word) :
    T Byte (do
      return (← xferCtrlReq addr 0 bmReqType bRequest wValLo wValHi wInd 0 none).1) := by
  have hdir : bmReqType &&& 0x80 ≠ 0 ↔ (none : Option (List Byte)).isSome :=
    iff_of_false (not_not.2 h) Bool.false_ne_true
  exact hT.bind (hT.request bRequest wValLo wValHi wInd 0 hdir) fun _ => hT.pure _

theorem xferSetAddr (newaddr : Byte) : T Byte (xferSetAddr addr 0 newaddr) :=
  hT.noData (by decide) _ _ _ _

theorem xferSetConf (confValue : Byte) : T Byte (xferSetConf addr 0 confValue) :=
  hT.noData (by decide) _ _ _ _

theorem xferSetProto (interface protocol : Byte) :
    T Byte (xferSetProto addr 0 interface protocol) :=
  hT.noData (by decide) _ _ _ _

end

theorem fetchString (hT : AllowsRequests 0 T) (index : Byte) : T Unit (fetchString index) := by
  refine hT.bind (hT.uninitialised 256) fun strDesc => ?_
  refine hT.bind (hT.dataIn (by decide) _ _ _ _ _ _) fun _ => ?_
  refine hT.bind (hT.dataIn (by decide) _ _ _ _ _ _) fun _ => ?_
  exact hT.bind (hT.convUTF8ToStr _ _) fun _ => hT.pure _

theorem getDriverandReport (hT : AllowsRequests mainAddr T) : T Byte getDriverandReport := by
  refine hT.bind hT.read fun t => ?_
  refine hT.bind (hT.uninitialised 1) fun tmpbyte => ?_
  refine hT.bind (hT.dataIn (by decide) _ _ _ _ _ _) fun _ => ?_
  exact hT.bind (hT.dataIn (by decide) _ _ _ _ _ _) fun _ => hT.pure _

end AllowsRequests

/-! ## Descriptors and probes -/

/-- And so is an assignment to the record of the endpoint `ep` of `addr`. -/
structure AllowsEndpoint (addr ep : Byte) (T : (α : Type) → Driver α → Prop) : Prop
    extends AllowsRequests addr T where
  setEpRecord : ∀ g, T Unit (setEpRecord addr ep g)

namespace AllowsEndpoint

variable {addr : Byte} {T : (α : Type) → Driver α → Prop}

theorem getDeviceDescriptor (hT : AllowsEndpoint 0 0 T) : T Byte getDeviceDescriptor := by
  refine hT.bind (hT.setEpRecord _) fun _ => ?_
  refine hT.bind (hT.uninitialised 18) fun buf => ?_
  refine hT.bind (hT.dataIn (by decide) _ _ _ _ _ _) ?_
  rintro ⟨rcode, buf⟩
  show T Byte (if rcode ≠ 0 then _ else _)
  split
  · exact hT.pure _
  · refine hT.bind (hT.setEpRecord _) fun _ => ?_
    refine hT.bind (hT.dataIn (by decide) _ _ _ _ _ _) fun _ => ?_
    refine hT.bind (hT.onlyIf fun _ => hT.fetchString _) fun _ => ?_
    exact hT.bind (hT.onlyIf fun _ => hT.fetchString _) fun _ => hT.pure _

section Configure

variable (hT : AllowsEndpoint addr 1 T)
include hT

theorem configureEndpoint (confvalue : Byte) (p : Nat) :
    T Bool (configureEndpoint addr confvalue p) := by
  refine hT.bind (hT.bigbufRd _) fun epAddr => ?_
  refine hT.bind (hT.setEpRecord _) fun _ => ?_
  refine hT.bind (hT.bigbufRd _) fun attr => ?_
  refine hT.bind (hT.setEpRecord _) fun _ => ?_
  refine hT.bind (hT.bigbufRdWord _) fun maxPktSize => ?_
  refine hT.bind (hT.setEpRecord _) fun _ => ?_
  refine hT.bind (hT.bigbufRd _) fun interval => ?_
  refine hT.bind (hT.setEpRecord _) fun _ => ?_
  refine hT.bind (hT.xferSetConf confvalue) fun rcode => ?_
  split
  · exact hT.pure _
  · refine hT.bind hT.read fun t => ?_
    exact hT.bind (hT.xferSetProto _ _) fun _ => hT.pure _

theorem endpointRound (confvalue : Byte) (totalLength p : Nat) :
    T (Nat ⊕ Bool) (endpointRound addr confvalue totalLength p) := by
  unfold Usb.endpointRound
  split
  · refine hT.bind (hT.bigbufRd _) fun type => ?_
    split
    · exact hT.bind (hT.bigbufRd _) fun _ => hT.pure _
    · exact hT.bind (hT.configureEndpoint confvalue p) fun _ => hT.pure _
  · exact hT.pure _

end Configure

end AllowsEndpoint

/-- And so is the claim of an interface of `addr`, and to read its configuration. -/
structure AllowsClients (addr : Byte) (T : (α : Type) → Driver α → Prop) : Prop
    extends AllowsEndpoint addr 1 T where
  claimInterface : ∀ devclass p, T Unit (claimInterface addr devclass p)
  confDescr : ∀ nbytes, T Byte (confDescrToBigbuf addr nbytes)

section Clients

variable {addr : Byte} {T : (α : Type) → Driver α → Prop}

theorem sequential_runProbes (hT : Sequential T) {probes : List (Byte → Driver Bool)}
    (h : ∀ probe ∈ probes, T Bool (probe addr)) : T Bool (runProbes addr probes) := by
  induction probes with
  | nil => exact hT.pure _
  | cons probe probes ih =>
    obtain ⟨hprobe, hprobes⟩ := List.forall_mem_cons.1 h
    refine hT.bind hprobe fun found => ?_
    split
    · exact hT.pure _
    · exact ih hprobes

/-- Of the four drivers two do something. -/
theorem sequential_clientDrivers (hT : Sequential T)
    (h : ∀ protocol devclass, T Bool (bootProbe protocol devclass addr)) :
    T Bool (runProbes addr clientDriverTable) := by
  refine sequential_runProbes hT fun probe hprobe => ?_
  simp only [clientDriverTable, List.mem_cons, List.not_mem_nil, or_false] at hprobe
  rcases hprobe with rfl | rfl | rfl | rfl
  · exact hT.pure _
  · exact h _ _
  · exact h _ _
  · exact hT.pure _

variable (hT : AllowsClients addr T)
include hT

theorem AllowsClients.interfaceRound (protocol devclass confvalue : Byte) (totalLength p : Nat) :
    T (Nat ⊕ Bool) (interfaceRound addr protocol devclass confvalue totalLength p) := by
  unfold Usb.interfaceRound
  split
  · refine hT.bind (hT.bigbufRd _) fun type => ?_
    split
    · exact hT.bind (hT.bigbufRd _) fun _ => hT.pure _
    · refine hT.bind (hT.bigbufRd _) fun cls => ?_
      refine hT.bind (hT.bigbufRd _) fun subclass => ?_
      refine hT.bind (hT.bigbufRd _) fun proto => ?_
      split
      · refine hT.bind (hT.claimInterface devclass p) fun _ => ?_
        refine hT.bind (hT.bigbufRd _) fun bLength => ?_
        exact hT.bind (hT.loop (hT.endpointRound _ _) _ _) fun _ => hT.pure _
      · exact hT.pure _
  · exact hT.pure _

theorem AllowsClients.bootProbe (protocol devclass : Byte) :
    T Bool (bootProbe protocol devclass addr) := by
  refine hT.bind (hT.confDescr _) fun rcode => ?_
  split
  · exact hT.pure _
  · refine hT.bind (hT.bigbufRdWord 2) fun wTotalLength => ?_
    refine hT.bind (hT.confDescr _) fun rcode => ?_
    split
    · exact hT.pure _
    · refine hT.bind (hT.bigbufRd 5) fun confvalue => ?_
      exact hT.loop (hT.interfaceRound protocol devclass _ _) _ _

theorem AllowsClients.clientDrivers : T Bool (runProbes addr clientDriverTable) :=
  sequential_clientDrivers hT.toSequential hT.bootProbe

end Clients

/-! ## The driver -/

/-- All that the driver does is in `T`: accesses and requests, changes to the tables, and to read a
configuration into `bigbuf`. -/
structure AllowsDriver (T : (α : Type) → Driver α → Prop) : Prop where
  requests : ∀ addr, AllowsRequests addr T
  tables : ∀ {α : Type} {m : Driver α}, Accesses (fun _ => False) m → T α m
  confDescr : ∀ addr nbytes, T Byte (confDescrToBigbuf addr nbytes)

namespace AllowsDriver

variable {T : (α : Type) → Driver α → Prop} (hT : AllowsDriver T)
include hT

theorem accesses : AllowsAccesses Access.OfHost T := (hT.requests 0).toAllowsAccesses

theorem endpoint (addr ep : Byte) : AllowsEndpoint addr ep T where
  toAllowsRequests := hT.requests addr
  setEpRecord g := hT.tables (accesses_setEpRecord addr ep g)

theorem claimInterface (addr devclass : Byte) (p : Nat) :
    T Unit (claimInterface addr devclass p) := by
  have hbind {α β : Type} {m : Driver α} {f : α → Driver β} (hm : T α m) (hf : ∀ a, T β (f a)) :
      T β (m >>= f) := hT.accesses.bind hm hf
  refine hbind (hT.tables (accesses_setDevRecord addr _)) fun _ => ?_
  refine hbind (hT.tables (accesses_epRecord addr 0)) fun _ => ?_
  refine hbind (hT.tables (Accesses.update fun _ => ⟨rfl, rfl⟩)) fun _ => ?_
  refine hbind (hT.tables (accesses_setDevRecord addr _)) fun _ => ?_
  refine hbind (hT.tables (accesses_setEpRecord addr 0 _)) fun _ => ?_
  refine hbind (hT.accesses.bigbufRd _) fun interface => ?_
  exact hT.tables (Accesses.update fun _ => ⟨rfl, rfl⟩)

theorem clients (addr : Byte) : AllowsClients addr T where
  toAllowsEndpoint := hT.endpoint addr 1
  claimInterface := hT.claimInterface addr
  confDescr := hT.confDescr addr

theorem usbInit : T Unit usbInit := hT.tables (Accesses.update fun _ => ⟨rfl, rfl⟩)

end AllowsDriver

end Bosconian.Usb
