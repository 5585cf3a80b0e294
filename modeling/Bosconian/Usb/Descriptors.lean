import Bosconian.EventMachine
import Bosconian.Usb.Frame

/-!
# What the probe finds and what the poll uses

A configuration descriptor is a chain of descriptors, each as long as its first byte says. The
probes look for the first interface descriptor and, when it is the one they want, for the first
endpoint descriptor after it; whether that one belongs to the interface, or is an IN endpoint, they
do not ask, and of what they store of it the polls use one byte, the low one of `wMaxPacketSize`.

* `matchedInterface`, `ownEndpoints`, `firstEndpoint` — of the bytes in memory from `bigbuf` on.
* `found_of_probe` — what a probe that returns `TRUE` has found, and stored.
* `poll_eq` — a poll is a call of `XferInTransfer` with `pollArgs`.
* `poll_as_probed_iff` — when the polls use an endpoint of the interface.
-/

namespace Bosconian.Usb

open Scripted EventMachine

/-! ## Descriptors in memory -/

section Fields

variable (mem : List Byte)

def byteAt (i : Nat) : Byte := mem.getD i 0

def wordAt (i : Nat) : Word := byteAt mem (i + 1) ++ byteAt mem i

def bLength (p : Nat) : Byte := byteAt mem p
def bDescriptorType (p : Nat) : Byte := byteAt mem (p + 1)

def wTotalLength (p : Nat) : Word := wordAt mem (p + 2)

def bInterfaceClass (p : Nat) : Byte := byteAt mem (p + 5)
def bInterfaceSubClass (p : Nat) : Byte := byteAt mem (p + 6)
def bInterfaceProtocol (p : Nat) : Byte := byteAt mem (p + 7)

def bEndpointAddress (p : Nat) : Byte := byteAt mem (p + 2)
def wMaxPacketSize (p : Nat) : Word := wordAt mem (p + 4)

def isInterface (p : Nat) : Bool := bDescriptorType mem p = usbDescriptorInterface
def isEndpoint (p : Nat) : Bool := bDescriptorType mem p = usbDescriptorEndpoint

def isBootInterface (protocol : Byte) (p : Nat) : Bool :=
  bInterfaceClass mem p = hidIntf ∧ bInterfaceSubClass mem p = bootIntfSubclass ∧
    bInterfaceProtocol mem p = protocol

end Fields

section Chain

variable (mem : List Byte) (totalLength : Nat)

/-- The descriptors from `p` on, at most so many, by where they start. -/
def descriptors : Nat → Nat → List Nat
  | 0, _ => []
  | n + 1, p =>
    if p < totalLength then p :: descriptors n (p + (bLength mem p).toNat) else []

/-- All of them: each but the last is at least one byte long, or the chain goes round in place. -/
def descriptorsFrom (p : Nat) : List Nat := descriptors mem totalLength (scanFuel totalLength) p

/-- The first interface descriptor, if it is of the boot protocol that is looked for. -/
def matchedInterface (protocol : Byte) : Option Nat :=
  ((descriptorsFrom mem totalLength 0).find? (isInterface mem)).filter
    (isBootInterface mem protocol)

/-- The descriptors that follow the one at `p`. -/
def descriptorsAfter (p : Nat) : List Nat :=
  descriptorsFrom mem totalLength (p + (bLength mem p).toNat)

/-- The endpoint descriptors between the interface descriptor at `p` and the next one. -/
def ownEndpoints (p : Nat) : List Nat :=
  ((descriptorsAfter mem totalLength p).takeWhile fun q => !isInterface mem q).filter
    (isEndpoint mem)

/-- The first endpoint descriptor that follows at all. -/
def firstEndpoint (p : Nat) : Option Nat :=
  (descriptorsAfter mem totalLength p).find? (isEndpoint mem)

/-- The interface at `p` has an IN endpoint `ep` with packets of `size` bytes. -/
def HasInEndpoint (p : Nat) (ep size : Byte) : Prop :=
  ∃ q ∈ ownEndpoints mem totalLength p, bEndpointAddress mem q &&& 0x80 ≠ 0 ∧
    bEndpointAddress mem q &&& 0x0f = ep ∧ wMaxPacketSize mem q = size.setWidth 16

instance (p : Nat) (ep size : Byte) : Decidable (HasInEndpoint mem totalLength p ep size) := by
  unfold HasInEndpoint; infer_instance

end Chain

/-! ## The devices -/

/-- The two devices that there is a driver for. -/
inductive BootDevice
  | keyboard
  | mouse
deriving DecidableEq, Repr

namespace BootDevice

def protocol : BootDevice → Byte
  | keyboard => hidProtocolKeyboard
  | mouse => hidProtocolMouse

def probe : BootDevice → Byte → Driver Bool
  | keyboard => hidkProbe
  | mouse => hidmProbe

def poll : BootDevice → List Byte → Driver (Byte × List Byte)
  | keyboard => kbdPoll
  | mouse => mousePoll

end BootDevice

/-- What a poll does up to the call of `XferInTransfer`: address, endpoint and packet size that it
passes. -/
def pollArgs : Driver (Byte × Byte × Byte) := do
  let addr := (← read).hidDevice.addr
  maxRegWr rPERADDR addr
  let r ← epRecord addr 1
  return (addr, 1, r.maxPktSize.setWidth 8)

theorem poll_eq (d : BootDevice) (buf : List Byte) :
    d.poll buf = (do
      let (addr, ep, maxpktsize) ← pollArgs
      xferInTransfer addr ep 8 buf maxpktsize) := by
  have hpoll : d.poll buf = bootPoll buf := by cases d <;> rfl
  rw [hpoll, bootPoll, pollArgs]
  simp only [bind_assoc, pure_bind]

/-- What `main` does with a device once it runs. -/
inductive DeviceUse
  | report
  | poll (d : BootDevice) (buf : List Byte)
deriving DecidableEq, Repr

def DeviceUse.exec : DeviceUse → Driver Unit
  | report => do
    let _ ← getDriverandReport
  | poll d buf => do
    let _ ← d.poll buf

/-- One use of the device, with the answers to it. -/
def useStep (t : Tables) (e : DeviceUse × List Dword) : Tables := (final e.1.exec ⟨e.2, t⟩).st

/-! ## Memory -/

/-- No descriptor starts behind `bigbuf`, and the last byte that is read of one is its eighth. -/
def scanReach : Nat := 256 + 7

/-- The tables, with what lies in memory behind `bigbuf`. -/
def Tables.withBehind (t : Tables) (behind : Vector Byte scanReach) : Tables :=
  { t with bigbuf := t.bigbuf ++ behind.toList }

/-- `wTotalLength` as the first request leaves it in memory, cut to the size of `bigbuf`. -/
def totalLengthRead (addr : Byte) (w : World Dword Tables) : Nat :=
  let wTotalLength := wTotalLength (final (confDescrToBigbuf addr confDescrLen) w).st.bigbuf 0
  let totalLength : Word := if 256 < wTotalLength then 256 else wTotalLength
  totalLength.toNat

/-- No more counts of a configuration than fits into `bigbuf`. -/
theorem cut_le (wTotalLength : Word) :
    (if 256 < wTotalLength then 256 else wTotalLength : Word).toNat ≤ 256 := by
  split
  · exact Nat.le_refl 256
  · next h => simpa [BitVec.lt_def] using h

theorem totalLengthRead_le (addr : Byte) (w : World Dword Tables) :
    totalLengthRead addr w ≤ 256 := cut_le _

section Length

theorem length_write (data : Cursor) (bs : List Byte) :
    data.bytes.length ≤ (data.write bs).bytes.length := by
  simp only [Cursor.write, List.length_append, List.length_take, List.length_drop]
  omega

variable {n : Nat}

/-- A transfer does not shorten its destination. -/
theorem triple_xferInTransfer (addr ep : Byte) (nbytes : Word) {data : List Byte}
    (hdata : n ≤ data.length) (maxpktsize : Byte) :
    Triple (fun _ => True) (xferInTransfer addr ep nbytes data maxpktsize)
      (fun r _ => n ≤ r.2.length) fun _ => True := by
  have hround (s : Word × Cursor) : Triple (fun _ => n ≤ s.2.bytes.length)
      (inRound addr ep nbytes maxpktsize s)
      (fun r _ => Sum.elim (fun s => n ≤ s.2.bytes.length) (fun r => n ≤ r.2.bytes.length) r)
      fun _ => True := by
    obtain ⟨xfrlen, data⟩ := s
    refine Triple.fact fun hs => Triple.skip fun pkt => ?_
    rcases pkt with rcode | ⟨p, bytes⟩
    · exact Triple.pure fun _ _ => hs
    · have hwrite : n ≤ (data.write bytes).bytes.length := hs.trans (length_write data bytes)
      show Triple _ (countPkt _ _ _ _ _ _ _) _ _
      unfold countPkt
      split
      · exact Triple.skip fun _ => Triple.pure fun _ _ => hwrite
      · exact Triple.pure fun _ _ => hwrite
  refine Triple.skip fun r => Triple.skip fun _ => Triple.bind
    ((Triple.forever hround (fun _ _ _ => trivial) (0, ⟨data, 0⟩)).pre fun _ _ => hdata) ?_
  rintro ⟨rcode, data⟩
  exact Triple.pure fun _ h => h

theorem triple_xferCtrlReq (addr ep bmReqType bRequest wValLo wValHi : Byte)
    (wInd nbytes : Word) {data : List Byte} (hdata : n ≤ data.length) :
    Triple (fun _ => True)
      (xferCtrlReq addr ep bmReqType bRequest wValLo wValHi wInd nbytes (some data))
      (fun r _ => n ≤ r.2.length) fun _ => True := by
  refine Triple.skip fun _ => Triple.skip fun _ => Triple.skip fun rcode => ?_
  split
  · exact Triple.pure fun _ _ => hdata
  · show Triple _ (xferCtrlData _ _ _ _ _) _ _
    unfold xferCtrlData
    split
    · refine Triple.skip fun _ => Triple.skip fun r =>
        Triple.bind (triple_xferInTransfer addr ep nbytes hdata _) ?_
      rintro ⟨rcode, data⟩
      refine Triple.fact fun hlen => ?_
      show Triple _ (if rcode ≠ 0 then _ else _) _ _
      split
      · exact Triple.pure fun _ _ => hlen
      · exact Triple.skip fun _ => Triple.pure fun _ _ => hlen
    · exact Triple.pure fun _ _ => hdata

/-- What is known of the memory from `bigbuf` on stays known. -/
theorem triple_confDescrToBigbuf (addr : Byte) (nbytes : Word) :
    Triple (fun t => n ≤ t.bigbuf.length) (confDescrToBigbuf addr nbytes)
      (fun _ t => n ≤ t.bigbuf.length) fun _ => True := by
  refine Triple.read_bind fun t ht => Triple.bind
    ((triple_xferCtrlReq addr 0 _ _ _ _ _ nbytes ht).pre fun _ _ => trivial) ?_
  rintro ⟨rcode, bytes⟩
  exact Triple.fact fun hlen => Triple.bind (Triple.update fun _ _ => hlen) fun _ =>
    Triple.pure fun _ h => h

end Length

/-! ## The scan -/

/-- `P` has `mem` in memory, and accesses do not count for it. -/
structure Steady (mem : List Byte) (P : Tables → Prop) : Prop where
  log : ∀ e t, P t → P { t with log := t.log ++ [e] }
  bigbuf : ∀ t, P t → t.bigbuf = mem

/-- A byte that is known is read as it is. -/
theorem triple_bigbufRd {β : Type} {mem : List Byte} {P C : Tables → Prop} (hP : Steady mem P)
    {i : Nat} (hi : i < mem.length) {f : Byte → Driver β} {R : β → Tables → Prop}
    (hf : Triple P (f (byteAt mem i)) R C) : Triple P (bigbufRd i >>= f) R C := by
  intro w hw
  have hbyte : w.st.bigbuf[i]? = some (byteAt mem i) := by
    rw [hP.bigbuf w.st hw, byteAt, List.getD_eq_getElem?_getD, List.getElem?_eq_getElem hi]
    rfl
  let v : World Dword Tables := ⟨w.script, { w.st with log := w.st.log ++ [.bigbufRd i] }⟩
  have hemit : emit (.bigbufRd i) w = .ok () v := rfl
  have hread : (read : Driver Tables) v = .ok v.st v := rfl
  have hrun : bigbufRd i w = .ok (byteAt mem i) v := by
    rw [bigbufRd, bind_ok hemit, bind_ok hread, hbyte]
    rfl
  rw [bind_ok hrun]
  exact hf _ (hP.log _ _ hw)

theorem triple_bigbufRdWord {β : Type} {mem : List Byte} {P C : Tables → Prop}
    (hP : Steady mem P) {i : Nat} (hi : i + 1 < mem.length) {f : Word → Driver β}
    {R : β → Tables → Prop} (hf : Triple P (f (wordAt mem i)) R C) :
    Triple P (bigbufRdWord i >>= f) R C := by
  rw [bigbufRdWord, bind_assoc]
  refine triple_bigbufRd hP (Nat.lt_of_succ_lt hi) ?_
  rw [bind_assoc]
  refine triple_bigbufRd hP hi ?_
  rw [pure_bind]
  exact hf

/-- The device at `addr` has been matched, with `mem` in memory. -/
structure Claimed (mem : List Byte) (addr : Byte) (t : Tables) : Prop where
  bigbuf : t.bigbuf = mem
  addr_eq : t.hidDevice.addr = addr
  epinfo : t.devtable[addr.toNat]?.map (·.epinfo) = some .hidEp

/-- And the endpoint descriptor at `e` has been taken over. -/
structure Configured (mem : List Byte) (addr : Byte) (e : Nat) (t : Tables) : Prop
    extends Claimed mem addr t where
  maxPktSize : (t.epRecord (.hidEp 1)).maxPktSize = wMaxPacketSize mem e

/-- What the polls, and the requests before them, leave of the tables. -/
def probed (t : Tables) : List Byte × Vector DevRecord (usbNumdevices + 1) × HidDevice × Word :=
  (t.bigbuf, t.devtable, t.hidDevice, (t.epRecord (.hidEp 1)).maxPktSize)

theorem transferFree_probed : TransferFree probed where
  log _ _ := rfl
  rcvToggle b slot t := by
    cases slot with
    | dev0ep => rfl
    | hidEp i =>
      match i with
      | 0 => simp [probed, Tables.setEpRecord, Tables.epRecord]
      | 1 => simp [probed, Tables.setEpRecord, Tables.epRecord]

theorem Configured.of_probed {mem : List Byte} {addr : Byte} {e : Nat} {s t : Tables}
    (h : Configured mem addr e s) (hst : probed s = probed t) : Configured mem addr e t := by
  simp only [probed, Prod.mk.injEq] at hst
  obtain ⟨hbuf, hdev, hhid, hsize⟩ := hst
  exact ⟨⟨hbuf ▸ h.bigbuf, hhid ▸ h.addr_eq, hdev ▸ h.epinfo⟩, hsize ▸ h.maxPktSize⟩

theorem Claimed.epSlot {mem : List Byte} {addr : Byte} {t : Tables} (h : Claimed mem addr t) :
    t.epSlot addr 1 = some (.hidEp 1) := by
  have hepinfo := h.epinfo
  unfold Tables.epSlot
  rcases hd : t.devtable[addr.toNat]? with _ | d <;> rw [hd] at hepinfo
  · cases hepinfo
  · have hd : d.epinfo = .hidEp := by simpa using hepinfo
    simp [hd]

theorem steady_bigbuf (mem : List Byte) : Steady mem fun t => t.bigbuf = mem where
  log _ _ h := h
  bigbuf _ h := h

section Scan

variable {mem : List Byte} {addr : Byte} {C : Tables → Prop}

theorem Claimed.steady : Steady mem (Claimed mem addr) where
  log _ _ h := ⟨h.bigbuf, h.addr_eq, h.epinfo⟩
  bigbuf _ h := h.bigbuf

theorem steady_claimed (F : EpRecord → Prop) :
    Steady mem fun t => Claimed mem addr t ∧ F (t.epRecord (.hidEp 1)) where
  log _ _ h := ⟨⟨h.1.bigbuf, h.1.addr_eq, h.1.epinfo⟩, h.2⟩
  bigbuf _ h := h.1.bigbuf

/-- An assignment to the record of endpoint 1, which is there. -/
theorem triple_setEpRecord (F G : EpRecord → Prop) {g : EpRecord → EpRecord}
    (hg : ∀ r, F r → G (g r)) :
    Triple (fun t => Claimed mem addr t ∧ F (t.epRecord (.hidEp 1))) (setEpRecord addr 1 g)
      (fun _ t => Claimed mem addr t ∧ G (t.epRecord (.hidEp 1))) C := by
  refine Triple.read_bind fun t ht => ?_
  obtain ⟨hclaimed, hF⟩ := ht
  rw [hclaimed.epSlot]
  refine Triple.update ?_
  rintro s rfl
  have hrecord : (s.setEpRecord (g (s.epRecord (.hidEp 1))) (.hidEp 1)).epRecord (.hidEp 1) =
      g (s.epRecord (.hidEp 1)) := by
    simp [Tables.setEpRecord, Tables.epRecord]
  exact ⟨⟨hclaimed.bigbuf, hclaimed.addr_eq, hclaimed.epinfo⟩, by rw [hrecord]; exact hg _ hF⟩

variable (hmem : scanReach ≤ mem.length)
include hmem

/-- What is taken over of an endpoint descriptor, whatever the requests after it return. -/
theorem triple_configureEndpoint (confvalue : Byte) {p : Nat} (hp : p < 256) :
    Triple (Claimed mem addr) (configureEndpoint addr confvalue p)
      (fun _ t => Configured mem addr p t) fun _ => True := by
  have hread {i : Nat} (hi : i ≤ 6) : p + i < mem.length := by
    have hreach : scanReach = 263 := rfl
    omega
  have hkeeps {α : Type} {m : Driver α} (hm : Preserves probed m) :
      Triple (Configured mem addr p) m (fun _ => Configured mem addr p) fun _ => True :=
    Keeps.triple (hm.keeps fun _ _ heq h => h.of_probed heq) fun _ _ => trivial
  let unset : EpRecord → Prop := fun _ => True
  let set : EpRecord → Prop := fun r => r.maxPktSize = wMaxPacketSize mem p
  have hunset (g : EpRecord → EpRecord) :
      Triple (fun t => Claimed mem addr t ∧ unset (t.epRecord (.hidEp 1))) (setEpRecord addr 1 g)
        (fun _ t => Claimed mem addr t ∧ unset (t.epRecord (.hidEp 1))) fun _ => True :=
    triple_setEpRecord unset unset fun _ _ => trivial
  refine Triple.pre (P := fun t => Claimed mem addr t ∧ unset (t.epRecord (.hidEp 1))) ?_ fun _ h =>
    ⟨h, trivial⟩
  refine triple_bigbufRd (steady_claimed unset) (hread (by decide)) ?_
  refine Triple.bind (hunset _) fun _ => ?_
  refine triple_bigbufRd (steady_claimed unset) (hread (by decide)) ?_
  refine Triple.bind (hunset _) fun _ => ?_
  refine triple_bigbufRdWord (steady_claimed unset) (hread (i := 5) (by decide)) ?_
  refine Triple.bind (triple_setEpRecord unset set fun _ _ => rfl) fun _ => ?_
  refine triple_bigbufRd (steady_claimed set) (hread (by decide)) ?_
  refine Triple.bind (triple_setEpRecord set set fun _ h => h) fun _ => ?_
  have hf := transferFree_probed
  refine Triple.pre (P := Configured mem addr p) ?_ fun _ h => ⟨h.1, h.2⟩
  refine Triple.bind (hkeeps (preserves_xferSetConf hf _ _ _)) fun rcode => ?_
  split
  · exact Triple.pure fun _ => id
  · exact hkeeps (Moves.bind Moves.read fun _ =>
      Moves.bind (preserves_xferSetProto hf _ _ _ _) fun _ => Moves.pure _)

/-- The inner loop takes over the first endpoint descriptor on its way. -/
theorem triple_endpointLoop (confvalue : Byte) {totalLength : Nat} (htotal : totalLength ≤ 256)
    (n p : Nat) :
    Triple (Claimed mem addr) (loop (endpointRound addr confvalue totalLength) n p)
      (fun found t => found = true →
        ∃ e ∈ (descriptors mem totalLength n p).find? (isEndpoint mem), Configured mem addr e t)
      fun _ => True := by
  have hreach : scanReach = 263 := rfl
  induction n generalizing p with
  | zero => exact Triple.halt _ fun _ _ => trivial
  | succ n ih =>
    rw [loop, endpointRound, descriptors]
    by_cases hp : p < totalLength
    · rw [if_pos hp, if_pos hp, bind_assoc]
      refine triple_bigbufRd Claimed.steady (by omega) ?_
      by_cases htype : byteAt mem (p + 1) = usbDescriptorEndpoint
      · have hendpoint : isEndpoint mem p = true := decide_eq_true htype
        rw [if_neg (not_not.2 htype), List.find?_cons_of_pos hendpoint, bind_assoc]
        refine Triple.bind (triple_configureEndpoint hmem confvalue (by omega)) fun found => ?_
        rw [pure_bind]
        exact Triple.pure fun t ht _ => ⟨p, rfl, ht⟩
      · have hendpoint : ¬ isEndpoint mem p = true := by simp [isEndpoint, bDescriptorType, htype]
        rw [if_pos htype, List.find?_cons_of_neg hendpoint, bind_assoc]
        refine triple_bigbufRd Claimed.steady (by omega) ?_
        rw [pure_bind]
        exact ih _
    · rw [if_neg hp, pure_bind]
      refine Triple.pure fun t _ hfound => ?_
      cases hfound

omit hmem in
theorem triple_setDevRecord (g : DevRecord → DevRecord) :
    Triple (fun t => t.bigbuf = mem) (setDevRecord addr g)
      (fun _ t => t.bigbuf = mem ∧ ∃ d, t.devtable[addr.toNat]? = some (g d)) fun _ => True := by
  refine Triple.read_bind fun t ht => ?_
  split
  · next haddr =>
    refine Triple.update ?_
    rintro s rfl
    exact ⟨ht, _, Vector.getElem?_set_self haddr⟩
  · exact Triple.halt _ fun _ _ => trivial

/-- The tables once the interface descriptor at `p` has matched. -/
theorem triple_claimInterface (devclass : Byte) {p : Nat} (hp : p < 256) :
    Triple (fun t => t.bigbuf = mem) (claimInterface addr devclass p)
      (fun _ => Claimed mem addr) fun _ => True := by
  have hreach : scanReach = 263 := rfl
  let owns : Tables → Prop := fun t =>
    t.bigbuf = mem ∧ t.devtable[addr.toNat]?.map (·.epinfo) = some .hidEp
  have howns : Steady mem owns := ⟨fun _ _ h => h, fun _ h => h.1⟩
  have hset {g : EpRecord → EpRecord} :
      Triple owns (setEpRecord addr 0 g) (fun _ => owns) fun _ => True := by
    have hmoves : Preserves (fun t : Tables => (t.bigbuf, t.devtable)) (setEpRecord addr 0 g) :=
      preserves_setEpRecord (fun slot t => by cases slot <;> rfl) addr 0
    refine Keeps.triple (hmoves.keeps fun s t heq h => ?_) fun _ _ => trivial
    obtain ⟨hbuf, hdev⟩ := Prod.mk.inj heq
    exact ⟨hbuf ▸ h.1, hdev ▸ h.2⟩
  refine Triple.bind (triple_setDevRecord _) fun _ => ?_
  refine Triple.pre (P := fun t => t.bigbuf = mem) ?_ fun _ h => h.1
  refine Triple.bind (Keeps.triple (Moves.keeps (preserves_epRecord (f := Tables.bigbuf) addr 0)
    fun s t heq h => heq ▸ h) fun _ _ => trivial) fun r => ?_
  refine Triple.bind (Q := fun _ t => t.bigbuf = mem) (Triple.update fun _ h => h) fun _ => ?_
  refine Triple.bind (triple_setDevRecord _) fun _ => ?_
  refine Triple.pre (P := owns) ?_ fun t h => ⟨h.1, by obtain ⟨-, d, hd⟩ := h; rw [hd]; rfl⟩
  refine Triple.bind hset fun _ => triple_bigbufRd howns (by omega) ?_
  exact Triple.update fun t h => ⟨h.1, rfl, h.2⟩

/-- The outer loop gives the first interface descriptor on its way to the inner one. -/
theorem triple_interfaceLoop (protocol devclass confvalue : Byte) {totalLength : Nat}
    (htotal : totalLength ≤ 256) (n p : Nat) :
    Triple (fun t => t.bigbuf = mem)
      (loop (interfaceRound addr protocol devclass confvalue totalLength) n p)
      (fun found t => found = true →
        ∃ i ∈ ((descriptors mem totalLength n p).find? (isInterface mem)).filter
            (isBootInterface mem protocol),
          ∃ e ∈ firstEndpoint mem totalLength i, Configured mem addr e t)
      fun _ => True := by
  have hreach : scanReach = 263 := rfl
  have hsteady := steady_bigbuf mem
  induction n generalizing p with
  | zero => exact Triple.halt _ fun _ _ => trivial
  | succ n ih =>
    rw [loop, interfaceRound, descriptors]
    by_cases hp : p < totalLength
    · rw [if_pos hp, if_pos hp, bind_assoc]
      refine triple_bigbufRd hsteady (by omega) ?_
      by_cases htype : byteAt mem (p + 1) = usbDescriptorInterface
      · -- the first interface descriptor: its class, subclass and protocol are read
        have hinterface : isInterface mem p = true := decide_eq_true htype
        rw [if_neg (not_not.2 htype), List.find?_cons_of_pos hinterface, bind_assoc]
        refine triple_bigbufRd hsteady (by omega) ?_
        rw [bind_assoc]
        refine triple_bigbufRd hsteady (by omega) ?_
        rw [bind_assoc]
        refine triple_bigbufRd hsteady (by omega) ?_
        by_cases hboot : byteAt mem (p + 5) = hidIntf ∧ byteAt mem (p + 6) = bootIntfSubclass ∧
            byteAt mem (p + 7) = protocol
        · -- it is the one wanted, so the inner loop decides
          have hmatch : isBootInterface mem protocol p = true := decide_eq_true hboot
          rw [if_pos hboot, bind_assoc]
          refine Triple.bind (triple_claimInterface hmem devclass (by omega)) fun _ => ?_
          rw [bind_assoc]
          refine triple_bigbufRd Claimed.steady (by omega) ?_
          rw [bind_assoc]
          refine Triple.bind (triple_endpointLoop hmem confvalue htotal _ _) fun found => ?_
          rw [pure_bind]
          refine Triple.pure fun t ht hfound => ⟨p, ?_, ht hfound⟩
          simp [Option.filter, hmatch]
        · -- it is another one, and the scan gives up
          rw [if_neg hboot, pure_bind]
          refine Triple.pure fun t _ hfound => ?_
          cases hfound
      · -- a descriptor of another type is skipped
        have hinterface : ¬ isInterface mem p = true := by
          simp [isInterface, bDescriptorType, htype]
        rw [if_pos htype, List.find?_cons_of_neg hinterface, bind_assoc]
        refine triple_bigbufRd hsteady (by omega) ?_
        rw [pure_bind]
        exact ih _
    · -- the descriptors have ended
      rw [if_neg hp, pure_bind]
      refine Triple.pure fun t _ hfound => ?_
      cases hfound

end Scan

/-- What a scan that returns `TRUE` has found: the interface it was looking for, and the first
endpoint descriptor behind it, which it has taken over. -/
def Found (protocol addr : Byte) (totalLength : Nat) (t : Tables) : Prop :=
  ∃ i ∈ matchedInterface t.bigbuf totalLength protocol,
    ∃ e ∈ firstEndpoint t.bigbuf totalLength i, Configured t.bigbuf addr e t

theorem triple_scan (protocol devclass addr : Byte) {totalLength : Word}
    (htotal : totalLength.toNat ≤ 256) :
    Triple (fun t => scanReach ≤ t.bigbuf.length) (do
      let rcode ← confDescrToBigbuf addr totalLength
      if rcode ≠ 0 then return false
      else
        let confvalue ← bigbufRd 5
        loop (interfaceRound addr protocol devclass confvalue totalLength.toNat)
          (scanFuel totalLength.toNat) 0)
      (fun found t => found = true → Found protocol addr totalLength.toNat t) fun _ => True := by
  have hreach : scanReach = 263 := rfl
  refine Triple.bind (triple_confDescrToBigbuf addr totalLength) fun rcode => ?_
  split
  · refine Triple.pure fun t _ hfound => ?_
    cases hfound
  · refine Triple.ghost (f := Tables.bigbuf) fun s hmem => ?_
    refine triple_bigbufRd (steady_bigbuf _) (by omega) ?_
    refine (triple_interfaceLoop hmem protocol devclass _ htotal _ 0).mono (fun _ h => h) ?_
      fun _ h => h
    rintro found t ht hfound
    obtain ⟨i, hi, e, he, hconf⟩ := ht hfound
    rw [← hconf.bigbuf] at hi he hconf
    exact ⟨i, hi, e, he, hconf⟩

theorem found_of_probe {protocol devclass addr : Byte} {w v : World Dword Tables}
    (hlen : scanReach ≤ w.st.bigbuf.length)
    (h : bootProbe protocol devclass addr w = .ok true v) :
    Found protocol addr (totalLengthRead addr w) v.st := by
  have hreach : scanReach = 263 := rfl
  have htotal := totalLengthRead_le addr w
  rcases hfirst : confDescrToBigbuf addr confDescrLen w with ⟨rcode, u⟩ | ⟨e, u⟩
  · have hu : scanReach ≤ u.st.bigbuf.length :=
      (triple_confDescrToBigbuf addr confDescrLen w hlen).1 rcode u hfirst
    rw [bootProbe, bind_ok hfirst] at h
    rw [totalLengthRead, final_ok hfirst] at htotal ⊢
    by_cases hrcode : rcode = 0
    · rw [if_neg (not_not.2 hrcode)] at h
      have hscan := (triple_scan protocol devclass addr htotal).pre
        fun (t : Tables) (ht : t.bigbuf = u.st.bigbuf) => ht ▸ hu
      exact (triple_bigbufRdWord (steady_bigbuf _) (by omega) hscan u rfl).1 true v h rfl
    · rw [if_pos hrcode] at h
      cases h
  · rw [bootProbe, bind_error hfirst] at h
    cases h

/-! ## The poll -/

theorem returned_pollArgs {mem : List Byte} {addr : Byte} {e : Nat} {t : Tables}
    (h : Configured mem addr e t) (answers : List Dword) :
    returned pollArgs ⟨answers, t⟩ = some (addr, 1, (wMaxPacketSize mem e).setWidth 8) := by
  have hlogged : Configured mem addr e { t with log := t.log ++ [.regWr rPERADDR addr] } :=
    h.of_probed rfl
  have hrecord := epRecord_eq addr 1
    ⟨answers, { t with log := t.log ++ [.regWr rPERADDR addr] }⟩
  rw [hlogged.epSlot] at hrecord
  have hrun : pollArgs ⟨answers, t⟩ = (do
      maxRegWr rPERADDR t.hidDevice.addr
      let r ← epRecord t.hidDevice.addr 1
      return (t.hidDevice.addr, 1, r.maxPktSize.setWidth 8)) ⟨answers, t⟩ := rfl
  have hwrite : maxRegWr rPERADDR addr ⟨answers, t⟩ =
      .ok () ⟨answers, { t with log := t.log ++ [.regWr rPERADDR addr] }⟩ := rfl
  rw [returned, hrun, h.addr_eq, bind_ok hwrite, bind_ok hrecord]
  exact congrArg (fun size : Word => some (addr, (1 : Byte), size.setWidth 8)) h.maxPktSize

theorem preserves_deviceUse (e : DeviceUse) : Preserves probed e.exec := by
  have hf := transferFree_probed
  cases e with
  | report => exact Moves.bind (hf.requests mainAddr).getDriverandReport fun _ => Moves.pure _
  | poll d buf =>
    refine Moves.bind ?_ fun _ => Moves.pure _
    cases d with
    | keyboard => exact preserves_bootPoll hf buf
    | mouse => exact preserves_bootPoll hf buf

theorem probed_uses (t : Tables) (uses : List (DeviceUse × List Dword)) :
    probed t = probed (run useStep t uses) := by
  refine run_invariant (P := fun s => probed t = probed s) (fun s e h => ?_) rfl uses
  exact h.trans (preserves_deviceUse e.1 ⟨e.2, s⟩)

/-- The endpoint and the packet size that a poll passes are those of an IN endpoint of the
interface that was matched. -/
def PollsOwnEndpoint (d : BootDevice) (mem : List Byte) (totalLength : Nat)
    (w : World Dword Tables) : Prop :=
  ∃ args ∈ returned pollArgs w, ∃ i ∈ matchedInterface mem totalLength d.protocol,
    HasInEndpoint mem totalLength i args.2.1 args.2.2

instance (d : BootDevice) (mem : List Byte) (totalLength : Nat) (w : World Dword Tables) :
    Decidable (PollsOwnEndpoint d mem totalLength w) := by
  unfold PollsOwnEndpoint; infer_instance

/-- The interface that was matched has an IN endpoint 1, with packets of as many bytes as the low
byte says of the size in the first endpoint descriptor after it. -/
def HasEndpointOne (d : BootDevice) (mem : List Byte) (totalLength : Nat) : Prop :=
  ∃ i ∈ matchedInterface mem totalLength d.protocol, ∃ e ∈ firstEndpoint mem totalLength i,
    HasInEndpoint mem totalLength i 1 ((wMaxPacketSize mem e).setWidth 8)

instance (d : BootDevice) (mem : List Byte) (totalLength : Nat) :
    Decidable (HasEndpointOne d mem totalLength) := by
  unfold HasEndpointOne; infer_instance

theorem BootDevice.found {d : BootDevice} {addr : Byte} {w : World Dword Tables}
    (hlen : scanReach ≤ w.st.bigbuf.length) (h : returned (d.probe addr) w = some true) :
    Found d.protocol addr (totalLengthRead addr w) (final (d.probe addr) w).st := by
  rcases hrun : d.probe addr w with ⟨found, v⟩ | ⟨e, v⟩
  · rw [returned, hrun] at h
    obtain rfl : found = true := Option.some.inj h
    rw [final_ok hrun]
    cases d with
    | keyboard => exact found_of_probe hlen hrun
    | mouse => exact found_of_probe hlen hrun
  · rw [returned, hrun] at h
    cases h

/-- **What the probe found is what the poll uses** exactly when the interface has an IN endpoint 1
with the packet size that the probe read. `uses` are the requests and polls since the probe, with
their answers, and the descriptors are the bytes that the probe left in memory from `bigbuf` on. -/
theorem poll_as_probed_iff (d : BootDevice) (addr : Byte) (t : Tables)
    (behind : Vector Byte scanReach) (is answers : List Dword)
    (uses : List (DeviceUse × List Dword))
    (h : returned (d.probe addr) ⟨is, t.withBehind behind⟩ = some true) :
    PollsOwnEndpoint d (final (d.probe addr) ⟨is, t.withBehind behind⟩).st.bigbuf
        (totalLengthRead addr ⟨is, t.withBehind behind⟩)
        ⟨answers, run useStep (final (d.probe addr) ⟨is, t.withBehind behind⟩).st uses⟩ ↔
      HasEndpointOne d (final (d.probe addr) ⟨is, t.withBehind behind⟩).st.bigbuf
        (totalLengthRead addr ⟨is, t.withBehind behind⟩) := by
  have hlen : scanReach ≤ (t.withBehind behind).bigbuf.length := by
    simp [Tables.withBehind]
  obtain ⟨i, hi, e, he, hconf⟩ := d.found (w := ⟨is, t.withBehind behind⟩) hlen h
  have hargs := returned_pollArgs (hconf.of_probed (probed_uses _ uses)) answers
  unfold PollsOwnEndpoint HasEndpointOne
  rw [hargs]
  constructor
  · rintro ⟨args, ⟨⟩, j, hj, hhas⟩
    obtain rfl : i = j := Option.mem_unique hi hj
    exact ⟨i, hi, e, he, hhas⟩
  · rintro ⟨j, hj, e', he', hhas⟩
    obtain rfl : i = j := Option.mem_unique hi hj
    obtain rfl : e = e' := Option.mem_unique he he'
    exact ⟨_, rfl, i, hi, hhas⟩

/-! ## A keyboard on endpoint 2 -/

/-- A device that has been given address 1. -/
def addressedTables : Tables :=
  { Tables.powerUp with
    devtable := (Tables.powerUp.devtable.set 0 ⟨.dev0ep, 0⟩ (Nat.succ_pos _)).set 1 ⟨.dev0ep, 0⟩
      (Nat.succ_lt_succ (Nat.succ_pos _))
    dev0ep := ⟨0, 0, 64, 0, bmSNDTOG0, bmRCVTOG0⟩ }

/-- The configuration of a boot keyboard with one endpoint for its reports of eight bytes. -/
def keyboardConfiguration (endpointAddress : Dword) : List Dword :=
  [9, 2, 34, 0, 1, 1, 0, 0xa0, 50] ++ [9, 4, 0, 0, 1, 3, 1, 1, 0] ++
    [9, 0x21, 0x10, 1, 0, 1, 0x22, 63, 0] ++ [7, 5, endpointAddress, 3, 8, 0, 10]

/-- Its answers to the probe, which then configures it. -/
def keyboardAnswers (endpointAddress : Dword) : List Dword :=
  acknowledged ++ lastPacket ((keyboardConfiguration endpointAddress).take 9) ++ acknowledged ++
    acknowledged ++ lastPacket (keyboardConfiguration endpointAddress) ++ acknowledged ++
    acknowledged ++ acknowledged ++ acknowledged ++ acknowledged

/-- Nothing but zeros lies behind `bigbuf`. -/
def zerosBehind : Vector Byte scanReach := .replicate _ 0

/-- With IN endpoint 1 the keyboard is polled where it is, after it has been asked for its idle
rate and polled once. -/
theorem poll_as_probed_endpointOne :
    PollsOwnEndpoint .keyboard
      (final (BootDevice.keyboard.probe 1)
        ⟨keyboardAnswers 0x81, addressedTables.withBehind zerosBehind⟩).st.bigbuf
      (totalLengthRead 1 ⟨keyboardAnswers 0x81, addressedTables.withBehind zerosBehind⟩)
      ⟨[], run useStep (final (BootDevice.keyboard.probe 1)
        ⟨keyboardAnswers 0x81, addressedTables.withBehind zerosBehind⟩).st
        [(.report, [0]), (.poll .keyboard [], acknowledged)]⟩ :=
  (poll_as_probed_iff .keyboard 1 addressedTables zerosBehind (keyboardAnswers 0x81) []
    [(.report, [0]), (.poll .keyboard [], acknowledged)] (by decide +kernel)).2
    (by decide +kernel)

/-- With IN endpoint 2 the probe returns `TRUE`, and the poll asks endpoint 1. -/
theorem poll_not_as_probed :
    returned (BootDevice.keyboard.probe 1)
        ⟨keyboardAnswers 0x82, addressedTables.withBehind zerosBehind⟩ = some true ∧
      ¬ PollsOwnEndpoint .keyboard
        (final (BootDevice.keyboard.probe 1)
          ⟨keyboardAnswers 0x82, addressedTables.withBehind zerosBehind⟩).st.bigbuf
        (totalLengthRead 1 ⟨keyboardAnswers 0x82, addressedTables.withBehind zerosBehind⟩)
        ⟨[], (final (BootDevice.keyboard.probe 1)
          ⟨keyboardAnswers 0x82, addressedTables.withBehind zerosBehind⟩).st⟩ := by
  constructor
  · decide +kernel
  · decide +kernel

end Bosconian.Usb
