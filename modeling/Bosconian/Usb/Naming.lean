import Bosconian.Scripted.Faults
import Bosconian.Usb.Addressing

/-!
# What the driver names in `devtable`

`devtable[addr].epinfo[ep]` is followed all over the driver without a check: `epinfo` may be
`NULL`, and the array it points to may be shorter than `ep`. Here is what each routine of the driver
asks of the table so that it does not go wrong.

* `Naming` — the part of the tables that this depends on; `Names` — it has the endpoint.
* `Naming.Wired`, `Naming.Live` — what the table has between the calls, and while a device is
  configured.
* `safe_clientDrivers` — the probes keep it.
-/

namespace Bosconian.Usb

open Scripted

/-! ## Programs that name no endpoint -/

theorem allows_noFault (P : Access → Prop) : AllowsAccesses P fun _ m => NoFault m where
  toSequential := NoFault.sequential
  ask := NoFault.ask
  askN := NoFault.askN
  emit _ _ := NoFault.update _

/-! ## Programs that name one -/

/-- The table has an `epinfo` with an endpoint `ep`. -/
def EpInfo.Has : EpInfo → Byte → Prop
  | .null, _ => False
  | .dev0ep, ep => ep = 0
  | .hidEp, ep => ep.toNat < 2

/-- `devtable` and `hid_device`, which tell what the driver names. -/
structure Naming where
  devtable : Vector DevRecord (usbNumdevices + 1)
  hidDevice : HidDevice

def Tables.naming (t : Tables) : Naming := ⟨t.devtable, t.hidDevice⟩

/-- `devtable[addr].epinfo[ep]` is there. -/
def Naming.Names (x : Naming) (addr ep : Byte) : Prop :=
  ∃ d, x.devtable[addr.toNat]? = some d ∧ d.epinfo.Has ep

theorem exists_epSlot {t : Tables} {addr ep : Byte} (h : t.naming.Names addr ep) :
    ∃ slot, t.epSlot addr ep = some slot := by
  obtain ⟨⟨epinfo, devclass⟩, hd, hhas⟩ := h
  have hdev : t.devtable[addr.toNat]? = some ⟨epinfo, devclass⟩ := hd
  unfold Tables.epSlot
  rw [hdev]
  cases epinfo with
  | null => exact hhas.elim
  | dev0ep =>
    have hep : ep = 0 := hhas
    exact ⟨.dev0ep, if_pos hep⟩
  | hidEp =>
    have hep : ep.toNat < 2 := hhas
    exact ⟨.hidEp ⟨ep.toNat, hep⟩, dif_pos hep⟩

theorem transferFree_naming : TransferFree Tables.naming where
  log _ _ := rfl
  rcvToggle _ slot _ := by cases slot <;> rfl

/-- The table and the device are as in `x`. -/
def Tables.At (x : Naming) (t : Tables) : Prop := t.naming = x

section Named

variable {x : Naming} {addr ep : Byte}

/-- What neither faults nor renames. -/
theorem safe_of_preserves {α : Type} {m : Driver α} (hm : NoFault m)
    (hp : Preserves Tables.naming m) : Safe (Tables.At x) m fun _ => Tables.At x :=
  hm.safe (hp.keeps fun _ _ heq hx => heq.symm.trans hx)

theorem allows_at (P : Access → Prop) :
    AllowsAccesses P fun _ m => Safe (Tables.At x) m fun _ => Tables.At x where
  toSequential := Safe.sequential
  ask := safe_of_preserves NoFault.ask Preserves.ask
  askN n := safe_of_preserves (NoFault.askN n) (Preserves.askN n)
  emit e he := safe_of_preserves ((allows_noFault P).emit e he)
    (preserves_emit transferFree_naming e)

theorem safe_epRecord (h : x.Names addr ep) :
    Safe (Tables.At x) (epRecord addr ep) fun _ => Tables.At x := by
  intro w hw
  have hnames : w.st.naming.Names addr ep := by rwa [show w.st.naming = x from hw]
  obtain ⟨slot, hslot⟩ := exists_epSlot hnames
  have heq := epRecord_ok hslot
  rw [heq]
  refine ⟨?_, nofun⟩
  rintro a v ⟨⟩
  exact hw

theorem safe_setEpRecord (h : x.Names addr ep) (g : EpRecord → EpRecord) :
    Safe (Tables.At x) (setEpRecord addr ep g) fun _ => Tables.At x := by
  refine Safe.read_bind fun t ht => ?_
  have hnames : t.naming.Names addr ep := by rwa [show t.naming = x from ht]
  obtain ⟨slot, hslot⟩ := exists_epSlot hnames
  rw [hslot]
  refine Safe.update ?_
  rintro s rfl
  cases slot <;> exact ht

/-- A transfer follows the one pointer. -/
theorem transfers_at (h : x.Names addr ep) :
    AllowsTransfers addr ep fun _ m => Safe (Tables.At x) m fun _ => Tables.At x where
  toAllowsAccesses := allows_at Access.OfTransfer
  epRecord := safe_epRecord h
  setToggle _ := safe_setEpRecord h _

theorem requests_at (h : x.Names addr 0) :
    AllowsRequests addr fun _ m => Safe (Tables.At x) m fun _ => Tables.At x where
  toAllowsAccesses := allows_at Access.OfHost
  request _ _ _ _ _ _ _ := (transfers_at h).xferCtrlReq _ _ _ _ _ _ _

end Named

/-! ## The probes -/

/-- `devtable[addr]` has an `epinfo`. -/
def Naming.Held (x : Naming) (i : Nat) : Prop :=
  ∃ d, x.devtable[i]? = some d ∧ d.epinfo ≠ .null

theorem Naming.Held.names {x : Naming} {addr : Byte} (h : x.Held addr.toNat) : x.Names addr 0 := by
  obtain ⟨⟨epinfo, devclass⟩, hd, hnull⟩ := h
  refine ⟨_, hd, ?_⟩
  cases epinfo with
  | null => exact absurd rfl hnull
  | dev0ep => rfl
  | hidEp => exact Nat.zero_lt_two

/-- `devtable[addr]` is assigned to. -/
def Naming.setDev (x : Naming) (addr : Byte) (h : addr.toNat < usbNumdevices + 1)
    (g : DevRecord → DevRecord) : Naming :=
  { x with devtable := x.devtable.set addr.toNat (g x.devtable[addr.toNat]) }

theorem Naming.getElem?_setDev (x : Naming) (addr : Byte) (h : addr.toNat < usbNumdevices + 1)
    (g : DevRecord → DevRecord) (j : Nat) :
    (x.setDev addr h g).devtable[j]? =
      if addr.toNat = j then x.devtable[addr.toNat]?.map g else x.devtable[j]? := by
  unfold Naming.setDev
  rw [Vector.getElem?_set]
  split_ifs with hj
  · rw [Vector.getElem?_eq_getElem h]
    rfl
  · rfl

theorem safe_setDevRecord (x : Naming) {addr : Byte} (h : addr.toNat < usbNumdevices + 1)
    (g : DevRecord → DevRecord) :
    Safe (Tables.At x) (setDevRecord addr g) fun _ => Tables.At (x.setDev addr h g) := by
  refine Safe.read_bind fun t ht => ?_
  have hx : t.naming = x := ht
  subst hx
  rw [dif_pos h]
  refine Safe.update fun s hs => ?_
  rw [hs]
  rfl

/-- The device at `addr` is a boot device of the class, with both its endpoints. -/
structure Claims (addr devclass : Byte) (x y : Naming) : Prop where
  slot : y.devtable[addr.toNat]? = some ⟨.hidEp, devclass⟩
  others : ∀ j, j ≠ addr.toNat → y.devtable[j]? = x.devtable[j]?
  hidDevice : y.hidDevice.addr = addr

theorem Claims.names {addr devclass : Byte} {x y : Naming} (h : Claims addr devclass x y)
    {ep : Byte} (hep : ep.toNat < 2) : y.Names addr ep := ⟨_, h.slot, hep⟩

section Probes

variable {x : Naming} {addr : Byte}

theorem safe_bigbufRd (i : Nat) : Safe (Tables.At x) (bigbufRd i) fun _ => Tables.At x :=
  (allows_at Access.OfHost).bigbufRd i

theorem safe_confDescrToBigbuf (h : x.Names addr 0) (nbytes : Word) :
    Safe (Tables.At x) (confDescrToBigbuf addr nbytes) fun _ => Tables.At x := by
  refine Safe.bind Safe.read fun t => ?_
  refine Safe.bind ((transfers_at h).xferCtrlReq _ _ _ _ _ _ _) fun p => ?_
  exact Safe.bind (Safe.update fun _ => id) fun _ => Safe.pure fun _ => id

theorem safe_claimInterface (haddr : addr.toNat < usbNumdevices + 1) (h : x.Names addr 0)
    (devclass : Byte) (p : Nat) :
    Safe (Tables.At x) (claimInterface addr devclass p)
      fun _ t => Claims addr devclass x t.naming := by
  obtain ⟨d, hd, hhas⟩ := h
  let y := x.setDev addr haddr fun d => { d with devclass := devclass }
  let z := y.setDev addr haddr fun d => { d with epinfo := .hidEp }
  have hy : y.devtable[addr.toNat]? = some { d with devclass := devclass } := by
    rw [Naming.getElem?_setDev, if_pos rfl, hd]
    rfl
  have hz : z.devtable[addr.toNat]? = some ⟨.hidEp, devclass⟩ := by
    rw [Naming.getElem?_setDev, if_pos rfl, hy]
    rfl
  have hep : (0 : Byte).toNat < 2 := by decide
  have hothers (j : Nat) (hj : j ≠ addr.toNat) : z.devtable[j]? = x.devtable[j]? := by
    rw [Naming.getElem?_setDev, if_neg hj.symm, Naming.getElem?_setDev, if_neg hj.symm]
  refine Safe.bind (safe_setDevRecord x haddr _) fun _ =>
    Safe.bind (safe_epRecord (x := y) ⟨_, hy, hhas⟩) fun r =>
    Safe.bind (Safe.update fun _ => id) fun _ =>
    Safe.bind (safe_setDevRecord y haddr _) fun _ =>
    Safe.bind (safe_setEpRecord (x := z) ⟨_, hz, hep⟩ _) fun _ =>
    Safe.bind (safe_bigbufRd (p + 2)) fun interface => Safe.update ?_
  intro t ht
  have hdevtable : t.devtable = z.devtable := congrArg Naming.devtable ht
  exact ⟨by rw [← hz, ← hdevtable]; rfl,
    fun j hj => by rw [← hothers j hj, ← hdevtable]; rfl, rfl⟩

theorem endpoint_at {ep : Byte} (h : x.Names addr 0) (h' : x.Names addr ep) :
    AllowsEndpoint addr ep fun _ m => Safe (Tables.At x) m fun _ => Tables.At x where
  toAllowsRequests := requests_at h
  setEpRecord := safe_setEpRecord h'

/-- What a probe leaves: the naming it found, or the claim of a device. -/
def Probed (addr devclass : Byte) (x : Naming) (t : Tables) : Prop :=
  t.At x ∨ Claims addr devclass x t.naming

/-- The rest of a probe, once the device is claimed. -/
theorem safe_findEndpoint {devclass : Byte} (confvalue : Byte) (totalLength p : Nat) :
    Safe (fun t => Claims addr devclass x t.naming)
      (loop (endpointRound addr confvalue totalLength) (scanFuel totalLength) p)
      fun _ t => Claims addr devclass x t.naming := by
  refine Safe.ghost (f := Tables.naming) fun s hs => ?_
  have hzero : (0 : Byte).toNat < 2 := by decide
  have hone : (1 : Byte).toNat < 2 := by decide
  have hround := (endpoint_at (hs.names hzero) (hs.names hone)).endpointRound confvalue totalLength
  refine (Safe.loop (R := fun _ => Tables.At s.naming) (fun p => ?_) _ p).mono (fun _ => id)
    fun _ t ht => ?_
  · exact (hround p).mono (fun _ => id) fun r _ ht => by cases r <;> exact ht
  · rw [show t.naming = s.naming from ht]
    exact hs

theorem safe_interfaceRound (haddr : addr.toNat < usbNumdevices + 1) (h : x.Names addr 0)
    (protocol devclass confvalue : Byte) (totalLength p : Nat) :
    Safe (Tables.At x) (interfaceRound addr protocol devclass confvalue totalLength p)
      fun r t => Sum.elim (fun _ => t.At x) (fun _ => Probed addr devclass x t) r := by
  unfold interfaceRound
  split
  · refine Safe.bind (safe_bigbufRd _) fun type => ?_
    split
    · exact Safe.bind (safe_bigbufRd _) fun _ => Safe.pure fun _ => id
    · refine Safe.bind (safe_bigbufRd _) fun cls => ?_
      refine Safe.bind (safe_bigbufRd _) fun subclass => ?_
      refine Safe.bind (safe_bigbufRd _) fun proto => ?_
      split
      · -- from the claim on the tables have the other naming
        have hread : Safe (fun t => Claims addr devclass x t.naming) (bigbufRd p)
            fun _ t => Claims addr devclass x t.naming :=
          ((allows_noFault Access.OfHost).bigbufRd p).safe
            ((preserves_bigbufRd transferFree_naming p).keeps fun _ _ heq hc => heq ▸ hc)
        refine Safe.bind (safe_claimInterface haddr h devclass p) fun _ => ?_
        refine Safe.bind hread fun bLength => ?_
        exact Safe.bind (safe_findEndpoint _ _ _) fun _ => Safe.pure fun _ => .inr
      · exact Safe.pure fun _ => .inl
  · exact Safe.pure fun _ => .inl

theorem safe_bootProbe (haddr : addr.toNat < usbNumdevices + 1) (h : x.Names addr 0)
    (protocol devclass : Byte) :
    Safe (Tables.At x) (bootProbe protocol devclass addr) fun _ => Probed addr devclass x := by
  refine Safe.bind (safe_confDescrToBigbuf h _) fun rcode => ?_
  split
  · exact Safe.pure fun _ => .inl
  · refine Safe.bind ((allows_at Access.OfHost).bigbufRdWord 2) fun wTotalLength => ?_
    refine Safe.bind (safe_confDescrToBigbuf h _) fun rcode => ?_
    split
    · exact Safe.pure fun _ => .inl
    · refine Safe.bind (safe_bigbufRd 5) fun confvalue => ?_
      exact Safe.loop (fun p => safe_interfaceRound haddr h protocol devclass confvalue _ p) _ 0

end Probes

/-! ## The table between the calls -/

namespace Naming

/-- Address 0 can be reached, and while any slot is that of a boot device, `hid_device` is one with
both endpoints. -/
structure Wired (x : Naming) : Prop where
  zero : x.Held 0
  hid : (∃ (i : Nat) (d : DevRecord),
      x.devtable[i]? = some d ∧ (d.devclass = hidK ∨ d.devclass = hidM)) →
    x.Names x.hidDevice.addr 1

/-- The device that is being configured can be reached, and so can the one at address 1. -/
structure Live (addr : Byte) (x : Naming) : Prop extends Wired x where
  bound : addr.toNat < usbNumdevices + 1
  held : x.Held addr.toNat
  first : x.Held mainAddr.toNat

theorem Held.claims {addr devclass : Byte} {x y : Naming} {i : Nat} (hi : x.Held i)
    (h : Claims addr devclass x y) : y.Held i := by
  by_cases hia : i = addr.toNat
  · rw [hia]
    exact ⟨_, h.slot, nofun⟩
  · rw [Held, h.others i hia]
    exact hi

theorem Live.claims {addr devclass : Byte} {x y : Naming} (hx : x.Live addr)
    (h : Claims addr devclass x y) : y.Live addr where
  zero := hx.zero.claims h
  hid _ := by
    rw [h.hidDevice]
    exact h.names (by decide)
  bound := hx.bound
  held := hx.held.claims h
  first := hx.first.claims h

end Naming

section RunProbes

variable {addr : Byte}

theorem safe_probe (protocol devclass : Byte) :
    Safe (fun t => t.naming.Live addr) (bootProbe protocol devclass addr)
      fun _ t => t.naming.Live addr := by
  refine Safe.ghost (f := Tables.naming) fun s hs => ?_
  refine (safe_bootProbe hs.bound hs.held.names protocol devclass).mono (fun _ => id) ?_
  rintro found t (ht | hclaims)
  · rw [show t.naming = s.naming from ht]
    exact hs
  · exact hs.claims hclaims

theorem safe_clientDrivers :
    Safe (fun t => t.naming.Live addr) (runProbes addr clientDriverTable)
      fun _ t => t.naming.Live addr :=
  sequential_clientDrivers Safe.sequential safe_probe

end RunProbes

end Bosconian.Usb
