import Bosconian.Usb.Naming

/-!
# The two tasks and the table

The endpoints that a call of `USB_Task` names are there because of the state that the task is in.

* `Enlisted` — what the state of the task and the table say about each other between the calls.
* `safe_max3421eTask`, `safe_usbTask` — each of the two tasks hands it on to the other, over the
  states in which a bus event may have come between them.
-/

namespace Bosconian.Usb

open Scripted

/-! ## The state of the task and the table -/

/-- The naming and `tmp_addr` stay, and the state stays or is one without an address. -/
structure Undisturbed (u v : Host) : Prop where
  naming : u.naming = v.naming
  tmpAddr : u.tmpAddr = v.tmpAddr
  state : v.usbTaskState = u.usbTaskState ∨ NoAddress v.usbTaskState

instance : IsPreorder Host Undisturbed where
  refl _ := ⟨rfl, rfl, .inl rfl⟩
  trans u v w h₁ h₂ := by
    refine ⟨h₁.naming.trans h₂.naming, h₁.tmpAddr.trans h₂.tmpAddr, ?_⟩
    rcases h₂.state with hw | hw
    · rw [hw]
      exact h₁.state
    · exact .inr hw

/-- What the state of the task tells about the table: the devices that are being configured and
used have an `epinfo`, and a state behind `USB_STATE_ADDRESSING` in its group is only there while
no slot is free. Between two calls of `USB_Task` there may be one bus event, so `k` is that state
or the one after it. -/
structure Enlisted (k : Byte) (u : Host) : Prop where
  wired : u.naming.Wired
  tmpAddr : u.tmpAddr.toNat < usbNumdevices
  full : k ≤ u.usbTaskState → u.usbTaskState < usbStateConfiguring →
    ∀ i, 1 ≤ i → i < usbNumdevices → u.naming.Held i
  first : HasAddress u.usbTaskState → u.naming.Held mainAddr.toNat
  held : u.usbTaskState &&& usbStateMask = usbStateConfiguring → u.naming.Held u.tmpAddr.toNat

/-- The first state behind `USB_STATE_ADDRESSING`. -/
def nextAddressing : Byte := usbStateAddressing + 1

theorem Enlisted.undisturbed {k : Byte} {u v : Host} (h : Enlisted k u) (hk : nextAddressing ≤ k)
    (hs : Undisturbed u v) : Enlisted k v := by
  obtain ⟨hnaming, htmp, hstate⟩ := hs
  have hno : ∀ s : Byte, NoAddress s → ¬ (nextAddressing ≤ s ∧ s < usbStateConfiguring) := by
    decide
  refine ⟨hnaming ▸ h.wired, htmp ▸ h.tmpAddr, ?_, ?_, ?_⟩
  · intro hge hlt
    rcases hstate with hv | hv
    · rw [hv] at hge hlt
      exact hnaming ▸ h.full hge hlt
    · exact absurd ⟨BitVec.le_trans hk hge, hlt⟩ (hno _ hv)
  · intro haddr
    rcases hstate with hv | hv
    · exact hnaming ▸ h.first (hv ▸ haddr)
    · exact absurd haddr hv.1
  · intro hconf
    rcases hstate with hv | hv
    · rw [← hnaming, ← htmp]
      exact h.held (hv ▸ hconf)
    · exact absurd (.inl hconf) hv.1

theorem Enlisted.mono {k k' : Byte} {u : Host} (h : Enlisted k u) (hk : k ≤ k') :
    Enlisted k' u :=
  { h with full := fun hge => h.full (BitVec.le_trans hk hge) }

section Undisturbed

theorem Undisturbed.driver {α : Type} {m : Driver α} (hm : Preserves Tables.naming m) :
    Moves (along id Undisturbed) (liftM m : Task α) := by
  rw [liftM_driver]
  exact Moves.zoom hm fun t u h => ⟨h, rfl, .inl rfl⟩

theorem Undisturbed.emit (e : Access) : Moves (along id Undisturbed) (liftM (emit e) : Task Unit) :=
  Undisturbed.driver (preserves_emit transferFree_naming e)

theorem Undisturbed.setTaskState {new : Byte} (hnew : NoAddress new) :
    Moves (along id Undisturbed) (setTaskState new) :=
  Moves.update_along fun _ => ⟨rfl, rfl, .inr hnew⟩

theorem allowsBusprobe_undisturbed : AllowsBusprobe fun _ m => Moves (along id Undisturbed) m where
  toSequential := Moves.sequential
  regWr reg val _ := Undisturbed.emit (.regWr reg val)
  regRd reg := Undisturbed.driver (preserves_maxRegRd transferFree_naming reg)
  pioRd port := Undisturbed.driver (preserves_pioRd transferFree_naming port)
  reset := Undisturbed.driver (transferFree_naming.allows Access.OfHost).max3421eReset
  set new hnew := by
    have hno : ∀ new ∈ busprobeStates, NoAddress new := by decide
    exact Undisturbed.setTaskState (hno new hnew)

variable {k : Byte}

theorem Undisturbed.keeps (hk : nextAddressing ≤ k) {α : Type} {m : Task α}
    (hm : Moves (along id Undisturbed) m) : Keeps (Enlisted k) m :=
  hm.keeps fun _ _ hs h => h.undisturbed hk hs

/-- What neither faults nor leaves its place. -/
theorem Undisturbed.safe (hk : nextAddressing ≤ k) {α : Type} {m : Task α} (hfault : NoFault m)
    (hm : Moves (along id Undisturbed) m) : Safe (Enlisted k) m fun _ => Enlisted k :=
  hfault.safe (Undisturbed.keeps hk hm)

end Undisturbed

/-! ## `MAX3421E_Task` -/

section Controller

theorem noFault_driver {α : Type} {m : Driver α} (hm : NoFault m) :
    NoFault (liftM m : Task α) := by
  rw [liftM_driver]
  exact hm.zoom

theorem allowsBusprobe_noFault : AllowsBusprobe fun _ m => NoFault m where
  toSequential := NoFault.sequential
  regWr _ _ hreg := noFault_driver ((allows_noFault Access.OfHost).emit _ hreg)
  regRd _ := noFault_driver ((allows_noFault fun _ => True).maxRegRd fun _ => trivial)
  pioRd _ := noFault_driver ((allows_noFault fun _ => True).pioRd fun _ => trivial)
  reset := noFault_driver (allows_noFault Access.OfHost).max3421eReset
  set _ _ := NoFault.update _

theorem allowsController_enlisted {k : Byte} (hk : nextAddressing ≤ k) :
    AllowsController fun _ m => Safe (Enlisted k) m fun _ => Enlisted k where
  toSequential := Safe.sequential
  regWr reg val hreg := Undisturbed.safe hk (allowsBusprobe_noFault.regWr reg val hreg)
    (allowsBusprobe_undisturbed.regWr reg val hreg)
  regRd reg := Undisturbed.safe hk (allowsBusprobe_noFault.regRd reg)
    (allowsBusprobe_undisturbed.regRd reg)
  pioRd port := Undisturbed.safe hk (allowsBusprobe_noFault.pioRd port)
    (allowsBusprobe_undisturbed.pioRd port)
  reset := Undisturbed.safe hk allowsBusprobe_noFault.reset allowsBusprobe_undisturbed.reset
  busprobe := Undisturbed.safe hk allowsBusprobe_noFault.controller.busprobe
    allowsBusprobe_undisturbed.controller.busprobe

theorem noFault_xferSetAddr {oldaddr ep newaddr : Byte} :
    NoFault (xferSetAddr oldaddr ep newaddr) :=
  NoFault.bind ((allows_noFault Access.OfTransfer).xferCtrlReq_none _ _ _ _ _ _ _ _)
    fun _ => NoFault.pure _

/-- One bus event between two calls of `USB_Task`. -/
theorem Enlisted.advance {u : Host} (h : Enlisted nextAddressing u) :
    Enlisted (nextAddressing + 1) (u.setTaskState (u.usbTaskState + 1)) := by
  have hbyte : ∀ s : Byte,
      (nextAddressing + 1 ≤ s + 1 → s + 1 < usbStateConfiguring →
        nextAddressing ≤ s ∧ s < usbStateConfiguring) ∧
      (HasAddress (s + 1) → HasAddress s ∨ nextAddressing ≤ s ∧ s < usbStateConfiguring) ∧
      (s + 1 &&& usbStateMask = usbStateConfiguring →
        s &&& usbStateMask = usbStateConfiguring ∨
          nextAddressing ≤ s ∧ s < usbStateConfiguring) := by decide
  obtain ⟨hfull, hfirst, hheld⟩ := hbyte u.usbTaskState
  refine ⟨h.wired, h.tmpAddr, ?_, ?_, ?_⟩
  · intro hge hlt
    obtain ⟨hge', hlt'⟩ := hfull hge hlt
    exact h.full hge' hlt'
  · intro haddr
    rcases hfirst haddr with haddr' | ⟨hge, hlt⟩
    · exact h.first haddr'
    · exact h.full hge hlt 1 (by decide) (by decide)
  · intro hconf
    rcases hheld hconf with hconf' | ⟨hge, hlt⟩
    · exact h.held hconf'
    · -- all slots are taken, whichever of them `tmp_addr` is
      rcases Nat.eq_zero_or_pos u.tmpAddr.toNat with hzero | hpos
      · show u.naming.Held u.tmpAddr.toNat
        rw [hzero]
        exact h.wired.zero
      · exact h.full hge hlt _ hpos h.tmpAddr

theorem nextAddressing_le_succ : nextAddressing ≤ nextAddressing + 1 := by decide

/-- Of what the handler does only the bus event has a step of its own. -/
theorem safe_serviceIrq (hirq : Byte) :
    Safe (Enlisted nextAddressing) (serviceIrq hirq) fun _ => Enlisted (nextAddressing + 1) := by
  have hbefore := allowsController_enlisted (k := nextAddressing) (by decide)
  have hafter := allowsController_enlisted nextAddressing_le_succ
  refine Safe.bind (hbefore.onlyIf fun _ => hbefore.busprobe) fun _ => ?_
  refine Safe.bind (hbefore.onlyIf fun _ => hbefore.regWr _ _ (by decide)) fun _ => ?_
  refine Safe.bind (Safe.onlyIf (fun _ => ?_) fun _ h => h.mono nextAddressing_le_succ) fun _ =>
    hafter.regWr _ _ (by decide)
  refine Safe.read_bind fun u hu => Safe.update fun v hv => ?_
  rw [hv]
  exact hu.advance

theorem safe_max3421eTask :
    Safe (Enlisted nextAddressing) max3421eTask fun _ => Enlisted (nextAddressing + 1) := by
  have hbefore := allowsController_enlisted (k := nextAddressing) (by decide)
  have hafter := allowsController_enlisted nextAddressing_le_succ
  refine Safe.bind (hbefore.pioRd .usbIrq) fun irq => ?_
  refine Safe.bind (Safe.onlyIf (fun _ => ?_) fun _ h => h.mono nextAddressing_le_succ) fun _ =>
    hafter.serviceGpx
  exact Safe.bind (hbefore.regRd rHIRQ) fun hirq => safe_serviceIrq hirq

end Controller

/-! ## `USB_Task` -/

section UsbTask

variable {k : Byte}

/-- A program of the driver that leaves the naming as it found it. -/
theorem safe_driver {α : Type} {m : Driver α} {u : Host}
    (hm : Safe (Tables.At u.naming) m fun _ => Tables.At u.naming) :
    Safe (fun v => v = u) (liftM m : Task α) fun _ v => Undisturbed u v := by
  rw [liftM_driver]
  refine hm.zoom (fun v hv => hv ▸ rfl) ?_
  rintro a t v rfl ht
  exact ⟨ht.symm, rfl, .inl rfl⟩

theorem Enlisted.of_noAddress {u : Host} (hwired : u.naming.Wired)
    (htmp : u.tmpAddr.toNat < usbNumdevices) (hk : nextAddressing ≤ k)
    (hno : NoAddress u.usbTaskState) : Enlisted k u := by
  have hbyte : ∀ s : Byte, NoAddress s → ¬ (nextAddressing ≤ s ∧ s < usbStateConfiguring) := by
    decide
  exact ⟨hwired, htmp, fun hge hlt => absurd ⟨BitVec.le_trans hk hge, hlt⟩ (hbyte _ hno),
    fun haddr => absurd haddr hno.1, fun hconf => absurd (.inl hconf) hno.1⟩

/-- `USB_init` leaves address 0 and forgets all classes. -/
theorem safe_usbInit (hk : nextAddressing ≤ k) :
    Safe (fun u => u.tmpAddr.toNat < usbNumdevices ∧ BeforeAddress u.usbTaskState)
      (liftM usbInit : Task Unit) fun _ => Enlisted k := by
  have hinit : Safe (fun _ => True) usbInit fun _ t => t.naming.Wired := by
    refine Safe.update fun t _ => ⟨⟨_, rfl, nofun⟩, ?_⟩
    rintro ⟨i, d, hd, hclass⟩
    have hzero : ∀ i : Nat, ∀ d, ((Vector.replicate (usbNumdevices + 1)
        (⟨.null, 0⟩ : DevRecord)).set 0 ⟨.dev0ep, 0⟩)[i]? = some d → d.devclass = 0 := by
      intro i d hd
      rw [Vector.getElem?_set] at hd
      split_ifs at hd
      · rw [← Option.some.inj hd]
      · rw [Vector.getElem?_replicate] at hd
        split_ifs at hd
        rw [← Option.some.inj hd]
    rw [hzero i d hd] at hclass
    rcases hclass with hclass | hclass <;> cases hclass
  rw [liftM_driver]
  refine hinit.zoom (fun _ _ => trivial) ?_
  rintro - t u ⟨htmp, hbefore⟩ hwired
  exact Enlisted.of_noAddress hwired htmp hk hbefore.noAddress

theorem safe_taskError (hk : nextAddressing ≤ k) (rcode : Byte) :
    Safe (fun u => u.naming.Wired ∧ u.tmpAddr.toNat < usbNumdevices) (taskError rcode)
      fun _ => Enlisted k := by
  refine Safe.bind (Q := fun _ u => u.naming.Wired ∧ u.tmpAddr.toNat < usbNumdevices)
    (Safe.update fun _ => id) fun _ => Safe.update fun u hu => ?_
  have hno : NoAddress usbStateError := by decide
  exact Enlisted.of_noAddress (u := u.setTaskState usbStateError) hu.1 hu.2 hk hno

theorem safe_taskDetached (hk : nextAddressing ≤ k) (state : Byte) :
    Safe (fun u => Enlisted k u ∧ BeforeAddress u.usbTaskState) (taskDetached state)
      fun _ => Enlisted k := by
  unfold taskDetached
  split
  · refine Safe.bind ((safe_usbInit hk).mono (fun u hu => ⟨hu.1.tmpAddr, hu.2⟩) fun _ _ => id)
      fun _ => ?_
    exact Undisturbed.safe hk (NoFault.update _) (Undisturbed.setTaskState (by decide))
  split
  · exact ((allowsController_enlisted hk).regWr _ _ (by decide)).mono (fun _ hu => hu.1)
      fun _ _ => id
  · exact Safe.pure fun _ hu => hu.1

/-- The requests for the descriptors of a device are to address 0, which can be reached. -/
theorem safe_descriptor (hk : nextAddressing ≤ k) :
    Safe (Enlisted k) (liftM getDeviceDescriptor : Task Byte) fun _ => Enlisted k := by
  refine Safe.ghost (f := id) fun u hu => ?_
  have hnames : u.naming.Names 0 0 := hu.wired.zero.names
  have hdescriptor := (endpoint_at hnames hnames).getDeviceDescriptor
  exact (safe_driver hdescriptor).mono (fun v hv => hv) fun _ v hv => hu.undisturbed hk hv

theorem allowsProbe_enlisted (hk : nextAddressing ≤ k) :
    AllowsProbe fun _ m => Safe (Enlisted k) m fun _ => Enlisted k where
  toSequential := Safe.sequential
  regWr := (allowsController_enlisted hk).regWr
  regRd := (allowsController_enlisted hk).regRd
  pioRd := (allowsController_enlisted hk).pioRd
  milliseconds := Undisturbed.safe hk
    (noFault_driver ((allows_noFault fun _ => True).milliseconds fun _ => trivial))
    (Undisturbed.driver (preserves_milliseconds transferFree_naming))
  reset := (allowsController_enlisted hk).reset
  descriptor := safe_descriptor hk
  set new hnew := by
    have hno : ∀ new ∈ probeStates, NoAddress new := by decide
    exact Undisturbed.safe hk (NoFault.update _) (Undisturbed.setTaskState (hno new hnew))
  settle _ := by
    refine Safe.bind (Q := fun _ => Enlisted k) ?_ fun _ => ?_
    · exact Safe.update fun u hu => hu.undisturbed hk ⟨rfl, rfl, .inl rfl⟩
    · exact Undisturbed.safe hk (NoFault.update _) (Undisturbed.setTaskState (by decide))
  error rcode := (safe_taskError hk rcode).mono (fun u hu => ⟨hu.wired, hu.tmpAddr⟩) fun _ _ => id

/-- With no slot free, all are taken. -/
theorem held_of_freeSlot_eq_none {t : Tables} (h : t.freeSlot = none) {i : Nat} (hi : 1 ≤ i)
    (hlt : i < usbNumdevices) : t.naming.Held i := by
  have hbound : i < usbNumdevices + 1 := Nat.lt_succ_of_lt hlt
  have hmem : i ∈ List.range' 1 (usbNumdevices - 1) := by
    rw [List.mem_range'_1]
    exact ⟨hi, by simpa [usbNumdevices] using hlt⟩
  refine ⟨t.devtable[i], Vector.getElem?_eq_getElem hbound, fun hnull => ?_⟩
  have hno := List.find?_eq_none.1 h i hmem
  rw [Vector.getElem?_eq_getElem hbound, Option.map_some, hnull] at hno
  exact hno (decide_eq_true rfl)

/-- The slot that is given is free, and slot 1 is given first. -/
theorem of_freeSlot_eq_some {t : Tables} {i : Nat} (h : t.freeSlot = some i) :
    1 ≤ i ∧ i < usbNumdevices ∧ ¬ t.naming.Held i ∧ (i = 1 ∨ t.naming.Held 1) := by
  obtain ⟨hge, hlt⟩ := List.mem_range'_1.1 (List.mem_of_find?_eq_some h)
  have hnull : t.devtable[i]?.map (·.epinfo) = some .null := by simpa using List.find?_some h
  refine ⟨hge, hlt, ?_, ?_⟩
  · rintro ⟨d, hd, hne⟩
    have hdev : t.devtable[i]? = some d := hd
    rw [hdev, Option.map_some] at hnull
    exact hne (Option.some.inj hnull)
  · by_cases hone : t.devtable[1].epinfo = .null
    · left
      have hfirst : t.freeSlot = some 1 := by
        have hrange : List.range' 1 (usbNumdevices - 1) = 1 :: List.range' 2 6 := rfl
        have hslot : t.devtable[1]?.map (·.epinfo) = some .null := by
          rw [Vector.getElem?_eq_getElem (by decide), Option.map_some, hone]
        rw [Tables.freeSlot, hrange, List.find?_cons_of_pos (by simpa using hslot)]
      exact (Option.some.inj (h.symm.trans hfirst))
    · exact .inr ⟨_, Vector.getElem?_eq_getElem (by decide), hone⟩

section Assign

variable {x : Naming} {addr : Byte} {haddr : addr.toNat < usbNumdevices + 1} {epinfo : EpInfo}
  (hinfo : epinfo ≠ .null)
include hinfo

theorem Naming.Held.assign {i : Nat} (h : x.Held i ∨ i = addr.toNat) :
    (x.setDev addr haddr fun d => { d with epinfo := epinfo }).Held i := by
  rw [Held, getElem?_setDev]
  split_ifs with hi
  · rw [Vector.getElem?_eq_getElem haddr, Option.map_some]
    exact ⟨_, rfl, hinfo⟩
  · exact h.resolve_right fun heq => hi heq.symm

/-- A slot that is free is not the one of `hid_device`. -/
theorem Naming.Wired.assign (h : x.Wired) (hfree : ¬ x.Held addr.toNat) :
    (x.setDev addr haddr fun d => { d with epinfo := epinfo }).Wired := by
  refine ⟨Held.assign hinfo (.inl h.zero), ?_⟩
  rintro ⟨i, d, hd, hclass⟩
  have hold : ∃ d₀, x.devtable[i]? = some d₀ ∧ d₀.devclass = d.devclass := by
    rw [getElem?_setDev] at hd
    split_ifs at hd with hi
    · obtain ⟨d₀, hd₀, heq⟩ := Option.map_eq_some_iff.1 hd
      exact ⟨d₀, hi ▸ hd₀, by rw [← heq]⟩
    · exact ⟨d, hd, rfl⟩
  obtain ⟨d₀, hd₀, heq⟩ := hold
  obtain ⟨d', hd', hhas⟩ := h.hid ⟨i, d₀, hd₀, heq ▸ hclass⟩
  have hne : addr.toNat ≠ x.hidDevice.addr.toNat := by
    intro haddr
    refine hfree ⟨d', haddr ▸ hd', fun hnull => ?_⟩
    rw [hnull] at hhas
    exact hhas
  refine ⟨d', ?_, hhas⟩
  show (x.setDev addr haddr _).devtable[x.hidDevice.addr.toNat]? = some d'
  rw [getElem?_setDev, if_neg hne, hd']

end Assign

/-- A slot has been given away: it can be reached now, and so can slot 1. -/
structure Given (addr : Byte) (u : Host) : Prop where
  wired : u.naming.Wired
  tmpAddr : u.tmpAddr.toNat < usbNumdevices
  held : u.naming.Held addr.toNat
  first : u.naming.Held mainAddr.toNat

theorem Given.undisturbed {addr : Byte} {u v : Host} (h : Given addr u) (hs : Undisturbed u v) :
    Given addr v :=
  ⟨hs.naming ▸ h.wired, hs.tmpAddr ▸ h.tmpAddr, hs.naming ▸ h.held, hs.naming ▸ h.first⟩

/-- The slot that is free takes over the `epinfo` of address 0. -/
theorem safe_giveSlot {u : Host} {addr : Byte} (hwired : u.naming.Wired)
    (htmp : u.tmpAddr.toNat < usbNumdevices) (hslot : u.freeSlot = some addr.toNat) :
    Safe (fun v => v = u) (liftM (setDevRecord addr fun d =>
      { d with epinfo := u.devtable[0].epinfo }) : Task Unit) fun _ => Given addr := by
  obtain ⟨-, hlt, hfree, hfirst⟩ := of_freeSlot_eq_some hslot
  have hinfo : u.devtable[0].epinfo ≠ .null := by
    obtain ⟨d, hd, hne⟩ := hwired.zero
    have hzero : u.devtable[0]? = some d := hd
    rw [Vector.getElem?_eq_getElem (by decide)] at hzero
    rwa [Option.some.inj hzero]
  rw [liftM_driver]
  refine (safe_setDevRecord u.naming (Nat.lt_succ_of_lt hlt) _).zoom (fun v hv => hv ▸ rfl) ?_
  rintro - t v rfl ht
  have hnaming : t.naming = v.naming.setDev addr (Nat.lt_succ_of_lt hlt) fun d =>
    { d with epinfo := v.devtable[0].epinfo } := ht
  refine ⟨?_, htmp, ?_, ?_⟩
  · exact hnaming ▸ hwired.assign hinfo hfree
  · exact hnaming ▸ Naming.Held.assign hinfo (.inr rfl)
  · exact hnaming ▸ Naming.Held.assign hinfo
      (hfirst.elim (fun hone => .inr hone.symm) .inl)

/-- The device is configured at the slot that it was given. -/
theorem Given.configuring {addr : Byte} {u : Host} (h : Given addr u)
    (haddr : addr.toNat < usbNumdevices) :
    Enlisted nextAddressing ({ u with tmpAddr := addr }.setTaskState usbStateConfiguring) :=
  ⟨h.wired, haddr, fun _ hlt => absurd hlt (BitVec.lt_irrefl _), fun _ => h.first, fun _ => h.held⟩

theorem safe_assignAddress :
    Safe (fun u => Enlisted (nextAddressing + 1) u ∧
        u.usbTaskState &&& usbStateMask = usbStateAddressing)
      assignAddress fun _ => Enlisted nextAddressing := by
  refine Safe.read_bind fun u hu => ?_
  obtain ⟨hlisted, -⟩ := hu
  cases hslot : u.freeSlot with
  | none =>
    -- nothing is assigned, and all slots are taken
    refine Safe.pure fun v hv => ?_
    rw [hv]
    exact { hlisted with full := fun _ _ _ hi hlt => held_of_freeSlot_eq_none hslot hi hlt }
  | some i =>
    have hlt := (of_freeSlot_eq_some hslot).2.1
    have htoNat : (BitVec.ofNat 8 i).toNat = i := by
      rw [BitVec.toNat_ofNat]
      simp only [usbNumdevices] at hlt
      omega
    refine Safe.read_bind fun v hv => ?_
    obtain rfl : v = u := hv
    have hgive := safe_giveSlot hlisted.wired hlisted.tmpAddr (htoNat.symm ▸ hslot)
    -- the request to take the address changes nothing of this
    have hrequest : Keeps (Given (.ofNat 8 i)) (liftM (xferSetAddr 0 0 (.ofNat 8 i)) : Task Byte) :=
      (Undisturbed.driver (preserves_xferSetAddr transferFree_naming _ _ _)).keeps
        fun _ _ hs h => h.undisturbed hs
    refine Safe.bind hgive fun _ =>
      Safe.bind ((noFault_driver noFault_xferSetAddr).safe hrequest) fun rcode => ?_
    split
    · refine Safe.bind (Q := fun _ w => ∃ u, Given (.ofNat 8 i) u ∧
        w = { u with tmpAddr := .ofNat 8 i }) (Safe.update fun u hu => ⟨u, hu, rfl⟩) fun _ =>
        Safe.update ?_
      rintro _ ⟨u, hu, rfl⟩
      exact hu.configuring (htoNat.symm ▸ hlt)
    · exact (safe_taskError (by decide) rcode).mono (fun w hw => ⟨hw.wired, hw.tmpAddr⟩)
        fun _ _ => id

theorem safe_taskAddressing :
    Safe (fun u => Enlisted (nextAddressing + 1) u ∧
        u.usbTaskState &&& usbStateMask = usbStateAddressing)
      taskAddressing fun _ => Enlisted nextAddressing := by
  refine Safe.bind safe_assignAddress fun _ => Safe.read_bind fun u hu => ?_
  split
  · exact (safe_taskError (by decide) 0xfe).mono (fun v hv => hv ▸ ⟨hu.wired, hu.tmpAddr⟩)
      fun _ _ => id
  · exact Safe.pure fun v hv => hv ▸ hu

theorem safe_taskConfiguring :
    Safe (fun u => Enlisted (nextAddressing + 1) u ∧
        u.usbTaskState &&& usbStateMask = usbStateConfiguring)
      taskConfiguring fun _ => Enlisted nextAddressing := by
  refine Safe.read_bind fun u hu => ?_
  obtain ⟨hlisted, hgroup⟩ := hu
  have hlive : u.naming.Live u.tmpAddr :=
    { hlisted.wired with
      bound := Nat.lt_succ_of_lt hlisted.tmpAddr
      held := hlisted.held hgroup
      first := hlisted.first (.inl hgroup) }
  have hbyte : ∀ s : Byte, s &&& usbStateMask = usbStateConfiguring →
      ¬ s < usbStateConfiguring := by decide
  have hprobes : Safe (fun v => v = u) (liftM (runProbes u.tmpAddr clientDriverTable) : Task Bool)
      fun _ v => v.naming.Live v.tmpAddr ∧ v.tmpAddr.toNat < usbNumdevices ∧
        v.usbTaskState &&& usbStateMask = usbStateConfiguring := by
    rw [liftM_driver]
    refine safe_clientDrivers.zoom (fun v hv => hv ▸ hlive) ?_
    rintro found t v rfl ht
    exact ⟨ht, hlisted.tmpAddr, hgroup⟩
  have hlast {v : Host} (hv : v.naming.Live v.tmpAddr) (htmp : v.tmpAddr.toNat < usbNumdevices)
      (hstate : ¬ v.usbTaskState < usbStateConfiguring) : Enlisted nextAddressing v :=
    ⟨hv.toWired, htmp, fun _ hlt => absurd hlt hstate, fun _ => hv.first, fun _ => hv.held⟩
  refine Safe.bind hprobes fun found => Safe.bind (Q := fun _ => Enlisted nextAddressing)
    (Safe.onlyIf (fun _ => Safe.update fun v hv => ?_) fun v hv => ?_) fun _ =>
    Safe.read_bind fun v hv => ?_
  · have hrunning : ¬ usbStateRunning < usbStateConfiguring := by decide
    exact hlast (v := v.setTaskState usbStateRunning) hv.1 hv.2.1 hrunning
  · exact hlast hv.1 hv.2.1 (hbyte _ hv.2.2)
  · split
    · exact (safe_taskError (by decide) 0xfd).mono (fun w hw => hw ▸ ⟨hv.wired, hv.tmpAddr⟩)
        fun _ _ => id
    · exact Safe.pure fun w hw => hw ▸ hv

theorem safe_usbTask :
    Safe (Enlisted (nextAddressing + 1)) usbTask fun _ => Enlisted nextAddressing := by
  refine Safe.read_bind fun u hu => ?_
  have hbyte : ∀ s : Byte, nextAddressing ≤ s → s < usbStateConfiguring →
      s &&& usbStateMask = usbStateAddressing := by decide
  have hresume (hgroup : u.usbTaskState &&& usbStateMask ≠ usbStateAddressing) :
      Enlisted nextAddressing u :=
    { hu with full := fun hge hlt => absurd (hbyte _ hge hlt) hgroup }
  have hk : nextAddressing ≤ nextAddressing := by decide
  show Safe _ (if _ then _ else _) _
  split
  · next h =>
    have hne : u.usbTaskState &&& usbStateMask ≠ usbStateAddressing := by rw [h]; decide
    exact (safe_taskDetached hk _).mono (fun v hv => hv ▸ ⟨hresume hne, .inl h⟩) fun _ _ => id
  split
  · next h =>
    have hne : u.usbTaskState &&& usbStateMask ≠ usbStateAddressing := by rw [h]; decide
    exact ((allowsProbe_enlisted hk).taskAttached _).mono (fun v hv => hv ▸ hresume hne)
      fun _ _ => id
  split
  · next h => exact safe_taskAddressing.mono (fun v hv => hv ▸ ⟨hu, h⟩) fun _ _ => id
  split
  · next h => exact safe_taskConfiguring.mono (fun v hv => hv ▸ ⟨hu, h⟩) fun _ _ => id
  · next hne _ => exact Safe.pure fun v hv => hv ▸ hresume hne

end UsbTask

end Bosconian.Usb
