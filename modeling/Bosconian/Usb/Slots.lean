import Bosconian.Usb.Frame
import Bosconian.Usb.TaskRoutines

/-!
# The address slots

`USB_Task` gives a device the first free slot of `devtable`, and only `USB_init` frees a slot. What
else the program does leaves the slots as they are.

* `takenSlots` — the slots of attached devices.
* `Retreats` — what a call may do that neither gives an address nor finds a driver: the slots stay,
  and the state does not enter those of a device with an address.
* `Slotted`, `Booted`, `Fresh` — what holds of the slots in each state, before and after
  `USB_init`, and before and after a bus event.
-/

namespace Bosconian.Usb

open Scripted

/-! ## Slots -/

/-- Slot `i` of `devtable` has an `epinfo`. -/
def Tables.Taken (t : Tables) (i : Nat) : Prop := t.devtable[i]?.map (·.epinfo) ≠ some .null

instance (t : Tables) (i : Nat) : Decidable (t.Taken i) := by
  unfold Tables.Taken; infer_instance

/-- The slots of attached devices that are taken. -/
def Tables.takenSlots (t : Tables) : List Nat :=
  (List.range' 1 (usbNumdevices - 1)).filter fun i => t.Taken i

/-- The device has the one slot that is taken, and `main` knows its number. -/
structure OneSlot (u : Host) : Prop where
  taken : u.takenSlots = [u.tmpAddr.toNat]
  addr : u.tmpAddr = mainAddr

theorem taken_congr {t t' : Tables} (h : t.devtable = t'.devtable) (i : Nat) :
    t.Taken i ↔ t'.Taken i := by
  rw [Tables.Taken, Tables.Taken, h]

theorem takenSlots_congr {t t' : Tables} (h : t.devtable = t'.devtable) :
    t.takenSlots = t'.takenSlots :=
  List.filter_congr fun i _ => decide_eq_decide.2 (taken_congr h i)

/-- Slot 1 is the first of them, and so the one that is given when it is free. -/
theorem freeSlot_of_not_taken {t : Tables} (h : 1 ∉ t.takenSlots) : t.freeSlot = some 1 := by
  have hfree : ¬ t.Taken 1 := by
    intro htaken
    exact h (List.mem_filter.2 ⟨by decide, by simpa using htaken⟩)
  have hnull : t.devtable[1]?.map (·.epinfo) = some .null := not_not.1 hfree
  have hrange : List.range' 1 (usbNumdevices - 1) = 1 :: List.range' 2 6 := rfl
  rw [Tables.freeSlot, hrange, List.find?_cons_of_pos (by simpa using hnull)]

/-- `devtable[i]` is assigned to. -/
def Tables.setDev (t : Tables) (i : Nat) (h : i < usbNumdevices + 1) (d : DevRecord) : Tables :=
  { t with devtable := t.devtable.set i d }

theorem taken_setDev {t : Tables} {i : Nat} {h : i < usbNumdevices + 1} {d : DevRecord}
    (hd : d.epinfo ≠ .null) (j : Nat) : (t.setDev i h d).Taken j ↔ i = j ∨ t.Taken j := by
  unfold Tables.Taken Tables.setDev
  rw [Vector.getElem?_set]
  by_cases hij : i = j
  · simp [hij ▸ h, hij, hd]
  · simp [hij]

/-- A slot that is taken again changes nothing. -/
theorem takenSlots_setDev_of_taken {t : Tables} {i : Nat} {h : i < usbNumdevices + 1}
    {d : DevRecord} (hd : d.epinfo ≠ .null) (hi : t.Taken i) :
    (t.setDev i h d).takenSlots = t.takenSlots := by
  refine List.filter_congr fun j _ => decide_eq_decide.2 ?_
  rw [taken_setDev hd]
  exact ⟨fun hj => hj.elim (fun hij => hij ▸ hi) id, .inr⟩

/-- The first slot that is taken is then the only one. -/
theorem takenSlots_setDev_one {t : Tables} {h : 1 < usbNumdevices + 1} {d : DevRecord}
    (hd : d.epinfo ≠ .null) (hfree : t.takenSlots = []) :
    (t.setDev 1 h d).takenSlots = [1] := by
  have hone : (t.setDev 1 h d).takenSlots =
      (List.range' 1 (usbNumdevices - 1)).filter fun j => 1 = j := by
    refine List.filter_congr fun j hj => decide_eq_decide.2 ?_
    have hno : ¬ t.Taken j := by simpa using List.filter_eq_nil_iff.1 hfree j hj
    rw [taken_setDev hd]
    simp [hno]
  rw [hone]
  rfl

/-! ## What the calls write -/

/-- The states of a device that has an address. -/
def HasAddress (state : Byte) : Prop :=
  state &&& usbStateMask = usbStateConfiguring ∨ state &&& usbStateMask = usbStateRunning

instance (state : Byte) : Decidable (HasAddress state) := by
  unfold HasAddress; infer_instance

/-- The states of the bus without a device, and of one that is being reset. -/
def BeforeAddress (state : Byte) : Prop :=
  state &&& usbStateMask = usbStateDetached ∨ state &&& usbStateMask = usbStateAttached

instance (state : Byte) : Decidable (BeforeAddress state) := by
  unfold BeforeAddress; infer_instance

/-- No device has an address yet, or has one any more. -/
def NoAddress (state : Byte) : Prop :=
  ¬ HasAddress state ∧ (state &&& usbStateMask = usbStateAddressing → state = usbStateAddressing)

instance (state : Byte) : Decidable (NoAddress state) := by
  unfold NoAddress; infer_instance

theorem BeforeAddress.noAddress : ∀ {state}, BeforeAddress state → NoAddress state := by
  decide

/-- The slots and `tmp_addr` stay, and the state stays or is one without an address. -/
structure Retreats (u v : Host) : Prop where
  devtable : u.devtable = v.devtable
  tmpAddr : u.tmpAddr = v.tmpAddr
  state : v.usbTaskState = u.usbTaskState ∨ NoAddress v.usbTaskState

instance : IsPreorder Host Retreats where
  refl _ := ⟨rfl, rfl, .inl rfl⟩
  trans u v w h₁ h₂ := by
    refine ⟨h₁.devtable.trans h₂.devtable, h₁.tmpAddr.trans h₂.tmpAddr, ?_⟩
    rcases h₂.state with hw | hw
    · rw [hw]
      exact h₁.state
    · exact .inr hw

theorem transferFree_devtable : TransferFree Tables.devtable where
  log _ _ := rfl
  rcvToggle _ slot _ := by cases slot <;> rfl

theorem endpoint_devtable (addr ep : Byte) :
    AllowsEndpoint addr ep fun _ m => Preserves Tables.devtable m :=
  transferFree_devtable.endpoint (fun _ slot _ => by cases slot <;> rfl) addr ep

section Retreats

theorem Retreats.driver {α : Type} {m : Driver α} (hm : Preserves Tables.devtable m) :
    Moves (along id Retreats) (liftM m : Task α) := by
  show Moves (along id Retreats) (zoom Host.toTables (fun t u => { u with toTables := t }) m)
  exact Moves.zoom hm fun t u h => ⟨h, rfl, .inl rfl⟩

theorem Retreats.emit (e : Access) : Moves (along id Retreats) (liftM (emit e) : Task Unit) :=
  Retreats.driver (preserves_emit transferFree_devtable e)

theorem Retreats.maxRegRd (reg : Byte) :
    Moves (along id Retreats) (liftM (maxRegRd reg) : Task Byte) :=
  Retreats.driver (preserves_maxRegRd transferFree_devtable reg)

theorem Retreats.milliseconds : Moves (along id Retreats) (liftM milliseconds : Task Dword) :=
  Retreats.driver (preserves_milliseconds transferFree_devtable)

theorem Retreats.setTaskState {new : Byte} (hnew : NoAddress new) :
    Moves (along id Retreats) (setTaskState new) :=
  Moves.update_along fun _ => ⟨rfl, rfl, .inr hnew⟩

theorem Retreats.taskError (rcode : Byte) : Moves (along id Retreats) (taskError rcode) :=
  Moves.bind (Moves.update_along fun _ => ⟨rfl, rfl, .inl rfl⟩) fun _ =>
    Retreats.setTaskState (by decide)

theorem allowsProbe_retreats : AllowsProbe fun _ m => Moves (along id Retreats) m where
  toSequential := Moves.sequential
  regWr reg val _ := Retreats.emit (.regWr reg val)
  regRd := Retreats.maxRegRd
  pioRd port := Retreats.driver (preserves_pioRd transferFree_devtable port)
  milliseconds := Retreats.milliseconds
  reset := Retreats.driver (transferFree_devtable.allows Access.OfHost).max3421eReset
  descriptor := Retreats.driver (endpoint_devtable 0 0).getDeviceDescriptor
  set new hnew := by
    have hno : ∀ new ∈ probeStates, NoAddress new := by decide
    exact Retreats.setTaskState (hno new hnew)
  settle _ := Moves.bind (Moves.update_along fun _ => ⟨rfl, rfl, .inl rfl⟩) fun _ =>
    Retreats.setTaskState (by decide)
  error := Retreats.taskError

end Retreats

/-! ## What holds between the calls -/

/-- At most slot 1 is taken, a device with an address has it, and a state of the addressing group
is `USB_STATE_ADDRESSING` or was that before one bus event. -/
structure Slotted (u : Host) : Prop where
  slots : u.takenSlots = [] ∨ u.takenSlots = [1]
  address : HasAddress u.usbTaskState → u.takenSlots = [1] ∧ u.tmpAddr = mainAddr
  addressing : u.usbTaskState &&& usbStateMask = usbStateAddressing →
    u.usbTaskState = usbStateAddressing ∨ u.usbTaskState = usbStateAddressing + 1

/-- `USB_init` has been called: slot 0 is that of a device without an address. -/
structure Booted (u : Host) : Prop extends Slotted u where
  dev0 : u.Taken 0

/-- No bus event has come since `USB_Task` was called last. -/
structure Fresh (u : Host) : Prop extends Booted u where
  not_next : u.usbTaskState ≠ usbStateAddressing + 1

theorem Slotted.retreat {u v : Host} (h : Slotted u) (hr : Retreats u v) : Slotted v := by
  have htaken : u.takenSlots = v.takenSlots := takenSlots_congr hr.devtable
  refine ⟨htaken ▸ h.slots, ?_, ?_⟩
  · intro haddr
    rcases hr.state with hv | hv
    · rw [← htaken, ← hr.tmpAddr]
      exact h.address (hv ▸ haddr)
    · exact absurd haddr hv.1
  · intro hgroup
    rcases hr.state with hv | hv
    · rw [hv] at hgroup ⊢
      exact h.addressing hgroup
    · exact .inl (hv.2 hgroup)

theorem Booted.retreat {u v : Host} (h : Booted u) (hr : Retreats u v) : Booted v :=
  ⟨h.toSlotted.retreat hr, (taken_congr hr.devtable 0).1 h.dev0⟩

theorem Fresh.retreat {u v : Host} (h : Fresh u) (hr : Retreats u v) : Fresh v := by
  refine ⟨h.toBooted.retreat hr, fun hnext => ?_⟩
  rcases hr.state with hv | hv
  · exact h.not_next (hv ▸ hnext)
  · exact absurd (hnext ▸ hv) (by decide)

section Keeps

variable {α : Type} {m : Task α} (hm : Moves (along id Retreats) m)
include hm

theorem Retreats.slotted : Keeps Slotted m := hm.keeps fun _ _ hr h => h.retreat hr

theorem Retreats.booted : Triple Booted m (fun _ => Booted) Booted :=
  Keeps.triple (hm.keeps fun _ _ hr h => h.retreat hr) fun _ => id

theorem Retreats.fresh : Triple Fresh m (fun _ => Fresh) Booted :=
  Keeps.triple (hm.keeps fun _ _ hr h => h.retreat hr) fun _ h => h.toBooted

end Keeps

/-- Before an address is given, a booted task is fresh. -/
theorem Booted.fresh {u : Host} (h : Booted u)
    (hstate : u.usbTaskState &&& usbStateMask ≠ usbStateAddressing) : Fresh u := by
  refine ⟨h, fun hnext => ?_⟩
  rw [hnext] at hstate
  exact hstate rfl

end Bosconian.Usb
