import Bosconian.Usb.Seek

/-!
# What a probe that fails leaves behind

A probe enters the device in the tables as soon as the interface descriptor matches, and none of
the exits after that takes it back: no endpoint descriptor, or a device that refuses to be
configured.

* `claim_of_failed` — what is in the tables when a probe returns `FALSE`.
* `failed_traceless_iff` — when that is what was there before.
-/

namespace Bosconian.Usb

open Scripted

/-! ## The claim on a device -/

/-- The entries that say which driver has the device: its record, with class and endpoints, and
`hid_device`. -/
def claim (addr : Byte) (t : Tables) : Option DevRecord × HidDevice :=
  (t.devtable[addr.toNat]?, t.hidDevice)

theorem transferFree_claim (addr : Byte) : TransferFree (claim addr) where
  log _ _ := rfl
  rcvToggle _ slot _ := by cases slot <;> rfl

section Preserves

variable (addr : Byte)

/-- The requests claim nothing. -/
theorem preserves_claim_readConfiguration : Preserves (claim addr) (readConfiguration addr) := by
  have hf := transferFree_claim addr
  have hconf := preserves_confDescrToBigbuf hf (fun _ _ => rfl) addr
  refine Moves.bind (hconf _) fun rcode => ?_
  split
  · exact Moves.pure _
  · refine Moves.bind (preserves_bigbufRdWord hf 2) fun wTotalLength => ?_
    refine Moves.bind (hconf _) fun rcode => ?_
    split
    · exact Moves.pure _
    · exact Moves.pure _

/-- Nothing in the inner loop takes a claim back. -/
theorem preserves_claim_endpointLoop (confvalue : Byte) (totalLength n p : Nat) :
    Preserves (claim addr) (loop (endpointRound addr confvalue totalLength) n p) := by
  have hendpoint := (transferFree_claim addr).endpoint
    (fun _ slot _ => by cases slot <;> rfl) addr 1
  exact Moves.loop (hendpoint.endpointRound confvalue totalLength) n p

end Preserves

/-! ## What is left -/

def bInterfaceNumber (mem : List Byte) (p : Nat) : Byte := byteAt mem (p + 2)

/-- The claim of the driver for `d` on interface `interface` of the device. -/
def claimed (d : BootDevice) (addr interface : Byte) : Option DevRecord × HidDevice :=
  (some ⟨.hidEp, d.devclass⟩, ⟨addr, interface⟩)

/-- The interface that the answers of the device to the two requests let match. -/
def interfaceMatched (d : BootDevice) (addr : Byte) (w : World Dword Tables) : Option Byte :=
  match readConfiguration addr w with
  | .ok (some totalLength) v =>
    (matchedInterface v.st.bigbuf totalLength d.protocol).map (bInterfaceNumber v.st.bigbuf)
  | .ok none _ | .error _ _ => none

/-- The nested loops: without a match nothing is claimed, and with one the claim stays. -/
theorem claim_of_parse (d : BootDevice) (addr confvalue : Byte) {totalLength : Nat}
    (htotal : totalLength ≤ 256) {w v : World Dword Tables} {found : Bool}
    (hmem : scanReach ≤ w.st.bigbuf.length)
    (h : d.parse addr confvalue totalLength w = .ok found v) :
    claim addr v.st =
      (matchedInterface w.st.bigbuf totalLength d.protocol).elim (claim addr w.st) fun i =>
        claimed d addr (bInterfaceNumber w.st.bigbuf i) := by
  unfold matchedInterface
  cases d.parsed addr confvalue htotal hmem with
  | ended hfind hrun =>
    rw [h] at hrun
    split_ifs at hrun
    cases hrun
    rw [hfind]
    rfl
  | other i hfind hboot hrun =>
    have hother : (some i).filter (isBootInterface w.st.bigbuf d.protocol) = none := by
      simp [Option.filter, hboot]
    rw [h] at hrun
    cases hrun
    rw [hfind, hother]
    rfl
  | fault i u hfind hboot hslot hrun hlog =>
    rw [h] at hrun
    cases hrun
  | claimed i u hfind hboot hslot hclaimed hrun hlog =>
    have hentered : claim addr u.st = claimed d addr (bInterfaceNumber w.st.bigbuf i) :=
      Prod.ext hclaimed.devtable hclaimed.hidDevice
    have hkept := (preserves_claim_endpointLoop addr confvalue totalLength _ _).ok
      (hrun.symm.trans h)
    rw [← hkept, hentered, hfind]
    simp [Option.filter, hboot]

/-- **What is in the tables when a probe returns**, whatever it returns. -/
theorem claim_of_probe {d : BootDevice} {addr : Byte} {w v : World Dword Tables} {found : Bool}
    (hmem : scanReach ≤ w.st.bigbuf.length) (h : d.probe addr w = .ok found v) :
    claim addr v.st = (interfaceMatched d addr w).elim (claim addr w.st) (claimed d addr) := by
  have hreach : scanReach = 263 := rfl
  have hrequests := preserves_claim_readConfiguration addr
  rw [d.probe_judges] at h
  unfold interfaceMatched
  rcases hread : readConfiguration addr w with ⟨_ | totalLength, u⟩ | ⟨e, u⟩
  · rw [bind_ok hread] at h
    cases h
    exact (hrequests.ok hread).symm
  · obtain ⟨htotal, hu⟩ := (triple_readConfiguration addr w hmem).1 _ u hread totalLength rfl
    rw [bind_ok hread, judge, bigbufRd_bind (by omega)] at h
    have hparse := claim_of_parse d addr _ (w := reading u [5]) htotal hu h
    rw [hparse, hrequests.ok hread, Option.elim_map]
    rfl
  · rw [bind_error hread] at h
    cases h

/-- **A probe that fails leaves no trace** exactly when the interface did not match, or the same
driver had the device with the same interface before. -/
theorem failed_traceless_iff (d : BootDevice) (addr : Byte) (is : List Dword) (t : Tables)
    (behind : Vector Byte scanReach)
    (h : returned (d.probe addr) ⟨is, t.withBehind behind⟩ = some false) :
    claim addr (final (d.probe addr) ⟨is, t.withBehind behind⟩).st = claim addr t ↔
      ∀ interface ∈ interfaceMatched d addr ⟨is, t.withBehind behind⟩,
        claim addr t = claimed d addr interface := by
  let w : World Dword Tables := ⟨is, t.withBehind behind⟩
  have hmem : scanReach ≤ w.st.bigbuf.length := by
    simp [w, Tables.withBehind]
  rcases hrun : d.probe addr w with ⟨found, v⟩ | ⟨e, v⟩
  · have hclaim : claim addr v.st =
        (interfaceMatched d addr w).elim (claim addr t) (claimed d addr) := claim_of_probe hmem hrun
    rw [final_ok hrun, hclaim]
    show _ ↔ ∀ interface ∈ interfaceMatched d addr w, _
    rcases interfaceMatched d addr w with _ | interface
    · simp
    · simp [eq_comm]
  · rw [returned, hrun] at h
    cases h

/-- The mouse driver leaves a keyboard as it was. -/
theorem failed_traceless_mouse :
    claim 1 (final (BootDevice.mouse.probe 1)
      ⟨keyboardAnswers 0x81, addressedTables.withBehind zerosBehind⟩).st =
        claim 1 addressedTables :=
  (failed_traceless_iff .mouse 1 (keyboardAnswers 0x81) addressedTables zerosBehind
    (by decide +kernel)).2 (by decide +kernel)

/-- A keyboard that stalls when it is to be configured. -/
def stallingAnswers : List Dword :=
  acknowledged ++ lastPacket ((keyboardConfiguration 0x81).take 9) ++ acknowledged ++
    acknowledged ++ lastPacket (keyboardConfiguration 0x81) ++ acknowledged ++ [0, 0, 0x80, 0x05]

/-- The probe returns `FALSE`, and the keyboard driver has the device. -/
theorem not_failed_traceless :
    returned (BootDevice.keyboard.probe 1)
        ⟨stallingAnswers, addressedTables.withBehind zerosBehind⟩ = some false ∧
      claim 1 (final (BootDevice.keyboard.probe 1)
        ⟨stallingAnswers, addressedTables.withBehind zerosBehind⟩).st ≠
          claim 1 addressedTables := by
  constructor
  · decide +kernel
  · decide +kernel

end Bosconian.Usb
