import Bosconian.Usb.Seek

/-!
# Which bytes a probe reads of the descriptors

The guard of both loops is about where a descriptor starts, and the fields of it are read up to
seven bytes further on. `scanReads` are the indices in the order in which they are read.

* `bigbufReads_parse` — the loops read these bytes and no others.
* `readsInside_iff` — when all of them lie inside the configuration.
-/

namespace Bosconian.Usb

open Scripted

/-! ## The log -/

/-- Which byte of `bigbuf` an access reads. -/
def Access.bigbufIndex : Access → Option Nat
  | .bigbufRd i => some i
  | _ => none

/-- The indices into `bigbuf` that were read, in order. -/
def bigbufReads (log : List Access) : List Nat := log.filterMap Access.bigbufIndex

@[simp] theorem bigbufReads_append (log log' : List Access) :
    bigbufReads (log ++ log') = bigbufReads log ++ bigbufReads log' := List.filterMap_append

@[simp] theorem bigbufReads_bigbufRd (is : List Nat) : bigbufReads (is.map .bigbufRd) = is := by
  induction is with
  | nil => rfl
  | cons i is ih => exact congrArg (i :: ·) ih

theorem bigbufReads_reading (w : World Dword Tables) (is : List Nat) :
    bigbufReads (reading w is).st.log = bigbufReads w.st.log ++ is := by simp

theorem allows_bigbufReads :
    Allows Access.SparesBigbuf (along (fun t : Tables => bigbufReads t.log) Eq) := by
  apply allows_log
  intro log e he
  have hnone : bigbufReads [e] = [] := by
    cases e <;> first | rfl | exact he.elim
  rw [bigbufReads_append, hnone, List.append_nil]

/-! ## What is read -/

/-- Of an endpoint descriptor at `e`, once its type has been read. -/
def endpointFields (e : Nat) : List Nat := [e + 2, e + 3, e + 4, e + 5, e + 6]

/-- The inner loop, from `p` on. -/
def endpointReads (mem : List Byte) (totalLength p : Nat) : List Nat :=
  skimmedEndpoints mem totalLength p ++
    ((descriptorsFrom mem totalLength p).find? (isEndpoint mem)).elim []
      fun e => (e + 1) :: endpointFields e

/-- The first interface descriptor, at `i`, once its type has been read, and what follows if it
matches and the device has a record to change. -/
def interfaceReads (d : BootDevice) (mem : List Byte) (totalLength : Nat) (slot : Prop)
    [Decidable slot] (i : Nat) : List Nat :=
  [i + 5, i + 6, i + 7] ++
    if isBootInterface mem d.protocol i ∧ slot then
      [i + 2, i] ++ endpointReads mem totalLength (i + (bLength mem i).toNat)
    else []

/-- Both loops. -/
def scanReads (d : BootDevice) (mem : List Byte) (totalLength : Nat) (slot : Prop)
    [Decidable slot] : List Nat :=
  skimmedInterfaces mem totalLength ++
    ((descriptorsFrom mem totalLength 0).find? (isInterface mem)).elim []
      fun i => (i + 1) :: interfaceReads d mem totalLength slot i

/-- An assignment to a record that is there. -/
theorem setEpRecord_ok {addr ep : Byte} {w : World Dword Tables} {slot : EpSlot}
    (hslot : w.st.epSlot addr ep = some slot) (g : EpRecord → EpRecord) :
    ∃ u, setEpRecord addr ep g w = .ok () u ∧ u.st.log = w.st.log ∧
      u.st.bigbuf = w.st.bigbuf ∧ u.st.epSlot addr ep = some slot := by
  refine ⟨_, setEpRecord_eq hslot g, ?_⟩
  cases slot <;> exact ⟨rfl, rfl, hslot⟩

section Fields

variable {addr : Byte} {slot : EpSlot} {w : World Dword Tables} {i : Nat} {js : List Nat} {α : Type}
  {k : Driver α}

/-- From `w` on, `m` reads the bytes at `is`. -/
def Reads (m : Driver α) (is : List Nat) (w : World Dword Tables) : Prop :=
  bigbufReads (final m w).st.log = bigbufReads w.st.log ++ is

theorem reads_of_sparesBigbuf (hm : Accesses Access.SparesBigbuf k) : Reads k [] w := by
  have hkept : bigbufReads w.st.log = bigbufReads (final k w).st.log :=
    hm.moves allows_bigbufReads w
  rw [Reads, ← hkept, List.append_nil]

/-- The memory is that of `w`, and the record is still there. -/
structure StillThere (addr : Byte) (slot : EpSlot) (w u : World Dword Tables) : Prop where
  bigbuf : u.st.bigbuf = w.st.bigbuf
  epSlot : u.st.epSlot addr 1 = some slot

variable (hslot : w.st.epSlot addr 1 = some slot)
include hslot

theorem reads_byteField (hi : i < w.st.bigbuf.length) (g : Byte → EpRecord → EpRecord)
    (hk : ∀ u, StillThere addr slot w u → Reads k js u) :
    Reads (do
      let b ← bigbufRd i
      setEpRecord addr 1 (g b)
      k) (i :: js) w := by
  obtain ⟨u, hset, hlog, hbuf, hu⟩ := setEpRecord_ok (w := reading w [i]) hslot
    (g (byteAt w.st.bigbuf i))
  have hrun : (do
      let b ← bigbufRd i
      setEpRecord addr 1 (g b)
      k) w = k u := by
    rw [bigbufRd_bind hi, bind_ok hset]
  rw [Reads, final_congr hrun, hk u ⟨hbuf, hu⟩, hlog, bigbufReads_reading]
  simp

theorem reads_wordField (hi : i + 1 < w.st.bigbuf.length) (g : Word → EpRecord → EpRecord)
    (hk : ∀ u, StillThere addr slot w u → Reads k js u) :
    Reads (do
      let b ← bigbufRdWord i
      setEpRecord addr 1 (g b)
      k) (i :: (i + 1) :: js) w := by
  obtain ⟨u, hset, hlog, hbuf, hu⟩ := setEpRecord_ok (w := reading w [i, i + 1]) hslot
    (g (wordAt w.st.bigbuf i))
  have hrun : (do
      let b ← bigbufRdWord i
      setEpRecord addr 1 (g b)
      k) w = k u := by
    rw [bind_ok (bigbufRdWord_eq hi), bind_ok hset]
  rw [Reads, final_congr hrun, hk u ⟨hbuf, hu⟩, hlog, bigbufReads_reading]
  simp

/-- An endpoint descriptor is read field by field, and the requests after that read nothing. -/
theorem reads_configureEndpoint (confvalue : Byte) {p : Nat} (hp : p + 6 < w.st.bigbuf.length) :
    Reads (configureEndpoint addr confvalue p) (endpointFields p) w := by
  refine reads_byteField hslot (by omega) (fun b r => { r with epAddr := b }) fun u₁ h₁ => ?_
  refine reads_byteField h₁.epSlot (by rw [h₁.bigbuf]; omega) (fun b r => { r with attr := b })
    fun u₂ h₂ => ?_
  refine reads_wordField h₂.epSlot (by rw [h₂.bigbuf, h₁.bigbuf]; omega)
    (fun b r => { r with maxPktSize := b }) fun u₃ h₃ => ?_
  refine reads_byteField h₃.epSlot (by rw [h₃.bigbuf, h₂.bigbuf, h₁.bigbuf]; omega)
    (fun b r => { r with interval := b }) fun u₄ _ => ?_
  exact reads_of_sparesBigbuf (sparesBigbuf_configureRequests addr confvalue)

end Fields

/-! ## The loops -/

section Loops

variable (addr confvalue : Byte) {totalLength : Nat} {w : World Dword Tables}
  (htotal : totalLength ≤ 256) (hmem : scanReach ≤ w.st.bigbuf.length)
include htotal hmem

theorem reads_endpointLoop {slot : EpSlot} (hslot : w.st.epSlot addr 1 = some slot) (p : Nat) :
    Reads (loop (endpointRound addr confvalue totalLength) (scanFuel totalLength) p)
      (endpointReads w.st.bigbuf totalLength p) w := by
  have hreach : scanReach = 263 := rfl
  have hlen : totalLength < w.st.bigbuf.length := by omega
  have hloop := endpointLoop_seeks addr confvalue w hlen p
  unfold Reads endpointReads
  rcases hfind : (descriptorsFrom w.st.bigbuf totalLength p).find? (isEndpoint w.st.bigbuf)
    with _ | e
  · rw [hfind, Option.elim_none] at hloop
    rw [final, hloop, Option.elim_none, List.append_nil]
    split_ifs <;> exact bigbufReads_reading w _
  · rw [hfind, Option.elim_some] at hloop
    have he : e < totalLength := lt_of_mem_descriptors (List.mem_of_find?_eq_some hfind)
    let v := reading w (skimmedEndpoints w.st.bigbuf totalLength p ++ [e + 1])
    have he' : e + 6 < w.st.bigbuf.length := by omega
    have hfields : Reads (configureEndpoint addr confvalue e) (endpointFields e) v :=
      reads_configureEndpoint (w := v) hslot confvalue he'
    rw [final_congr hloop, hfields, bigbufReads_reading]
    simp

/-- **The loops read these bytes**, in this order. -/
theorem reads_parse (d : BootDevice) :
    Reads (d.parse addr confvalue totalLength)
      (scanReads d w.st.bigbuf totalLength (HasSlot addr w.st)) w := by
  unfold Reads scanReads interfaceReads
  cases d.parsed addr confvalue htotal hmem with
  | ended hfind hrun =>
    rw [final, hrun, hfind, Option.elim_none, List.append_nil]
    split_ifs <;> exact bigbufReads_reading w _
  | other i hfind hboot hrun =>
    rw [final_ok hrun, hfind, bigbufReads_reading]
    simp [hboot]
  | fault i u hfind hboot hslot hrun hlog =>
    rw [final_error hrun, hlog, hfind, bigbufReads_reading]
    simp [hslot]
  | claimed i u hfind hboot hslot hclaimed hrun hlog =>
    have hbuf : u.st.bigbuf = w.st.bigbuf := hclaimed.bigbuf
    have hendpoint : u.st.epSlot addr 1 = some (.hidEp 1) := by
      simp [Tables.epSlot, hclaimed.devtable]
    have hinner := reads_endpointLoop addr confvalue htotal (hbuf ▸ hmem) hendpoint
      (i + (bLength w.st.bigbuf i).toNat)
    rw [final_congr hrun, hinner, hlog, hfind, bigbufReads_reading, hbuf]
    simp [hboot, hslot]

end Loops

/-! ## Inside the configuration -/

/-- The fields that the loops read of each descriptor lie before `bound`. -/
structure ScanInside (d : BootDevice) (mem : List Byte) (totalLength : Nat) (slot : Prop)
    (bound : Nat) : Prop where
  skippedInterface : ∀ q ∈ skipped mem usbDescriptorInterface (descriptorsFrom mem totalLength 0),
    q + 1 < bound
  interface : ∀ i ∈ (descriptorsFrom mem totalLength 0).find? (isInterface mem), i + 7 < bound
  skippedEndpoint : ∀ i ∈ matchedInterface mem totalLength d.protocol, slot →
    ∀ q ∈ skipped mem usbDescriptorEndpoint (descriptorsAfter mem totalLength i), q + 1 < bound
  endpoint : ∀ i ∈ matchedInterface mem totalLength d.protocol, slot →
    ∀ e ∈ firstEndpoint mem totalLength i, e + 6 < bound

instance (d : BootDevice) (mem : List Byte) (totalLength : Nat) (slot : Prop) [Decidable slot]
    (bound : Nat) : Decidable (ScanInside d mem totalLength slot bound) :=
  decidable_of_iff
    ((∀ q ∈ skipped mem usbDescriptorInterface (descriptorsFrom mem totalLength 0), q + 1 < bound) ∧
      (∀ i ∈ (descriptorsFrom mem totalLength 0).find? (isInterface mem), i + 7 < bound) ∧
      (∀ i ∈ matchedInterface mem totalLength d.protocol, slot →
        ∀ q ∈ skipped mem usbDescriptorEndpoint (descriptorsAfter mem totalLength i),
          q + 1 < bound) ∧
      ∀ i ∈ matchedInterface mem totalLength d.protocol, slot →
        ∀ e ∈ firstEndpoint mem totalLength i, e + 6 < bound)
    ⟨fun h => ⟨h.1, h.2.1, h.2.2.1, h.2.2.2⟩,
      fun h => ⟨h.skippedInterface, h.interface, h.skippedEndpoint, h.endpoint⟩⟩

section Inside

variable {d : BootDevice} {mem : List Byte} {totalLength bound : Nat} {slot : Prop}
  [Decidable slot]

theorem skimmed_lt_iff {wanted : Byte} {ds : List Nat} :
    (∀ i ∈ skimmed mem wanted ds, i < bound) ↔ ∀ q ∈ skipped mem wanted ds, q + 1 < bound := by
  constructor
  · intro h q hq
    exact h (q + 1) (List.mem_flatMap.2 ⟨q, hq, by simp⟩)
  · intro h i hi
    obtain ⟨q, hq, hiq⟩ := List.mem_flatMap.1 hi
    have hlt := h q hq
    have hcases : i = q + 1 ∨ i = q := by simpa using hiq
    omega

theorem endpointReads_lt_iff {p : Nat} :
    (∀ i ∈ endpointReads mem totalLength p, i < bound) ↔
      (∀ q ∈ skipped mem usbDescriptorEndpoint (descriptorsFrom mem totalLength p), q + 1 < bound) ∧
        ∀ e ∈ (descriptorsFrom mem totalLength p).find? (isEndpoint mem), e + 6 < bound := by
  rw [endpointReads, List.forall_mem_append, skimmedEndpoints, skimmed_lt_iff]
  rcases (descriptorsFrom mem totalLength p).find? (isEndpoint mem) with _ | e
  · simp
  · simp only [endpointFields, Option.elim_some, List.mem_cons, List.not_mem_nil, or_false,
      forall_eq_or_imp, forall_eq, Option.mem_def, Option.some.injEq, forall_eq',
      and_congr_right_iff]
    omega

/-- **All that is read lies inside** exactly when the fields of each descriptor do. -/
theorem scanReads_lt_iff :
    (∀ i ∈ scanReads d mem totalLength slot, i < bound) ↔
      ScanInside d mem totalLength slot bound := by
  have hmatched : matchedInterface mem totalLength d.protocol =
      ((descriptorsFrom mem totalLength 0).find? (isInterface mem)).filter
        (isBootInterface mem d.protocol) := rfl
  rw [scanReads, List.forall_mem_append, skimmedInterfaces, skimmed_lt_iff]
  rcases hfind : (descriptorsFrom mem totalLength 0).find? (isInterface mem) with _ | i
  · rw [hfind, Option.filter_none] at hmatched
    constructor
    · rintro ⟨hskipped, -⟩
      exact ⟨hskipped, by simp [hfind], by simp [hmatched], by simp [hmatched]⟩
    · intro h
      exact ⟨h.skippedInterface, by simp⟩
  · have hfields : (∀ j ∈ [i + 1, i + 5, i + 6, i + 7], j < bound) ↔ i + 7 < bound := by
      simp only [List.mem_cons, List.not_mem_nil, or_false, forall_eq_or_imp, forall_eq]
      omega
    have hread : (∀ j ∈ (i + 1) :: interfaceReads d mem totalLength slot i, j < bound) ↔
        i + 7 < bound ∧ (isBootInterface mem d.protocol i ∧ slot →
          ∀ j ∈ endpointReads mem totalLength (i + (bLength mem i).toNat), j < bound) := by
      rw [interfaceReads, ← List.cons_append, List.forall_mem_append, hfields]
      refine and_congr_right fun hi => ?_
      by_cases hc : isBootInterface mem d.protocol i ∧ slot
      · have hnumber : ∀ j ∈ [i + 2, i], j < bound := by
          simp only [List.mem_cons, List.not_mem_nil, or_false, forall_eq_or_imp, forall_eq]
          omega
        rw [if_pos hc, List.forall_mem_append]
        exact ⟨fun h _ => h.2, fun h => ⟨hnumber, h hc⟩⟩
      · simp [hc]
    rw [Option.elim_some, hread, endpointReads_lt_iff]
    rw [hfind] at hmatched
    constructor
    · rintro ⟨hskipped, hi, hinner⟩
      refine ⟨hskipped, by simpa [hfind] using hi, ?_, ?_⟩
      · intro j hj hslot
        rw [hmatched, Option.mem_filter_iff] at hj
        obtain rfl : i = j := Option.some.inj hj.1
        exact (hinner ⟨hj.2, hslot⟩).1
      · intro j hj hslot
        rw [hmatched, Option.mem_filter_iff] at hj
        obtain rfl : i = j := Option.some.inj hj.1
        exact (hinner ⟨hj.2, hslot⟩).2
    · intro h
      refine ⟨h.skippedInterface, h.interface i (by simp [hfind]), fun hc => ?_⟩
      have hi : i ∈ matchedInterface mem totalLength d.protocol := by
        rw [hmatched, Option.mem_filter_iff]
        exact ⟨rfl, hc.1⟩
      exact ⟨h.skippedEndpoint i hi hc.2, h.endpoint i hi hc.2⟩

end Inside

/-- The bytes of `bigbuf` that `m` reads. -/
def bytesRead {α : Type} (m : Driver α) (w : World Dword Tables) : List Nat :=
  (bigbufReads (final m w).st.log).drop (bigbufReads w.st.log).length

theorem bytesRead_parse (d : BootDevice) (addr confvalue : Byte) {totalLength : Nat}
    (htotal : totalLength ≤ 256) {w : World Dword Tables}
    (hmem : scanReach ≤ w.st.bigbuf.length) :
    bytesRead (d.parse addr confvalue totalLength) w =
      scanReads d w.st.bigbuf totalLength (HasSlot addr w.st) := by
  have hreads : Reads (d.parse addr confvalue totalLength) _ w :=
    reads_parse addr confvalue htotal hmem d
  rw [bytesRead, hreads, List.drop_left]

/-- **The loops stay inside the configuration** exactly when a descriptor that they skip has two
bytes in it, the first interface descriptor eight, and the first endpoint descriptor after it, if
it is looked for, seven. -/
theorem readsInside_iff (d : BootDevice) (addr confvalue : Byte) {totalLength : Nat}
    (htotal : totalLength ≤ 256) (is : List Dword) (t : Tables) (behind : Vector Byte scanReach) :
    (∀ i ∈ bytesRead (d.parse addr confvalue totalLength) ⟨is, t.withBehind behind⟩,
        i < totalLength) ↔
      ScanInside d (t.withBehind behind).bigbuf totalLength (HasSlot addr t) totalLength := by
  let w : World Dword Tables := ⟨is, t.withBehind behind⟩
  have hmem : scanReach ≤ w.st.bigbuf.length := by
    simp [w, Tables.withBehind]
  show (∀ i ∈ bytesRead (d.parse addr confvalue totalLength) w, i < totalLength) ↔ _
  rw [bytesRead_parse d addr confvalue htotal hmem]
  exact scanReads_lt_iff

/-- Of the keyboard's own configuration the last byte is read, and nothing behind it. -/
theorem readsInside_keyboard :
    33 ∈ bytesRead (BootDevice.keyboard.parse 1 1 34)
        ⟨[], (configured ((keyboardConfiguration 0x81).map (·.setWidth 8))).withBehind
          zerosBehind⟩ ∧
      ∀ i ∈ bytesRead (BootDevice.keyboard.parse 1 1 34)
        ⟨[], (configured ((keyboardConfiguration 0x81).map (·.setWidth 8))).withBehind
          zerosBehind⟩, i < 34 :=
  ⟨by decide +kernel,
    (readsInside_iff .keyboard 1 1 (by decide) [] _ zerosBehind).2 (by decide +kernel)⟩

/-- Of an interface descriptor that starts two bytes before the end, the class is read behind it. -/
theorem not_readsInside_cut :
    ¬ ∀ i ∈ bytesRead (BootDevice.keyboard.parse 1 1 11)
      ⟨[], (configured [9, 2, 11, 0, 1, 1, 0, 0xa0, 50, 9, 4]).withBehind zerosBehind⟩, i < 11 := by
  intro h
  exact absurd (h 14 (by decide +kernel)) (by decide)

end Bosconian.Usb
