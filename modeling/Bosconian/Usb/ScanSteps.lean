import Bosconian.Usb.Seek

/-!
# How many steps a probe takes through the descriptors

Both loops move on by the length byte of the descriptor that they are at. Where it is not zero,
they come closer to the end with each step; where it is zero, they stay.

* `descriptorsFrom_ends_iff` — a chain of descriptors ends exactly when none that is skipped has
  length zero.
* `scanUpTo` — both loops as one, by the steps it may take.
* `parsesWithin_iff` — when the loops end, within `totalLength` steps.
-/

namespace Bosconian.Usb

open Scripted

/-! ## Chains -/

section Chain

variable {mem : List Byte} {wanted : Byte} {totalLength : Nat}

/-- No descriptor that is skipped has length zero. -/
def MovesOn (mem : List Byte) (wanted : Byte) (ds : List Nat) : Prop :=
  ∀ q ∈ skipped mem wanted ds, bLength mem q ≠ 0

theorem skipped_cons_of_neg {p : Nat} (h : ¬ isType mem wanted p) (ds : List Nat) :
    skipped mem wanted (p :: ds) = p :: skipped mem wanted ds := by
  simp [skipped, h]

theorem skipped_cons_of_pos {p : Nat} (h : isType mem wanted p) (ds : List Nat) :
    skipped mem wanted (p :: ds) = [] := by
  simp [skipped, h]

theorem movesOn_cons_iff {p : Nat} (h : ¬ isType mem wanted p) (ds : List Nat) :
    MovesOn mem wanted (p :: ds) ↔ bLength mem p ≠ 0 ∧ MovesOn mem wanted ds := by
  simp [MovesOn, skipped_cons_of_neg h]

theorem bLength_pos {p : Nat} (h : bLength mem p ≠ 0) : 0 < (bLength mem p).toNat :=
  Nat.pos_of_ne_zero fun h' => h (BitVec.toNat_inj.1 h')

/-- A descriptor of length zero that is skipped comes round again. -/
theorem stuck_of_zero {n p : Nat} (h : ¬ MovesOn mem wanted (descriptors mem totalLength n p)) :
    (descriptors mem totalLength n p).find? (isType mem wanted) = none ∧
      (descriptors mem totalLength n p).length = n := by
  induction n generalizing p with
  | zero => simp [descriptors]
  | succ n ih =>
    rw [descriptors] at h ⊢
    by_cases hp : p < totalLength
    · rw [if_pos hp] at h ⊢
      by_cases htype : isType mem wanted p
      · simp [MovesOn, skipped_cons_of_pos htype] at h
      · rw [movesOn_cons_iff htype] at h
        rw [List.find?_cons_of_neg htype, List.length_cons]
        by_cases hzero : bLength mem p = 0
        · have hstay (m : Nat) :
              (descriptors mem totalLength m p).find? (isType mem wanted) = none ∧
                (descriptors mem totalLength m p).length = m := by
            induction m with
            | zero => simp [descriptors]
            | succ m ihm =>
              rw [descriptors, if_pos hp, hzero, List.find?_cons_of_neg htype, List.length_cons]
              exact ⟨ihm.1, congrArg (· + 1) ihm.2⟩
          have hnext : p + (bLength mem p).toNat = p := by simp [hzero]
          rw [hnext]
          exact ⟨(hstay n).1, congrArg (· + 1) (hstay n).2⟩
        · have hrest := ih fun h' => h ⟨hzero, h'⟩
          exact ⟨hrest.1, congrArg (· + 1) hrest.2⟩
    · rw [if_neg hp] at h
      simp [MovesOn, skipped] at h

/-- A chain that moves on is over within the bytes that are left. -/
theorem length_le_of_movesOn {n p : Nat} (hn : totalLength ≤ n + p)
    (h : MovesOn mem wanted (descriptors mem totalLength (n + 1) p))
    (hnone : (descriptors mem totalLength (n + 1) p).find? (isType mem wanted) = none) :
    (descriptors mem totalLength (n + 1) p).length ≤ n := by
  induction n generalizing p with
  | zero =>
    rw [descriptors, if_neg (by omega)]
    exact Nat.le_refl 0
  | succ n ih =>
    rw [descriptors] at h hnone ⊢
    by_cases hp : p < totalLength
    · rw [if_pos hp] at h hnone ⊢
      have htype : ¬ isType mem wanted p := List.find?_eq_none.1 hnone p List.mem_cons_self
      rw [movesOn_cons_iff htype] at h
      rw [List.find?_cons_of_neg htype] at hnone
      have hpos := bLength_pos h.1
      exact Nat.succ_le_succ (ih (by omega) h.2 hnone)
    · rw [if_neg hp]
      exact Nat.zero_le _

/-- **A chain ends**, or what is wanted is found in it, exactly when it moves on. -/
theorem descriptorsFrom_ends_iff (p : Nat) :
    ((descriptorsFrom mem totalLength p).find? (isType mem wanted) = none →
        (descriptorsFrom mem totalLength p).length < scanFuel totalLength) ↔
      MovesOn mem wanted (descriptorsFrom mem totalLength p) := by
  constructor
  · intro hends
    by_contra h
    obtain ⟨hnone, hlen⟩ := stuck_of_zero h
    have hlt := hends hnone
    rw [descriptorsFrom, hlen] at hlt
    exact Nat.lt_irrefl _ hlt
  · intro h hnone
    exact Nat.lt_succ_of_le (length_le_of_movesOn (Nat.le_add_right _ _) h hnone)

end Chain

/-! ## The loops -/

/-- Where a scan is: at a descriptor in the outer loop, or in the inner one. -/
inductive ScanPoint
  | interface (p : Nat)
  | endpoint (p : Nat)
deriving DecidableEq, Repr

/-- What `byte_ptr` points to. -/
def ScanPoint.pos : ScanPoint → Nat
  | .interface p | .endpoint p => p

/-- After an interface that matches the scan is in the inner loop, and after another one it is
over. -/
def enterInner : Option Nat → ScanPoint ⊕ Bool
  | some next => .inl (.endpoint next)
  | none => .inr false

section Scan

variable (d : BootDevice) (addr confvalue : Byte) (totalLength : Nat)

/-- The body of the loop that the scan is in. -/
def scanBody : ScanPoint → Driver (ScanPoint ⊕ Bool)
  | .interface p =>
    look usbDescriptorInterface p (.inl <| .interface ·) do
      return enterInner (← matchInterface addr d.protocol d.devclass p)
  | .endpoint p =>
    look usbDescriptorEndpoint p (.inl <| .endpoint ·) do
      return .inr (← configureEndpoint addr confvalue p)

/-- A scan that may take `n` steps: each runs the body of a loop, once its guard has been found
true. Where the guard of the inner loop is false, so is that of the outer one. -/
def scanUpTo : Nat → ScanPoint → Driver Bool
  | 0, s => if s.pos < totalLength then halt .diverged else return false
  | n + 1, s =>
    if s.pos < totalLength then scanBody d addr confvalue s >>= resume (scanUpTo n)
    else return false

/-- The nested loops end, after `n` steps at most. -/
structure ParsesWithin (n : Nat) (w : World Dword Tables) : Prop where
  ends : stopped (d.parse addr confvalue totalLength) w ≠ some .diverged
  steps : d.parse addr confvalue totalLength w =
    scanUpTo d addr confvalue totalLength n (.interface 0) w

variable {d addr confvalue totalLength}

theorem scanUpTo_done (n : Nat) {s : ScanPoint} (hs : ¬ s.pos < totalLength)
    (w : World Dword Tables) :
    scanUpTo d addr confvalue totalLength n s w = .ok false w := by
  cases n <;> simp [scanUpTo, hs] <;> rfl

/-! Each way out of a body. -/

section Body

variable {p : Nat} {w : World Dword Tables} (n : Nat)

theorem scanUpTo_interface_skip (hp : p < totalLength) (hlen : p + 1 < w.st.bigbuf.length)
    (htype : ¬ isType w.st.bigbuf usbDescriptorInterface p) :
    scanUpTo d addr confvalue totalLength (n + 1) (.interface p) w =
      scanUpTo d addr confvalue totalLength n (.interface (p + (bLength w.st.bigbuf p).toNat))
        (reading w [p + 1, p]) := by
  rw [scanUpTo, if_pos (by exact hp), scanBody, bind_ok (look_skip hlen htype)]
  rfl

theorem scanUpTo_interface_found (hp : p < totalLength) (hlen : p + 1 < w.st.bigbuf.length)
    (htype : isType w.st.bigbuf usbDescriptorInterface p) :
    scanUpTo d addr confvalue totalLength (n + 1) (.interface p) w =
      (matchInterface addr d.protocol d.devclass p >>= fun o =>
        resume (scanUpTo d addr confvalue totalLength n) (enterInner o)) (reading w [p + 1]) := by
  rw [scanUpTo, if_pos (by exact hp), scanBody, bind_congr_left (look_found hlen htype)]
  simp only [bind_assoc, pure_bind]

theorem scanUpTo_endpoint_skip (hp : p < totalLength) (hlen : p + 1 < w.st.bigbuf.length)
    (htype : ¬ isType w.st.bigbuf usbDescriptorEndpoint p) :
    scanUpTo d addr confvalue totalLength (n + 1) (.endpoint p) w =
      scanUpTo d addr confvalue totalLength n (.endpoint (p + (bLength w.st.bigbuf p).toNat))
        (reading w [p + 1, p]) := by
  rw [scanUpTo, if_pos (by exact hp), scanBody, bind_ok (look_skip hlen htype)]
  rfl

theorem scanUpTo_endpoint_found (hp : p < totalLength) (hlen : p + 1 < w.st.bigbuf.length)
    (htype : isType w.st.bigbuf usbDescriptorEndpoint p) :
    scanUpTo d addr confvalue totalLength (n + 1) (.endpoint p) w =
      configureEndpoint addr confvalue p (reading w [p + 1]) := by
  have hleave : ((do return .inr (← configureEndpoint addr confvalue p)) >>=
      resume (scanUpTo d addr confvalue totalLength n)) = configureEndpoint addr confvalue p := by
    simp [resume]
  rw [scanUpTo, if_pos (by exact hp), scanBody, bind_congr_left (look_found hlen htype), hleave]

end Body

/-- What the loops skip, the inner one if it is entered, moves on. -/
structure ScanMovesOn (d : BootDevice) (mem : List Byte) (totalLength : Nat) (slot : Prop)
    (ds : List Nat) : Prop where
  interface : MovesOn mem usbDescriptorInterface ds
  endpoint : ∀ i ∈ (ds.find? (isInterface mem)).filter (isBootInterface mem d.protocol), slot →
    MovesOn mem usbDescriptorEndpoint (descriptorsAfter mem totalLength i)

instance (mem : List Byte) (wanted : Byte) (ds : List Nat) : Decidable (MovesOn mem wanted ds) := by
  unfold MovesOn; infer_instance

instance (d : BootDevice) (mem : List Byte) (totalLength : Nat) (slot : Prop) [Decidable slot]
    (ds : List Nat) : Decidable (ScanMovesOn d mem totalLength slot ds) :=
  decidable_of_iff (MovesOn mem usbDescriptorInterface ds ∧
      ∀ i ∈ (ds.find? (isInterface mem)).filter (isBootInterface mem d.protocol), slot →
        MovesOn mem usbDescriptorEndpoint (descriptorsAfter mem totalLength i))
    ⟨fun h => ⟨h.1, h.2⟩, fun h => ⟨h.1, h.2⟩⟩

/-- An interface descriptor of length zero would be looked at again by the inner loop. -/
theorem bLength_ne_zero_of_movesOn {mem : List Byte} {p : Nat} (hp : p < totalLength)
    (htype : isType mem usbDescriptorInterface p)
    (h : MovesOn mem usbDescriptorEndpoint (descriptorsAfter mem totalLength p)) :
    bLength mem p ≠ 0 := by
  intro hzero
  have hother : ¬ isType mem usbDescriptorEndpoint p := by
    have heq : bDescriptorType mem p = usbDescriptorInterface := of_decide_eq_true htype
    simp only [isType, heq, decide_eq_true_eq]
    decide
  have hnext : p + (bLength mem p).toNat = p := by simp [hzero]
  rw [descriptorsAfter, hnext, descriptorsFrom, scanFuel, descriptors, if_pos hp,
    movesOn_cons_iff hother] at h
  exact h.1 hzero

section Steps

variable {mem : List Byte} (hmem : scanReach ≤ mem.length) (htotal : totalLength ≤ 256)
include hmem htotal

/-- Steps that move on are the rounds of the inner loop. -/
theorem endpointLoop_eq {n m k p : Nat} (hn : totalLength ≤ n + p) (hnm : n < m) (hnk : n ≤ k)
    {w : World Dword Tables} (hw : w.st.bigbuf = mem)
    (h : MovesOn mem usbDescriptorEndpoint (descriptors mem totalLength k p)) :
    loop (endpointRound addr confvalue totalLength) m p w =
      scanUpTo d addr confvalue totalLength n (.endpoint p) w := by
  have hreach : scanReach = 263 := rfl
  obtain ⟨m, rfl⟩ : ∃ k, m = k + 1 := ⟨m - 1, by omega⟩
  rw [endpointRound_eq]
  induction n generalizing m k p w with
  | zero =>
    have hp : ¬ p < totalLength := by omega
    rw [loop_seekRound_done m hp, scanUpTo_done 0 hp]
  | succ n ih =>
    obtain ⟨k, rfl⟩ : ∃ j, k = j + 1 := ⟨k - 1, by omega⟩
    by_cases hp : p < totalLength
    · have hp' : p + 1 < mem.length := by omega
      rw [descriptors, if_pos hp] at h
      subst hw
      by_cases htype : isType w.st.bigbuf usbDescriptorEndpoint p
      · rw [loop_seekRound_found m hp hp' htype, scanUpTo_endpoint_found n hp hp' htype]
      · rw [movesOn_cons_iff htype] at h
        have hpos := bLength_pos h.1
        obtain ⟨m, rfl⟩ : ∃ k, m = k + 1 := ⟨m - 1, by omega⟩
        rw [loop_seekRound_skip _ hp hp' htype, scanUpTo_endpoint_skip n hp hp' htype]
        exact ih (w := reading w [p + 1, p]) (by omega) (by omega) rfl h.2 m (by omega)
    · rw [loop_seekRound_done m hp, scanUpTo_done _ hp]

/-- And so for both loops. -/
theorem interfaceLoop_eq {n m k p : Nat} (hn : totalLength ≤ n + p) (hnm : n < m) (hnk : n ≤ k)
    (hle : n ≤ totalLength) {w : World Dword Tables} (hw : w.st.bigbuf = mem)
    (h : ScanMovesOn d mem totalLength (HasSlot addr w.st) (descriptors mem totalLength k p)) :
    loop (interfaceRound addr d.protocol d.devclass confvalue totalLength) m p w =
      scanUpTo d addr confvalue totalLength n (.interface p) w := by
  have hreach : scanReach = 263 := rfl
  obtain ⟨m, rfl⟩ : ∃ k, m = k + 1 := ⟨m - 1, by omega⟩
  rw [interfaceRound_eq]
  induction n generalizing m k p w with
  | zero =>
    have hp : ¬ p < totalLength := by omega
    rw [loop_seekRound_done m hp, scanUpTo_done 0 hp]
  | succ n ih =>
    obtain ⟨k, rfl⟩ : ∃ j, k = j + 1 := ⟨k - 1, by omega⟩
    by_cases hp : p < totalLength
    · have hp' : p + 7 < mem.length := by omega
      rw [descriptors, if_pos hp] at h
      obtain ⟨hinterface, hendpoint⟩ := h
      subst hw
      by_cases htype : isType w.st.bigbuf usbDescriptorInterface p
      · have hfind (ds : List Nat) : (p :: ds).find? (isInterface w.st.bigbuf) = some p :=
          List.find?_cons_of_pos htype
        rw [hfind] at hendpoint
        rw [loop_seekRound_found m hp (by omega) htype,
          scanUpTo_interface_found n hp (by omega) htype]
        by_cases hboot : isBootInterface w.st.bigbuf d.protocol p
        · by_cases hslot : HasSlot addr w.st
          · obtain ⟨u, hmatch, hu, -⟩ := matchInterface_ok addr d.devclass p
              (w := reading w [p + 1]) hp' hboot hslot
            have hmoves := hendpoint p (by simp [Option.filter, hboot]) hslot
            have hpos := bLength_pos (bLength_ne_zero_of_movesOn hp htype hmoves)
            rw [interfaceFound_some hmatch, bind_ok hmatch]
            have hfuel : n < scanFuel totalLength := Nat.lt_succ_of_lt hle
            exact endpointLoop_eq hmem htotal (by rw [bigbuf_reading]; omega) hfuel
              (Nat.le_of_lt hfuel) hu.bigbuf hmoves
          · obtain ⟨u, hmatch, -⟩ := matchInterface_fault addr d.devclass p
              (w := reading w [p + 1]) hp' hboot hslot
            rw [interfaceFound_error hmatch, bind_error hmatch]
        · have hmatch := matchInterface_other addr d.devclass p (w := reading w [p + 1]) hp' hboot
          rw [interfaceFound_none hmatch, bind_ok hmatch]
          rfl
      · have hfind (ds : List Nat) : (p :: ds).find? (isInterface w.st.bigbuf) =
            ds.find? (isInterface w.st.bigbuf) := List.find?_cons_of_neg htype
        rw [hfind] at hendpoint
        rw [movesOn_cons_iff htype] at hinterface
        have hpos := bLength_pos hinterface.1
        obtain ⟨m, rfl⟩ : ∃ k, m = k + 1 := ⟨m - 1, by omega⟩
        rw [loop_seekRound_skip _ hp (by omega) htype,
          scanUpTo_interface_skip n hp (by omega) htype]
        exact ih (w := reading w [p + 1, p]) (by omega) (by omega) (by omega) rfl
          ⟨hinterface.2, hendpoint⟩ m (by omega)
    · rw [loop_seekRound_done m hp, scanUpTo_done _ hp]

end Steps

/-! ### When they end -/

/-- What does not run for ever does not stop as if it did. -/
theorem stopped_ne_diverged {α : Type} {m : Driver α} (hm : Ends m) (w : World Dword Tables) :
    stopped m w ≠ some .diverged := by
  rw [stopped]
  rcases h : m w with ⟨a, v⟩ | ⟨e, v⟩
  · simp
  · intro he
    obtain rfl : e = .diverged := by simpa using he
    exact hm w v h

theorem endpointLoop_ends_iff (addr confvalue : Byte) (p : Nat) {w : World Dword Tables}
    (hlen : totalLength < w.st.bigbuf.length) :
    stopped (loop (endpointRound addr confvalue totalLength) (scanFuel totalLength) p) w ≠
        some .diverged ↔
      MovesOn w.st.bigbuf usbDescriptorEndpoint (descriptorsFrom w.st.bigbuf totalLength p) := by
  have hloop := endpointLoop_seeks addr confvalue w hlen p
  have hmoves : ((descriptorsFrom w.st.bigbuf totalLength p).find? (isEndpoint w.st.bigbuf) = none →
      (descriptorsFrom w.st.bigbuf totalLength p).length < scanFuel totalLength) ↔
        MovesOn w.st.bigbuf usbDescriptorEndpoint (descriptorsFrom w.st.bigbuf totalLength p) :=
    descriptorsFrom_ends_iff p
  rw [← hmoves]
  rcases hfind : (descriptorsFrom w.st.bigbuf totalLength p).find? (isEndpoint w.st.bigbuf)
    with _ | e
  · rw [hfind, Option.elim_none] at hloop
    by_cases hend : (descriptorsFrom w.st.bigbuf totalLength p).length < scanFuel totalLength
    · simp [stopped, hloop, hend]
    · simp [stopped, hloop, hend]
  · rw [hfind, Option.elim_some] at hloop
    rw [stopped_congr hloop]
    simp [stopped_ne_diverged (accesses_configureEndpoint addr confvalue e).ends]

theorem scanMovesOn_of_none {mem : List Byte} {slot : Prop} {ds : List Nat}
    (h : ds.find? (isInterface mem) = none) :
    ScanMovesOn d mem totalLength slot ds ↔ MovesOn mem usbDescriptorInterface ds :=
  ⟨fun hmoves => hmoves.interface, fun hmoves => ⟨hmoves, by simp [h]⟩⟩

/-- What is skipped before an interface moves on, or there would be no interface. -/
theorem scanMovesOn_of_some {mem : List Byte} {slot : Prop} {i : Nat}
    (h : (descriptorsFrom mem totalLength 0).find? (isInterface mem) = some i) :
    ScanMovesOn d mem totalLength slot (descriptorsFrom mem totalLength 0) ↔
      (isBootInterface mem d.protocol i → slot →
        MovesOn mem usbDescriptorEndpoint (descriptorsAfter mem totalLength i)) := by
  constructor
  · intro hmoves hboot hslot
    exact hmoves.endpoint i (by simp [h, Option.filter, hboot]) hslot
  · intro hmoves
    have hfind : (descriptorsFrom mem totalLength 0).find? (isType mem usbDescriptorInterface) =
        some i := h
    refine ⟨(descriptorsFrom_ends_iff 0).1 (by simp [hfind]), fun j hj hslot => ?_⟩
    rw [h, Option.mem_filter_iff] at hj
    obtain rfl : i = j := Option.some.inj hj.1
    exact hmoves hj.2 hslot

/-- **The nested loops end** exactly when what they skip moves on. -/
theorem parse_ends_iff (htotal : totalLength ≤ 256) {w : World Dword Tables}
    (hmem : scanReach ≤ w.st.bigbuf.length) :
    stopped (d.parse addr confvalue totalLength) w ≠ some .diverged ↔
      ScanMovesOn d w.st.bigbuf totalLength (HasSlot addr w.st)
        (descriptorsFrom w.st.bigbuf totalLength 0) := by
  cases d.parsed addr confvalue htotal hmem with
  | ended hfind hrun =>
    have hfind' : (descriptorsFrom w.st.bigbuf totalLength 0).find?
        (isType w.st.bigbuf usbDescriptorInterface) = none := hfind
    rw [scanMovesOn_of_none hfind, ← descriptorsFrom_ends_iff]
    by_cases hend : (descriptorsFrom w.st.bigbuf totalLength 0).length < scanFuel totalLength
    · simp [stopped, hrun, hend]
    · simp [stopped, hrun, hend, hfind']
  | other i hfind hboot hrun =>
    rw [scanMovesOn_of_some hfind, stopped, hrun]
    simp [hboot]
  | fault i u hfind hboot hslot hrun hlog =>
    rw [scanMovesOn_of_some hfind, stopped, hrun]
    simp [hslot]
  | claimed i u hfind hboot hslot hclaimed hrun hlog =>
    have hreach : scanReach = 263 := rfl
    have hbuf : u.st.bigbuf = w.st.bigbuf := hclaimed.bigbuf
    have hends := endpointLoop_ends_iff addr confvalue (i + (bLength w.st.bigbuf i).toNat)
      (w := u) (by rw [hbuf]; omega : totalLength < u.st.bigbuf.length)
    rw [hbuf] at hends
    rw [scanMovesOn_of_some hfind, stopped_congr hrun]
    refine hends.trans ?_
    simp [hboot, hslot, descriptorsAfter]

end Scan

/-- **The nested loops of a probe end**, and within `totalLength` steps, exactly when no descriptor
that they skip has length zero. -/
theorem parsesWithin_iff (d : BootDevice) (addr confvalue : Byte) {totalLength : Nat}
    (htotal : totalLength ≤ 256) (is : List Dword) (t : Tables) (behind : Vector Byte scanReach) :
    ParsesWithin d addr confvalue totalLength totalLength ⟨is, t.withBehind behind⟩ ↔
      ScanMovesOn d (t.withBehind behind).bigbuf totalLength (HasSlot addr t)
        (descriptorsFrom (t.withBehind behind).bigbuf totalLength 0) := by
  let w : World Dword Tables := ⟨is, t.withBehind behind⟩
  have hmem : scanReach ≤ w.st.bigbuf.length := by
    simp [w, Tables.withBehind]
  have hends : stopped (d.parse addr confvalue totalLength) w ≠ some .diverged ↔
      ScanMovesOn d w.st.bigbuf totalLength (HasSlot addr t)
        (descriptorsFrom w.st.bigbuf totalLength 0) := parse_ends_iff htotal hmem
  show ParsesWithin d addr confvalue totalLength totalLength w ↔
    ScanMovesOn d w.st.bigbuf totalLength (HasSlot addr t)
      (descriptorsFrom w.st.bigbuf totalLength 0)
  rw [← hends]
  refine ⟨fun h => h.ends, fun h => ⟨h, ?_⟩⟩
  exact interfaceLoop_eq hmem htotal (Nat.le_add_right _ _) (Nat.lt_succ_self _) (Nat.le_succ _)
    (Nat.le_refl _) rfl (hends.1 h)

/-- The keyboard's own configuration is gone through. -/
theorem parsesWithin_keyboard :
    ParsesWithin .keyboard 1 1 34 34
      ⟨[], (configured ((keyboardConfiguration 0x81).map (·.setWidth 8))).withBehind zerosBehind⟩ :=
  (parsesWithin_iff .keyboard 1 1 (by decide) [] _ zerosBehind).2 (by decide +kernel)

/-- With nothing behind the configuration descriptor but a length of zero, the scan does not come
to an end. -/
theorem not_parsesWithin_zero :
    ¬ ParsesWithin .keyboard 1 1 18 18
      ⟨[], (configured [9, 2, 18, 0, 1, 1, 0, 0xa0, 50]).withBehind zerosBehind⟩ := by
  intro h
  exact h.ends (by decide +kernel)

end Bosconian.Usb
