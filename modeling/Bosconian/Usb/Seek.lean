import Bosconian.Usb.Descriptors

/-!
# Looking for a descriptor

Both loops of a probe go from one descriptor to the next until they come to one of the type they
want (`seekRound`). What such a loop does, with `mem` in memory from `bigbuf` on, is told by the
descriptors that it skips and by the first one that it wants: `loop_seekRound`.
-/

namespace Bosconian.Usb

open Scripted

/-! ## Reading what is in memory -/

/-- `w`, once the bytes at `is` have been read. -/
def reading (w : World Dword Tables) (is : List Nat) : World Dword Tables :=
  ⟨w.script, { w.st with log := w.st.log ++ is.map .bigbufRd }⟩

section Reading

variable (w : World Dword Tables) (is js : List Nat)

@[simp] theorem bigbuf_reading : (reading w is).st.bigbuf = w.st.bigbuf := rfl

@[simp] theorem log_reading : (reading w is).st.log = w.st.log ++ is.map .bigbufRd := rfl

@[simp] theorem reading_nil : reading w [] = w := by
  simp [reading]

@[simp] theorem reading_reading : reading (reading w is) js = reading w (is ++ js) := by
  simp [reading]

end Reading

theorem bigbufRd_eq {w : World Dword Tables} {i : Nat} (hi : i < w.st.bigbuf.length) :
    bigbufRd i w = .ok (byteAt w.st.bigbuf i) (reading w [i]) := by
  have hbyte : w.st.bigbuf[i]? = some (byteAt w.st.bigbuf i) := by
    simp [byteAt, hi]
  have hemit : emit (.bigbufRd i) w = .ok () (reading w [i]) := rfl
  have hread : (read : Driver Tables) (reading w [i]) =
      .ok (reading w [i]).st (reading w [i]) := rfl
  rw [bigbufRd, bind_ok hemit, bind_ok hread, bigbuf_reading, hbyte]
  rfl

theorem bigbufRd_bind {α : Type} {w : World Dword Tables} {i : Nat}
    (hi : i < w.st.bigbuf.length) (f : Byte → Driver α) :
    (bigbufRd i >>= f) w = f (byteAt w.st.bigbuf i) (reading w [i]) :=
  bind_ok (bigbufRd_eq hi)

theorem bigbufRd_bind_reading {α : Type} {w : World Dword Tables} {i : Nat}
    (hi : i < w.st.bigbuf.length) (f : Byte → Driver α) (is : List Nat) :
    (bigbufRd i >>= f) (reading w is) = f (byteAt w.st.bigbuf i) (reading w (is ++ [i])) := by
  rw [bigbufRd_bind (w := reading w is) hi, reading_reading]
  rfl

theorem bigbufRdWord_eq {w : World Dword Tables} {i : Nat} (hi : i + 1 < w.st.bigbuf.length) :
    bigbufRdWord i w = .ok (wordAt w.st.bigbuf i) (reading w [i, i + 1]) := by
  rw [bigbufRdWord, bigbufRd_bind (Nat.lt_of_succ_lt hi), bigbufRd_bind_reading hi]
  rfl

/-! ## The loops -/

/-- The body of either loop: go on behind the descriptor at `p`, unless it is of the type that is
wanted. -/
def look {α : Type} (wanted : Byte) (p : Nat) (next : Nat → α) (found : Driver α) : Driver α := do
  if (← bigbufRd (p + 1)) ≠ wanted then return next (p + (← bigbufRd p).toNat)
  else found

/-- A round of either loop. -/
def seekRound (wanted : Byte) (found : Nat → Driver Bool) (totalLength p : Nat) :
    Driver (Nat ⊕ Bool) :=
  if p < totalLength then look wanted p .inl do return .inr (← found p)
  else return .inr false

/-- The first interface descriptor: where the inner loop starts, if it is the one that is wanted. -/
def matchInterface (addr protocol devclass : Byte) (p : Nat) : Driver (Option Nat) := do
  let cls ← bigbufRd (p + 5)
  let subclass ← bigbufRd (p + 6)
  let proto ← bigbufRd (p + 7)
  if cls = hidIntf ∧ subclass = bootIntfSubclass ∧ proto = protocol then
    claimInterface addr devclass p
    return some (p + (← bigbufRd p).toNat)
  else return none

/-- What the outer loop does with it. -/
def interfaceFound (addr protocol devclass confvalue : Byte) (totalLength p : Nat) :
    Driver Bool := do
  match ← matchInterface addr protocol devclass p with
  | some next => loop (endpointRound addr confvalue totalLength) (scanFuel totalLength) next
  | none => return false

section Found

variable {addr protocol devclass confvalue : Byte} {totalLength p : Nat}
  {w u : World Dword Tables}

theorem interfaceFound_some {next : Nat}
    (h : matchInterface addr protocol devclass p w = .ok (some next) u) :
    interfaceFound addr protocol devclass confvalue totalLength p w =
      loop (endpointRound addr confvalue totalLength) (scanFuel totalLength) next u := bind_ok h

theorem interfaceFound_none (h : matchInterface addr protocol devclass p w = .ok none u) :
    interfaceFound addr protocol devclass confvalue totalLength p w = .ok false u := bind_ok h

theorem interfaceFound_error {e : Halt}
    (h : matchInterface addr protocol devclass p w = .error e u) :
    interfaceFound addr protocol devclass confvalue totalLength p w = .error e u := bind_error h

end Found

theorem endpointRound_eq (addr confvalue : Byte) (totalLength : Nat) :
    endpointRound addr confvalue totalLength =
      seekRound usbDescriptorEndpoint (configureEndpoint addr confvalue) totalLength := rfl

theorem interfaceRound_eq (addr protocol devclass confvalue : Byte) (totalLength : Nat) :
    interfaceRound addr protocol devclass confvalue totalLength =
      seekRound usbDescriptorInterface
        (interfaceFound addr protocol devclass confvalue totalLength) totalLength := by
  funext p
  rw [interfaceRound, seekRound]
  split
  · refine bind_congr fun type => ?_
    split
    · rfl
    · simp only [interfaceFound, matchInterface, bind_assoc]
      refine bind_congr fun cls => bind_congr fun subclass => bind_congr fun proto => ?_
      split
      · simp only [bind_assoc, pure_bind]
      · simp only [pure_bind]
  · rfl

/-- The descriptor at `p` is of type `wanted`. -/
def isType (mem : List Byte) (wanted : Byte) (p : Nat) : Bool := bDescriptorType mem p = wanted

section Look

variable {α : Type} {wanted : Byte} {p : Nat} {next : Nat → α} {found : Driver α}
  {w : World Dword Tables}

theorem look_skip (hlen : p + 1 < w.st.bigbuf.length) (htype : ¬ isType w.st.bigbuf wanted p) :
    look wanted p next found w =
      .ok (next (p + (bLength w.st.bigbuf p).toNat)) (reading w [p + 1, p]) := by
  have hne : byteAt w.st.bigbuf (p + 1) ≠ wanted := fun h => htype (decide_eq_true h)
  have hlen' : p < (reading w [p + 1]).st.bigbuf.length := Nat.lt_of_succ_lt hlen
  rw [look, bigbufRd_bind hlen, if_pos hne, bigbufRd_bind hlen', reading_reading]
  rfl

theorem look_found (hlen : p + 1 < w.st.bigbuf.length) (htype : isType w.st.bigbuf wanted p) :
    look wanted p next found w = found (reading w [p + 1]) := by
  have heq : byteAt w.st.bigbuf (p + 1) = wanted := of_decide_eq_true htype
  rw [look, bigbufRd_bind hlen, if_neg (not_not.2 heq)]

end Look

/-! Each way out of a round. -/

section Round

variable {wanted : Byte} {found : Nat → Driver Bool} {totalLength p : Nat}
  {w : World Dword Tables} (n : Nat)

theorem loop_seekRound_done (hp : ¬ p < totalLength) :
    loop (seekRound wanted found totalLength) (n + 1) p w = .ok false w := by
  rw [loop, seekRound, if_neg hp]
  rfl

theorem loop_seekRound_skip (hp : p < totalLength) (hlen : p + 1 < w.st.bigbuf.length)
    (htype : ¬ isType w.st.bigbuf wanted p) :
    loop (seekRound wanted found totalLength) (n + 1) p w =
      loop (seekRound wanted found totalLength) n (p + (bLength w.st.bigbuf p).toNat)
        (reading w [p + 1, p]) := by
  rw [loop, seekRound, if_pos hp, bind_ok (look_skip hlen htype)]
  rfl

theorem loop_seekRound_found (hp : p < totalLength) (hlen : p + 1 < w.st.bigbuf.length)
    (htype : isType w.st.bigbuf wanted p) :
    loop (seekRound wanted found totalLength) (n + 1) p w = found p (reading w [p + 1]) := by
  have hleave : ((do return .inr (← found p)) >>=
      resume (loop (seekRound wanted found totalLength) n)) = found p := by
    simp [resume]
  rw [loop, seekRound, if_pos hp, bind_congr_left (look_found hlen htype), hleave]

end Round

theorem lt_of_mem_descriptors {mem : List Byte} {totalLength n p i : Nat}
    (h : i ∈ descriptors mem totalLength n p) : i < totalLength := by
  induction n generalizing p with
  | zero => simp [descriptors] at h
  | succ n ih =>
    rw [descriptors] at h
    split at h
    · next hp =>
      rcases List.mem_cons.1 h with rfl | h
      · exact hp
      · exact ih h
    · simp at h

/-- What a loop that looks for `wanted` skips of some descriptors. -/
def skipped (mem : List Byte) (wanted : Byte) (ds : List Nat) : List Nat :=
  ds.takeWhile fun q => !isType mem wanted q

/-- The bytes that it reads of them: the type, and then the length. -/
def skimmed (mem : List Byte) (wanted : Byte) (ds : List Nat) : List Nat :=
  (skipped mem wanted ds).flatMap fun q => [q + 1, q]

/-- **A loop that looks for a descriptor**: it comes to the first one that it wants, or to the end
of the chain, or the chain has no end. -/
theorem loop_seekRound (wanted : Byte) (found : Nat → Driver Bool) {totalLength : Nat} (n p : Nat)
    (w : World Dword Tables) (hlen : totalLength < w.st.bigbuf.length) {ds : List Nat}
    (hds : descriptors w.st.bigbuf totalLength n p = ds) :
    loop (seekRound wanted found totalLength) n p w =
      (ds.find? (isType w.st.bigbuf wanted)).elim
        (if ds.length < n then .ok false (reading w (skimmed w.st.bigbuf wanted ds))
          else .error .diverged (reading w (skimmed w.st.bigbuf wanted ds)))
        fun i => found i (reading w (skimmed w.st.bigbuf wanted ds ++ [i + 1])) := by
  induction n generalizing p w ds with
  | zero =>
    subst hds
    simp [loop, descriptors, skimmed, skipped, halt]
  | succ n ih =>
    rw [descriptors] at hds
    by_cases hp : p < totalLength
    · have hp' : p + 1 < w.st.bigbuf.length := by omega
      rw [if_pos hp] at hds
      subst hds
      by_cases htype : isType w.st.bigbuf wanted p
      · rw [loop_seekRound_found n hp hp' htype, List.find?_cons_of_pos htype]
        simp [skimmed, skipped, htype]
      · rw [loop_seekRound_skip n hp hp' htype, ih _ (reading w [p + 1, p]) hlen rfl,
          List.find?_cons_of_neg htype]
        simp [skimmed, skipped, htype]
    · rw [if_neg hp] at hds
      subst hds
      rw [loop_seekRound_done n hp]
      simp [skimmed, skipped]

/-! ## Requests without data -/

/-- The access reads no byte of `bigbuf`. -/
def Access.SparesBigbuf : Access → Prop
  | .bigbufRd _ => False
  | _ => True

section Requests

open Access

theorem sparesBigbuf_xferCtrlReq (addr ep bmReqType bRequest wValLo wValHi : Byte)
    (wInd nbytes : Word) :
    Accesses SparesBigbuf
      (xferCtrlReq addr ep bmReqType bRequest wValLo wValHi wInd nbytes none) := by
  apply (accesses_xferCtrlReq addr ep nbytes bmReqType bRequest wValLo wValHi wInd none).mono
  intro e he
  cases e <;> first | exact trivial | exact he.elim

theorem sparesBigbuf_xferSetConf (addr ep confValue : Byte) :
    Accesses SparesBigbuf (xferSetConf addr ep confValue) :=
  Accesses.bind (sparesBigbuf_xferCtrlReq _ _ _ _ _ _ _ _) fun _ => Accesses.pure _

theorem sparesBigbuf_xferSetProto (addr ep interface protocol : Byte) :
    Accesses SparesBigbuf (xferSetProto addr ep interface protocol) :=
  Accesses.bind (sparesBigbuf_xferCtrlReq _ _ _ _ _ _ _ _) fun _ => Accesses.pure _

/-- The device is configured once its endpoint has been taken over. -/
def configureRequests (addr confvalue : Byte) : Driver Bool := do
  let rcode ← xferSetConf addr 0 confvalue
  if rcode ≠ 0 then return false
  else
    let rcode ← xferSetProto addr 0 (← read).hidDevice.interface bootProtocol
    return rcode = 0

theorem sparesBigbuf_configureRequests (addr confvalue : Byte) :
    Accesses SparesBigbuf (configureRequests addr confvalue) := by
  apply Accesses.bind (sparesBigbuf_xferSetConf addr 0 confvalue)
  intro rcode
  split
  · exact Accesses.pure _
  · exact Accesses.bind Accesses.read fun t =>
      Accesses.bind (sparesBigbuf_xferSetProto _ _ _ _) fun _ => Accesses.pure _

theorem accesses_bigbufRd {P : Access → Prop} {i : Nat} (h : P (.bigbufRd i)) :
    Accesses P (bigbufRd i) := by
  apply Accesses.bind (Accesses.emit h)
  intro _
  apply Accesses.bind Accesses.read
  intro t
  split
  · exact Accesses.pure _
  · exact Accesses.bind Accesses.ask fun _ => Accesses.pure _

theorem accesses_bigbufRdWord {P : Access → Prop} (h : ∀ i, P (.bigbufRd i)) (i : Nat) :
    Accesses P (bigbufRdWord i) := by
  apply Accesses.bind (accesses_bigbufRd (h i))
  intro lo
  exact Accesses.bind (accesses_bigbufRd (h (i + 1))) fun _ => Accesses.pure _

theorem accesses_configureEndpoint (addr confvalue : Byte) (p : Nat) :
    Accesses (fun _ => True) (configureEndpoint addr confvalue p) := by
  have hset (g : EpRecord → EpRecord) : Accesses (fun _ => True) (setEpRecord addr 1 g) :=
    accesses_setEpRecord addr 1 g
  refine Accesses.bind (accesses_bigbufRd trivial) fun epAddr => ?_
  refine Accesses.bind (hset _) fun _ => ?_
  refine Accesses.bind (accesses_bigbufRd trivial) fun attr => ?_
  refine Accesses.bind (hset _) fun _ => ?_
  refine Accesses.bind (accesses_bigbufRdWord (fun _ => trivial) _) fun maxPktSize => ?_
  refine Accesses.bind (hset _) fun _ => ?_
  refine Accesses.bind (accesses_bigbufRd trivial) fun interval => ?_
  refine Accesses.bind (hset _) fun _ => ?_
  exact (sparesBigbuf_configureRequests addr confvalue).any

end Requests

/-! ## The probes -/

namespace BootDevice

def devclass : BootDevice → Byte
  | keyboard => hidK
  | mouse => hidM

theorem probe_eq (d : BootDevice) (addr : Byte) :
    d.probe addr = bootProbe d.protocol d.devclass addr := by
  cases d <;> rfl

/-- The nested loops of a probe, with what it has set before them. -/
def parse (d : BootDevice) (addr confvalue : Byte) (totalLength : Nat) : Driver Bool :=
  loop (interfaceRound addr d.protocol d.devclass confvalue totalLength) (scanFuel totalLength) 0

end BootDevice

/-- The two requests of a probe: how many bytes of the configuration there are to go through, if
both succeed. -/
def readConfiguration (addr : Byte) : Driver (Option Nat) := do
  let rcode ← confDescrToBigbuf addr confDescrLen
  if rcode ≠ 0 then return none
  else
    let wTotalLength ← bigbufRdWord 2
    let totalLength : Word := if 256 < wTotalLength then 256 else wTotalLength
    let rcode ← confDescrToBigbuf addr totalLength
    if rcode ≠ 0 then return none
    else return some totalLength.toNat

/-- What a probe makes of them. -/
def judge (d : BootDevice) (addr : Byte) : Option Nat → Driver Bool
  | none => return false
  | some totalLength => do
    let confvalue ← bigbufRd 5
    d.parse addr confvalue totalLength

theorem BootDevice.probe_judges (d : BootDevice) (addr : Byte) :
    d.probe addr = readConfiguration addr >>= judge d addr := by
  rw [d.probe_eq, bootProbe, readConfiguration]
  rw [bind_assoc]
  refine bind_congr fun rcode => ?_
  split
  · rfl
  · simp only [bind_assoc]
    refine bind_congr fun wTotalLength => bind_congr fun rcode => ?_
    split <;> rfl

theorem transferFree_bigbuf : TransferFree Tables.bigbuf where
  log _ _ := rfl
  rcvToggle _ slot _ := by cases slot <;> rfl

/-- What is known of the memory stays known, and no more of it counts than `bigbuf` holds. -/
theorem triple_readConfiguration (addr : Byte) :
    Triple (fun t => scanReach ≤ t.bigbuf.length) (readConfiguration addr)
      (fun r t => ∀ totalLength ∈ r, totalLength ≤ 256 ∧ scanReach ≤ t.bigbuf.length)
      fun _ => True := by
  refine Triple.bind (triple_confDescrToBigbuf addr confDescrLen) fun rcode => ?_
  split
  · exact Triple.pure fun t _ totalLength h => nomatch h
  · have hword : Keeps (fun t : Tables => scanReach ≤ t.bigbuf.length) (bigbufRdWord 2) :=
      (preserves_bigbufRdWord transferFree_bigbuf 2).keeps fun s t heq h => heq ▸ h
    refine Triple.bind (hword.triple fun _ _ => trivial) fun wTotalLength => ?_
    refine Triple.bind (triple_confDescrToBigbuf addr _) fun rcode => ?_
    split
    · exact Triple.pure fun t _ totalLength h => nomatch h
    · refine Triple.pure fun t ht totalLength h => ?_
      obtain rfl := Option.some.inj h
      exact ⟨cut_le wTotalLength, ht⟩

/-- The bytes that the outer loop reads on its way. -/
def skimmedInterfaces (mem : List Byte) (totalLength : Nat) : List Nat :=
  skimmed mem usbDescriptorInterface (descriptorsFrom mem totalLength 0)

/-- The bytes that the inner loop reads on its way from `p` on. -/
def skimmedEndpoints (mem : List Byte) (totalLength p : Nat) : List Nat :=
  skimmed mem usbDescriptorEndpoint (descriptorsFrom mem totalLength p)

section Loops

variable (addr confvalue : Byte) {totalLength : Nat} (w : World Dword Tables)
  (hlen : totalLength < w.st.bigbuf.length)
include hlen

theorem endpointLoop_seeks (p : Nat) :
    loop (endpointRound addr confvalue totalLength) (scanFuel totalLength) p w =
      ((descriptorsFrom w.st.bigbuf totalLength p).find? (isEndpoint w.st.bigbuf)).elim
        (if (descriptorsFrom w.st.bigbuf totalLength p).length < scanFuel totalLength then
          .ok false (reading w (skimmedEndpoints w.st.bigbuf totalLength p))
        else .error .diverged (reading w (skimmedEndpoints w.st.bigbuf totalLength p)))
        fun e => configureEndpoint addr confvalue e
          (reading w (skimmedEndpoints w.st.bigbuf totalLength p ++ [e + 1])) :=
  loop_seekRound usbDescriptorEndpoint (configureEndpoint addr confvalue) _ p w hlen rfl

theorem BootDevice.parse_seeks (d : BootDevice) :
    d.parse addr confvalue totalLength w =
      ((descriptorsFrom w.st.bigbuf totalLength 0).find? (isInterface w.st.bigbuf)).elim
        (if (descriptorsFrom w.st.bigbuf totalLength 0).length < scanFuel totalLength then
          .ok false (reading w (skimmedInterfaces w.st.bigbuf totalLength))
        else .error .diverged (reading w (skimmedInterfaces w.st.bigbuf totalLength)))
        fun i => interfaceFound addr d.protocol d.devclass confvalue totalLength i
          (reading w (skimmedInterfaces w.st.bigbuf totalLength ++ [i + 1])) := by
  rw [BootDevice.parse, interfaceRound_eq]
  exact loop_seekRound usbDescriptorInterface
    (interfaceFound addr d.protocol d.devclass confvalue totalLength) _ 0 w hlen rfl

end Loops

/-- What is known once an interface descriptor with number `interface` has been matched. -/
structure ClaimedFrom (addr devclass interface : Byte) (w u : World Dword Tables) : Prop where
  script : u.script = w.script
  bigbuf : u.st.bigbuf = w.st.bigbuf
  devtable : u.st.devtable[addr.toNat]? = some ⟨.hidEp, devclass⟩
  hidDevice : u.st.hidDevice = ⟨addr, interface⟩

/-- The device has a record for its endpoint 0. -/
def HasSlot (addr : Byte) (t : Tables) : Prop := (t.epSlot addr 0).isSome

instance (addr : Byte) (t : Tables) : Decidable (HasSlot addr t) := by
  unfold HasSlot; infer_instance

theorem setDevRecord_eq {addr : Byte} {w : World Dword Tables}
    (haddr : addr.toNat < usbNumdevices + 1) (g : DevRecord → DevRecord) :
    setDevRecord addr g w = .ok () ⟨w.script, { w.st with
      devtable := w.st.devtable.set addr.toNat (g w.st.devtable[addr.toNat]) }⟩ := by
  show (if h : addr.toNat < usbNumdevices + 1 then update fun t => { t with
    devtable := t.devtable.set addr.toNat (g t.devtable[addr.toNat]) } else halt .fault :
      Driver Unit) w = _
  rw [dif_pos haddr]
  rfl

/-- Whether there is a record depends on the `epinfo` of the device alone. -/
theorem epSlot_congr {s t : Tables} {addr : Byte} (ep : Byte)
    (h : s.devtable[addr.toNat]?.map (·.epinfo) = t.devtable[addr.toNat]?.map (·.epinfo)) :
    s.epSlot addr ep = t.epSlot addr ep := by
  unfold Tables.epSlot
  rcases hs : s.devtable[addr.toNat]? with _ | d
  · rcases ht : t.devtable[addr.toNat]? with _ | d'
    · rfl
    · simp [hs, ht] at h
  · rcases ht : t.devtable[addr.toNat]? with _ | d'
    · simp [hs, ht] at h
    · have hepinfo : d.epinfo = d'.epinfo := by simpa [hs, ht] using h
      simp only [hepinfo]

section Claim

variable {addr : Byte} (devclass : Byte) (p : Nat) {w : World Dword Tables}

/-- `w` with the class of the device entered. -/
def classed (haddr : addr.toNat < usbNumdevices + 1) (w : World Dword Tables) :
    World Dword Tables :=
  ⟨w.script, { w.st with
    devtable := w.st.devtable.set addr.toNat ⟨w.st.devtable[addr.toNat].epinfo, devclass⟩ }⟩

theorem epSlot_classed (haddr : addr.toNat < usbNumdevices + 1) (ep : Byte) :
    (classed devclass haddr w).st.epSlot addr ep = w.st.epSlot addr ep := by
  refine epSlot_congr ep ?_
  simp [classed, haddr]

theorem claimInterface_ok {p} (hslot : HasSlot addr w.st)
    (hp : p + 2 < w.st.bigbuf.length) :
    ∃ u, claimInterface addr devclass p w = .ok () u ∧
      ClaimedFrom addr devclass (byteAt w.st.bigbuf (p + 2)) w u ∧
      u.st.log = w.st.log ++ [.bigbufRd (p + 2)] := by
  obtain ⟨slot, hslot⟩ := Option.isSome_iff_exists.1 hslot
  have haddr : addr.toNat < usbNumdevices + 1 := by
    by_contra haddr
    simp [Tables.epSlot, haddr] at hslot
  let w₁ := classed devclass haddr w
  have hclass : setDevRecord addr (fun d => { d with devclass := devclass }) w = .ok () w₁ :=
    setDevRecord_eq haddr _
  have hrecord := epRecord_eq addr 0 w₁
  rw [epSlot_classed, hslot] at hrecord
  let w₂ := final hidInit w₁
  have hinit : hidInit w₁ = .ok () w₂ := rfl
  let w₃ : World Dword Tables := ⟨w₂.script, { w₂.st with
    devtable := w₂.st.devtable.set addr.toNat ⟨.hidEp, w₂.st.devtable[addr.toNat].devclass⟩ }⟩
  have hepinfo : setDevRecord addr (fun d => { d with epinfo := .hidEp }) w₂ = .ok () w₃ :=
    setDevRecord_eq haddr _
  have hslot₃ : w₃.st.epSlot addr 0 = some (.hidEp 0) := by
    simp [Tables.epSlot, w₃, haddr]
  let size : EpRecord → EpRecord := fun r =>
    { r with maxPktSize := ((w₁.st.epRecord slot).maxPktSize.setWidth 8 : Byte).setWidth 16 }
  let w₄ : World Dword Tables :=
    ⟨w₃.script, w₃.st.setEpRecord (size (w₃.st.epRecord (.hidEp 0))) (.hidEp 0)⟩
  have hsize : setEpRecord addr 0 size w₃ = .ok () w₄ := setEpRecord_eq hslot₃ size
  have hinterface := bigbufRd_eq (w := w₄) hp
  refine ⟨_, (bind_ok hclass).trans <| (bind_ok hrecord).trans <| (bind_ok hinit).trans <|
    (bind_ok hepinfo).trans <| (bind_ok hsize).trans (bind_ok hinterface), ⟨rfl, rfl, ?_, rfl⟩, rfl⟩
  have hdevtable : w₂.st.devtable = w₁.st.devtable := rfl
  show w₃.st.devtable[addr.toNat]? = _
  simp [w₃, hdevtable, w₁, classed, haddr]

theorem claimInterface_fault (hslot : ¬ HasSlot addr w.st) :
    ∃ u, claimInterface addr devclass p w = .error .fault u ∧ u.st.log = w.st.log := by
  by_cases haddr : addr.toNat < usbNumdevices + 1
  · refine ⟨classed devclass haddr w, ?_, rfl⟩
    have hset : setDevRecord addr (fun d => { d with devclass := devclass }) w =
        .ok () (classed devclass haddr w) := setDevRecord_eq haddr _
    have hrecord := epRecord_eq addr 0 (classed devclass haddr w)
    have hnone : w.st.epSlot addr 0 = none := by simpa [HasSlot] using hslot
    rw [epSlot_classed, hnone] at hrecord
    rw [claimInterface, bind_ok hset, bind_error hrecord]
  · have hset : setDevRecord addr (fun d => { d with devclass := devclass }) w =
        .error .fault w := by
      show (if h : addr.toNat < usbNumdevices + 1 then _ else halt .fault : Driver Unit) w = _
      rw [dif_neg haddr]
      rfl
    exact ⟨w, bind_error hset, rfl⟩

section Match

variable (addr) {protocol : Byte} (hp : p + 7 < w.st.bigbuf.length)
include hp

/-- What is read of an interface descriptor decides whether it is wanted. -/
theorem matchInterface_eq :
    matchInterface addr protocol devclass p w =
      (if isBootInterface w.st.bigbuf protocol p then do
        claimInterface addr devclass p
        return some (p + (← bigbufRd p).toNat)
      else return none : Driver (Option Nat)) (reading w [p + 5, p + 6, p + 7]) := by
  have hdecide : isBootInterface w.st.bigbuf protocol p = true ↔
      byteAt w.st.bigbuf (p + 5) = hidIntf ∧ byteAt w.st.bigbuf (p + 6) = bootIntfSubclass ∧
        byteAt w.st.bigbuf (p + 7) = protocol := decide_eq_true_iff
  rw [matchInterface, bigbufRd_bind (by omega), bigbufRd_bind_reading (by omega),
    bigbufRd_bind_reading (by omega)]
  simp only [hdecide, List.cons_append, List.nil_append]

theorem matchInterface_other (hboot : ¬ isBootInterface w.st.bigbuf protocol p) :
    matchInterface addr protocol devclass p w =
      .ok none (reading w [p + 5, p + 6, p + 7]) := by
  rw [matchInterface_eq addr devclass p hp, if_neg hboot]
  rfl

theorem matchInterface_fault (hboot : isBootInterface w.st.bigbuf protocol p)
    (hslot : ¬ HasSlot addr w.st) :
    ∃ u, matchInterface addr protocol devclass p w = .error .fault u ∧
      u.st.log = (reading w [p + 5, p + 6, p + 7]).st.log := by
  obtain ⟨u, hclaim, hlog⟩ := claimInterface_fault devclass p
    (w := reading w [p + 5, p + 6, p + 7]) hslot
  refine ⟨u, ?_, hlog⟩
  rw [matchInterface_eq addr devclass p hp, if_pos hboot, bind_error hclaim]

/-- The interface is matched, and its length is read once it has been. -/
theorem matchInterface_ok (hboot : isBootInterface w.st.bigbuf protocol p)
    (hslot : HasSlot addr w.st) :
    ∃ u, matchInterface addr protocol devclass p w =
        .ok (some (p + (bLength w.st.bigbuf p).toNat)) u ∧
      ClaimedFrom addr devclass (byteAt w.st.bigbuf (p + 2)) w u ∧
        u.st.log = (reading w [p + 5, p + 6, p + 7, p + 2, p]).st.log := by
  have hp' : p + 2 < (reading w [p + 5, p + 6, p + 7]).st.bigbuf.length := by
    rw [bigbuf_reading]
    omega
  obtain ⟨u, hclaim, hu, hlog⟩ := claimInterface_ok devclass
    (w := reading w [p + 5, p + 6, p + 7]) hslot hp'
  have hbuf : u.st.bigbuf = w.st.bigbuf := hu.bigbuf
  refine ⟨reading u [p], ?_, ⟨hu.script, hbuf, hu.devtable, hu.hidDevice⟩, ?_⟩
  · rw [matchInterface_eq addr devclass p hp, if_pos hboot, bind_ok hclaim,
      bigbufRd_bind (by rw [hbuf]; omega), hbuf]
    rfl
  · simp [hlog]

end Match

end Claim

/-- Each way that the nested loops can go, and what they have read on it. -/
inductive Parsed (d : BootDevice) (addr confvalue : Byte) (totalLength : Nat)
    (w : World Dword Tables) : Prop
  | ended
      (hfind : (descriptorsFrom w.st.bigbuf totalLength 0).find? (isInterface w.st.bigbuf) = none)
      (hrun : d.parse addr confvalue totalLength w =
        if (descriptorsFrom w.st.bigbuf totalLength 0).length < scanFuel totalLength then
          .ok false (reading w (skimmedInterfaces w.st.bigbuf totalLength))
        else .error .diverged (reading w (skimmedInterfaces w.st.bigbuf totalLength)))
  | other (i : Nat)
      (hfind : (descriptorsFrom w.st.bigbuf totalLength 0).find? (isInterface w.st.bigbuf) = some i)
      (hboot : ¬ isBootInterface w.st.bigbuf d.protocol i)
      (hrun : d.parse addr confvalue totalLength w = .ok false
        (reading w (skimmedInterfaces w.st.bigbuf totalLength ++ [i + 1, i + 5, i + 6, i + 7])))
  | fault (i : Nat) (u : World Dword Tables)
      (hfind : (descriptorsFrom w.st.bigbuf totalLength 0).find? (isInterface w.st.bigbuf) = some i)
      (hboot : isBootInterface w.st.bigbuf d.protocol i) (hslot : ¬ HasSlot addr w.st)
      (hrun : d.parse addr confvalue totalLength w = .error .fault u)
      (hlog : u.st.log = (reading w
        (skimmedInterfaces w.st.bigbuf totalLength ++ [i + 1, i + 5, i + 6, i + 7])).st.log)
  | claimed (i : Nat) (u : World Dword Tables)
      (hfind : (descriptorsFrom w.st.bigbuf totalLength 0).find? (isInterface w.st.bigbuf) = some i)
      (hboot : isBootInterface w.st.bigbuf d.protocol i) (hslot : HasSlot addr w.st)
      (hclaimed : ClaimedFrom addr d.devclass (byteAt w.st.bigbuf (i + 2)) w u)
      (hrun : d.parse addr confvalue totalLength w =
        loop (endpointRound addr confvalue totalLength) (scanFuel totalLength)
          (i + (bLength w.st.bigbuf i).toNat) u)
      (hlog : u.st.log = (reading w (skimmedInterfaces w.st.bigbuf totalLength ++
        [i + 1, i + 5, i + 6, i + 7, i + 2, i])).st.log)

theorem BootDevice.parsed (d : BootDevice) (addr confvalue : Byte) {totalLength : Nat}
    (htotal : totalLength ≤ 256) {w : World Dword Tables}
    (hmem : scanReach ≤ w.st.bigbuf.length) : Parsed d addr confvalue totalLength w := by
  have hreach : scanReach = 263 := rfl
  have hparse := d.parse_seeks addr confvalue w (by omega : totalLength < w.st.bigbuf.length)
  rcases hfind : (descriptorsFrom w.st.bigbuf totalLength 0).find? (isInterface w.st.bigbuf)
    with _ | i
  · rw [hfind, Option.elim_none] at hparse
    exact .ended hfind hparse
  · rw [hfind, Option.elim_some] at hparse
    have hi : i < totalLength := lt_of_mem_descriptors (List.mem_of_find?_eq_some hfind)
    have hi' : i + 7 < w.st.bigbuf.length := by omega
    let v := reading w (skimmedInterfaces w.st.bigbuf totalLength ++ [i + 1])
    by_cases hboot : isBootInterface w.st.bigbuf d.protocol i
    · by_cases hslot : HasSlot addr w.st
      · obtain ⟨u, hmatch, hu, hlog⟩ := matchInterface_ok addr d.devclass i (w := v) hi' hboot hslot
        rw [interfaceFound_some hmatch] at hparse
        refine .claimed i u hfind hboot hslot ⟨hu.script, hu.bigbuf, hu.devtable, hu.hidDevice⟩
          hparse ?_
        rw [hlog, reading_reading, List.append_assoc]
        rfl
      · obtain ⟨u, hmatch, hlog⟩ := matchInterface_fault addr d.devclass i (w := v) hi' hboot hslot
        rw [interfaceFound_error hmatch] at hparse
        refine .fault i u hfind hboot hslot hparse ?_
        rw [hlog, reading_reading, List.append_assoc]
        rfl
    · have hmatch := matchInterface_other addr d.devclass i (w := v) hi' hboot
      rw [interfaceFound_none hmatch, reading_reading, List.append_assoc] at hparse
      exact .other i hfind hboot hparse

/-! ## Configurations in memory -/

/-- `bigbuf` with a configuration descriptor in it, and nothing but zeros behind that. -/
def configured (bytes : List Byte) : Tables :=
  { addressedTables with bigbuf := bytes ++ .replicate (256 - bytes.length) 0 }

end Bosconian.Usb
