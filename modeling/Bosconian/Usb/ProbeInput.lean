import Bosconian.Usb.Received
import Bosconian.Usb.ScanReads

/-!
# What a probe judges by

A transfer that a short packet ends reports success and not how much it has received, and the
probe goes through as much of `bigbuf` as the device has claimed. The rest of it is what an
earlier probe left there.

* `Follows` — a program does the same on other contents of `bigbuf` that have the bytes it reads.
* `probe_judges_received` — when no byte that was there before plays a part.
-/

namespace Bosconian.Usb

open Scripted

/-! ## Tables that agree -/

/-- The same tables, whatever lies in `bigbuf`. -/
structure SameTables (s t : Tables) : Prop where
  devtable : s.devtable = t.devtable
  dev0ep : s.dev0ep = t.dev0ep
  hidEp : s.hidEp = t.hidEp
  hidDevice : s.hidDevice = t.hidDevice

/-- The same tables, and the same bytes of `bigbuf` as far as they are known. -/
structure Agree (known : Nat → Prop) (s t : Tables) : Prop extends SameTables s t where
  bigbuf : ∀ i, known i → s.bigbuf[i]? = t.bigbuf[i]?

section Agree

variable {known : Nat → Prop} {s t : Tables}

theorem SameTables.epSlot (h : SameTables s t) (addr ep : Byte) :
    s.epSlot addr ep = t.epSlot addr ep := epSlot_congr ep (by rw [h.devtable])

theorem SameTables.epRecord (h : SameTables s t) (slot : EpSlot) :
    s.epRecord slot = t.epRecord slot := by
  cases slot with
  | dev0ep => exact h.dev0ep
  | hidEp i => exact congrArg (·[i]) h.hidEp

theorem Agree.setEpRecord (h : Agree known s t) (r : EpRecord) (slot : EpSlot) :
    Agree known (s.setEpRecord r slot) (t.setEpRecord r slot) := by
  cases slot with
  | dev0ep => exact ⟨⟨h.devtable, rfl, h.hidEp, h.hidDevice⟩, h.bigbuf⟩
  | hidEp i => exact ⟨⟨h.devtable, h.dev0ep, congrArg (·.set i r) h.hidEp, h.hidDevice⟩, h.bigbuf⟩

/-- What is logged does not matter. -/
theorem Agree.log (h : Agree known s t) (es es' : List Access) :
    Agree known { s with log := s.log ++ es } { t with log := t.log ++ es' } :=
  ⟨⟨h.devtable, h.dev0ep, h.hidEp, h.hidDevice⟩, h.bigbuf⟩

theorem keptByLog_agree : KeptByLog (Agree known) := fun e _ _ h => h.log [e] [e]

end Agree

section Related

variable {known : Nat → Prop}

theorem related_emits (e e' : Access) : Related (Agree known) (emit e) (emit e') :=
  Related.update fun _ _ h => h.log [e] [e']

theorem related_epRecord (addr ep : Byte) :
    Related (Agree known) (epRecord addr ep) (epRecord addr ep) := by
  apply Related.read_bind
  intro s t h
  rw [h.epSlot]
  rcases t.epSlot addr ep with _ | slot
  · exact Related.halt _
  · show Related _ (pure (s.epRecord slot)) (pure (t.epRecord slot))
    rw [h.epRecord]
    exact Related.pure _

theorem related_setEpRecord (addr ep : Byte) (g : EpRecord → EpRecord) :
    Related (Agree known) (setEpRecord addr ep g) (setEpRecord addr ep g) := by
  apply Related.read_bind
  intro s t h
  rw [h.epSlot]
  rcases t.epSlot addr ep with _ | slot
  · exact Related.halt _
  · refine Related.update fun s t h => ?_
    rw [h.epRecord]
    exact h.setEpRecord _ slot

theorem related_setDevRecord (addr : Byte) (g : DevRecord → DevRecord) :
    Related (Agree known) (setDevRecord addr g) (setDevRecord addr g) := by
  apply Related.read_bind
  intro _ _ _
  split
  · refine Related.update fun s t h => ⟨⟨?_, h.dev0ep, h.hidEp, h.hidDevice⟩, h.bigbuf⟩
    simp only [h.devtable]
  · exact Related.halt _

/-! A transfer does the same, and a request whatever its value is. -/

theorem related_saveToggle (addr ep : Byte) :
    Related (Agree known) (saveToggle addr ep) (saveToggle addr ep) := by
  apply Related.bind (related_maxRegRd keptByLog_agree rHRSL)
  intro hrsl
  split
  · exact related_setEpRecord addr ep _
  · exact related_setEpRecord addr ep _

theorem related_receive (addr ep : Byte) (nbytes : Word) (maxpktsize : Byte) :
    Related (Agree known) (receive addr ep nbytes maxpktsize)
      (receive addr ep nbytes maxpktsize) := by
  refine Related.bind (related_epRecord addr ep) fun _ =>
    Related.bind (related_emits _ _) fun _ => Related.forever (fun s => ?_) _
  apply Related.bind (related_receivePkt keptByLog_agree ep)
  intro r
  rcases r with rcode | ⟨pktsize, bytes⟩
  · exact Related.pure _
  · show Related _ (if _ then _ else _) (if _ then _ else _)
    split
    · exact Related.bind (related_saveToggle addr ep) fun _ => Related.pure _
    · exact Related.pure _

theorem related_xferCtrlData (addr ep : Byte) (nbytes : Word) (direction : Bool) :
    Related (Agree known) (xferCtrlData addr ep nbytes [] direction)
      (xferCtrlData addr ep nbytes [] direction) := by
  unfold xferCtrlData
  split
  · refine Related.bind (related_setEpRecord addr ep _) fun _ =>
      Related.bind (related_epRecord addr ep) fun r => ?_
    rw [xferInTransfer_nil]
    refine Related.bind (related_receive addr ep nbytes _) ?_
    rintro ⟨rcode, got⟩
    show Related _ (if rcode ≠ 0 then _ else _) (if rcode ≠ 0 then _ else _)
    split
    · exact Related.pure _
    · exact Related.bind (related_xferDispatchPkt keptByLog_agree tokOUTHS ep) fun _ =>
        Related.pure _
  · exact Related.pure _

theorem related_xferCtrlND (ep : Byte) (direction : Bool) :
    Related (Agree known) (xferCtrlND ep direction) (xferCtrlND ep direction) := by
  unfold xferCtrlND
  split
  · exact related_xferDispatchPkt keptByLog_agree tokOUTHS ep
  · exact related_xferDispatchPkt keptByLog_agree tokINHS ep

theorem related_xferCtrlReq (addr ep bmReqType bRequest wValLo wValLo' wValHi : Byte)
    (wInd nbytes : Word) {dataptr : Option (List Byte)} (hdata : dataptr.getD [] = []) :
    Related (Agree known)
      (xferCtrlReq addr ep bmReqType bRequest wValLo wValHi wInd nbytes dataptr)
      (xferCtrlReq addr ep bmReqType bRequest wValLo' wValHi wInd nbytes dataptr) := by
  refine Related.bind (related_emits _ _) fun _ => Related.bind (related_emits _ _) fun _ =>
    Related.bind (related_xferDispatchPkt keptByLog_agree tokSETUP ep) fun rcode => ?_
  split
  · exact Related.pure _
  · rcases dataptr with _ | data
    · exact Related.bind (related_xferCtrlND ep _) fun _ => Related.pure _
    · obtain rfl : data = [] := hdata
      exact related_xferCtrlData addr ep nbytes _

end Related

/-! ## Programs that do the same -/

/-- The bytes of `bigbuf` that have been read only become more. -/
abbrev ReadsOn {α : Type} (m : Driver α) : Prop :=
  Moves (along (fun t : Tables => bigbufReads t.log) (· <+: ·)) m

theorem allows_readsOn :
    Allows (fun _ => True) (along (fun t : Tables => bigbufReads t.log) (· <+: ·)) := by
  apply allows_log
  intro log e _
  rw [bigbufReads_append]
  exact List.prefix_append _ _

section BytesRead

variable {α β : Type} {m : Driver α} {f : α → Driver β} {w v : World Dword Tables}

theorem bigbufReads_final (hm : ReadsOn m) (w : World Dword Tables) :
    bigbufReads (final m w).st.log = bigbufReads w.st.log ++ bytesRead m w := by
  obtain ⟨is, his⟩ : bigbufReads w.st.log <+: bigbufReads (final m w).st.log := hm w
  rw [bytesRead, ← his, List.drop_left]

theorem bytesRead_bind_ok (hm : ReadsOn m) (hf : ∀ a, ReadsOn (f a)) {a : α}
    (h : m w = .ok a v) : bytesRead (m >>= f) w = bytesRead m w ++ bytesRead (f a) v := by
  refine List.append_cancel_left (?_ : bigbufReads w.st.log ++ _ = bigbufReads w.st.log ++ _)
  calc bigbufReads w.st.log ++ bytesRead (m >>= f) w
      = bigbufReads (final (f a) v).st.log := by
        rw [← bigbufReads_final (Moves.bind hm hf), final_congr (bind_ok h)]
    _ = bigbufReads v.st.log ++ bytesRead (f a) v := bigbufReads_final (hf a) v
    _ = bigbufReads w.st.log ++ bytesRead m w ++ bytesRead (f a) v := by
        rw [← bigbufReads_final hm, final_ok h]
    _ = _ := List.append_assoc _ _ _

/-- What the first half reads the whole reads. -/
theorem mem_bytesRead_bind (hm : ReadsOn m) (hf : ∀ a, ReadsOn (f a)) {i : Nat}
    (hi : i ∈ bytesRead m w) : i ∈ bytesRead (m >>= f) w := by
  rcases h : m w with ⟨a, v⟩ | ⟨e, v⟩
  · rw [bytesRead_bind_ok hm hf h]
    exact List.mem_append_left _ hi
  · rwa [bytesRead, final_error (bind_error h), ← final_error h]

end BytesRead

/-- On tables that agree, and with the bytes of `bigbuf` that `m` reads, `m'` does the same. -/
structure Follows {α : Type} (m m' : Driver α) : Prop where
  readsOn : ReadsOn m
  agree : ∀ {known is s t}, Agree known s t → (∀ i ∈ bytesRead m ⟨is, s⟩, known i) →
    SameResult (Agree known) (m ⟨is, s⟩) (m' ⟨is, t⟩)

namespace Follows

variable {α β : Type}

theorem of_related {m m' : Driver α} (hm : ReadsOn m)
    (h : ∀ known, Related (Agree known) m m') : Follows m m' :=
  ⟨hm, fun hst _ => h _ _ _ _ hst⟩

theorem pure (a : α) : Follows (pure a) (pure a) :=
  of_related (Moves.pure a) fun _ => Related.pure a

theorem bind {m m' : Driver α} {f f' : α → Driver β} (hm : Follows m m')
    (hf : ∀ a, Follows (f a) (f' a)) : Follows (m >>= f) (m' >>= f') := by
  have hreads := fun a => (hf a).readsOn
  refine ⟨Moves.bind hm.readsOn hreads, fun {known is s t} hst hknown => ?_⟩
  have hfirst : ∀ i ∈ bytesRead m ⟨is, s⟩, known i := fun i hi =>
    hknown i (mem_bytesRead_bind hm.readsOn hreads hi)
  refine (hm.agree hst hfirst).bind (fun _ _ => id) fun a u t' hu hst' => ?_
  rw [bytesRead_bind_ok hm.readsOn hreads hu, List.forall_mem_append] at hknown
  exact (hf a).agree hst' hknown.2

theorem loop {body body' : α → Driver (α ⊕ β)} (h : ∀ a, Follows (body a) (body' a)) (n : Nat)
    (a : α) : Follows (loop body n a) (loop body' n a) := by
  induction n generalizing a with
  | zero => exact of_related (Moves.halt _) fun _ => Related.halt _
  | succ n ih =>
    refine bind (h a) ?_
    rintro (a' | b)
    · exact ih a'
    · exact pure b

end Follows

theorem bytesRead_bigbufRd (i : Nat) (w : World Dword Tables) :
    bytesRead (bigbufRd i) w = [i] := by
  have hemit : emit (.bigbufRd i) w = .ok () (reading w [i]) := rfl
  have hread : (read : Driver Tables) (reading w [i]) =
      .ok (reading w [i]).st (reading w [i]) := rfl
  have hlog : (final (bigbufRd i) w).st.log = w.st.log ++ [.bigbufRd i] := by
    rw [bigbufRd, final_congr (bind_ok hemit), final_congr (bind_ok hread), bigbuf_reading]
    rcases w.st.bigbuf[i]? with _ | b
    · rw [final_bind_value (fun _ _ => rfl), final_ask]
      rfl
    · rfl
  rw [bytesRead, hlog, bigbufReads_append, List.drop_left]
  rfl

/-- A byte that is known is read the same. -/
theorem follows_bigbufRd (i : Nat) : Follows (bigbufRd i) (bigbufRd i) := by
  refine ⟨(accesses_bigbufRd trivial).moves allows_readsOn, fun {known is s t} hst hknown => ?_⟩
  have hi : known i := hknown i (by rw [bytesRead_bigbufRd]; exact List.mem_singleton_self i)
  refine Related.bind (related_emits _ _) (fun _ => Related.read_bind fun s t h => ?_) is s t hst
  rw [h.bigbuf i hi]
  rcases t.bigbuf[i]? with _ | b
  · exact Related.bind Related.ask fun _ => Related.pure _
  · exact Related.pure b

/-! ## The probes -/

section Probe

/-- A program that reads no byte of `bigbuf` itself. -/
theorem follows_of_accesses {α : Type} {m m' : Driver α} (hm : Accesses (fun _ => True) m)
    (h : ∀ known, Related (Agree known) m m') : Follows m m' :=
  Follows.of_related (hm.moves allows_readsOn) h

theorem follows_setEpRecord (addr ep : Byte) (g : EpRecord → EpRecord) :
    Follows (setEpRecord addr ep g) (setEpRecord addr ep g) :=
  follows_of_accesses (accesses_setEpRecord addr ep g) fun _ => related_setEpRecord addr ep g

theorem follows_setDevRecord (addr : Byte) (g : DevRecord → DevRecord) :
    Follows (setDevRecord addr g) (setDevRecord addr g) :=
  follows_of_accesses (accesses_setDevRecord addr g) fun _ => related_setDevRecord addr g

theorem follows_update {g : Tables → Tables}
    (hlog : ∀ t, (g t).log = t.log ∧ (g t).bigbuf = t.bigbuf)
    (h : ∀ known s t, Agree known s t → Agree known (g s) (g t)) :
    Follows (update g) (update g) :=
  follows_of_accesses (Accesses.update hlog) fun known => Related.update (h known)

theorem follows_claimInterface (addr devclass : Byte) (p : Nat) :
    Follows (claimInterface addr devclass p) (claimInterface addr devclass p) := by
  refine Follows.bind (follows_setDevRecord addr _) fun _ =>
    Follows.bind (follows_of_accesses (accesses_epRecord addr 0) fun _ =>
      related_epRecord addr 0) fun r =>
    Follows.bind (follows_update (fun _ => ⟨rfl, rfl⟩) fun known s t h => ?_) fun _ =>
    Follows.bind (follows_setDevRecord addr _) fun _ =>
    Follows.bind (follows_setEpRecord addr 0 _) fun _ =>
    Follows.bind (follows_bigbufRd _) fun interface =>
    follows_update (fun _ => ⟨rfl, rfl⟩) fun known s t h => ?_
  · refine ⟨⟨h.devtable, h.dev0ep, ?_, h.hidDevice⟩, h.bigbuf⟩
    simp only [h.hidEp]
  · exact ⟨⟨h.devtable, h.dev0ep, h.hidEp, rfl⟩, h.bigbuf⟩

/-- The value of the configuration is sent to the device, and nothing else depends on it. -/
theorem follows_configureRequests (addr confvalue confvalue' : Byte) :
    Follows (configureRequests addr confvalue) (configureRequests addr confvalue') := by
  refine follows_of_accesses (sparesBigbuf_configureRequests addr confvalue).any fun known => ?_
  have hset : Related (Agree known) (xferSetConf addr 0 confvalue)
      (xferSetConf addr 0 confvalue') :=
    Related.bind (related_xferCtrlReq _ _ _ _ _ _ _ _ _ rfl) fun _ => Related.pure _
  apply Related.bind hset
  intro rcode
  split
  · exact Related.pure _
  · apply Related.read_bind
    intro s t h
    rw [h.hidDevice]
    exact Related.bind (Related.bind (related_xferCtrlReq _ _ _ _ _ _ _ _ _ rfl) fun _ =>
      Related.pure _) fun _ => Related.pure _

theorem follows_configureEndpoint (addr confvalue confvalue' : Byte) (p : Nat) :
    Follows (configureEndpoint addr confvalue p) (configureEndpoint addr confvalue' p) := by
  have hset := follows_setEpRecord addr 1
  have hword (i : Nat) : Follows (bigbufRdWord i) (bigbufRdWord i) :=
    Follows.bind (follows_bigbufRd i) fun _ =>
      Follows.bind (follows_bigbufRd (i + 1)) fun _ => Follows.pure _
  exact Follows.bind (follows_bigbufRd _) fun _ => Follows.bind (hset _) fun _ =>
    Follows.bind (follows_bigbufRd _) fun _ => Follows.bind (hset _) fun _ =>
    Follows.bind (hword _) fun _ => Follows.bind (hset _) fun _ =>
    Follows.bind (follows_bigbufRd _) fun _ => Follows.bind (hset _) fun _ =>
    follows_configureRequests addr confvalue confvalue'

/-- A round of either loop does what finding the descriptor does. -/
theorem follows_seekRound (wanted : Byte) {found found' : Nat → Driver Bool}
    (hfound : ∀ p, Follows (found p) (found' p)) (totalLength p : Nat) :
    Follows (seekRound wanted found totalLength p) (seekRound wanted found' totalLength p) := by
  unfold seekRound
  split
  · apply Follows.bind (follows_bigbufRd _)
    intro type
    split
    · exact Follows.bind (follows_bigbufRd _) fun _ => Follows.pure _
    · exact Follows.bind (hfound p) fun _ => Follows.pure _
  · exact Follows.pure _

theorem follows_interfaceFound (addr protocol devclass confvalue confvalue' : Byte)
    (totalLength p : Nat) :
    Follows (interfaceFound addr protocol devclass confvalue totalLength p)
      (interfaceFound addr protocol devclass confvalue' totalLength p) := by
  have hmatch : Follows (matchInterface addr protocol devclass p)
      (matchInterface addr protocol devclass p) := by
    refine Follows.bind (follows_bigbufRd _) fun cls => Follows.bind (follows_bigbufRd _) fun
      subclass => Follows.bind (follows_bigbufRd _) fun proto => ?_
    split
    · exact Follows.bind (follows_claimInterface addr devclass p) fun _ =>
        Follows.bind (follows_bigbufRd p) fun _ => Follows.pure _
    · exact Follows.pure _
  apply Follows.bind hmatch
  intro next
  rcases next with _ | next
  · exact Follows.pure _
  · exact Follows.loop (follows_seekRound usbDescriptorEndpoint
      (follows_configureEndpoint addr confvalue confvalue') totalLength) _ next

/-- **The loops do the same** on any memory that has the bytes that they read. -/
theorem follows_parse (d : BootDevice) (addr confvalue confvalue' : Byte) (totalLength : Nat) :
    Follows (d.parse addr confvalue totalLength) (d.parse addr confvalue' totalLength) := by
  rw [BootDevice.parse, BootDevice.parse, interfaceRound_eq, interfaceRound_eq]
  exact Follows.loop (follows_seekRound usbDescriptorInterface
    (follows_interfaceFound addr _ _ confvalue confvalue' totalLength) totalLength) _ 0

end Probe

/-! ## What is received -/

/-- What a request for the configuration receives. -/
def delivered (addr : Byte) (nbytes : Word) : Driver (Byte × List Byte) :=
  xferGetConfDescr addr 0 nbytes 0 []

/-- The tables, once `got` lies in `bigbuf`. -/
def Tables.laid (t : Tables) (got : List Byte) : Tables :=
  { t with bigbuf := overlay got t.bigbuf }

/-- A request that succeeds: the bytes it receives, and where they are in `bigbuf`. -/
structure Reception where
  got : List Byte
  world : World Dword Tables

def received (addr : Byte) (nbytes : Word) (w : World Dword Tables) : Option Reception :=
  match delivered addr nbytes w with
  | .ok (rcode, got) v => if rcode = 0 then some ⟨got, v.script, v.st.laid got⟩ else none
  | .error _ _ => none

theorem preserves_bigbuf_delivered (addr : Byte) (nbytes : Word) :
    Preserves Tables.bigbuf (delivered addr nbytes) :=
  preserves_xferCtrlReq transferFree_bigbuf _ _ _ _ _ _ _ _ _

/-- A configuration is received, and then laid over what is in `bigbuf`. -/
theorem confDescrToBigbuf_eq (addr : Byte) (nbytes : Word) :
    confDescrToBigbuf addr nbytes = (do
      let r ← delivered addr nbytes
      update (·.laid r.2)
      return r.1) := by
  funext w
  have hread : (read : Driver Tables) w = .ok w.st w := rfl
  rw [confDescrToBigbuf, bind_ok hread, xferGetConfDescr, xferCtrlReq_lay, bind_map_left]
  show (delivered addr nbytes >>= _) w = _
  rcases h : delivered addr nbytes w with ⟨r, v⟩ | ⟨e, v⟩
  · have hbuf : w.st.bigbuf = v.st.bigbuf := (preserves_bigbuf_delivered addr nbytes).ok h
    rw [bind_ok h, bind_ok h, hbuf]
    rfl
  · rw [bind_error h, bind_error h]

theorem length_laid (t : Tables) (got : List Byte) :
    got.length ≤ (t.laid got).bigbuf.length ∧ t.bigbuf.length ≤ (t.laid got).bigbuf.length :=
  ⟨length_le_overlay_left _ _, length_le_overlay_right _ _⟩

theorem length_received {addr : Byte} {nbytes : Word} {w : World Dword Tables} {r : Reception}
    (h : received addr nbytes w = some r) :
    r.got.length ≤ r.world.st.bigbuf.length ∧
      w.st.bigbuf.length ≤ r.world.st.bigbuf.length := by
  rw [received] at h
  split at h
  · next rcode got v hrun =>
    split_ifs at h
    cases h
    rw [(preserves_bigbuf_delivered addr nbytes).ok hrun]
    exact length_laid v.st got
  · cases h

section Request

variable {known : Nat → Prop} {is : List Dword} {s t : Tables}

/-- What has been received is known. -/
theorem Agree.laid (h : Agree known s t) (got : List Byte) :
    Agree (fun i => i < got.length ∨ known i) (s.laid got) (t.laid got) := by
  refine ⟨⟨h.devtable, h.dev0ep, h.hidEp, h.hidDevice⟩, fun i hi => ?_⟩
  exact getElem?_overlay_congr fun hle => h.bigbuf i (hi.resolve_left (Nat.not_lt.2 hle))

theorem Agree.byteAt (h : Agree known s t) {i : Nat} (hi : known i) :
    byteAt s.bigbuf i = byteAt t.bigbuf i := by
  simp [Usb.byteAt, List.getD_eq_getElem?_getD, h.bigbuf i hi]

theorem Agree.lt_length (h : Agree known s t) {i : Nat} (hi : known i)
    (hlt : i < s.bigbuf.length) : i < t.bigbuf.length := by
  have hsome := h.bigbuf i hi
  rw [List.getElem?_eq_getElem hlt] at hsome
  exact (List.getElem?_eq_some_iff.1 hsome.symm).1

/-- Two runs that agree go on agreeing from one request on, if they do where it succeeds. -/
theorem agree_request {addr : Byte} {nbytes : Word} {f : Driver Bool} (h : Agree known s t)
    (hf : ∀ r u, received addr nbytes ⟨is, s⟩ = some r →
      Agree (fun i => i < r.got.length ∨ known i) r.world.st u →
        SameResult SameTables (f r.world) (f ⟨r.world.script, u⟩)) :
    SameResult SameTables
      ((do
        let rcode ← confDescrToBigbuf addr nbytes
        if rcode ≠ 0 then return false else f) ⟨is, s⟩)
      ((do
        let rcode ← confDescrToBigbuf addr nbytes
        if rcode ≠ 0 then return false else f) ⟨is, t⟩) := by
  have hrun : Related (Agree known) (delivered addr nbytes) (delivered addr nbytes) :=
    related_xferCtrlReq addr 0 _ _ 0 0 _ _ _ rfl
  rw [confDescrToBigbuf_eq]
  simp only [bind_assoc, pure_bind]
  refine (hrun is s t h).bind (fun _ _ hst => hst.toSameTables) fun r v t' hv hst => ?_
  obtain ⟨rcode, got⟩ := r
  show SameResult _ ((if rcode ≠ 0 then pure false else f) ⟨v.script, v.st.laid got⟩)
    ((if rcode ≠ 0 then pure false else f) ⟨v.script, t'.laid got⟩)
  by_cases hrcode : rcode = 0
  · have hreceived : received addr nbytes ⟨is, s⟩ = some ⟨got, v.script, v.st.laid got⟩ := by
      rw [received, hv]
      exact if_pos hrcode
    rw [if_neg (not_not.2 hrcode)]
    exact hf _ _ hreceived (hst.laid got)
  · rw [if_pos hrcode]
    exact ⟨rfl, rfl, (hst.laid got).toSameTables⟩

end Request

/-! ## What the result depends on -/

/-- How much of the configuration in `bigbuf` the loops go through. -/
def countedLength (mem : List Byte) : Word :=
  if 256 < wTotalLength mem 0 then 256 else wTotalLength mem 0

/-- The probe judges by what it has received: `wTotalLength` came with the first request, and
each byte that the loops read with one of the two, unless it lies behind `bigbuf`. -/
def JudgesReceived (d : BootDevice) (addr : Byte) (w : World Dword Tables) : Prop :=
  ∀ r ∈ received addr confDescrLen w, 3 < r.got.length ∧
    let totalLength := countedLength r.world.st.bigbuf
    ∀ r' ∈ received addr totalLength (reading r.world [2, 3]),
      ∀ i ∈ scanReads d r'.world.st.bigbuf totalLength.toNat (HasSlot addr r'.world.st),
        i < r.got.length ∨ i < r'.got.length ∨ 256 ≤ i

instance (d : BootDevice) (addr : Byte) (w : World Dword Tables) :
    Decidable (JudgesReceived d addr w) := by
  unfold JudgesReceived; infer_instance

/-- The tables, with `buf` in `bigbuf`. -/
def Tables.holding (t : Tables) (buf : Vector Byte 256) : Tables :=
  { t with bigbuf := buf.toList }

/-- What lies behind `bigbuf` is the same whatever is in it. -/
theorem agree_holding (t : Tables) (buf buf' : Vector Byte 256) (behind : Vector Byte scanReach) :
    Agree (256 ≤ ·) ((t.holding buf).withBehind behind) ((t.holding buf').withBehind behind) := by
  refine ⟨⟨rfl, rfl, rfl, rfl⟩, fun i hi => ?_⟩
  have hbuf {b : Vector Byte 256} : b.toList.length ≤ i := by simpa using hi
  simp only [Tables.withBehind, Tables.holding]
  rw [List.getElem?_append_right hbuf, List.getElem?_append_right hbuf]
  simp

/-- The loops, once both requests have succeeded. -/
theorem agree_judge (d : BootDevice) (addr : Byte) {totalLength : Nat} (htotal : totalLength ≤ 256)
    {known : Nat → Prop} {w v : World Dword Tables} (hscript : w.script = v.script)
    (h : Agree known w.st v.st) (hbehind : ∀ i, 256 ≤ i → known i)
    (hmem : scanReach ≤ w.st.bigbuf.length)
    (hreads : ∀ i ∈ scanReads d w.st.bigbuf totalLength (HasSlot addr w.st), known i) :
    SameResult SameTables (judge d addr (some totalLength) w)
      (judge d addr (some totalLength) v) := by
  have hreach : scanReach = 263 := rfl
  have hw : 262 < w.st.bigbuf.length := by omega
  have hv : 262 < v.st.bigbuf.length := h.lt_length (hbehind 262 (by decide)) hw
  obtain ⟨is, s⟩ := w
  obtain ⟨is, t⟩ := v
  obtain rfl := hscript
  rw [judge, bigbufRd_bind (by omega), bigbufRd_bind (by omega)]
  have hbytes := bytesRead_parse d addr (byteAt s.bigbuf 5) htotal (w := reading ⟨_, s⟩ [5]) hmem
  refine ((follows_parse d addr _ _ totalLength).agree (h.log _ _) fun i hi => ?_).mono
    fun _ _ h => h.toSameTables
  exact hreads i (hbytes ▸ hi)

/-- From `w` and from `v` the program has the same result, and does the same to the tables. -/
structure SameOutcome {α : Type} (m : Driver α) (w v : World Dword Tables) : Prop where
  returned : returned m w = returned m v
  stopped : stopped m w = stopped m v
  tables : SameTables (final m w).st (final m v).st

/-- **A probe judges only what the device has sent**, whatever was in `bigbuf` before, if all that
it judges by has been received. -/
theorem probe_judges_received (d : BootDevice) (addr : Byte) (is : List Dword) (t : Tables)
    (buf buf' : Vector Byte 256) (behind : Vector Byte scanReach)
    (h : JudgesReceived d addr ⟨is, (t.holding buf).withBehind behind⟩) :
    SameOutcome (d.probe addr) ⟨is, (t.holding buf).withBehind behind⟩
      ⟨is, (t.holding buf').withBehind behind⟩ := by
  suffices hsame : SameResult SameTables (d.probe addr ⟨is, (t.holding buf).withBehind behind⟩)
      (d.probe addr ⟨is, (t.holding buf').withBehind behind⟩) from
    ⟨hsame.outcome.1, hsame.outcome.2.1, hsame.outcome.2.2⟩
  have hmem : scanReach ≤ ((t.holding buf).withBehind behind).bigbuf.length := by
    simp [Tables.withBehind]
  rw [d.probe_eq]
  refine agree_request (agree_holding t buf buf' behind) fun r u hr hu => ?_
  obtain ⟨hlength, hnext⟩ := h r hr
  obtain ⟨hgot, hmem₁⟩ := length_received hr
  have hu₂ : byteAt r.world.st.bigbuf 2 = byteAt u.bigbuf 2 := hu.byteAt (.inl (by omega))
  have hu₃ : byteAt r.world.st.bigbuf 3 = byteAt u.bigbuf 3 := hu.byteAt (.inl hlength)
  have hword : wordAt u.bigbuf 2 = wordAt r.world.st.bigbuf 2 := by
    rw [wordAt, wordAt, hu₂, hu₃]
  have hr₃ : 3 < r.world.st.bigbuf.length := by omega
  have hu₃ : 3 < u.bigbuf.length := hu.lt_length (.inl hlength) hr₃
  rw [bind_ok (bigbufRdWord_eq (w := r.world) hr₃),
    bind_ok (bigbufRdWord_eq (w := ⟨r.world.script, u⟩) hu₃), hword]
  refine agree_request (s := (reading r.world [2, 3]).st) (hu.log _ _) fun r' u' hr' hu' => ?_
  obtain ⟨-, hmem₂⟩ := length_received hr'
  exact agree_judge d addr (cut_le _) rfl hu' (fun i hi => .inr (.inr hi))
    (hmem.trans (hmem₁.trans hmem₂)) fun i hi => or_left_comm.1 (hnext r' hr' i hi)

/-- `bigbuf` as a configuration of a keyboard on endpoint 1 leaves it, for an interface of the
given protocol. -/
def leftBy (protocol : Byte) : Vector Byte 256 :=
  .ofFn fun i => if i.val = 16 then protocol else
    byteAt ((keyboardConfiguration 0x81).map (·.setWidth 8)) i

/-- A keyboard that sends its whole configuration is judged by that. -/
theorem probe_judges_received_keyboard :
    SameOutcome (BootDevice.keyboard.probe 1)
      ⟨keyboardAnswers 0x81,
        (addressedTables.holding (leftBy hidProtocolMouse)).withBehind zerosBehind⟩
      ⟨keyboardAnswers 0x81,
        (addressedTables.holding (.replicate 256 0)).withBehind zerosBehind⟩ :=
  probe_judges_received .keyboard 1 (keyboardAnswers 0x81) addressedTables _ _ zerosBehind
    (by decide +kernel)

/-- A device whose answer to the second request is cut short after nine bytes. -/
def cutAnswers : List Dword :=
  acknowledged ++ lastPacket ((keyboardConfiguration 0x81).take 9) ++ acknowledged ++
    acknowledged ++ lastPacket ((keyboardConfiguration 0x81).take 9) ++ acknowledged ++
    acknowledged ++ acknowledged ++ acknowledged ++ acknowledged

/-- Whether it is taken for a keyboard is up to the device that was probed before it. -/
theorem not_probe_judges_received :
    ¬ SameOutcome (BootDevice.keyboard.probe 1)
      ⟨cutAnswers, (addressedTables.holding (leftBy hidProtocolMouse)).withBehind zerosBehind⟩
      ⟨cutAnswers,
        (addressedTables.holding (leftBy hidProtocolKeyboard)).withBehind zerosBehind⟩ := by
  intro h
  have hmouse : returned (BootDevice.keyboard.probe 1) ⟨cutAnswers,
      (addressedTables.holding (leftBy hidProtocolMouse)).withBehind zerosBehind⟩ = some false := by
    decide +kernel
  have hkeyboard : returned (BootDevice.keyboard.probe 1) ⟨cutAnswers,
      (addressedTables.holding (leftBy hidProtocolKeyboard)).withBehind zerosBehind⟩ =
        some true := by
    decide +kernel
  rw [h.returned, hkeyboard] at hmouse
  cases hmouse

end Bosconian.Usb
