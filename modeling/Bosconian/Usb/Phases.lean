import Bosconian.Usb.Addressing

/-!
# The phases of a transfer

What the controller and the bus expect of a host, as a machine that reads the log of accesses: which
access is allowed depends on how far the transfer on the bus has come.

* `Phase.step` — the protocol. A token is launched for an address that was set, a control transfer
  takes its setup packet, its data stage from DATA1 on and its status stage in the other direction,
  a packet is fetched once it is there and with the length the controller gives, and a token
  is sent again only when the device was busy or silent.
* `spoken_xferDispatchPkt`, `spoken_xferInTransfer` — a token and an IN transfer keep to it.
-/

namespace Bosconian.Usb

open Scripted EventMachine

/-! ## The protocol -/

/-- What a token is for. A setup packet tells the direction of its transfer, a data stage belongs to
a control transfer or is a poll of endpoint 1, and a status stage follows the direction. -/
inductive Stage
  | setup (dirIn : Bool)
  | data (control : Bool)
  | status (dirIn : Bool)
deriving DecidableEq, Repr

/-- Control transfers are on endpoint 0. -/
def Stage.ep : Stage → Byte
  | .data false => 1
  | _ => 0

def Stage.token : Stage → Byte
  | .setup _ => tokSETUP
  | .data _ => tokIN
  | .status true => tokOUTHS
  | .status false => tokINHS

/-- The launch of the token. -/
def Stage.launch (s : Stage) : Access := .regWr rHXFR (s.token ||| s.ep)

/-- How far the transfer has come. From the launch on there is a deadline. -/
inductive Phase
  | idle
  | addressed
  | ready (s : Stage)
  | timed (s : Stage) (deadline : Dword)
  | launched (s : Stage) (deadline : Dword)
  | done (s : Stage) (deadline : Dword)
  | cleared (s : Stage) (deadline : Dword)
  | refused (s : Stage) (deadline : Dword)
  | accepted
  | arrived (control : Bool)
  | available (control : Bool)
  | counted (control : Bool) (n : Byte)
  | fetched (control : Bool)
  | freed (control : Bool)
deriving DecidableEq, Repr

/-- After a token that was acknowledged: a setup packet is followed by the data it asks for or by
the status stage, and that ends the transfer. -/
def Stage.acknowledged : Stage → Phase
  | .setup true => .accepted
  | .setup false => .ready (.status false)
  | .data control => .arrived control
  | .status _ => .idle

/-- After the result of a token. -/
def Stage.result (s : Stage) (deadline : Dword) (rcode : Byte) : Phase :=
  if rcode = 0 then s.acknowledged
  else if rcode = hrNAK ∨ rcode = hrTIMEOUT then .refused s deadline
  else .idle

namespace Phase

/-- No transfer is under way, or it has been given up. -/
def Resting : Phase → Prop
  | idle | refused _ _ => True
  | _ => False

/-- Between the transfers everything may be accessed but the FIFOs, and no token is launched. -/
def between : Access → Option Phase
  | .regWr reg _ =>
    if reg = rPERADDR then some addressed else if reg = rHXFR then none else some idle
  | .bytesRd _ _ | .bytesWr _ _ => none
  | _ => some idle

/-- The access `e` alone is allowed, and leads to `p`. -/
def only (e : Access) (p : Phase) (e' : Access) : Option Phase := if e' = e then some p else none

theorem only_self (e : Access) (p : Phase) : only e p e = some p := if_pos rfl

def step : Phase → Access → Option Phase
  | idle, e => between e
  | refused s deadline, e => if e = s.launch then some (launched s deadline) else between e
  | addressed, .bytesWr reg bytes =>
    if reg = rSUDFIFO ∧ bytes.length = 8 then
      some (ready (.setup (decide (bytes.getD 0 0 &&& 0x80 ≠ 0)))) else none
  | addressed, .regWr reg _ => if reg = rHCTL then some (ready (.data false)) else none
  | ready s, .ticks t => some (timed s (t * 1000 / altTicksPerSecond + usbXferTimeout))
  | timed s deadline, e => only s.launch (launched s deadline) e
  | launched s deadline, .ticks t =>
    some (if t * 1000 / altTicksPerSecond < deadline then launched s deadline else idle)
  | launched s deadline, .regRd reg val =>
    if reg = rHIRQ then
      some (if val &&& bmHXFRDNIRQ ≠ 0 then done s deadline else launched s deadline) else none
  | done s deadline, e => only (.regWr rHIRQ bmHXFRDNIRQ) (cleared s deadline) e
  | cleared s deadline, .regRd reg val =>
    if reg = rHRSL then some (s.result deadline (val &&& 0x0f)) else none
  | accepted, e => only (.regWr rHCTL bmRCVTOG1) (ready (.data true)) e
  | arrived control, .regRd reg val =>
    if reg = rHIRQ then
      some (if val &&& bmRCVDAVIRQ = 0 then idle else available control) else none
  | available control, .regRd reg val =>
    if reg = rRCVBC then some (counted control val) else none
  | counted control n, .bytesRd reg bytes =>
    if reg = rRCVFIFO ∧ bytes.length = n.toNat then some (fetched control) else none
  | fetched control, e => only (.regWr rHIRQ bmRCVDAVIRQ) (freed control) e
  | freed control, .ticks t =>
    some (timed (.data control) (t * 1000 / altTicksPerSecond + usbXferTimeout))
  | freed control, .regRd reg _ =>
    if reg = rHRSL then some (if control then ready (.status true) else idle) else none
  | _, _ => none

/-- A transfer that is over is as good as none, but for another launch of its token. -/
theorem Resting.step_eq {p : Phase} (h : p.Resting) {e : Access} (he : ∀ s : Stage, e ≠ s.launch) :
    p.step e = between e := by
  cases p with
  | idle => rfl
  | refused s deadline => exact if_neg (he s)
  | _ => exact h.elim

theorem Resting.step_peraddr {p : Phase} (h : p.Resting) (addr : Byte) :
    p.step (.regWr rPERADDR addr) = some addressed := by
  refine h.step_eq fun s hs => ?_
  cases hs

theorem step_setup {bytes : List Byte} (h : bytes.length = 8) :
    addressed.step (.bytesWr rSUDFIFO bytes) =
      some (ready (.setup (decide (bytes.getD 0 0 &&& 0x80 ≠ 0)))) :=
  if_pos ⟨rfl, h⟩

end Phase

/-- The phase that the log has come to. -/
def Tables.phase (t : Tables) : Option Phase := phaseAfter Phase.step .idle t.log

/-- The log keeps to the protocol, and the phase it has come to is in `P`. -/
def InPhase (P : Phase → Prop) (t : Tables) : Prop := ∃ p, t.phase = some p ∧ P p

/-- The log keeps to the protocol. -/
abbrev Speaks (t : Tables) : Prop := InPhase (fun _ => True) t

theorem InPhase.mono {P Q : Phase → Prop} {t : Tables} (h : InPhase P t) (hPQ : ∀ p, P p → Q p) :
    InPhase Q t := by
  obtain ⟨p, hp, hP⟩ := h
  exact ⟨p, hp, hPQ p hP⟩

theorem InPhase.speaks {P : Phase → Prop} {t : Tables} (h : InPhase P t) : Speaks t :=
  h.mono fun _ _ => trivial

theorem InPhase.log {P : Phase → Prop} {t u : Tables} (h : InPhase P t) (hlog : u.log = t.log) :
    InPhase P u := by
  obtain ⟨p, hp, hP⟩ := h
  refine ⟨p, ?_, hP⟩
  rw [Tables.phase, hlog]
  exact hp

/-- An access that the protocol allows. -/
theorem InPhase.access {P Q : Phase → Prop} {t : Tables} {e : Access} (h : InPhase P t)
    (he : ∀ p, P p → ∃ q, p.step e = some q ∧ Q q) :
    InPhase Q { t with log := t.log ++ [e] } := by
  obtain ⟨p, hp, hP⟩ := h
  obtain ⟨q, hq, hQ⟩ := he p hP
  refine ⟨q, ?_, hQ⟩
  unfold Tables.phase at hp ⊢
  rw [phaseAfter_concat, hp]
  exact hq

/-! ## Packets -/

section Packets

variable {P Q : Phase → Prop}

theorem spoken_emit {e : Access} (he : ∀ p, P p → ∃ q, p.step e = some q ∧ Q q) :
    Triple (InPhase P) (emit e) (fun _ => InPhase Q) Speaks :=
  Triple.update fun _ h => h.access he

theorem spoken_ask : Triple (InPhase P) (ask : Driver Dword) (fun _ => InPhase P) Speaks := by
  have hask : Keeps (InPhase P) (ask : Driver Dword) := fun w hw => by
    rw [final_ask]
    exact hw
  exact hask.triple fun _ h => h.speaks

/-- A register is read whatever its value. -/
theorem spoken_maxRegRd {reg : Byte} {R : Byte → Phase → Prop}
    (h : ∀ val p, P p → ∃ q, p.step (.regRd reg val) = some q ∧ R val q) :
    Triple (InPhase P) (maxRegRd reg) (fun val => InPhase (R val)) Speaks :=
  Triple.bind spoken_ask fun _ => Triple.bind (spoken_emit (h _)) fun _ => Triple.pure fun _ => id

theorem spoken_milliseconds {R : Dword → Phase → Prop}
    (h : ∀ t p, P p → ∃ q, p.step (.ticks t) = some q ∧ R (t * 1000 / altTicksPerSecond) q) :
    Triple (InPhase P) milliseconds (fun ms => InPhase (R ms)) Speaks :=
  Triple.bind (Q := fun t => InPhase (R (t * 1000 / altTicksPerSecond)))
    (Triple.bind spoken_ask fun t => Triple.bind (spoken_emit (h t)) fun _ =>
      Triple.pure fun _ => id) fun _ => Triple.pure fun _ => id

/-- Behind a part of a transfer: `p₀` if it succeeded, and else the transfer is over. -/
structure Ended (p₀ : Phase) (rcode : Byte) (p : Phase) : Prop where
  ok : rcode = 0 → p = p₀
  failed : rcode ≠ 0 → p.Resting

theorem Ended.of_eq {p₀ : Phase} : Ended p₀ 0 p₀ := ⟨fun _ => rfl, fun h => absurd rfl h⟩

theorem Ended.of_ne {p₀ p : Phase} {rcode : Byte} (hne : rcode ≠ 0) (hp : p.Resting) :
    Ended p₀ rcode p := ⟨fun h => absurd h hne, fun _ => hp⟩

/-- A transfer whose success ends it is over. -/
theorem Ended.resting {p₀ p : Phase} {rcode : Byte} (h : Ended p₀ rcode p) (hp₀ : p₀.Resting) :
    p.Resting := by
  by_cases hzero : rcode = 0
  · rw [h.ok hzero]
    exact hp₀
  · exact h.failed hzero

theorem spoken_awaitRound (s : Stage) (deadline : Dword) :
    Triple (InPhase (· = .launched s deadline)) (awaitRound deadline)
      (fun r t => Sum.elim (fun _ => InPhase (· = .launched s deadline) t)
        (fun rcode => InPhase (Ended (.cleared s deadline) rcode) t) r) Speaks := by
  refine Triple.bind (spoken_milliseconds (R := fun ms p =>
    p = if ms < deadline then .launched s deadline else .idle) ?_) fun ms => ?_
  · rintro t - rfl
    exact ⟨_, rfl, rfl⟩
  split
  · next hlt =>
    refine Triple.bind (spoken_maxRegRd (R := fun val p =>
      p = if val &&& bmHXFRDNIRQ ≠ 0 then .done s deadline else .launched s deadline) ?_)
      fun val => ?_
    · rintro val - rfl
      exact ⟨_, rfl, rfl⟩
    split
    · next hdone =>
      refine Triple.bind (spoken_emit (Q := fun p => p = .cleared s deadline) ?_) fun _ =>
        Triple.pure fun t ht => ht.mono ?_
      · rintro - rfl
        exact ⟨_, Phase.only_self _ _, rfl⟩
      · rintro - rfl
        exact Ended.of_eq
    · next hdone =>
      exact Triple.pure fun _ => id
  · next hlt =>
    refine Triple.pure fun t ht => ht.mono ?_
    rintro - rfl
    exact Ended.of_ne (by decide) trivial

theorem resting_result {s : Stage} {deadline : Dword} {rcode : Byte} (h : rcode ≠ 0) :
    (s.result deadline rcode).Resting := by
  unfold Stage.result
  rw [if_neg h]
  split_ifs <;> trivial

/-- A token is launched, or launched again after it was refused. -/
def Launchable (s : Stage) (deadline : Dword) (p : Phase) : Prop :=
  p = .timed s deadline ∨ p = .refused s deadline

/-- The device was busy or silent. -/
def Refuses (rcode : Byte) : Prop := rcode = hrNAK ∨ rcode = hrTIMEOUT

theorem Refuses.ne_zero {rcode : Byte} (h : Refuses rcode) : rcode ≠ 0 := by
  rcases h with rfl | rfl
  · decide
  · decide

theorem Refuses.result {s : Stage} {deadline : Dword} {rcode : Byte} (h : Refuses rcode) :
    s.result deadline rcode = .refused s deadline :=
  (if_neg h.ne_zero).trans (if_pos h)

/-- The counters decide whether a refused token is launched again. -/
theorem afterResult_result (s : Stage) (deadline : Dword) (rcode : Byte) (counts : Byte × Byte) :
    Sum.elim (fun _ => Launchable s deadline (s.result deadline rcode))
      (fun rcode' => Ended s.acknowledged rcode' (s.result deadline rcode))
      (afterResult rcode counts) := by
  obtain ⟨retryCount, nakCount⟩ := counts
  have hover (h : Refuses rcode) : Ended s.acknowledged rcode (s.result deadline rcode) :=
    Ended.of_ne h.ne_zero (resting_result h.ne_zero)
  simp only [afterResult]
  by_cases hnak : rcode = hrNAK
  · rw [if_pos hnak]
    split
    · exact hover (.inl hnak)
    · exact .inr (Refuses.result (.inl hnak))
  rw [if_neg hnak]
  by_cases htimeout : rcode = hrTIMEOUT
  · rw [if_pos htimeout]
    split
    · exact hover (.inr htimeout)
    · exact .inr (Refuses.result (.inr htimeout))
  rw [if_neg htimeout]
  refine ⟨fun hzero => ?_, resting_result⟩
  rw [hzero]
  rfl

theorem spoken_dispatchRound (s : Stage) (deadline : Dword) (counts : Byte × Byte) :
    Triple (InPhase (Launchable s deadline)) (dispatchRound s.token s.ep deadline counts)
      (fun r t => Sum.elim (fun _ => InPhase (Launchable s deadline) t)
        (fun rcode => InPhase (Ended s.acknowledged rcode) t) r) Speaks := by
  have hwait := Triple.forever (I := fun _ : Unit => InPhase (· = .launched s deadline))
    (R := fun rcode => InPhase (Ended (.cleared s deadline) rcode))
    (fun _ => spoken_awaitRound s deadline) (fun _ _ h => h.speaks) ()
  refine Triple.bind (spoken_emit (Q := fun p => p = .launched s deadline) ?_) fun _ =>
    Triple.bind hwait fun rcode => ?_
  · rintro p (rfl | rfl)
    · exact ⟨_, Phase.only_self _ _, rfl⟩
    · exact ⟨_, if_pos rfl, rfl⟩
  split
  · next hne =>
    exact Triple.pure fun t ht => ht.mono fun p hp => Ended.of_ne hne (hp.failed hne)
  · next hzero =>
    refine Triple.bind (spoken_maxRegRd
      (R := fun val p => p = s.result deadline (val &&& 0x0f)) ?_) fun val =>
      Triple.pure fun t ht => ?_
    · intro val p hp
      rw [hp.ok (not_not.1 hzero)]
      exact ⟨_, rfl, rfl⟩
    have hresult := afterResult_result s deadline (val &&& 0x0f) counts
    cases hafter : afterResult (val &&& 0x0f) counts with
    | inl counts' =>
      rw [hafter] at hresult
      exact ht.mono fun p hp => hp ▸ hresult
    | inr rcode' =>
      rw [hafter] at hresult
      exact ht.mono fun p hp => hp ▸ hresult

/-- A token, from a phase that the clock is to be read in. -/
theorem spoken_xferDispatchPkt {s : Stage}
    (hP : ∀ t p, P p → p.step (.ticks t) =
      some (.timed s (t * 1000 / altTicksPerSecond + usbXferTimeout))) :
    Triple (InPhase P) (xferDispatchPkt s.token s.ep)
      (fun rcode => InPhase (Ended s.acknowledged rcode)) Speaks := by
  refine Triple.bind (spoken_milliseconds (R := fun ms p => p = .timed s (ms + usbXferTimeout))
    fun t p hp => ⟨_, hP t p hp, rfl⟩) fun ms => ?_
  have hrounds := Triple.forever (I := fun _ => InPhase (Launchable s (ms + usbXferTimeout)))
    (R := fun rcode => InPhase (Ended s.acknowledged rcode))
    (spoken_dispatchRound s (ms + usbXferTimeout)) (fun _ _ h => h.speaks) (0, 0)
  exact hrounds.pre fun t ht => ht.mono fun p hp => .inl hp

/-- A program that accesses nothing stays in its phase. -/
theorem spoken_silent {α : Type} {m : Driver α} (hm : Accesses (fun _ => False) m) :
    Triple (InPhase P) m (fun _ => InPhase P) Speaks := by
  have hkeeps : Keeps (InPhase P) m := by
    refine hm.moves ⟨?_, ?_, fun _ he => he.elim, fun f hf w hw => hw.log (hf w.st).1⟩
    · intro w hw
      rw [final_ask]
      exact hw
    · intro n w hw
      rw [st_final_askN]
      exact hw
  exact hkeeps.triple fun _ h => h.speaks

end Packets

/-! ## IN transfers -/

section InTransfers

variable (control : Bool)

/-- As many bytes are read as the controller has told. -/
theorem spoken_maxBytesRd (n : Byte) :
    Triple (InPhase (· = .counted control n)) (maxBytesRd rRCVFIFO n)
      (fun _ => InPhase (· = .fetched control)) Speaks := by
  have hask : Triple (InPhase (· = .counted control n)) (askN n.toNat : Driver (List Dword))
      (fun bytes t => bytes.length = n.toNat ∧ InPhase (· = .counted control n) t) Speaks := by
    intro w hw
    unfold askN
    split_ifs with hn
    · refine ⟨?_, nofun⟩
      rintro a v ⟨⟩
      exact ⟨List.length_take_of_le hn, hw⟩
    · refine ⟨nofun, ?_⟩
      rintro e v ⟨⟩
      exact hw.speaks
  refine Triple.bind hask fun bytes => Triple.bind
    (Q := fun _ => InPhase (· = .fetched control)) (Triple.update ?_) fun _ =>
    Triple.pure fun _ => id
  rintro t ⟨hlength, ht⟩
  refine ht.access ?_
  rintro - rfl
  exact ⟨_, if_pos ⟨rfl, by rw [List.length_map, hlength]⟩, rfl⟩

/-- Between two packets, or before the first one. -/
def AwaitsData (p : Phase) : Prop := p = .ready (.data control) ∨ p = .freed control

theorem spoken_receivePkt :
    Triple (InPhase (AwaitsData control)) (receivePkt (Stage.data control).ep)
      (fun r t => Sum.elim (fun rcode => rcode ≠ 0 ∧ InPhase Phase.Resting t)
        (fun _ => InPhase (· = .freed control) t) r) Speaks := by
  refine Triple.bind (spoken_xferDispatchPkt (s := .data control) ?_) fun rcode => ?_
  · rintro t p (rfl | rfl)
    · rfl
    · rfl
  split
  · next hne => exact Triple.pure fun t ht => ⟨hne, ht.mono fun p hp => hp.failed hne⟩
  · next hzero =>
    refine Triple.bind (spoken_maxRegRd (R := fun val p =>
      p = if val &&& bmRCVDAVIRQ = 0 then .idle else .available control) ?_) fun val => ?_
    · intro val p hp
      rw [hp.ok (not_not.1 hzero)]
      exact ⟨_, rfl, rfl⟩
    split
    · refine Triple.pure fun t ht => ⟨by decide, ht.mono ?_⟩
      rintro - rfl
      trivial
    · refine Triple.bind (spoken_maxRegRd (R := fun n p => p = .counted control n) ?_)
        fun n => Triple.bind (spoken_maxBytesRd control n) fun bytes =>
        Triple.bind (spoken_emit (Q := fun p => p = .freed control) ?_) fun _ =>
        Triple.pure fun _ => id
      · rintro n - rfl
        exact ⟨_, rfl, rfl⟩
      · rintro - rfl
        exact ⟨_, Phase.only_self _ _, rfl⟩

/-- Behind the data: the status stage of a control transfer, and nothing behind a poll. -/
def afterData : Phase := if control then .ready (.status true) else .idle

theorem spoken_saveToggle (addr ep : Byte) :
    Triple (InPhase (· = .freed control)) (saveToggle addr ep)
      (fun _ => InPhase (· = afterData control)) Speaks := by
  refine Triple.bind (spoken_maxRegRd (R := fun _ p => p = afterData control) ?_) fun val => ?_
  · rintro val - rfl
    exact ⟨_, rfl, rfl⟩
  split
  · exact spoken_silent (accesses_setEpRecord addr ep _)
  · exact spoken_silent (accesses_setEpRecord addr ep _)

theorem spoken_inRound (addr : Byte) (nbytes : Word) (maxpktsize : Byte) (s : Word × Cursor) :
    Triple (InPhase (AwaitsData control))
      (inRound addr (Stage.data control).ep nbytes maxpktsize s)
      (fun r t => Sum.elim (fun _ => InPhase (AwaitsData control) t)
        (fun out => InPhase (Ended (afterData control) out.1) t) r) Speaks := by
  refine Triple.bind (spoken_receivePkt control) fun r => ?_
  rcases r with rcode | ⟨pktsize, bytes⟩
  · exact Triple.pure fun t ht => ht.2.mono fun p hp => Ended.of_ne ht.1 hp
  · show Triple _ (countPkt addr _ nbytes maxpktsize pktsize _ _) _ _
    unfold countPkt
    split
    · refine Triple.bind (spoken_saveToggle control addr _) fun _ =>
        Triple.pure fun t ht => ht.mono ?_
      rintro - rfl
      exact Ended.of_eq
    · exact Triple.pure fun t ht => ht.mono fun p hp => .inr hp

/-- The toggle of the endpoint, if there is one, is what the protocol wants in `P`. -/
def Opens (P : Phase → Prop) (addr : Byte) (t : Tables) : Prop :=
  ∀ slot, t.epSlot addr (Stage.data control).ep = some slot → ∀ p, P p →
    p.step (.regWr rHCTL (t.epRecord slot).rcvToggle) = some (.ready (.data control))

theorem spoken_xferInTransfer {P : Phase → Prop} (addr : Byte) (nbytes : Word) (data : List Byte)
    (maxpktsize : Byte) :
    Triple (fun t => InPhase P t ∧ Opens control P addr t)
      (xferInTransfer addr (Stage.data control).ep nbytes data maxpktsize)
      (fun out => InPhase (Ended (afterData control) out.1)) Speaks := by
  have hrounds := Triple.forever (I := fun _ => InPhase (AwaitsData control))
    (R := fun out : Byte × Cursor => InPhase (Ended (afterData control) out.1))
    (spoken_inRound control addr nbytes maxpktsize) (fun _ _ h => h.speaks) (0, ⟨data, 0⟩)
  have hrecord : Triple (fun t => InPhase P t ∧ Opens control P addr t)
      (epRecord addr (Stage.data control).ep)
      (fun r => InPhase fun p => p.step (.regWr rHCTL r.rcvToggle) =
        some (.ready (.data control))) Speaks := by
    rintro w ⟨hphase, hopens⟩
    rw [epRecord_eq]
    cases hslot : w.st.epSlot addr (Stage.data control).ep with
    | none =>
      refine ⟨nofun, ?_⟩
      rintro e v ⟨⟩
      exact hphase.speaks
    | some slot =>
      refine ⟨?_, nofun⟩
      rintro r v ⟨⟩
      exact hphase.mono (hopens slot hslot)
  refine Triple.bind hrecord fun r => Triple.bind
    (spoken_emit (Q := AwaitsData control) fun p hp => ⟨_, hp, .inl rfl⟩) fun _ =>
    Triple.bind hrounds fun out => Triple.pure fun _ => id

end InTransfers

end Bosconian.Usb
