import Bosconian.Retry
import Bosconian.Usb.Transfer

/-!
# How often a packet is launched

`XferDispatchPkt` launches a transfer again after `hrNAK` and after `hrTIMEOUT`, and counts the
two apart. What it does is a retry policy with two budgets, run on what the launches come to:
`forever_dispatchRound` carries both counters through the loop.

Main result: `dispatches`.
-/

namespace Bosconian.Usb

open Scripted

/-! ## Outcomes -/

/-- What becomes of a launch: its wait expires, or the controller has a result. -/
inductive Outcome
  | expired
  | result (hr : BitVec 4)
deriving DecidableEq, Repr

/-- What `XferDispatchPkt` returns after an outcome that it leaves at that. -/
def Outcome.code : Outcome → Byte
  | .expired => 0xff
  | .result hr => hr.setWidth 8

/-- The results after which a packet is launched again. -/
inductive Refusal
  | nak
  | timeout
deriving DecidableEq, Repr

instance : Fintype Refusal where
  elems := {.nak, .timeout}
  complete r := by cases r <;> simp

/-- 200 refusals of one kind are final, and 3 of the other. -/
def dispatchPolicy : Retry.Policy Outcome Refusal where
  kind
    | .expired => none
    | .result hr => if hr = 0x4 then some .nak else if hr = 0xe then some .timeout else none
  limit
    | .nak => 200
    | .timeout => 3

/-- The rest of a round once the transfer is launched, up to the outcome. -/
def awaitOutcome (timeout : Dword) : Driver Outcome := do
  let rcode ← awaitTransfer timeout
  if rcode ≠ 0x00 then return .expired
  else return .result ((← maxRegRd rHRSL).setWidth 4)

/-- One launch, up to its outcome. -/
def launch (token ep : Byte) (timeout : Dword) : Driver Outcome := do
  maxRegWr rHXFR (token ||| ep)
  awaitOutcome timeout

/-- What the loop does after an outcome. -/
def afterOutcome (counts : Byte × Byte) : Outcome → (Byte × Byte) ⊕ Byte
  | .expired => .inr 0xff
  | .result hr => afterResult (hr.setWidth 8) counts

theorem awaitTransfer_returns (timeout : Dword) {w v : World Dword Tables} {r : Byte}
    (h : awaitTransfer timeout w = .ok r v) : r = 0x00 ∨ r = 0xff := by
  have hround : ∀ a : Unit, Triple (fun _ => True) (awaitRound timeout)
      (fun r _ => Sum.elim (fun _ => True) (fun b => b = 0x00 ∨ b = 0xff) r) fun _ => True := by
    intro _
    apply Triple.skip
    intro t
    split
    · apply Triple.skip
      intro tmpdata
      split
      · exact Triple.skip fun _ => Triple.pure fun _ _ => .inl rfl
      · exact Triple.pure fun _ _ => trivial
    · exact Triple.pure fun _ _ => .inr rfl
  have hloop : Triple (fun _ => True) (awaitTransfer timeout)
      (fun b _ => b = 0x00 ∨ b = 0xff) fun _ => True :=
    Triple.forever hround (fun _ _ _ => trivial) ()
  exact (hloop w trivial).1 r v h

/-- The code masks what `HRSL` holds, which leaves the four bits of the result. -/
theorem and_low_nibble (b : Byte) : b &&& 0x0f = (b.setWidth 4).setWidth 8 := by
  revert b
  decide

/-- A round is a launch and what the loop does after its outcome. -/
theorem dispatchRound_eq (token ep : Byte) (timeout : Dword) (counts : Byte × Byte)
    (w : World Dword Tables) :
    dispatchRound token ep timeout counts w =
      (launch token ep timeout >>= fun o => pure (afterOutcome counts o)) w := by
  let launched := final (maxRegWr rHXFR (token ||| ep)) w
  have hwrite : maxRegWr rHXFR (token ||| ep) w = .ok () launched := rfl
  have hlaunch : launch token ep timeout w = awaitOutcome timeout launched := bind_ok hwrite
  rw [dispatchRound, bind_ok hwrite, bind_congr_left hlaunch]
  rcases hwait : awaitTransfer timeout launched with ⟨r, v⟩ | ⟨e, v⟩
  · have houtcome : awaitOutcome timeout launched = (if r ≠ 0x00 then pure .expired else do
        return .result ((← maxRegRd rHRSL).setWidth 4) : Driver Outcome) v := bind_ok hwait
    rw [bind_ok hwait, bind_congr_left houtcome]
    rcases awaitTransfer_returns timeout hwait with rfl | rfl
    · obtain ⟨_ | ⟨i, is⟩, s⟩ := v
      · rfl
      · have hread : maxRegRd rHRSL ⟨i :: is, s⟩ = .ok (i.setWidth 8) ⟨is,
            { s with log := s.log ++ [.regRd rHRSL (i.setWidth 8)] }⟩ := rfl
        have hresult : (do return .result ((← maxRegRd rHRSL).setWidth 4) : Driver Outcome)
            ⟨i :: is, s⟩ = .ok (.result ((i.setWidth 8).setWidth 4)) ⟨is,
              { s with log := s.log ++ [.regRd rHRSL (i.setWidth 8)] }⟩ := rfl
        rw [if_neg (by decide), if_neg (by decide), bind_ok hread, bind_ok hresult,
          and_low_nibble]
        rfl
    · rfl
  · have houtcome : awaitOutcome timeout launched = .error e v := bind_error hwait
    rw [bind_error hwait, bind_error houtcome]

/-! ## Launches -/

def Access.isLaunch : Access → Bool
  | .regWr reg _ => reg = rHXFR
  | _ => false

/-- How many transfers were launched. -/
def launches (log : List Access) : Nat := log.countP Access.isLaunch

def Access.LaunchesNothing (e : Access) : Prop := e.isLaunch = false

theorem launches_append (log : List Access) (e : Access) :
    launches (log ++ [e]) = launches log + if e.isLaunch then 1 else 0 := by
  rw [launches, List.countP_append, List.countP_singleton]
  rfl

theorem allows_launches :
    Allows Access.LaunchesNothing (along (fun t : Tables => launches t.log) Eq) := by
  apply allows_log
  intro log e he
  rw [launches_append, he]
  rfl

theorem accesses_awaitOutcome (timeout : Dword) :
    Accesses Access.LaunchesNothing (awaitOutcome timeout) := by
  apply Accesses.bind (Accesses.awaitTransfer (fun _ => rfl) (fun _ => rfl) (by rfl))
  intro rcode
  split
  · exact Accesses.pure _
  · exact Accesses.bind (Accesses.maxRegRd fun _ => rfl) fun _ => Accesses.pure _

theorem launches_launch (token ep : Byte) (timeout : Dword) (w : World Dword Tables) :
    launches (final (launch token ep timeout) w).st.log = launches w.st.log + 1 := by
  let launched := final (maxRegWr rHXFR (token ||| ep)) w
  have hrest : launches launched.st.log =
      launches (final (awaitOutcome timeout) launched).st.log :=
    (accesses_awaitOutcome timeout).moves allows_launches launched
  have hlaunch : final (launch token ep timeout) w = final (awaitOutcome timeout) launched :=
    final_congr (bind_ok rfl)
  rw [hlaunch, ← hrest]
  exact launches_append _ _

theorem uses_launch (token ep : Byte) (timeout : Dword) : Uses (launch token ep timeout) := by
  refine Uses.bind_right (accesses_maxRegWr (by decide) _).draws fun _ =>
    Uses.bind_left (Uses.forever (fun _ => uses_awaitRound timeout) ()) fun r => ?_
  split
  · exact Moves.pure _
  · exact Moves.bind (accesses_maxRegRd rHRSL).draws fun _ => Moves.pure _

/-- What launches would come to, one after the other, until the answers end. -/
def outcomes (token ep : Byte) (timeout : Dword) (w : World Dword Tables) : List Outcome :=
  match _h : launch token ep timeout w with
  | .ok o v => o :: outcomes token ep timeout v
  | .error _ _ => []
termination_by w.script.length
decreasing_by exact uses_launch token ep timeout _ _ _ _h

section Outcomes

variable {token ep : Byte} {timeout : Dword} {w v : World Dword Tables}

theorem outcomes_ok {o : Outcome} (h : launch token ep timeout w = .ok o v) :
    outcomes token ep timeout w = o :: outcomes token ep timeout v := by
  rw [outcomes]
  split
  · next h' =>
    rw [h] at h'
    cases h'
    rfl
  · next h' =>
    rw [h] at h'
    cases h'

theorem outcomes_error {e : Halt} (h : launch token ep timeout w = .error e v) :
    outcomes token ep timeout w = [] := by
  rw [outcomes]
  split
  · next h' =>
    rw [h] at h'
    cases h'
  · rfl

end Outcomes

/-! ## The counters -/

/-- What counts the outcomes of a kind. -/
def counter (counts : Byte × Byte) : Refusal → Byte
  | .nak => counts.2
  | .timeout => counts.1

def counterLimit : Refusal → Byte
  | .nak => usbNakLimit
  | .timeout => usbRetryLimit

theorem limit_eq (k : Refusal) : dispatchPolicy.limit k = (counterLimit k).toNat := by
  cases k <;> rfl

theorem limit_pos (k : Refusal) : 0 < dispatchPolicy.limit k := by
  cases k <;> decide

/-- The counters tell what has been used up. -/
def Counted (os : List Outcome) (counts : Byte × Byte) : Prop :=
  ∀ k, (counter counts k).toNat = dispatchPolicy.spent os k

theorem counted_nil : Counted [] (0, 0) := by
  intro k
  cases k <;> rfl

theorem afterOutcome_of_none {o : Outcome} (h : dispatchPolicy.kind o = none)
    (counts : Byte × Byte) : afterOutcome counts o = .inr o.code := by
  cases o with
  | expired => rfl
  | result hr =>
    have hcode : hr.setWidth 8 ≠ hrNAK ∧ hr.setWidth 8 ≠ hrTIMEOUT := by
      revert hr
      decide
    rw [afterOutcome, afterResult, if_neg hcode.1, if_neg hcode.2]
    rfl

theorem afterOutcome_of_some {o : Outcome} {k : Refusal} (h : dispatchPolicy.kind o = some k)
    (counts : Byte × Byte) :
    ∃ counts', (∀ k', counter counts' k' = counter counts k' + if k = k' then 1 else 0) ∧
      afterOutcome counts o =
        if counter counts k + 1 = counterLimit k then .inr o.code else .inl counts' := by
  cases o with
  | expired => cases h
  | result hr =>
    cases k with
    | nak =>
      have hcode : hr.setWidth 8 = hrNAK := by
        revert hr
        decide
      refine ⟨(counts.1, counts.2 + 1), ?_, ?_⟩
      · intro k'
        cases k' <;> simp [counter]
      · rw [afterOutcome, afterResult, if_pos hcode]
        rfl
    | timeout =>
      have hcode : hr.setWidth 8 ≠ hrNAK ∧ hr.setWidth 8 = hrTIMEOUT := by
        revert hr
        decide
      refine ⟨(counts.1 + 1, counts.2), ?_, ?_⟩
      · intro k'
        cases k' <;> simp [counter]
      · rw [afterOutcome, afterResult, if_neg hcode.1, if_pos hcode.2]
        rfl

/-- **One outcome**: the loop leaves with its code if it is final, and counts it otherwise. -/
theorem afterOutcome_spec {os : List Outcome} {counts : Byte × Byte} (hcounts : Counted os counts)
    (hos : dispatchPolicy.Endless os) (o : Outcome) :
    (dispatchPolicy.Stops (os ++ [o]) ∧ afterOutcome counts o = .inr o.code) ∨
      ¬ dispatchPolicy.Stops (os ++ [o]) ∧
        ∃ counts', afterOutcome counts o = .inl counts' ∧ Counted (os ++ [o]) counts' := by
  rcases hkind : dispatchPolicy.kind o with _ | k
  · refine .inl ⟨Retry.Policy.stops_concat_iff.2 ?_, afterOutcome_of_none hkind counts⟩
    simp [hkind]
  · obtain ⟨counts', hnext, hafter⟩ := afterOutcome_of_some hkind counts
    have hstops : dispatchPolicy.Stops (os ++ [o]) ↔
        (counter counts k).toNat + 1 = (counterLimit k).toNat := by
      simp [Retry.Policy.stops_concat_iff, hkind, hcounts k, limit_eq]
    -- there is something left of the budget, so the counter does not wrap
    have hone : (1 : Byte).toNat = 1 := rfl
    have hlt := hos.spent_lt (limit_pos k)
    rw [← hcounts k, limit_eq] at hlt
    have hadd : (counter counts k + 1).toNat = (counter counts k).toNat + 1 := by
      have hlimit := (counterLimit k).isLt
      rw [BitVec.toNat_add, hone, Nat.mod_eq_of_lt (by omega)]
    rw [← hadd, BitVec.toNat_inj] at hstops
    by_cases hlast : counter counts k + 1 = counterLimit k
    · rw [if_pos hlast] at hafter
      exact .inl ⟨hstops.2 hlast, hafter⟩
    · rw [if_neg hlast] at hafter
      refine .inr ⟨mt hstops.1 hlast, counts', hafter, ?_⟩
      intro k'
      rw [hnext, Retry.Policy.spent_concat, hkind]
      by_cases hk : k = k'
      · subst hk
        rw [if_pos rfl, if_pos rfl, hadd, hcounts k]
      · simp [hk, hcounts k']

/-! ## The loop -/

/-- **The loop**, with `os` behind it and counted: it leaves with the first outcome that is final,
or the answers end while it has one more launch under way. -/
theorem forever_dispatchRound (token ep : Byte) (timeout : Dword) {os : List Outcome}
    {counts : Byte × Byte} (hcounts : Counted os counts) (hos : dispatchPolicy.Endless os)
    (w : World Dword Tables) :
    (∃ new o v, dispatchPolicy.First (os ++ new ++ [o]) (os ++ outcomes token ep timeout w) ∧
      forever (dispatchRound token ep timeout) counts w = .ok o.code v ∧
        launches v.st.log = launches w.st.log + (new.length + 1)) ∨
    dispatchPolicy.Endless (os ++ outcomes token ep timeout w) ∧
      ∃ e v, forever (dispatchRound token ep timeout) counts w = .error e v ∧
        launches v.st.log = launches w.st.log + ((outcomes token ep timeout w).length + 1) := by
  induction hn : w.script.length using Nat.strongRecOn generalizing os counts w with
  | ind n ih =>
  have hround := dispatchRound_eq token ep timeout counts w
  have hlaunches := launches_launch token ep timeout w
  rw [forever_eq (uses_dispatchRound token ep timeout)]
  rcases hlaunch : launch token ep timeout w with ⟨o, u⟩ | ⟨e, u⟩
  · rw [bind_ok hlaunch] at hround
    rw [final_ok hlaunch] at hlaunches
    rw [outcomes_ok hlaunch]
    rcases afterOutcome_spec hcounts hos o with ⟨hstops, hafter⟩ | ⟨hmore, counts', hafter, hnext⟩
    · rw [hafter] at hround
      refine .inl ⟨[], o, u, ?_, bind_ok hround, hlaunches⟩
      rw [List.append_nil]
      exact hos.first hstops ⟨outcomes token ep timeout u, by simp⟩
    · rw [hafter] at hround
      have hlt := uses_launch token ep timeout w o u hlaunch
      have hos' := Retry.Policy.endless_concat_iff.2 ⟨hos, hmore⟩
      rw [bind_ok hround]
      rcases ih _ (hn ▸ hlt) hnext hos' u rfl with ⟨new, o', v, hfirst, hv, hcount⟩ |
          ⟨hend, e, v, hv, hcount⟩
      · refine .inl ⟨o :: new, o', v, ?_, hv, ?_⟩
        · simpa using hfirst
        · rw [hcount, hlaunches, List.length_cons]
          omega
      · refine .inr ⟨by simpa using hend, e, v, hv, ?_⟩
        rw [hcount, hlaunches, List.length_cons]
        omega
  · rw [bind_error hlaunch] at hround
    rw [final_error hlaunch] at hlaunches
    rw [outcomes_error hlaunch, List.append_nil]
    exact .inr ⟨hos, e, u, bind_error hround, hlaunches⟩

/-- The outcomes that `w` holds for a dispatch, which reads the clock once before. -/
def offered (token ep : Byte) (w : World Dword Tables) : List Outcome :=
  match milliseconds w with
  | .ok t v => outcomes token ep (t + usbXferTimeout) v
  | .error _ _ => []

/-- What `XferDispatchPkt` does with the outcomes that come. -/
structure Dispatches (token ep : Byte) (w : World Dword Tables) : Prop where
  /-- It launches as many transfers as the shortest prefix that ends in a final outcome has, and
  returns what that one stands for. -/
  settled : ∀ os, dispatchPolicy.First os (offered token ep w) →
    returned (xferDispatchPkt token ep) w = os.getLast?.map Outcome.code ∧
      launches (final (xferDispatchPkt token ep) w).st.log = launches w.st.log + os.length
  /-- Without such a prefix it waits, and 202 outcomes have one. -/
  waits : dispatchPolicy.Endless (offered token ep w) →
    returned (xferDispatchPkt token ep) w = none ∧ (offered token ep w).length < 202
  bounded : launches (final (xferDispatchPkt token ep) w).st.log ≤ launches w.st.log + 202

/-- No more than 199 refusals of one kind and 2 of the other come before the last launch. -/
theorem sum_limit : ∑ k, (dispatchPolicy.limit k - 1) = 201 := by decide

/-- **A packet is launched until an outcome is final**, however the refusals alternate. -/
theorem dispatches (token ep : Byte) (w : World Dword Tables) : Dispatches token ep w := by
  have hclock : launches w.st.log = launches (final milliseconds w).st.log :=
    (Accesses.milliseconds fun _ => rfl).moves allows_launches w
  rcases hms : milliseconds w with ⟨t, v⟩ | ⟨e, v⟩
  · rw [final_ok hms] at hclock
    have hoffered : offered token ep w = outcomes token ep (t + usbXferTimeout) v := by
      rw [offered, hms]
    have hdispatch : xferDispatchPkt token ep w =
        forever (dispatchRound token ep (t + usbXferTimeout)) (0, 0) v := bind_ok hms
    have hloop := forever_dispatchRound token ep (t + usbXferTimeout) counted_nil
      Retry.Policy.endless_nil v
    rw [List.nil_append, ← hoffered, ← hdispatch, ← hclock] at hloop
    rcases hloop with ⟨new, o, u, hfirst, hu, hcount⟩ | ⟨hend, e, u, hu, hcount⟩
    · rw [List.nil_append] at hfirst
      refine ⟨?_, ?_, ?_⟩
      · intro os hos
        rw [hos.unique hfirst, returned, hu, final_ok hu, hcount]
        simp
      · intro hend
        exact absurd hend hfirst.not_endless
      · have hle := hfirst.length_le limit_pos
        rw [sum_limit, List.length_append, List.length_singleton] at hle
        rw [final_ok hu, hcount]
        omega
    · have hle := hend.length_le limit_pos
      rw [sum_limit] at hle
      refine ⟨?_, ?_, ?_⟩
      · intro os hos
        exact absurd hend hos.not_endless
      · intro _
        rw [returned, hu]
        exact ⟨rfl, Nat.lt_succ_of_le hle⟩
      · rw [final_error hu, hcount]
        omega
  · rw [final_error hms] at hclock
    have hoffered : offered token ep w = [] := by
      rw [offered, hms]
    have hdispatch : xferDispatchPkt token ep w = .error e v := bind_error hms
    refine ⟨?_, ?_, ?_⟩
    · intro os hos
      rw [hoffered] at hos
      exact absurd Retry.Policy.endless_nil hos.not_endless
    · intro _
      rw [returned, hdispatch, hoffered]
      exact ⟨rfl, Nat.succ_pos _⟩
    · rw [final_error hdispatch, ← hclock]
      omega

/-! ## Every sequence of outcomes -/

/-- Answers to one launch of a deadline at 5000, and the outcome they come to. -/
def answers : Outcome → List Dword
  | .expired => [5000]
  | .result hr => [0, 0x80, hr.setWidth 32]

theorem launch_answers (token ep : Byte) (o : Outcome) (is : List Dword) (s : Tables) :
    ∃ t, launch token ep usbXferTimeout ⟨answers o ++ is, s⟩ = .ok o ⟨is, t⟩ := by
  cases o with
  | expired => exact ⟨_, rfl⟩
  | result hr =>
    have hcode : ((hr.setWidth 32).setWidth 8).setWidth 4 = hr := by
      revert hr
      decide
    have hlaunch : ∃ t, launch token ep usbXferTimeout ⟨answers (.result hr) ++ is, s⟩ =
        .ok (.result (((hr.setWidth 32).setWidth 8).setWidth 4)) ⟨is, t⟩ := ⟨_, rfl⟩
    rwa [hcode] at hlaunch

theorem outcomes_answers (token ep : Byte) (os : List Outcome) (s : Tables) :
    outcomes token ep usbXferTimeout ⟨(os.map answers).flatten, s⟩ = os := by
  induction os generalizing s with
  | nil => exact outcomes_error rfl
  | cons o os ih =>
    obtain ⟨t, h⟩ := launch_answers token ep o (os.map answers).flatten s
    rw [List.map_cons, List.flatten_cons, outcomes_ok h, ih]

/-- Whatever the outcomes, there are answers of the chip and the clock that come to them. -/
theorem exists_offered (token ep : Byte) (os : List Outcome) (s : Tables) :
    ∃ is, offered token ep ⟨is, s⟩ = os := by
  refine ⟨0 :: (os.map answers).flatten, ?_⟩
  have hclock : offered token ep ⟨0 :: (os.map answers).flatten, s⟩ =
      outcomes token ep usbXferTimeout
        ⟨(os.map answers).flatten, { s with log := s.log ++ [.ticks 0] }⟩ := rfl
  rw [hclock, outcomes_answers]

end Bosconian.Usb
