import Mathlib.Data.List.DropRight
import Mathlib.Data.List.Forall2
import Mathlib.Data.List.Infix

/-!
# Machines driven by events

A machine is a step function `σ → ε → σ`. A run folds it over a list of events. This file
has the rules the rest of the development uses to reason about runs:

* `run_invariant` — what every step keeps, every run keeps.
* `always_iff_eachStep` — when a step keeps `P` exactly under a guard `G`, a run keeps `P`
  exactly when all of its steps meet `G`.
* `EachStep.always` — what a step keeps under a guard, a run keeps under it.
* `eachStep_congr` — guards that agree under an invariant agree along runs.
* `held_iff_eachStep` — a value is held between the events that may change it exactly when
  each other step leaves it.
* `run_latched` — what a run has latched, some step of it set and no later one cleared.
* `run_emit` — a machine whose steps are runs of another machine.
* `exists_within_of_crossing` — a quantity with small steps does not skip a window.
* `InOrder` — a log shows something of each kind in turn; `sinceLast` — the end of a log after the
  last event of a kind.
* `phaseAfter` — the phase of a protocol that a log has come to, if it keeps to the protocol.
-/

namespace EventMachine

variable {σ τ ε δ : Type*}

/-! ## Runs -/

/-- Fold the step function over a list of events. -/
def run (step : σ → ε → σ) (s : σ) (es : List ε) : σ := es.foldl step s

section Run

variable (step : σ → ε → σ)

@[simp] theorem run_nil (s : σ) : run step s [] = s := rfl

@[simp] theorem run_cons (s : σ) (e : ε) (es : List ε) :
    run step s (e :: es) = run step (step s e) es := rfl

theorem run_append (s : σ) (es fs : List ε) :
    run step s (es ++ fs) = run step (run step s es) fs := List.foldl_append

theorem run_concat (s : σ) (es : List ε) (e : ε) :
    run step s (es ++ [e]) = step (run step s es) e := by
  rw [run_append, run_cons, run_nil]

variable {step}

/-- What every step keeps, every run keeps. -/
theorem run_invariant {P : σ → Prop} (hstep : ∀ s e, P s → P (step s e)) {s : σ} (h : P s)
    (es : List ε) : P (run step s es) := by
  induction es generalizing s with
  | nil => exact h
  | cons e es ih => exact ih (hstep s e h)

end Run

/-! ## Properties along a run -/

section Along

variable (step : σ → ε → σ)

/-- `P` holds in every state the run visits, the first one included. -/
def Always (P : σ → Prop) (s : σ) (es : List ε) : Prop :=
  ∀ ds, ds <+: es → P (run step s ds)

/-- Every step of the run satisfies `G`, which sees the state before the step. -/
def EachStep (G : σ → ε → Prop) (s : σ) (es : List ε) : Prop :=
  ∀ ds e, ds ++ [e] <+: es → G (run step s ds) e

variable {step} {P : σ → Prop} {G : σ → ε → Prop}

theorem Always.start {s : σ} {es : List ε} (h : Always step P s es) : P s :=
  h [] List.nil_prefix

theorem Always.of_prefix {s : σ} {ds es : List ε} (h : Always step P s es) (hds : ds <+: es) :
    Always step P s ds := fun fs hfs => h fs (hfs.trans hds)

theorem always_nil {s : σ} : Always step P s [] ↔ P s := by
  constructor
  · exact Always.start
  · intro h ds hds
    rw [List.prefix_nil.1 hds]
    exact h

theorem always_cons {s : σ} {e : ε} {es : List ε} :
    Always step P s (e :: es) ↔ P s ∧ Always step P (step s e) es := by
  constructor
  · intro h
    exact ⟨h.start, fun ds hds => h (e :: ds) (List.cons_prefix_cons.2 ⟨rfl, hds⟩)⟩
  · rintro ⟨h₀, h⟩ ds hds
    cases ds with
    | nil => exact h₀
    | cons d ds =>
      obtain ⟨rfl, htail⟩ := List.cons_prefix_cons.1 hds
      exact h ds htail

theorem eachStep_nil {s : σ} : EachStep step G s [] := by
  intro ds e h
  have := h.length_le
  simp at this

theorem eachStep_cons {s : σ} {e : ε} {es : List ε} :
    EachStep step G s (e :: es) ↔ G s e ∧ EachStep step G (step s e) es := by
  constructor
  · intro h
    exact ⟨h [] e (by simp), fun ds d hds =>
      h (e :: ds) d (List.cons_prefix_cons.2 ⟨rfl, hds⟩)⟩
  · rintro ⟨h₀, h⟩ ds d hds
    cases ds with
    | nil =>
      obtain ⟨rfl, -⟩ := List.cons_prefix_cons.1 hds
      exact h₀
    | cons c ds =>
      obtain ⟨rfl, htail⟩ := List.cons_prefix_cons.1 hds
      exact h ds d htail

theorem eachStep_append {s : σ} {es fs : List ε} (hes : EachStep step G s es)
    (hfs : EachStep step G (run step s es) fs) : EachStep step G s (es ++ fs) := by
  induction es generalizing s with
  | nil => exact hfs
  | cons e es ih =>
    obtain ⟨he, htail⟩ := eachStep_cons.1 hes
    exact eachStep_cons.2 ⟨he, ih htail hfs⟩

/-- A guard that asks nothing of the state. -/
theorem eachStep_of_forall (s : σ) {es : List ε} (h : ∀ e ∈ es, ∀ s, G s e) :
    EachStep step G s es := fun ds e hds =>
  h e (hds.subset (List.mem_append_right ds (List.mem_singleton_self e))) _

instance decidableEachStep [∀ s e, Decidable (G s e)] :
    (s : σ) → (es : List ε) → Decidable (EachStep step G s es)
  | _, [] => isTrue eachStep_nil
  | s, e :: es =>
    have := decidableEachStep (step s e) es
    decidable_of_iff (G s e ∧ EachStep step G (step s e) es) eachStep_cons.symm

instance decidableAlways [∀ s, Decidable (P s)] :
    (s : σ) → (es : List ε) → Decidable (Always step P s es)
  | s, [] => decidable_of_iff (P s) always_nil.symm
  | s, e :: es =>
    have := decidableAlways (step s e) es
    decidable_of_iff (P s ∧ Always step P (step s e) es) always_cons.symm

/-- Under an invariant, guards that agree on each step agree on each run. -/
theorem eachStep_congr {G' : σ → ε → Prop} {J : σ → Prop} (hJ : ∀ s e, J s → J (step s e))
    (h : ∀ s e, J s → (G s e ↔ G' s e)) {s : σ} (hs : J s) (es : List ε) :
    EachStep step G s es ↔ EachStep step G' s es :=
  forall_congr' fun ds => forall_congr' fun e => forall_congr' fun _ =>
    h _ e (run_invariant hJ hs ds)

/-- **The guard lemma.** If, under an invariant `J`, a step keeps `P` when it meets `G` and
breaks `P` when it does not, then a run keeps `P` throughout exactly when each step meets `G`. -/
theorem always_iff_eachStep {J : σ → Prop} (hJ : ∀ s e, J s → J (step s e))
    (hgood : ∀ s e, J s → P s → G s e → P (step s e))
    (hbad : ∀ s e, J s → P s → P (step s e) → G s e) {s : σ} (hs : J s) (h : P s)
    (es : List ε) : Always step P s es ↔ EachStep step G s es := by
  induction es generalizing s with
  | nil => exact ⟨fun _ => eachStep_nil, fun _ => always_nil.2 h⟩
  | cons e es ih =>
    rw [always_cons, eachStep_cons]
    constructor
    · rintro ⟨-, hes⟩
      have he : P (step s e) := hes.start
      exact ⟨hbad s e hs h he, (ih (hJ s e hs) he).1 hes⟩
    · rintro ⟨hg, hes⟩
      exact ⟨h, (ih (hJ s e hs) (hgood s e hs h hg)).2 hes⟩

/-- If a step that meets `G` keeps `J`, a run whose steps all meet `G` keeps what `J` implies. -/
theorem EachStep.always {J : σ → Prop} (hstep : ∀ s e, J s → G s e → J (step s e))
    (hP : ∀ s, J s → P s) {s : σ} (hs : J s) {es : List ε} (h : EachStep step G s es) :
    Always step P s es := by
  induction es generalizing s with
  | nil => exact always_nil.2 (hP s hs)
  | cons e es ih =>
    obtain ⟨he, hes⟩ := eachStep_cons.1 h
    exact always_cons.2 ⟨hP s hs, ih (hstep s e hs he) hes⟩

variable (step) in
/-- From any moment of the run on, the value `f` is held while it lies in `D` and no event of
`C` comes, exactly when no single step breaks this. -/
theorem held_iff_eachStep {β : Type*} (f : σ → β) (D : β → Prop) (C : ε → Prop) (s : σ)
    (es : List ε) :
    (∀ ds fs, ds ++ fs <+: es → (∀ e ∈ fs, ¬ C e) → D (f (run step s ds)) →
        f (run step s (ds ++ fs)) = f (run step s ds)) ↔
      EachStep step (fun s e => ¬ C e → D (f s) → f (step s e) = f s) s es := by
  constructor
  · intro h ds e hds he hD
    rw [← run_concat step]
    exact h ds [e] hds (by simpa using he) hD
  · intro h ds fs
    induction fs using List.reverseRecOn with
    | nil => intro _ _ _; rw [List.append_nil]
    | append_singleton fs e ih =>
      intro hds hfs hD
      rw [← List.append_assoc] at hds ⊢
      have hprev := ih ((List.prefix_append _ _).trans hds)
        (fun d hd => hfs d (List.mem_append_left _ hd)) hD
      rw [run_concat, h _ e hds (hfs e (by simp)) (by rwa [hprev]), hprev]

/-- What a run has latched, some step of it set and no later one cleared. -/
theorem run_latched {Q : σ → ε → Prop} {C : ε → Prop}
    (hstep : ∀ s e, P (step s e) → Q s e ∨ P s ∧ ¬ C e) {s : σ} (h : ¬ P s) (es : List ε)
    (hes : P (run step s es)) :
    ∃ ds e fs, es = ds ++ e :: fs ∧ Q (run step s ds) e ∧ ∀ d ∈ fs, ¬ C d := by
  induction es using List.reverseRecOn with
  | nil => exact absurd hes h
  | append_singleton es e ih =>
    rw [run_concat] at hes
    rcases hstep _ e hes with hset | ⟨hkept, hC⟩
    · exact ⟨es, e, [], rfl, hset, by simp⟩
    · obtain ⟨ds, d, fs, rfl, hset, hfs⟩ := ih hkept
      refine ⟨ds, d, fs ++ [e], by simp, hset, ?_⟩
      intro c hc
      rcases List.mem_append.1 hc with hc | hc
      · exact hfs c hc
      · rwa [List.mem_singleton.1 hc]

end Along

/-! ## A machine inside another -/

/-- The events a run passes on to an inner machine: `g s e` are those of one step. -/
def emit (step : σ → ε → σ) (g : σ → ε → List δ) : σ → List ε → List δ
  | _, [] => []
  | s, e :: es => g s e ++ emit step g (step s e) es

/-- If one step of the outer machine moves its inner part `f` as the emitted events do, so
does every run. -/
theorem run_emit {step : σ → ε → σ} {inner : τ → δ → τ} {f : σ → τ} {g : σ → ε → List δ}
    (h : ∀ s e, f (step s e) = run inner (f s) (g s e)) (s : σ) (es : List ε) :
    f (run step s es) = run inner (f s) (emit step g s es) := by
  induction es generalizing s with
  | nil => rfl
  | cons e es ih => rw [run_cons, emit, run_append, ← h, ih]

/-! ## Runs indexed by time -/

/-- The state before the `n`-th event of a stream. -/
def trace (step : σ → ε → σ) (s : σ) (es : Nat → ε) : Nat → σ
  | 0 => s
  | n + 1 => step (trace step s es n) (es n)

theorem trace_succ (step : σ → ε → σ) (s : σ) (es : Nat → ε) (n : Nat) :
    trace step s es (n + 1) = step (trace step s es n) (es n) := rfl

theorem trace_eq_run (step : σ → ε → σ) (s : σ) (es : Nat → ε) (n : Nat) :
    trace step s es n = run step s ((List.range n).map es) := by
  induction n with
  | zero => rfl
  | succ n ih =>
    rw [trace_succ, ih, List.range_succ, List.map_append, List.map_singleton, run_concat]

/-- **Crossing a window.** A quantity that moves by at most `w` at a time does not skip a window of
`w` values: on its way from above to below it is inside at some moment in between. -/
theorem exists_within_of_crossing {f : Nat → Int} {r w : Int} (hw : w ≤ 2 * r + 1) {i j : Nat}
    (hij : i < j) (hstep : ∀ k, i ≤ k → k < j → f k - f (k + 1) ≤ w) (hi : r < f i)
    (hj : f j < -r) : ∃ k, i < k ∧ k < j ∧ -r ≤ f k ∧ f k ≤ r := by
  -- the last moment before it is below for good is either above, and the step too long, or inside
  induction j, hij using Nat.le_induction with
  | base =>
    have hlast := hstep i (Nat.le_refl i) (Nat.lt_succ_self i)
    have hnext : f (i + 1) < -r := hj
    omega
  | succ j hij ih =>
    have hlast := hstep j (Nat.le_of_succ_le hij) (Nat.lt_succ_self j)
    by_cases hbelow : f j < -r
    · obtain ⟨k, hik, hkj, hk⟩ := ih (fun k hik hkj => hstep k hik (Nat.lt_succ_of_lt hkj)) hbelow
      exact ⟨k, hik, Nat.lt_succ_of_lt hkj, hk⟩
    · by_cases habove : r < f j
      · omega
      · exact ⟨j, hij, Nat.lt_succ_self j, by omega, by omega⟩

/-! ## Logs -/

section Logs

/-- The log shows something of each kind in turn, with anything in between. -/
def InOrder (kinds : List (ε → Prop)) (log : List ε) : Prop :=
  ∃ es, es.Sublist log ∧ List.Forall₂ (fun kind e => kind e) kinds es

variable {kinds : List (ε → Prop)} {kind : ε → Prop} {log new : List ε} {e : ε}

theorem inOrder_nil : InOrder [] log := ⟨[], List.nil_sublist log, .nil⟩

theorem InOrder.append (h : InOrder kinds log) : InOrder kinds (log ++ new) := by
  obtain ⟨es, hsub, hes⟩ := h
  exact ⟨es, hsub.trans (List.sublist_append_left log new), hes⟩

/-- One more kind, shown by what is new. -/
theorem InOrder.concat (h : InOrder kinds log) (he : e ∈ new) (hkind : kind e) :
    InOrder (kinds ++ [kind]) (log ++ new) := by
  obtain ⟨es, hsub, hes⟩ := h
  exact ⟨es ++ [e], hsub.append (List.singleton_sublist.2 he),
    List.rel_append hes (.cons hkind .nil)⟩

theorem InOrder.exists_mem (h : InOrder kinds log) (hkind : kind ∈ kinds) : ∃ e ∈ log, kind e := by
  obtain ⟨es, hsub, hes⟩ := h
  obtain ⟨n, hn, rfl⟩ := List.getElem_of_mem hkind
  have hlt : n < es.length := hes.length_eq ▸ hn
  exact ⟨es[n], hsub.subset (List.getElem_mem hlt), hes.get hn hlt⟩

/-- The end of the log after the last event of the kind, or all of it if there is none. -/
def sinceLast (kind : ε → Prop) [DecidablePred kind] (log : List ε) : List ε :=
  log.rtakeWhile fun e => ¬ kind e

variable [DecidablePred kind]

theorem sinceLast_concat_of (he : kind e) : sinceLast kind (log ++ [e]) = [] :=
  List.rtakeWhile_concat_neg _ _ _ (by simpa using he)

theorem sinceLast_concat_of_not (he : ¬ kind e) :
    sinceLast kind (log ++ [e]) = sinceLast kind log ++ [e] :=
  List.rtakeWhile_concat_pos _ _ _ (by simpa using he)

/-- What came before does not count if there is an event of the kind. -/
theorem sinceLast_append (before : List ε) (h : ∃ e ∈ log, kind e) :
    sinceLast kind (before ++ log) = sinceLast kind log := by
  induction log using List.reverseRecOn with
  | nil => simp at h
  | append_singleton log e ih =>
    rw [← List.append_assoc]
    by_cases he : kind e
    · rw [sinceLast_concat_of he, sinceLast_concat_of he]
    · rw [sinceLast_concat_of_not he, sinceLast_concat_of_not he, ih (by simpa [he] using h)]

theorem not_of_mem_sinceLast (he : e ∈ sinceLast kind log) : ¬ kind e := by
  simpa using List.mem_rtakeWhile_imp he

/-- What is shown since the last event of a kind comes after it, if the last thing that was shown
in order is of that kind. -/
theorem InOrder.concat_sinceLast {last next : ε → Prop} (h : InOrder (kinds ++ [last]) log)
    (hlast : ∀ e, last e → kind e) (he : e ∈ sinceLast kind log) (hnext : next e) :
    InOrder (kinds ++ [last] ++ [next]) log := by
  obtain ⟨es, hsub, hes⟩ := h
  obtain ⟨before, hlog⟩ : ∃ before, before ++ sinceLast kind log = log :=
    ⟨_, List.rdropWhile_append_rtakeWhile⟩
  rw [← hlog, List.sublist_append_iff] at hsub
  obtain ⟨es₁, es₂, rfl, hes₁, hes₂⟩ := hsub
  rcases List.eq_nil_or_concat es₂ with rfl | ⟨es₂', d, rfl⟩
  · rw [List.append_nil] at hes
    rw [← hlog]
    exact InOrder.concat ⟨es₁, hes₁, hes⟩ he hnext
  · -- the last thing shown would be among what came after it
    rw [List.concat_eq_append, ← List.append_assoc] at hes
    have hd : last d := by
      have := List.forall₂_reverse_iff.2 hes
      simp only [List.reverse_append, List.reverse_cons, List.reverse_nil, List.nil_append,
        List.singleton_append, List.forall₂_cons] at this
      exact this.1
    exact absurd (hlast d hd) (not_of_mem_sinceLast (hes₂.subset (by simp)))

end Logs

/-! ## Protocols -/

/-- The phase behind a log, if the protocol allows each event in the phase it comes in. -/
def phaseAfter (allowed : σ → ε → Option σ) (p : σ) (log : List ε) : Option σ :=
  log.foldlM allowed p

theorem phaseAfter_concat (allowed : σ → ε → Option σ) (p : σ) (log : List ε) (e : ε) :
    phaseAfter allowed p (log ++ [e]) = (phaseAfter allowed p log).bind fun q => allowed q e := by
  unfold phaseAfter
  rw [List.foldlM_append]
  cases log.foldlM allowed p <;> simp

end EventMachine
