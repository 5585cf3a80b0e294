import Mathlib.Algebra.BigOperators.Group.Finset.Piecewise
import Mathlib.Algebra.Order.BigOperators.Group.Finset
import Mathlib.Data.Fintype.Basic

/-!
# Trying again while a budget lasts

Something is attempted until it comes to an outcome that is final. The other outcomes are of a
kind, and each kind has a budget: the outcome that uses it up is final as well, however the kinds
alternate.

* `Stops` — a list of outcomes ends with a final one. `First` — the shortest prefix that does.
* `length_le_of_not_stops` — how long attempts can go on: the budgets bound them together.
* `First.length_le` — so the shortest prefix is at most one longer.
-/

namespace Retry

variable {ω κ : Type*} [DecidableEq κ]

/-- Which outcomes are tried again, as of which kind, and the budgets of the kinds. -/
structure Policy (ω κ : Type*) where
  kind : ω → Option κ
  limit : κ → Nat

namespace Policy

variable (p : Policy ω κ)

/-- What the outcomes have used up. -/
def spent (os : List ω) (k : κ) : Nat := os.countP fun o => p.kind o = some k

/-- The last outcome is final: of no kind, or the last one that its kind allows. -/
def Stops (os : List ω) : Prop := ∃ o ∈ os.getLast?, ∀ k ∈ p.kind o, p.spent os k = p.limit k

/-- Where a list of outcomes stops first. -/
structure First (os all : List ω) : Prop where
  of_all : os <+: all
  stops : p.Stops os
  least : ∀ ds, ds <+: os → p.Stops ds → ds = os

/-- The list stops nowhere. -/
def Endless (os : List ω) : Prop := ∀ ds, ds <+: os → ¬ p.Stops ds

variable {p} {os all : List ω} {o : ω} {k : κ}

theorem spent_concat :
    p.spent (os ++ [o]) k = p.spent os k + if p.kind o = some k then 1 else 0 := by
  unfold spent
  rw [List.countP_append, List.countP_singleton]
  simp only [decide_eq_true_eq]

theorem stops_concat_iff :
    p.Stops (os ++ [o]) ↔ ∀ k, p.kind o = some k → p.spent os k + 1 = p.limit k := by
  constructor
  · rintro ⟨o', ho, hlast⟩ k hk
    rw [List.getLast?_concat] at ho
    obtain rfl : o = o' := Option.some.inj ho
    have := hlast k hk
    rwa [spent_concat, if_pos hk] at this
  · intro h
    refine ⟨o, List.getLast?_concat, fun k hk => ?_⟩
    have hkind : p.kind o = some k := hk
    rw [spent_concat, if_pos hkind]
    exact h k hkind

theorem not_stops_nil : ¬ p.Stops [] := by
  rintro ⟨o, ho, -⟩
  cases ho

theorem endless_nil : p.Endless [] := by
  intro ds hds
  rw [List.prefix_nil.1 hds]
  exact not_stops_nil

theorem endless_concat_iff : p.Endless (os ++ [o]) ↔ p.Endless os ∧ ¬ p.Stops (os ++ [o]) := by
  constructor
  · intro h
    exact ⟨fun ds hds => h ds (hds.trans (List.prefix_append _ _)), h _ List.prefix_rfl⟩
  · rintro ⟨hos, hlast⟩ ds hds
    rcases List.prefix_concat_iff.1 hds with rfl | hds
    · exact hlast
    · exact hos ds hds

/-- What stops with its last outcome stops there first. -/
theorem Endless.first (h : p.Endless os) (hstops : p.Stops (os ++ [o]))
    (hall : os ++ [o] <+: all) : p.First (os ++ [o]) all := by
  refine ⟨hall, hstops, fun ds hds hds' => ?_⟩
  rcases List.prefix_concat_iff.1 hds with rfl | hds
  · rfl
  · exact absurd hds' (h ds hds)

theorem First.unique {ds : List ω} (h : p.First os all) (h' : p.First ds all) : os = ds := by
  rcases List.prefix_or_prefix_of_prefix h.of_all h'.of_all with hle | hle
  · exact h'.least os hle h.stops
  · exact (h.least ds hle h'.stops).symm

theorem First.not_endless (h : p.First os all) : ¬ p.Endless all :=
  fun hno => hno os h.of_all h.stops

/-! ## Bounds -/

/-- Until a list stops, there is something left of each budget. -/
theorem Endless.spent_lt (h : p.Endless os) (hk : 0 < p.limit k) : p.spent os k < p.limit k := by
  induction os using List.reverseRecOn with
  | nil => exact hk
  | append_singleton os o ih =>
    obtain ⟨hos, hlast⟩ := endless_concat_iff.1 h
    have hlt := ih hos
    rw [spent_concat]
    split_ifs with ho
    · have hne : p.spent os k + 1 ≠ p.limit k := by
        intro heq
        refine hlast (stops_concat_iff.2 fun k' hk' => ?_)
        obtain rfl : k = k' := Option.some.inj (ho.symm.trans hk')
        exact heq
      omega
    · exact hlt

section Sum

variable [Fintype κ]

/-- Each outcome so far was of some kind. -/
theorem Endless.length_eq_sum (h : p.Endless os) : os.length = ∑ k, p.spent os k := by
  induction os using List.reverseRecOn with
  | nil => simp [spent]
  | append_singleton os o ih =>
    obtain ⟨hos, hlast⟩ := endless_concat_iff.1 h
    obtain ⟨k, hk⟩ : ∃ k, p.kind o = some k := by
      rcases hkind : p.kind o with _ | k
      · refine absurd (stops_concat_iff.2 fun k hk => ?_) hlast
        rw [hkind] at hk
        cases hk
      · exact ⟨k, rfl⟩
    have hone : ∑ k', (if p.kind o = some k' then 1 else 0) = 1 := by
      simp only [hk, Option.some.injEq, Finset.sum_ite_eq, Finset.mem_univ, if_true]
    simp only [spent_concat, Finset.sum_add_distrib, hone, ← ih hos, List.length_append,
      List.length_singleton]

/-- **The budgets bound the attempts together**, however the kinds alternate. -/
theorem Endless.length_le (h : p.Endless os) (hlimit : ∀ k, 0 < p.limit k) :
    os.length ≤ ∑ k, (p.limit k - 1) := by
  rw [h.length_eq_sum]
  refine Finset.sum_le_sum fun k _ => ?_
  have := h.spent_lt (hlimit k)
  omega

theorem First.length_le (h : p.First os all) (hlimit : ∀ k, 0 < p.limit k) :
    os.length ≤ ∑ k, (p.limit k - 1) + 1 := by
  rcases List.eq_nil_or_concat os with rfl | ⟨ds, o, rfl⟩
  · exact Nat.zero_le _
  · rw [List.concat_eq_append] at h ⊢
    have hds : p.Endless ds := by
      intro cs hcs hstops
      have heq := h.least cs (hcs.trans (List.prefix_append _ _)) hstops
      have hle := hcs.length_le
      rw [heq, List.length_append, List.length_singleton] at hle
      exact absurd hle (Nat.not_succ_le_self _)
    rw [List.length_append, List.length_singleton]
    exact Nat.succ_le_succ (hds.length_le hlimit)

end Sum

end Policy

end Retry
