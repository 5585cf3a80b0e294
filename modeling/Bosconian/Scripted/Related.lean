import Bosconian.Scripted

/-!
# Two runs on one script

What a program does not depend on is shown by running it twice: from states that differ there, on
the same answers, the two runs return the same (`SameResult`). `Related` is that for all scripts
and all states in a relation.
-/

namespace Scripted

variable {ι σ τ α β : Type}

/-- Two outcomes agree: the same end, the same answers left, states related by `R`. -/
def SameResult (R : σ → τ → Prop) :
    EStateM.Result Halt (World ι σ) α → EStateM.Result Halt (World ι τ) α → Prop
  | .ok a v, .ok b w => a = b ∧ v.script = w.script ∧ R v.st w.st
  | .error e v, .error f w => e = f ∧ v.script = w.script ∧ R v.st w.st
  | _, _ => False

theorem SameResult.mono {R R' : σ → τ → Prop} (h : ∀ s t, R s t → R' s t)
    {r : EStateM.Result Halt (World ι σ) α} {r' : EStateM.Result Halt (World ι τ) α}
    (hr : SameResult R r r') : SameResult R' r r' := by
  rcases r with ⟨a, v⟩ | ⟨e, v⟩ <;> rcases r' with ⟨b, w⟩ | ⟨e', w⟩
  · exact ⟨hr.1, hr.2.1, h _ _ hr.2.2⟩
  · exact hr.elim
  · exact hr.elim
  · exact ⟨hr.1, hr.2.1, h _ _ hr.2.2⟩

/-- Two runs that agree go on agreeing, if their second halves do where the first ones return. -/
theorem SameResult.bind {R R' : σ → τ → Prop} {m : Prog ι σ α} {m' : Prog ι τ α}
    {f : α → Prog ι σ β} {f' : α → Prog ι τ β} {w : World ι σ} {v : World ι τ}
    (h : SameResult R (m w) (m' v)) (hR : ∀ s t, R s t → R' s t)
    (hf : ∀ a u t, m w = .ok a u → R u.st t → SameResult R' (f a u) (f' a ⟨u.script, t⟩)) :
    SameResult R' ((m >>= f) w) ((m' >>= f') v) := by
  rcases hw : m w with ⟨a, u⟩ | ⟨e, u⟩ <;> rcases hv : m' v with ⟨b, u'⟩ | ⟨e', u'⟩ <;>
    rw [hw, hv] at h
  · obtain ⟨rfl, hscript, hu⟩ := h
    have hlast := hf a u u'.st hw hu
    rw [hscript] at hlast
    rw [bind_ok hw, bind_ok hv]
    exact hlast
  · exact h.elim
  · exact h.elim
  · rw [bind_error hw, bind_error hv]
    exact ⟨h.1, h.2.1, hR _ _ h.2.2⟩

/-- Two runs that agree return the same value or stop for the same reason, in related states. -/
theorem SameResult.outcome {R : σ → τ → Prop} {m : Prog ι σ α} {m' : Prog ι τ α}
    {w : World ι σ} {v : World ι τ} (h : SameResult R (m w) (m' v)) :
    returned m w = returned m' v ∧ stopped m w = stopped m' v ∧
      R (final m w).st (final m' v).st := by
  unfold returned stopped final
  rcases hw : m w with ⟨a, w'⟩ | ⟨e, w'⟩ <;> rcases hv : m' v with ⟨b, v'⟩ | ⟨e', v'⟩ <;>
    rw [hw, hv] at h
  · exact ⟨congrArg some h.1, rfl, h.2.2⟩
  · exact h.elim
  · exact h.elim
  · exact ⟨rfl, congrArg some h.1, h.2.2⟩

/-- Run from related states on one script, `m` and `m'` agree. -/
def Related (R : σ → τ → Prop) (m : Prog ι σ α) (m' : Prog ι τ α) : Prop :=
  ∀ is s t, R s t → SameResult R (m ⟨is, s⟩) (m' ⟨is, t⟩)

section Related

variable {R : σ → τ → Prop}

theorem Related.pure (a : α) : Related (ι := ι) R (pure a) (pure a) := fun _ _ _ h => ⟨rfl, rfl, h⟩

theorem Related.halt (e : Halt) : Related (ι := ι) (α := α) R (halt e) (halt e) :=
  fun _ _ _ h => ⟨rfl, rfl, h⟩

theorem Related.ask : Related (ι := ι) R ask ask := by
  intro is s t h
  cases is with
  | nil => exact ⟨rfl, rfl, h⟩
  | cons i is => exact ⟨rfl, rfl, h⟩

theorem Related.askN (n : Nat) : Related (ι := ι) R (askN n) (askN n) := by
  intro is s t h
  unfold Scripted.askN
  by_cases hn : n ≤ is.length
  · rw [if_pos hn, if_pos hn]
    exact ⟨rfl, rfl, h⟩
  · rw [if_neg hn, if_neg hn]
    exact ⟨rfl, rfl, h⟩

theorem Related.update {f : σ → σ} {g : τ → τ} (h : ∀ s t, R s t → R (f s) (g t)) :
    Related (ι := ι) R (update f) (update g) := fun _ s t hst => ⟨rfl, rfl, h s t hst⟩

theorem Related.bind {m : Prog ι σ α} {m' : Prog ι τ α} {f : α → Prog ι σ β}
    {f' : α → Prog ι τ β} (hm : Related R m m') (hf : ∀ a, Related R (f a) (f' a)) :
    Related R (m >>= f) (m' >>= f') := fun is s t hst =>
  (hm is s t hst).bind (fun _ _ => id) fun a u t' _ hR => hf a u.script u.st t' hR

theorem Related.read_bind {f : σ → Prog ι σ β} {f' : τ → Prog ι τ β}
    (hf : ∀ s t, R s t → Related R (f s) (f' t)) : Related R (read >>= f) (read >>= f') :=
  fun is s t hst => hf s t hst is s t hst

theorem Related.loop {body : α → Prog ι σ (α ⊕ β)} {body' : α → Prog ι τ (α ⊕ β)}
    (h : ∀ a, Related R (body a) (body' a)) (n : Nat) (a : α) :
    Related R (loop body n a) (loop body' n a) := by
  induction n generalizing a with
  | zero => exact Related.halt _
  | succ n ih =>
    refine Related.bind (h a) ?_
    rintro (a' | b)
    · exact ih a'
    · exact Related.pure b

theorem Related.forever {body : α → Prog ι σ (α ⊕ β)} {body' : α → Prog ι τ (α ⊕ β)}
    (h : ∀ a, Related R (body a) (body' a)) (a : α) :
    Related R (forever body a) (forever body' a) :=
  fun is s t hst => Related.loop h (is.length + 1) a is s t hst

end Related

end Scripted
