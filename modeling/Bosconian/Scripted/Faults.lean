import Bosconian.Scripted

/-!
# Programs that do not fault

A program that follows a pointer halts at a fault where the pointer leads nowhere. `NoFault` is for
programs that cannot fault from any state, and `Safe` for those that cannot from the states in `P`,
with what they come to where they return.
-/

namespace Scripted

variable {ι σ τ α β : Type}

/-- `m` does not stop at a fault. -/
def NoFault (m : Prog ι σ α) : Prop := ∀ w v, m w ≠ .error .fault v

/-- From `P`, `m` does not stop at a fault, and where it returns with `a` it has come to `Q a`. -/
def Safe (P : σ → Prop) (m : Prog ι σ α) (Q : α → σ → Prop) : Prop :=
  ∀ w, P w.st → (∀ a v, m w = .ok a v → Q a v.st) ∧ ∀ v, m w ≠ .error .fault v

section Safe

variable {P : σ → Prop} {Q : α → σ → Prop}

theorem Safe.pure {a : α} (h : ∀ s, P s → Q a s) : Safe P (pure a : Prog ι σ α) Q := by
  intro w hw
  refine ⟨?_, nofun⟩
  rintro b v ⟨⟩
  exact h w.st hw

theorem Safe.update {g : σ → σ} {Q : Unit → σ → Prop} (h : ∀ s, P s → Q () (g s)) :
    Safe P (update g : Prog ι σ Unit) Q := by
  intro w hw
  refine ⟨?_, nofun⟩
  rintro a v ⟨⟩
  exact h w.st hw

theorem Safe.mono {P' : σ → Prop} {Q' : α → σ → Prop} {m : Prog ι σ α} (hm : Safe P m Q)
    (hP : ∀ s, P' s → P s) (hQ : ∀ a s, Q a s → Q' a s) : Safe P' m Q' := by
  intro w hw
  obtain ⟨hok, hfault⟩ := hm w (hP w.st hw)
  exact ⟨fun a v h => hQ a v.st (hok a v h), hfault⟩

theorem Safe.bind {R : β → σ → Prop} {m : Prog ι σ α} {f : α → Prog ι σ β} (hm : Safe P m Q)
    (hf : ∀ a, Safe (Q a) (f a) R) : Safe P (m >>= f) R := by
  intro w hw
  obtain ⟨hok, hfault⟩ := hm w hw
  rcases h : m w with ⟨a, v⟩ | ⟨e, v⟩
  · rw [bind_ok h]
    exact hf a v (hok a v h)
  · rw [bind_error h]
    refine ⟨?_, ?_⟩
    · rintro b u ⟨⟩
    · rintro u ⟨⟩
      exact hfault v h

/-- Reading the state fixes what the rest of the program has read. -/
theorem Safe.read_bind {R : β → σ → Prop} {f : σ → Prog ι σ β}
    (hf : ∀ s, P s → Safe (fun t => t = s) (f s) R) : Safe P (read >>= f) R :=
  fun w hw => hf w.st hw w rfl

/-- What the state shows at the start may be named. -/
theorem Safe.ghost {γ : Type} {f : σ → γ} {m : Prog ι σ α}
    (hm : ∀ s, P s → Safe (fun t => f t = f s) m Q) : Safe P m Q :=
  fun w hw => hm w.st hw w rfl

theorem Safe.onlyIf {Q : σ → Prop} {c : Prop} [Decidable c] {m : Prog ι σ Unit}
    (hm : c → Safe P m (fun _ => Q)) (hskip : ∀ s, P s → Q s) :
    Safe P (onlyIf c m) (fun _ => Q) := by
  unfold Scripted.onlyIf
  split
  · next hc => exact hm hc
  · exact Safe.pure hskip

/-- What is known of the runs that return may be added. -/
theorem Safe.and {P' : σ → Prop} {Q' : α → σ → Prop} {C : σ → Prop} {m : Prog ι σ α}
    (h : Safe P m Q) (h' : Triple P' m Q' C) :
    Safe (fun s => P s ∧ P' s) m fun a s => Q a s ∧ Q' a s := by
  intro w hw
  obtain ⟨hok, hfault⟩ := h w hw.1
  exact ⟨fun a v hv => ⟨hok a v hv, (h' w hw.2).1 a v hv⟩, hfault⟩

/-- What no outcome breaks is there where the program has returned. -/
theorem NoFault.safe {m : Prog ι σ α} (hm : NoFault m) (hP : Keeps P m) :
    Safe P m fun _ => P := fun w hw => ⟨fun _ _ h => hP.of_ok h hw, hm w⟩

theorem Safe.noFault {m : Prog ι σ α} (hm : Safe (fun _ => True) m Q) : NoFault m :=
  fun w => (hm w trivial).2

/-- A loop whose rounds keep `P` while they go on ends where some round left it. -/
theorem Safe.loop {R : β → σ → Prop} {body : α → Prog ι σ (α ⊕ β)}
    (h : ∀ a, Safe P (body a) fun r s => Sum.elim (fun _ => P s) (R · s) r) (n : Nat) (a : α) :
    Safe P (loop body n a) R := by
  induction n generalizing a with
  | zero => exact fun w hw => ⟨nofun, nofun⟩
  | succ n ih =>
    refine Safe.bind (h a) ?_
    rintro (a' | b)
    · exact ih a'
    · exact Safe.pure fun _ => id

theorem Safe.forever {R : β → σ → Prop} {body : α → Prog ι σ (α ⊕ β)}
    (h : ∀ a, Safe P (body a) fun r s => Sum.elim (fun _ => P s) (R · s) r) (a : α) :
    Safe P (forever body a) R := fun w hw => Safe.loop h _ a w hw

theorem Safe.read : Safe P (read : Prog ι σ σ) fun _ => P := Safe.read_bind (f := Pure.pure)
  fun _ hs => Safe.pure fun _ ht => ht ▸ hs

/-- From `P` to `P`. -/
theorem Safe.sequential : Sequential fun α (m : Prog ι σ α) => Safe P m fun _ => P where
  pure a := Safe.pure fun _ => id
  bind hm hf := Safe.bind hm hf
  read := Safe.read
  loop h n a := Safe.loop
    (fun a => (h a).mono (fun _ => id) fun r s hs => by cases r <;> exact hs) n a
  forever h a := Safe.forever
    (fun a => (h a).mono (fun _ => id) fun r s hs => by cases r <;> exact hs) a

theorem Safe.zoom {P' : τ → Prop} {Q' : α → τ → Prop} {get : σ → τ} {put : τ → σ → σ}
    {m : Prog ι τ α} (hm : Safe P' m Q') (hget : ∀ s, P s → P' (get s))
    (hput : ∀ a t s, P s → Q' a t → Q a (put t s)) : Safe P (zoom get put m) Q := by
  intro w hw
  obtain ⟨hok, hfault⟩ := hm ⟨w.script, get w.st⟩ (hget w.st hw)
  unfold Scripted.zoom
  rcases h : m ⟨w.script, get w.st⟩ with ⟨b, u⟩ | ⟨e, u⟩
  · refine ⟨?_, ?_⟩
    · rintro a v ⟨⟩
      exact hput _ _ _ hw (hok b u h)
    · rintro v ⟨⟩
  · refine ⟨?_, ?_⟩
    · rintro a v ⟨⟩
    · rintro v ⟨⟩
      exact hfault u h

end Safe

section NoFault

theorem NoFault.pure (a : α) : NoFault (pure a : Prog ι σ α) := fun _ _ h => by cases h

theorem NoFault.update (f : σ → σ) : NoFault (update f : Prog ι σ Unit) :=
  fun _ _ h => by cases h

theorem NoFault.read : NoFault (read : Prog ι σ σ) := fun _ _ h => by cases h

theorem NoFault.ask : NoFault (ask : Prog ι σ ι) := by
  rintro ⟨_ | ⟨i, is⟩, s⟩ v h <;> cases h

theorem NoFault.askN (n : Nat) : NoFault (askN n : Prog ι σ (List ι)) := by
  intro w v h
  unfold Scripted.askN at h
  split_ifs at h
  cases h

theorem NoFault.anywhere {m : Prog ι σ α} (hm : NoFault m) :
    Safe (fun _ => True) m fun _ _ => True := hm.safe fun _ => id

theorem NoFault.bind {m : Prog ι σ α} {f : α → Prog ι σ β} (hm : NoFault m)
    (hf : ∀ a, NoFault (f a)) : NoFault (m >>= f) :=
  (Safe.bind hm.anywhere fun a => (hf a).anywhere).noFault

theorem NoFault.loop {body : α → Prog ι σ (α ⊕ β)} (h : ∀ a, NoFault (body a)) (n : Nat) (a : α) :
    NoFault (loop body n a) := by
  have hround (a : α) : Safe (fun _ => True) (body a) fun r s =>
      Sum.elim (fun _ => True) (fun _ => True) r :=
    (h a).anywhere.mono (fun _ => id) fun r _ _ => by cases r <;> trivial
  exact (Safe.loop hround n a).noFault

theorem NoFault.forever {body : α → Prog ι σ (α ⊕ β)} (h : ∀ a, NoFault (body a)) (a : α) :
    NoFault (forever body a) := fun w => NoFault.loop h _ a w

theorem NoFault.sequential : Sequential fun α (m : Prog ι σ α) => NoFault m where
  pure a := NoFault.pure a
  bind hm hf := NoFault.bind hm hf
  read := NoFault.read
  loop h n a := NoFault.loop h n a
  forever h a := NoFault.forever h a

theorem NoFault.zoom {get : σ → τ} {put : τ → σ → σ} {m : Prog ι τ α} (hm : NoFault m) :
    NoFault (zoom get put m : Prog ι σ α) := by
  have hzoom : Safe (fun _ => True) (Scripted.zoom get put m : Prog ι σ α) fun _ _ => True :=
    hm.anywhere.zoom (fun _ _ => trivial) fun _ _ _ _ _ => trivial
  exact hzoom.noFault

end NoFault

end Scripted
