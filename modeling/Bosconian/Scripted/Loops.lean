import Bosconian.Scripted

/-!
# Loops that ask

A loop whose rounds each use an answer up cannot go on for ever, since a script is a list. So such
a loop needs no bound, and it is proved to end without one.

* `forever_eq` — a loop that uses an answer up on every round (`Uses`) unrolls.
* `Ends.forever` — and so it does not run for ever.
* `Returns` — a program that has answers enough returns; `Returns.forever` counts the rounds down.
-/

namespace Scripted

variable {ι σ α β : Type}

/-! ## Unrolling -/

/-- `m` returns only after it has used an answer up. -/
def Uses (m : Prog ι σ α) : Prop :=
  ∀ w a v, m w = .ok a v → v.script.length < w.script.length

section Uses

theorem Draws.le {m : Prog ι σ α} (hm : Draws m) {w v : World ι σ} {a : α} (h : m w = .ok a v) :
    v.script.length ≤ w.script.length := by
  have hle : drawing w (final m w) := hm w
  rwa [final_ok h] at hle

theorem Uses.ask : Uses (ask : Prog ι σ ι) := by
  rintro ⟨_ | ⟨i, is⟩, s⟩ a v h
  · cases h
  · cases h
    exact Nat.lt_succ_self _

theorem Uses.bind_left {m : Prog ι σ α} {f : α → Prog ι σ β} (hm : Uses m)
    (hf : ∀ a, Draws (f a)) : Uses (m >>= f) := by
  intro w b v h
  rcases hw : m w with ⟨a, u⟩ | ⟨e, u⟩
  · rw [bind_ok hw] at h
    exact Nat.lt_of_le_of_lt ((hf a).le h) (hm w a u hw)
  · rw [bind_error hw] at h
    cases h

theorem Uses.bind_right {m : Prog ι σ α} {f : α → Prog ι σ β} (hm : Draws m)
    (hf : ∀ a, Uses (f a)) : Uses (m >>= f) := by
  intro w b v h
  rcases hw : m w with ⟨a, u⟩ | ⟨e, u⟩
  · rw [bind_ok hw] at h
    exact Nat.lt_of_lt_of_le (hf a u b v h) (hm.le hw)
  · rw [bind_error hw] at h
    cases h

theorem Uses.loop {body : α → Prog ι σ (α ⊕ β)} (h : ∀ a, Uses (body a)) (n : Nat) (a : α) :
    Uses (loop body n a) := by
  induction n generalizing a with
  | zero => exact fun _ _ _ hw => by cases hw
  | succ n ih =>
    intro w b v hw
    rw [Scripted.loop] at hw
    rcases hbody : body a w with ⟨a' | b', u⟩ | ⟨e, u⟩
    · rw [bind_ok hbody] at hw
      exact Nat.lt_trans (ih a' u b v hw) (h a w _ u hbody)
    · rw [bind_ok hbody] at hw
      cases hw
      exact h a w _ _ hbody
    · rw [bind_error hbody] at hw
      cases hw

theorem Uses.forever {body : α → Prog ι σ (α ⊕ β)} (h : ∀ a, Uses (body a)) (a : α) :
    Uses (forever body a) := fun w b v hw => Uses.loop h _ a w b v hw

end Uses

section Unroll

variable {body : α → Prog ι σ (α ⊕ β)} (hbody : ∀ a, Uses (body a))
include hbody

theorem loop_eq_loop {n m : Nat} {a : α} {w : World ι σ} (hn : w.script.length < n)
    (hm : w.script.length < m) : loop body n a w = loop body m a w := by
  induction n generalizing m a w with
  | zero => exact absurd hn (Nat.not_lt_zero _)
  | succ n ih =>
    cases m with
    | zero => exact absurd hm (Nat.not_lt_zero _)
    | succ m =>
      rw [loop, loop]
      rcases h : body a w with ⟨_ | b, v⟩ | ⟨e, v⟩
      · rw [bind_ok h, bind_ok h]
        have := hbody a w _ v h
        exact ih (by omega) (by omega)
      · rw [bind_ok h, bind_ok h]
        rfl
      · rw [bind_error h, bind_error h]

/-- **A loop that asks is its own unrolling**: its bound is never met. -/
theorem forever_eq (a : α) : forever body a = body a >>= resume (forever body) := by
  funext w
  rw [forever, loop]
  rcases h : body a w with ⟨_ | b, v⟩ | ⟨e, v⟩
  · rw [bind_ok h, bind_ok h]
    have := hbody a w _ v h
    exact loop_eq_loop hbody (by omega) (by omega)
  · rw [bind_ok h, bind_ok h]
    rfl
  · rw [bind_error h, bind_error h]

end Unroll

/-! Two loops whose rounds do the same, on states and results that correspond. -/

section Map

variable {α' β' : Type} {body : α → Prog ι σ (α ⊕ β)} {body' : α' → Prog ι σ (α' ⊕ β')}
  {g : α' → α} {h : β' → β} (hbody : ∀ a, body (g a) = Sum.map g h <$> body' a)
include hbody

theorem loop_map (n : Nat) (a : α') : loop body n (g a) = h <$> loop body' n a := by
  induction n generalizing a with
  | zero => rfl
  | succ n ih =>
    rw [loop, loop, hbody, bind_map_left, map_bind]
    refine bind_congr fun r => ?_
    rcases r with a' | b'
    · exact ih a'
    · exact (map_pure h b').symm

theorem forever_map (a : α') : forever body (g a) = h <$> forever body' a := by
  funext w
  exact congrFun (loop_map hbody (w.script.length + 1) a) w

end Map

/-- `n` rounds are enough for the loop. -/
def EndsWithin (body : α → Prog ι σ (α ⊕ β)) (n : Nat) (a : α) (w : World ι σ) : Prop :=
  ∀ v, loop body n a w ≠ .error .diverged v

section EndsWithin

variable {body : α → Prog ι σ (α ⊕ β)}

/-- What is enough is enough. -/
theorem EndsWithin.loop_eq {n m : Nat} {a : α} {w : World ι σ} (h : EndsWithin body n a w)
    (hle : n ≤ m) : loop body m a w = loop body n a w := by
  induction n generalizing m a w with
  | zero => exact absurd rfl (h w)
  | succ n ih =>
    obtain ⟨m, rfl⟩ : ∃ k, m = k + 1 := ⟨m - 1, by omega⟩
    rw [EndsWithin, loop] at h
    rw [loop, loop]
    rcases hbody : body a w with ⟨a' | b, v⟩ | ⟨e, v⟩
    · rw [bind_ok hbody] at h
      rw [bind_ok hbody, bind_ok hbody]
      exact ih h (Nat.le_of_succ_le_succ hle)
    · rw [bind_ok hbody, bind_ok hbody]
      rfl
    · rw [bind_error hbody, bind_error hbody]

theorem EndsWithin.forever_eq (hbody : ∀ a, Uses (body a)) {n : Nat} {a : α} {w : World ι σ}
    (h : EndsWithin body n a w) : forever body a w = loop body n a w := by
  rw [← h.loop_eq (Nat.le_max_left n (w.script.length + 1))]
  exact loop_eq_loop hbody (Nat.lt_succ_self _)
    (Nat.lt_of_lt_of_le (Nat.lt_succ_self _) (Nat.le_max_right _ _))

end EndsWithin

/-- `m` does not run for ever: it returns, waits for an answer, or stops at a fault. -/
def Ends (m : Prog ι σ α) : Prop := ∀ w v, m w ≠ .error .diverged v

section Ends

theorem Ends.pure (a : α) : Ends (pure a : Prog ι σ α) := fun _ _ h => by cases h

theorem Ends.update (f : σ → σ) : Ends (update f : Prog ι σ Unit) := fun _ _ h => by cases h

theorem Ends.ask : Ends (ask : Prog ι σ ι) := by
  rintro ⟨_ | ⟨i, is⟩, s⟩ v h <;> cases h

theorem Ends.askN (n : Nat) : Ends (askN n : Prog ι σ (List ι)) := by
  intro w v h
  unfold Scripted.askN at h
  split_ifs at h
  cases h

theorem Ends.bind {m : Prog ι σ α} {f : α → Prog ι σ β} (hm : Ends m) (hf : ∀ a, Ends (f a)) :
    Ends (m >>= f) := by
  intro w v h
  rcases hw : m w with ⟨a, u⟩ | ⟨e, u⟩
  · rw [bind_ok hw] at h
    exact hf a u v h
  · rw [bind_error hw] at h
    cases h
    exact hm w v hw

/-- Rounds that use answers up cannot go on for ever. -/
theorem Ends.forever {body : α → Prog ι σ (α ⊕ β)} (hbody : ∀ a, Ends (body a))
    (huses : ∀ a, Uses (body a)) (a : α) : Ends (forever body a) := by
  intro w v h
  induction hn : w.script.length using Nat.strongRecOn generalizing a w with
  | ind n ih =>
  rw [forever_eq huses] at h
  rcases hw : body a w with ⟨a' | b, u⟩ | ⟨e, u⟩
  · rw [bind_ok hw] at h
    exact ih _ (hn ▸ huses a w _ u hw) a' u h rfl
  · rw [bind_ok hw] at h
    cases h
  · rw [bind_error hw] at h
    cases h
    exact hbody a w v hw

end Ends

/-! ## Total correctness -/

/-- From `P`, a run of `m` that has `n` answers returns, with some `a` and in `Q a`, and uses up no
more of them. -/
def Returns (P : σ → Prop) (m : Prog ι σ α) (n : Nat) (Q : α → σ → Prop) : Prop :=
  ∀ w, P w.st → n ≤ w.script.length →
    ∃ a v, m w = .ok a v ∧ w.script.length ≤ v.script.length + n ∧ Q a v.st

section Returns

variable {P : σ → Prop} {Q : α → σ → Prop} {n : Nat}

theorem Returns.pure {a : α} (h : ∀ s, P s → Q a s) : Returns P (pure a : Prog ι σ α) 0 Q :=
  fun w hw _ => ⟨a, w, rfl, Nat.le_refl _, h w.st hw⟩

theorem Returns.mono {P' : σ → Prop} {Q' : α → σ → Prop} {n' : Nat} {m : Prog ι σ α}
    (hm : Returns P m n Q) (hP : ∀ s, P' s → P s) (hn : n ≤ n') (hQ : ∀ a s, Q a s → Q' a s) :
    Returns P' m n' Q' := by
  intro w hw hlen
  obtain ⟨a, v, h, hle, hq⟩ := hm w (hP w.st hw) (Nat.le_trans hn hlen)
  exact ⟨a, v, h, by omega, hQ a v.st hq⟩

theorem Returns.bind {R : β → σ → Prop} {n' : Nat} {m : Prog ι σ α} {f : α → Prog ι σ β}
    (hm : Returns P m n Q) (hf : ∀ a, Returns (Q a) (f a) n' R) :
    Returns P (m >>= f) (n + n') R := by
  intro w hw hlen
  obtain ⟨a, v, h, hle, hq⟩ := hm w hw (by omega)
  obtain ⟨b, u, h', hle', hr⟩ := hf a v hq (by omega)
  rw [bind_ok h]
  exact ⟨b, u, h', by omega, hr⟩

/-- The second half may have `n'` answers of the `k`. -/
theorem Returns.bind_le {R : β → σ → Prop} {k : Nat} {m : Prog ι σ α} {f : α → Prog ι σ β}
    (n' : Nat) (hk : n + n' ≤ k) (hm : Returns P m n Q)
    (hf : ∀ a, Returns (Q a) (f a) n' R) : Returns P (m >>= f) k R :=
  (hm.bind hf).mono (fun _ => id) hk fun _ _ => id

/-- The second half needs no answers. -/
theorem Returns.last {R : β → σ → Prop} {m : Prog ι σ α} {f : α → Prog ι σ β}
    (hm : Returns P m n Q) (hf : ∀ a, Returns (Q a) (f a) 0 R) : Returns P (m >>= f) n R :=
  hm.bind hf

/-- What the state shows at the start may be named. -/
theorem Returns.ghost {m : Prog ι σ α} (hm : ∀ s, P s → Returns (fun t => t = s) m n Q) :
    Returns P m n Q := fun w hw => hm w.st hw w rfl

/-- From one state of those in `P`. -/
theorem Returns.from_state {m : Prog ι σ α} {s : σ} (hs : P s) (hm : Returns P m n Q) :
    Returns (fun t => t = s) m n Q :=
  hm.mono (fun _ ht => ht ▸ hs) (Nat.le_refl n) fun _ _ => id

/-- What every state in `P` shows may be assumed. -/
theorem Returns.assume {p : Prop} {m : Prog ι σ α} (hp : ∀ s, P s → p)
    (hm : p → Returns P m n Q) : Returns P m n Q := fun w hw => hm (hp w.st hw) w hw

theorem Returns.loop {I : Nat → α → σ → Prop} {R : β → σ → Prop} {body : α → Prog ι σ (α ⊕ β)}
    (h : ∀ k a, Returns (I k a) (body a) n fun r s =>
      Sum.elim (fun a' => ∃ j < k, I j a' s) (R · s) r) {k fuel : Nat} (hk : k < fuel) (a : α) :
    Returns (I k a) (loop body fuel a) (n * (k + 1)) R := by
  induction fuel generalizing k a with
  | zero => exact absurd hk (Nat.not_lt_zero k)
  | succ fuel ih =>
    intro w hw hlen
    have hfirst : n * (k + 1) = n * k + n := Nat.mul_succ n k
    obtain ⟨r, v, hbody, hle, hr⟩ := h k a w hw (by omega)
    rw [Scripted.loop, bind_ok hbody]
    rcases r with a' | b
    · obtain ⟨j, hj, hI⟩ := hr
      have hrest : n * (j + 1) ≤ n * k := Nat.mul_le_mul_left n hj
      obtain ⟨b, u, hloop, hle', hR⟩ := ih (Nat.lt_of_lt_of_le hj (Nat.lt_succ_iff.1 hk)) a' v hI
        (by omega)
      exact ⟨b, u, hloop, by omega, hR⟩
    · exact ⟨b, v, rfl, by omega, hr⟩

/-- A loop that counts down to its end. -/
theorem Returns.forever {I : Nat → α → σ → Prop} {R : β → σ → Prop}
    {body : α → Prog ι σ (α ⊕ β)} (hn : 0 < n)
    (h : ∀ k a, Returns (I k a) (body a) n fun r s =>
      Sum.elim (fun a' => ∃ j < k, I j a' s) (R · s) r) (k : Nat) (a : α) :
    Returns (I k a) (forever body a) (n * (k + 1)) R := by
  intro w hw hlen
  have hrounds : k + 1 ≤ n * (k + 1) := Nat.le_mul_of_pos_left _ hn
  exact Returns.loop h (by omega) a w hw hlen

end Returns

end Scripted
