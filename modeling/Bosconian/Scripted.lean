import Mathlib.Order.Defs.Unbundled
import Mathlib.Algebra.Ring.Nat
import Mathlib.Tactic.Common

/-!
# Programs that read their answers from a script

A driver talks to a world it does not control: a device, a clock, memory it did not write. Here
that world is a script, the list of its answers in the order they are asked for, and a statement
about every script is one about every behaviour of the world. A program stops when its script
runs out, and the state it stopped in is kept.

* `Sequential` — a property of programs that goes through sequences and loops.
* `Moves` — a program takes its world along a preorder, whatever its outcome. `Keeps` (an
  invariant of the state) and `Draws` (answers are only used up) are two of its cases.
* `Leads` — from one property of the state to another, in every outcome; `Triple` tells the
  outcomes that return from those that stop.
* `Preserves` — a part of the state that the program leaves alone.
* `zoom` — a program on part of the state, run on the whole.
-/

namespace Scripted

/-- Why a program stopped without returning. -/
inductive Halt
  | waiting
  | diverged
  | fault
deriving DecidableEq, Repr

/-- The answers still to come, and the program's own state. -/
structure World (ι σ : Type) where
  script : List ι
  st : σ
deriving DecidableEq, Repr

abbrev Prog (ι σ : Type) := EStateM Halt (World ι σ)

variable {ι σ τ α β : Type}

/-! ## Steps -/

/-- The next answer. -/
def ask : Prog ι σ ι
  | ⟨[], s⟩ => .error .waiting ⟨[], s⟩
  | ⟨i :: is, s⟩ => .ok i ⟨is, s⟩

/-- The next `n` answers at once. -/
def askN (n : Nat) : Prog ι σ (List ι) := fun w =>
  if n ≤ w.script.length then .ok (w.script.take n) ⟨w.script.drop n, w.st⟩
  else .error .waiting w

def read : Prog ι σ σ := fun w => .ok w.st w

def update (f : σ → σ) : Prog ι σ Unit := fun w => .ok () ⟨w.script, f w.st⟩

def halt (h : Halt) : Prog ι σ α := fun w => .error h w

/-- `if` without an `else`. -/
def onlyIf (c : Prop) [Decidable c] (m : Prog ι σ Unit) : Prog ι σ Unit :=
  if c then m else pure ()

/-- Run a program on the part of the state that `get` selects. -/
def zoom (get : σ → τ) (put : τ → σ → σ) (m : Prog ι τ α) : Prog ι σ α := fun w =>
  match m ⟨w.script, get w.st⟩ with
  | .ok a v => .ok a ⟨v.script, put v.st w.st⟩
  | .error h v => .error h ⟨v.script, put v.st w.st⟩

/-- A round of a loop goes on with `.inl` and leaves with `.inr`. -/
def resume (k : α → Prog ι σ β) : α ⊕ β → Prog ι σ β
  | .inl a => k a
  | .inr b => pure b

/-- At most `n` rounds of `body`. -/
def loop (body : α → Prog ι σ (α ⊕ β)) : Nat → α → Prog ι σ β
  | 0, _ => halt .diverged
  | n + 1, a => body a >>= resume (loop body n)

/-- A loop whose rounds each ask for something: more rounds than there are answers cannot be. -/
def forever (body : α → Prog ι σ (α ⊕ β)) (a : α) : Prog ι σ β := fun w =>
  loop body (w.script.length + 1) a w

/-- The world a run ends in, whether it returned or stopped. -/
def final (m : Prog ι σ α) (w : World ι σ) : World ι σ :=
  match m w with
  | .ok _ v => v
  | .error _ v => v

/-- The value a run returned with, if it returned. -/
def returned (m : Prog ι σ α) (w : World ι σ) : Option α :=
  match m w with
  | .ok a _ => some a
  | .error _ _ => none

/-- Why a run stopped, if it did not return. -/
def stopped (m : Prog ι σ α) (w : World ι σ) : Option Halt :=
  match m w with
  | .ok _ _ => none
  | .error e _ => some e

theorem stopped_congr {m m' : Prog ι σ α} {v w : World ι σ} (h : m w = m' v) :
    stopped m w = stopped m' v := by
  rw [stopped, h, stopped]

theorem final_ok {m : Prog ι σ α} {a : α} {v w : World ι σ} (h : m w = .ok a v) :
    final m w = v := by
  rw [final, h]

theorem final_error {m : Prog ι σ α} {e : Halt} {v w : World ι σ} (h : m w = .error e v) :
    final m w = v := by
  rw [final, h]

theorem final_congr {m m' : Prog ι σ α} {v w : World ι σ} (h : m w = m' v) :
    final m w = final m' v := by
  rw [final, h, final]

theorem bind_ok {m : Prog ι σ α} {f : α → Prog ι σ β} {a : α} {v w : World ι σ}
    (h : m w = .ok a v) : (m >>= f) w = f a v := by
  show EStateM.bind m f w = f a v
  rw [EStateM.bind, h]

theorem bind_error {m : Prog ι σ α} {f : α → Prog ι σ β} {e : Halt} {v w : World ι σ}
    (h : m w = .error e v) : (m >>= f) w = .error e v := by
  show EStateM.bind m f w = .error e v
  rw [EStateM.bind, h]

/-- A run that returned has returned from both halves. -/
theorem of_bind_ok {m : Prog ι σ α} {f : α → Prog ι σ β} {b : β} {v w : World ι σ}
    (h : (m >>= f) w = .ok b v) : ∃ a u, m w = .ok a u ∧ f a u = .ok b v := by
  rcases hm : m w with ⟨a, u⟩ | ⟨e, u⟩
  · rw [bind_ok hm] at h
    exact ⟨a, u, rfl, h⟩
  · rw [bind_error hm] at h
    cases h

/-- Only the outcome of the first half counts. -/
theorem bind_congr_left {m m' : Prog ι σ α} {f : α → Prog ι σ β} {v w : World ι σ}
    (h : m w = m' v) : (m >>= f) w = (m' >>= f) v := by
  show EStateM.bind m f w = EStateM.bind m' f v
  rw [EStateM.bind, EStateM.bind, h]

/-- A sequence ends where its first half stopped, or where its second half takes it from there. -/
theorem final_bind (m : Prog ι σ α) (f : α → Prog ι σ β) (w : World ι σ) :
    (∃ e v, m w = .error e v ∧ final (m >>= f) w = final m w) ∨
      ∃ a, m w = .ok a (final m w) ∧ final (m >>= f) w = final (f a) (final m w) := by
  rcases h : m w with ⟨a, v⟩ | ⟨e, v⟩
  · rw [final_ok h]
    exact .inr ⟨a, rfl, by rw [final, bind_ok h]; rfl⟩
  · exact .inl ⟨e, v, rfl, by rw [final_error (bind_error h), final_error h]⟩

/-- What only computes a value leaves the world as it is. -/
theorem final_bind_value {m : Prog ι σ α} {f : α → Prog ι σ β} (hf : ∀ a v, final (f a) v = v)
    (w : World ι σ) : final (m >>= f) w = final m w := by
  rcases final_bind m f w with ⟨_, _, -, h⟩ | ⟨a, -, h⟩
  · exact h
  · rw [h, hf]

theorem final_zoom (get : σ → τ) (put : τ → σ → σ) (m : Prog ι τ α) (w : World ι σ) :
    (final (zoom get put m) w).st = put (final m ⟨w.script, get w.st⟩).st w.st := by
  unfold final zoom
  rcases m ⟨w.script, get w.st⟩ with ⟨a, v⟩ | ⟨e, v⟩ <;> rfl

/-! ## Properties that go through a program -/

/-- A property of programs that goes through sequences and loops. -/
structure Sequential (T : (α : Type) → Prog ι σ α → Prop) : Prop where
  pure : ∀ {α : Type} (a : α), T α (pure a)
  bind : ∀ {α β : Type} {m : Prog ι σ α} {f : α → Prog ι σ β},
    T α m → (∀ a, T β (f a)) → T β (m >>= f)
  read : T σ read
  loop : ∀ {α β : Type} {body : α → Prog ι σ (α ⊕ β)}, (∀ a, T (α ⊕ β) (body a)) →
    ∀ n a, T β (loop body n a)
  forever : ∀ {α β : Type} {body : α → Prog ι σ (α ⊕ β)}, (∀ a, T (α ⊕ β) (body a)) →
    ∀ a, T β (forever body a)

section Sequential

variable {T : (α : Type) → Prog ι σ α → Prop} (hT : Sequential T)
include hT

theorem Sequential.onlyIf {c : Prop} [Decidable c] {m : Prog ι σ Unit} (hm : c → T Unit m) :
    T Unit (onlyIf c m) := by
  unfold Scripted.onlyIf
  split
  · next hc => exact hm hc
  · exact hT.pure ()

theorem Sequential.foldlM {f : β → α → Prog ι σ β} (h : ∀ b a, T β (f b a)) (l : List α) (b : β) :
    T β (l.foldlM f b) := by
  induction l generalizing b with
  | nil => exact hT.pure b
  | cons a l ih =>
    rw [List.foldlM_cons]
    exact hT.bind (h b a) ih

end Sequential

/-! ## What a program does to its world -/

/-- Every outcome of `m` is `R`-related to the world it started in. -/
def Moves (R : World ι σ → World ι σ → Prop) (m : Prog ι σ α) : Prop :=
  ∀ w, R w (final m w)

section Moves

variable {R : World ι σ → World ι σ → Prop} [IsPreorder _ R]

theorem Moves.pure (a : α) : Moves R (pure a) := fun w => refl_of R w

theorem Moves.halt (h : Halt) : Moves R (halt h : Prog ι σ α) := fun w => refl_of R w

theorem Moves.read : Moves R read := fun w => refl_of R w

theorem Moves.bind {m : Prog ι σ α} {f : α → Prog ι σ β} (hm : Moves R m)
    (hf : ∀ a, Moves R (f a)) : Moves R (m >>= f) := by
  intro w
  rcases final_bind m f w with ⟨_, _, -, h⟩ | ⟨a, -, h⟩
  · rw [h]
    exact hm w
  · rw [h]
    exact trans_of R (hm w) (hf a _)

theorem Moves.loop {body : α → Prog ι σ (α ⊕ β)} (h : ∀ a, Moves R (body a)) (n : Nat) (a : α) :
    Moves R (loop body n a) := by
  induction n generalizing a with
  | zero => exact Moves.halt _
  | succ n ih =>
    refine Moves.bind (h a) ?_
    rintro (a' | b)
    · exact ih a'
    · exact Moves.pure b

theorem Moves.forever {body : α → Prog ι σ (α ⊕ β)} (h : ∀ a, Moves R (body a)) (a : α) :
    Moves R (forever body a) := fun w => Moves.loop h _ a w

theorem Moves.sequential : Sequential fun α (m : Prog ι σ α) => Moves R m where
  pure a := Moves.pure a
  bind hm hf := Moves.bind hm hf
  read := Moves.read
  loop h n a := Moves.loop h n a
  forever h a := Moves.forever h a

theorem Moves.onlyIf {c : Prop} [Decidable c] {m : Prog ι σ Unit} (hm : c → Moves R m) :
    Moves R (onlyIf c m) := Moves.sequential.onlyIf hm

theorem Moves.foldlM {f : β → α → Prog ι σ β} (h : ∀ b a, Moves R (f b a)) (l : List α) (b : β) :
    Moves R (l.foldlM f b) := Moves.sequential.foldlM h l b

end Moves

/-- The state keeps `I`. -/
def keeping (I : σ → Prop) (w v : World ι σ) : Prop := I w.st → I v.st

instance (I : σ → Prop) : IsPreorder (World ι σ) (keeping I) where
  refl _ := id
  trans _ _ _ h₁ h₂ h := h₂ (h₁ h)

abbrev Keeps (I : σ → Prop) (m : Prog ι σ α) : Prop := Moves (keeping I) m

/-- From `I`, every outcome of `m` is in `J`. -/
def Leads (I J : σ → Prop) (m : Prog ι σ α) : Prop := ∀ w, I w.st → J (final m w).st

section Leads

variable {I J : σ → Prop}

/-- What holds where the first half ended holds at the end if the second half keeps it. -/
theorem Leads.final_bind {m : Prog ι σ α} {f : α → Prog ι σ β} {w : World ι σ}
    (hm : J (final m w).st) (hf : ∀ a, Leads J J (f a)) : J (final (m >>= f) w).st := by
  rcases Scripted.final_bind m f w with ⟨_, _, -, h⟩ | ⟨a, -, h⟩
  · rw [h]
    exact hm
  · rw [h]
    exact hf a _ hm

theorem Leads.zoom {I' J' : τ → Prop} {get : σ → τ} {put : τ → σ → σ} {m : Prog ι τ α}
    (hm : Leads I' J' m) (hget : ∀ s, I s → I' (get s))
    (hput : ∀ t s, I s → J' t → J (put t s)) : Leads I J (zoom get put m) := by
  intro w hw
  rw [final_zoom]
  exact hput _ _ hw (hm ⟨w.script, get w.st⟩ (hget w.st hw))

end Leads

/-- From `P`, a run of `m` that returns with `a` ends in `Q a`, and one that stops ends in `C`. -/
def Triple (P : σ → Prop) (m : Prog ι σ α) (Q : α → σ → Prop) (C : σ → Prop) : Prop :=
  ∀ w, P w.st →
    (∀ a v, m w = .ok a v → Q a v.st) ∧ ∀ e v, m w = .error e v → C v.st

/-- What `f` reads off the state moves along `R`. -/
def along (f : σ → τ) (R : τ → τ → Prop) (w v : World ι σ) : Prop := R (f w.st) (f v.st)

instance (f : σ → τ) (R : τ → τ → Prop) [IsPreorder τ R] :
    IsPreorder (World ι σ) (along f R) where
  refl w := refl_of R (f w.st)
  trans _ _ _ h₁ h₂ := trans_of R h₁ h₂

/-- What `f` reads off the state stays as it is. -/
abbrev Preserves (f : σ → τ) (m : Prog ι σ α) : Prop := Moves (along f Eq) m

/-- No answer is put back. -/
def drawing (w v : World ι σ) : Prop := v.script.length ≤ w.script.length

instance : IsPreorder (World ι σ) drawing where
  refl _ := Nat.le_refl _
  trans _ _ _ h₁ h₂ := Nat.le_trans h₂ h₁

abbrev Draws (m : Prog ι σ α) : Prop := Moves drawing m

section Keeps

variable {I : σ → Prop}

theorem final_ask (w : World ι σ) : final ask w = ⟨w.script.tail, w.st⟩ := by
  obtain ⟨_ | ⟨i, is⟩, s⟩ := w <;> rfl

theorem st_final_askN (n : Nat) (w : World ι σ) : (final (askN n) w).st = w.st := by
  unfold final askN
  split_ifs <;> rfl

theorem Keeps.update {f : σ → σ} (h : ∀ s, I s → I (f s)) : Keeps (ι := ι) I (update f) :=
  fun w => h w.st

/-- A program on part of the state keeps what no change of that part can break. -/
theorem Keeps.zoom {get : σ → τ} {put : τ → σ → σ} (h : ∀ t s, I s → I (put t s))
    (m : Prog ι τ α) : Keeps I (zoom get put m) := by
  have hm : Leads (fun _ => True) (fun _ => True) m := fun _ _ => trivial
  exact hm.zoom (fun _ _ => trivial) fun t s hs _ => h t s hs

end Keeps

section Along

variable {γ : Type} {f : σ → γ} {R : γ → γ → Prop}

theorem Moves.update_along {g : σ → σ} (h : ∀ s, R (f s) (f (g s))) :
    Moves (along f R) (update g : Prog ι σ Unit) := fun w => h w.st

/-- A program on part of the state moves the whole as far as it moves that part. -/
theorem Moves.zoom {δ : Type} {get : σ → τ} {put : τ → σ → σ} {h : τ → δ} {S : δ → δ → Prop}
    {m : Prog ι τ α} (hm : Moves (along h S) m)
    (hput : ∀ t s, S (h (get s)) (h t) → R (f s) (f (put t s))) :
    Moves (along f R) (zoom get put m) := by
  intro w
  rw [along, final_zoom]
  exact hput _ _ (hm ⟨w.script, get w.st⟩)

/-- What goes along with `R` is kept. -/
theorem Moves.keeps {I : σ → Prop} {m : Prog ι σ α} (hm : Moves (along f R) m)
    (hI : ∀ s t, R (f s) (f t) → I s → I t) : Keeps I m := fun w => hI _ _ (hm w)

theorem Preserves.ask : Preserves f (ask : Prog ι σ ι) := fun w => by
  rw [along, final_ask]

theorem Preserves.askN (n : Nat) : Preserves f (askN n : Prog ι σ (List ι)) := fun w => by
  rw [along, st_final_askN]

/-- What is preserved is the same where the program has returned. -/
theorem Preserves.ok {m : Prog ι σ α} (hm : Preserves f m) {a : α} {w v : World ι σ}
    (h : m w = .ok a v) : f w.st = f v.st := by
  have hw : f w.st = f (final m w).st := hm w
  rwa [final_ok h] at hw

theorem Preserves.update {g : σ → σ} (h : ∀ s, f (g s) = f s) :
    Preserves f (update g : Prog ι σ Unit) := fun w => (h w.st).symm

end Along

section Triple

variable {P : σ → Prop} {Q : α → σ → Prop} {C : σ → Prop}

theorem Triple.pure {a : α} (h : ∀ s, P s → Q a s) : Triple P (pure a : Prog ι σ α) Q C := by
  intro w hw
  refine ⟨?_, ?_⟩
  · rintro b v ⟨⟩
    exact h w.st hw
  · rintro e v ⟨⟩

theorem Triple.halt (e : Halt) (h : ∀ s, P s → C s) : Triple P (halt e : Prog ι σ α) Q C := by
  intro w hw
  refine ⟨?_, ?_⟩
  · rintro a v ⟨⟩
  · rintro e v ⟨⟩
    exact h w.st hw

theorem Triple.update {g : σ → σ} {Q : Unit → σ → Prop} (h : ∀ s, P s → Q () (g s)) :
    Triple P (update g : Prog ι σ Unit) Q C := by
  intro w hw
  refine ⟨?_, ?_⟩
  · rintro a v ⟨⟩
    exact h w.st hw
  · rintro e v ⟨⟩

theorem Triple.mono {P' : σ → Prop} {Q' : α → σ → Prop} {C' : σ → Prop} {m : Prog ι σ α}
    (hm : Triple P m Q C) (hP : ∀ s, P' s → P s) (hQ : ∀ a s, Q a s → Q' a s)
    (hC : ∀ s, C s → C' s) : Triple P' m Q' C' := by
  intro w hw
  obtain ⟨hok, herror⟩ := hm w (hP w.st hw)
  exact ⟨fun a v h => hQ a v.st (hok a v h), fun e v h => hC v.st (herror e v h)⟩

theorem Triple.pre {P' : σ → Prop} {m : Prog ι σ α} (hm : Triple P m Q C)
    (hP : ∀ s, P' s → P s) : Triple P' m Q C := hm.mono hP (fun _ _ => id) fun _ => id

theorem Triple.and {P' : σ → Prop} {Q' : α → σ → Prop} {C' : σ → Prop} {m : Prog ι σ α}
    (h : Triple P m Q C) (h' : Triple P' m Q' C') :
    Triple (fun s => P s ∧ P' s) m (fun a s => Q a s ∧ Q' a s) (fun s => C s ∧ C' s) := by
  intro w hw
  obtain ⟨hok, herror⟩ := h w hw.1
  obtain ⟨hok', herror'⟩ := h' w hw.2
  exact ⟨fun a v hv => ⟨hok a v hv, hok' a v hv⟩, fun e v hv => ⟨herror e v hv, herror' e v hv⟩⟩

theorem Triple.bind {R : β → σ → Prop} {m : Prog ι σ α} {f : α → Prog ι σ β}
    (hm : Triple P m Q C) (hf : ∀ a, Triple (Q a) (f a) R C) : Triple P (m >>= f) R C := by
  intro w hw
  obtain ⟨hok, herror⟩ := hm w hw
  rcases h : m w with ⟨a, v⟩ | ⟨e, v⟩
  · rw [bind_ok h]
    exact hf a v (hok a v h)
  · rw [bind_error h]
    refine ⟨?_, ?_⟩
    · rintro b u ⟨⟩
    · rintro e' u ⟨⟩
      exact herror e v h

/-- Where the rest holds from anywhere, what came before does not count. -/
theorem Triple.skip {R : β → σ → Prop} {m : Prog ι σ α} {f : α → Prog ι σ β}
    (hf : ∀ a, Triple (fun _ => True) (f a) R fun _ => True) :
    Triple P (m >>= f) R fun _ => True :=
  Triple.bind (fun _ _ => ⟨fun _ _ _ => trivial, fun _ _ _ => trivial⟩) hf

/-- What the state says about values is a fact for the program. -/
theorem Triple.fact {φ : Prop} {m : Prog ι σ α} (hm : φ → Triple (fun _ => True) m Q C) :
    Triple (fun _ => φ) m Q C := fun w hw => hm hw w trivial

/-- What the state shows at the start may be named. -/
theorem Triple.ghost {γ : Type} {f : σ → γ} {m : Prog ι σ α}
    (hm : ∀ s, P s → Triple (fun t => f t = f s) m Q C) : Triple P m Q C :=
  fun w hw => hm w.st hw w rfl

/-- Reading the state fixes what the rest of the program has read. -/
theorem Triple.read_bind {R : β → σ → Prop} {f : σ → Prog ι σ β}
    (hf : ∀ s, P s → Triple (fun t => t = s) (f s) R C) : Triple P (read >>= f) R C :=
  fun w hw => hf w.st hw w rfl

/-- What every outcome keeps, the returning ones keep. -/
theorem Keeps.triple {m : Prog ι σ α} (hm : Keeps P m) (hC : ∀ s, P s → C s) :
    Triple P m (fun _ => P) C := by
  intro w hw
  have hv : P (final m w).st := hm w hw
  refine ⟨fun a v h => ?_, fun e v h => hC _ ?_⟩
  · rwa [final_ok h] at hv
  · rwa [final_error h] at hv

theorem Triple.keeps {m : Prog ι σ α} (hm : Triple P m (fun _ => P) P) : Keeps P m := by
  intro w hw
  obtain ⟨hok, herror⟩ := hm w hw
  show P (final m w).st
  rcases h : m w with ⟨a, v⟩ | ⟨e, v⟩
  · rw [final_ok h]
    exact hok a v h
  · rw [final_error h]
    exact herror e v h

/-- Where a run leads from one state, told as a triple. -/
theorem Moves.triple {S : σ → σ → Prop} {m : Prog ι σ α} (hm : Moves (along id S) m) (s : σ) :
    Triple (fun t => t = s) m (fun _ => S s) (S s) := by
  rintro w rfl
  have hv : S w.st (final m w).st := hm w
  refine ⟨fun a v h => ?_, fun e v h => ?_⟩
  · rwa [final_ok h] at hv
  · rwa [final_error h] at hv

theorem Triple.moves {S : σ → σ → Prop} {m : Prog ι σ α}
    (hm : ∀ s, Triple (fun t => t = s) m (fun _ => S s) (S s)) : Moves (along id S) m := by
  intro w
  obtain ⟨hok, herror⟩ := hm w.st w rfl
  show S w.st (final m w).st
  rcases h : m w with ⟨a, v⟩ | ⟨e, v⟩
  · rw [final_ok h]
    exact hok a v h
  · rw [final_error h]
    exact herror e v h

theorem Keeps.of_ok {m : Prog ι σ α} (hm : Keeps P m) {a : α} {w v : World ι σ}
    (h : m w = .ok a v) (hw : P w.st) : P v.st := by
  have hv : P (final m w).st := hm w hw
  rwa [final_ok h] at hv

theorem Triple.onlyIf {Q : σ → Prop} {c : Prop} [Decidable c] {m : Prog ι σ Unit}
    (hm : c → Triple P m (fun _ => Q) C) (hskip : ∀ s, P s → Q s) :
    Triple P (onlyIf c m) (fun _ => Q) C := by
  unfold Scripted.onlyIf
  split
  · next hc => exact hm hc
  · exact Triple.pure hskip

theorem Triple.zoom {P' : τ → Prop} {Q' : α → τ → Prop} {C' : τ → Prop} {get : σ → τ}
    {put : τ → σ → σ} {m : Prog ι τ α} (hm : Triple P' m Q' C') (hget : ∀ s, P s → P' (get s))
    (hput : ∀ a t s, P s → Q' a t → Q a (put t s)) (hstop : ∀ t s, P s → C' t → C (put t s)) :
    Triple P (zoom get put m) Q C := by
  intro w hw
  obtain ⟨hok, herror⟩ := hm ⟨w.script, get w.st⟩ (hget w.st hw)
  unfold Scripted.zoom
  rcases h : m ⟨w.script, get w.st⟩ with ⟨b, u⟩ | ⟨e, u⟩
  · refine ⟨?_, ?_⟩
    · rintro a v ⟨⟩
      exact hput _ _ _ hw (hok b u h)
    · rintro e v ⟨⟩
  · refine ⟨?_, ?_⟩
    · rintro a v ⟨⟩
    · rintro e v ⟨⟩
      exact hstop _ _ hw (herror _ u h)

/-- A loop whose rounds keep `I` on what they go on with ends where some round left it. -/
theorem Triple.loop {I : α → σ → Prop} {R : β → σ → Prop} {body : α → Prog ι σ (α ⊕ β)}
    (h : ∀ a, Triple (I a) (body a) (fun r s => Sum.elim (I · s) (R · s) r) C)
    (hC : ∀ a s, I a s → C s) (n : Nat) (a : α) : Triple (I a) (loop body n a) R C := by
  induction n generalizing a with
  | zero => exact Triple.halt _ (hC a)
  | succ n ih =>
    refine Triple.bind (h a) ?_
    rintro (a' | b)
    · exact ih a'
    · exact Triple.pure fun s hs => hs

theorem Triple.forever {I : α → σ → Prop} {R : β → σ → Prop} {body : α → Prog ι σ (α ⊕ β)}
    (h : ∀ a, Triple (I a) (body a) (fun r s => Sum.elim (I · s) (R · s) r) C)
    (hC : ∀ a s, I a s → C s) (a : α) : Triple (I a) (forever body a) R C :=
  fun w hw => Triple.loop h hC _ a w hw

/-- From `P` to `P`, but that a program that stops may stop in `C`. -/
theorem Triple.sequential (hC : ∀ s, P s → C s) :
    Sequential fun α (m : Prog ι σ α) => Triple P m (fun _ => P) C where
  pure a := Triple.pure fun _ => id
  bind hm hf := Triple.bind hm hf
  read := Keeps.triple Moves.read hC
  loop h n a := Triple.loop (I := fun _ => P)
    (fun a => (h a).mono (fun _ => id) (fun r s hs => by cases r <;> exact hs) fun _ => id)
    (fun _ => hC) n a
  forever h a := Triple.forever (I := fun _ => P)
    (fun a => (h a).mono (fun _ => id) (fun r s hs => by cases r <;> exact hs) fun _ => id)
    (fun _ => hC) a

end Triple

section Draws

theorem Draws.ask : Draws (ask : Prog ι σ ι) := fun w => by
  rw [final_ask]
  simp [drawing]

theorem Draws.askN (n : Nat) : Draws (askN n : Prog ι σ (List ι)) := fun w => by
  unfold final Scripted.askN drawing
  split_ifs <;> simp

theorem Draws.update (f : σ → σ) : Draws (update f : Prog ι σ Unit) := fun _ => Nat.le_refl _

end Draws

end Scripted
