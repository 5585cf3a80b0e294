import Bosconian.Usb.Reports

/-!
# What the game is told of the keyboard

The game reads one key from a port, and `main` writes it after a poll that has gone through. Of a
report only the third byte counts, and if the report was shorter it is the third byte of an earlier
one. No other call of `main` touches the port.

* `SparesKey` — a program that does not write the port; the whole driver is made of such.
* `bootPoll_ok` — a poll lays what the FIFO gave over the buffer, and nothing else.
* `poll_outcome`, `step_of_not_polls` — a call of `main`, as the port and the buffer see it.
-/

namespace Bosconian.Usb

open Scripted

/-! ## The port -/

abbrev SparesKey {α : Type} (m : Driver α) : Prop := Preserves Tables.keyWrites m

theorem sparesKey_of_accesses {α : Type} {m : Driver α}
    (hm : Accesses (fun e => e.keyWrite = none) m) : SparesKey m :=
  hm.moves (allows_log fun log e he => by
    rw [List.filterMap_append, List.filterMap_cons_none he, List.filterMap_nil, List.append_nil])

/-- The port has had the same writes. -/
def SameKeys (t t' : Tables) : Prop := t.keyWrites = t'.keyWrites

instance : IsPreorder Tables SameKeys where
  refl _ := rfl
  trans _ _ _ h₁ h₂ := h₁.trans h₂

theorem footprint_sameKeys : Footprint SameKeys where
  access t e he := by
    show t.keyWrites = (t.log ++ [e]).filterMap Access.keyWrite
    rw [List.filterMap_append, List.filterMap_cons_none he, List.filterMap_nil, List.append_nil]
    rfl
  tables t t' hlog _ := by rw [SameKeys, Tables.keyWrites, Tables.keyWrites, hlog]
  confDescr addr nbytes := by
    have hreq (data : List Byte) : SparesKey (xferGetConfDescr addr 0 nbytes 0 data) :=
      sparesKey_of_accesses ((accesses_xferCtrlReq _ _ _ _ _ _ _ _ _).mono
        fun _ => Access.OfTransfer.keyWrite)
    have hmoves : SparesKey (confDescrToBigbuf addr nbytes) := by
      refine Moves.bind Moves.read fun t => ?_
      refine Moves.bind (hreq t.bigbuf) fun r => ?_
      exact Moves.bind (Preserves.update fun _ => rfl) fun _ => Moves.pure _
    exact hmoves

/-! ## A poll -/

/-- The bytes that a burst read has brought. -/
def Access.bytes : Access → List Byte
  | .bytesRd _ bytes => bytes
  | _ => []

/-- All bytes that have come out of the FIFO. -/
def Tables.received (t : Tables) : List Byte := t.log.flatMap Access.bytes

@[simp] theorem Tables.received_keyWritten (val : Dword) (t : Tables) :
    (t.keyWritten val).received = t.received := by
  simp [Tables.keyWritten, Tables.received, Access.bytes]

/-- While a transfer receives, `got` is what the FIFO has given since `before`, and the port is
left alone. -/
def Got (before : List Byte) (writes : List Dword) (got : List Byte) (log : List Access) : Prop :=
  log.flatMap Access.bytes = before ++ got ∧ log.filterMap Access.keyWrite = writes

theorem receives_got (before : List Byte) (writes : List Dword) : Receives (Got before writes) where
  ofRegister := by
    rintro got log e he ⟨hbytes, hwrites⟩
    have hnone : e.bytes = [] := by
      cases e with
      | bytesRd => exact he.elim
      | _ => rfl
    refine ⟨?_, ?_⟩
    · simpa [hnone] using hbytes
    · simpa [he.ofTransfer.keyWrite] using hwrites
  fifo := by
    rintro got log reg bytes ⟨hbytes, hwrites⟩
    refine ⟨?_, ?_⟩
    · simp [hbytes, Access.bytes]
    · rw [List.filterMap_append, List.filterMap_cons_none rfl, List.filterMap_nil, List.append_nil]
      exact hwrites

/-- A poll lays what it has received over the buffer. -/
theorem triple_bootPoll (t : Tables) (buf : List Byte) :
    Triple (fun s => s = t) (bootPoll buf)
      (fun r s => ∃ got, r.2 = overlay got buf ∧ Got t.received t.keyWrites got s.log)
      fun s => ∃ got, Got t.received t.keyWrites got s.log := by
  refine (receives_got t.received t.keyWrites).bootPoll buf ?_
  rintro s addr rfl
  refine ⟨?_, ?_⟩
  · simp [Tables.received, Access.bytes]
  · simp [Tables.keyWrites, Access.keyWrite]

section Poll

variable {t : Tables} {buf : List Byte} {answers : List Dword} {v : World Dword Tables}

theorem bootPoll_ok {rcode : Byte} {bytes : List Byte}
    (h : bootPoll buf ⟨answers, t⟩ = .ok (rcode, bytes) v) :
    bytes = overlay (v.st.received.drop t.received.length) buf ∧
      v.st.keyWrites = t.keyWrites := by
  obtain ⟨got, hbytes, hreceived, hwrites⟩ := (triple_bootPoll t buf ⟨answers, t⟩ rfl).1 _ v h
  have hgot : v.st.received.drop t.received.length = got := by
    rw [show v.st.received = t.received ++ got from hreceived, List.drop_left]
  refine ⟨?_, hwrites⟩
  rw [hgot]
  exact hbytes

theorem bootPoll_error {e : Halt} (h : bootPoll buf ⟨answers, t⟩ = .error e v) :
    v.st.keyWrites = t.keyWrites := by
  obtain ⟨got, -, hwrites⟩ := (triple_bootPoll t buf ⟨answers, t⟩ rfl).2 e v h
  exact hwrites

end Poll

/-! ## The calls of `main` -/

namespace Main

/-- What the FIFO gives during a call. -/
def report (m : Main) (answers : List Dword) : List Byte :=
  (m.step answers).received.drop m.received.length

theorem step_of_not_polls {m : Main} (h : ¬ m.PollsKeyboard) (answers : List Dword) :
    (m.step answers).kbdbuf = m.kbdbuf ∧ (m.step answers).keyWrites = m.keyWrites := by
  by_cases hmouse : m.PollsMouse
  · rw [step_of_pollMouse hmouse]
    rcases hrun : bootPoll m.buf ⟨answers, m.toTables⟩ with ⟨⟨rcode, buf⟩, v⟩ | ⟨e, v⟩
    · exact ⟨rfl, (bootPoll_ok hrun).2⟩
    · exact ⟨rfl, bootPoll_error hrun⟩
  · obtain ⟨htables, -, hkbdbuf⟩ := touches_step footprint_sameKeys h hmouse answers
    exact ⟨hkbdbuf, htables.symm⟩

/-- A poll that comes back leaves the report over the buffer, and if it went through the third byte
is on the port. One that does not come back leaves both alone. -/
theorem poll_outcome {m : Main} (h : m.PollsKeyboard) (answers : List Dword) :
    ((m.step answers).call = none ∧ (m.step answers).kbdbuf = m.kbdbuf ∧
        (m.step answers).keyWrites = m.keyWrites) ∨
      ((m.step answers).call ≠ none ∧
        (m.step answers).kbdbuf = overlay (m.report answers) m.kbdbuf ∧
        (m.step answers).keyWrites = m.keyWrites ++
          if (polled m.kbdbuf m answers).isSome then
            [((m.step answers).kbdbuf.getD 2 0).setWidth 32]
          else []) := by
  rw [report, step_of_pollKeyboard h, polled, returned]
  rcases hrun : bootPoll m.kbdbuf ⟨answers, m.toTables⟩ with ⟨⟨rcode, kbdbuf⟩, v⟩ | ⟨e, v⟩
  · obtain ⟨hbytes, hwrites⟩ := bootPoll_ok hrun
    refine .inr ⟨Option.some_ne_none _, ?_⟩
    by_cases hzero : rcode = 0
    · simp only [hzero, if_true, Option.bind_some, Option.isSome_some]
      refine ⟨?_, ?_⟩
      · show kbdbuf = overlay (List.drop _ (v.st.keyWritten _).received) m.kbdbuf
        rw [Tables.received_keyWritten]
        exact hbytes
      · show (v.st.keyWritten _).keyWrites = _
        rw [Tables.keyWrites_keyWritten, hwrites]
    · simp only [hzero, if_false, Option.bind_some, Option.isSome_none, Bool.false_eq_true,
        List.append_nil]
      exact ⟨hbytes, hwrites⟩
  · exact .inl ⟨rfl, rfl, bootPoll_error hrun⟩

end Main

end Bosconian.Usb
