import Bosconian.Usb.Task

/-!
# Strings in place

`ConvUTF8ToStr` makes a string of bytes out of one of two-byte characters, in the buffer that it
reads from: round `i` writes cell `i` and reads cell `2 * i`, which no earlier round has written.
How many characters there are is computed from the length that the device gives, and one that is
too short for the header of its descriptor turns into 255 of them.

* `Gathered` — a loop that fills a list from itself, in place.
* `Compacts` — what the call is to do; `compacts_iff` says when it does.
-/

namespace Bosconian.Usb

open Scripted

/-! ## Gathering in place -/

section Gathered

variable {α : Type} {source : Nat → Nat} {orig xs : List α} {k : Nat}

/-- The first `k` cells hold what `source` names, and the others are intact. -/
structure Gathered (source : Nat → Nat) (orig xs : List α) (k : Nat) : Prop where
  filled : ∀ i < k, xs[i]? = orig[source i]?
  intact : ∀ i, k ≤ i → xs[i]? = orig[i]?

theorem gathered_zero : Gathered source orig orig 0 :=
  ⟨fun _ hi => absurd hi (Nat.not_lt_zero _), fun _ _ => rfl⟩

/-- The cell that is read lies no earlier than the one that is written, so it is intact. -/
theorem Gathered.set (h : Gathered source orig xs k) (hsource : k ≤ source k) {a : α}
    (ha : xs[source k]? = some a) : Gathered source orig (xs.set k a) (k + 1) := by
  obtain ⟨hlt, -⟩ := List.getElem?_eq_some_iff.1 ha
  refine ⟨fun i hi => ?_, fun i hi => ?_⟩
  · by_cases hik : i = k
    · rw [hik, List.getElem?_set_self (hsource.trans_lt hlt), ← ha, h.intact _ hsource]
    · rw [List.getElem?_set_ne (Ne.symm hik), h.filled i (by omega)]
  · rw [List.getElem?_set_ne (by omega), h.intact i (by omega)]

end Gathered

/-! ## The loop -/

/-- One round of the loop in `ConvUTF8ToStr`. -/
def convRound (utf8 : List Byte) (i : Nat) : Driver (List Byte) := do
  stringWr utf8 i (← stringRd utf8 (2 * i))

/-- What the first `k` rounds read and write. -/
def roundAccesses (k : Nat) : List Access :=
  (List.range k).flatMap fun i => [.stringRd (2 * i), .stringWr i]

theorem roundAccesses_succ (k : Nat) :
    roundAccesses (k + 1) = roundAccesses k ++ [.stringRd (2 * k), .stringWr k] := by
  simp [roundAccesses, List.range_succ]

theorem index_lt_of_mem_roundAccesses {i k : Nat}
    (h : .stringRd i ∈ roundAccesses k ∨ .stringWr i ∈ roundAccesses k) : i < 2 * k := by
  simp only [roundAccesses, List.mem_flatMap, List.mem_range, List.mem_cons, List.not_mem_nil,
    Access.stringRd.injEq, Access.stringWr.injEq, reduceCtorEq, or_false, false_or] at h
  rcases h with ⟨j, hj, rfl⟩ | ⟨j, hj, rfl⟩ <;> omega

theorem convRound_eq {utf8 : List Byte} {i : Nat} {b : Byte} (h : utf8[2 * i]? = some b)
    (w : World Dword Tables) :
    convRound utf8 i w = .ok (utf8.set i b)
      ⟨w.script, { w.st with log := w.st.log ++ [.stringRd (2 * i), .stringWr i] }⟩ := by
  have hread : stringRd utf8 (2 * i) w =
      .ok b ⟨w.script, { w.st with log := w.st.log ++ [.stringRd (2 * i)] }⟩ := by
    rw [stringRd, h]
    rfl
  have hlog : w.st.log ++ [.stringRd (2 * i), .stringWr i] =
      w.st.log ++ [.stringRd (2 * i)] ++ [.stringWr i] := by simp
  rw [convRound, bind_ok hread, hlog]
  rfl

/-- The rounds that find their characters in the buffer gather them at its start. -/
theorem foldlM_convRound {utf8 : List Byte} {k : Nat} (hk : 2 * k ≤ utf8.length + 1)
    (w : World Dword Tables) :
    ∃ xs, (List.range k).foldlM convRound utf8 w =
        .ok xs ⟨w.script, { w.st with log := w.st.log ++ roundAccesses k }⟩ ∧
      Gathered (2 * ·) utf8 xs k := by
  induction k with
  | zero =>
    refine ⟨utf8, ?_, gathered_zero⟩
    rw [roundAccesses, List.range_zero, List.flatMap_nil, List.append_nil]
    rfl
  | succ k ih =>
    obtain ⟨xs, hrun, hxs⟩ := ih (by omega)
    have hlt : 2 * k < utf8.length := by omega
    have hintact : xs[2 * k]? = some utf8[2 * k] := by
      rw [hxs.intact _ (by omega), List.getElem?_eq_getElem hlt]
    refine ⟨_, ?_, hxs.set (by omega) hintact⟩
    rw [List.range_succ, List.foldlM_append, bind_ok hrun, List.foldlM_cons,
      bind_ok (convRound_eq hintact _), roundAccesses_succ, List.append_assoc]
    rfl

/-- A string whose characters all lie in the buffer, with room for the zero, is compacted. -/
theorem convUTF8ToStr_eq {utf8 : List Byte} {length : Byte}
    (hread : 2 * length.toNat ≤ utf8.length + 1) (hwrite : length.toNat < utf8.length)
    (w : World Dword Tables) :
    ∃ out, convUTF8ToStr utf8 length w = .ok out ⟨w.script, { w.st with
        log := w.st.log ++ (roundAccesses length.toNat ++ [.stringWr length.toNat]) }⟩ ∧
      (∀ i < length.toNat, out[i]? = utf8[2 * i]?) ∧ out[length.toNat]? = some 0 := by
  obtain ⟨xs, hrun, hxs⟩ := foldlM_convRound hread w
  have hcell : xs[length.toNat]? = some utf8[length.toNat] := by
    rw [hxs.intact _ (Nat.le_refl _), List.getElem?_eq_getElem hwrite]
  obtain ⟨hlt, -⟩ := List.getElem?_eq_some_iff.1 hcell
  refine ⟨xs.set length.toNat 0, ?_, fun i hi => ?_, List.getElem?_set_self hlt⟩
  · have hloop : convUTF8ToStr utf8 length =
        (List.range length.toNat).foldlM convRound utf8 >>= fun utf8 =>
          stringWr utf8 length.toNat 0x00 := rfl
    rw [hloop, bind_ok hrun, ← List.append_assoc]
    rfl
  · rw [List.getElem?_set_ne (by omega), hxs.filled i hi]

/-! ## Past the end -/

/-- A read is logged, also when no answer comes. -/
theorem log_stringRd (utf8 : List Byte) (i : Nat) (w : World Dword Tables) :
    (final (stringRd utf8 i) w).st.log = w.st.log ++ [.stringRd i] := by
  obtain ⟨is, t⟩ := w
  rw [stringRd]
  cases utf8[i]? with
  | some b => rfl
  | none => cases is <;> rfl

theorem log_stringWr (utf8 : List Byte) (i : Nat) (b : Byte) (w : World Dword Tables) :
    (final (stringWr utf8 i b) w).st.log = w.st.log ++ [.stringWr i] := rfl

/-- With more characters than the buffer holds, the first one behind it is read. -/
theorem convUTF8ToStr_past {utf8 : List Byte} {m : Nat} (hlen : utf8.length = 2 * m)
    {length : Byte} (hm : m < length.toNat) (w : World Dword Tables) :
    w.st.log ++ roundAccesses m ++ [.stringRd (2 * m)] <+:
      (final (convUTF8ToStr utf8 length) w).st.log := by
  let seen (t : Tables) : Prop := w.st.log ++ roundAccesses m ++ [.stringRd (2 * m)] <+: t.log
  have hwrite (utf8 : List Byte) (i : Nat) (b : Byte) : Leads seen seen (stringWr utf8 i b) :=
    fun v hv => hv.trans (log_stringWr utf8 i b v ▸ List.prefix_append _ _)
  have hread (utf8 : List Byte) (i : Nat) : Leads seen seen (stringRd utf8 i) :=
    fun v hv => hv.trans (log_stringRd utf8 i v ▸ List.prefix_append _ _)
  have hround (utf8 : List Byte) (i : Nat) : Keeps seen (convRound utf8 i) :=
    Moves.bind (hread utf8 _) fun b => hwrite utf8 i b
  have hfits : 2 * m ≤ utf8.length + 1 := by omega
  obtain ⟨xs, hrun, -⟩ := foldlM_convRound hfits w
  obtain ⟨rest, hrange⟩ : ∃ rest, List.range length.toNat = List.range m ++ m :: rest := by
    obtain ⟨d, hd⟩ := Nat.exists_eq_add_of_lt hm
    rw [hd, Nat.add_assoc, List.range_add, List.range_succ_eq_map, List.map_cons]
    exact ⟨_, rfl⟩
  have hloop : convUTF8ToStr utf8 length =
      (List.range length.toNat).foldlM convRound utf8 >>= fun utf8 =>
        stringWr utf8 length.toNat 0x00 := rfl
  rw [hloop]
  refine Leads.final_bind (J := seen) ?_ fun utf8 => hwrite utf8 _ _
  rw [hrange, List.foldlM_append, final_congr (bind_ok hrun), List.foldlM_cons]
  refine Leads.final_bind (J := seen) ?_ fun utf8 => Moves.foldlM hround rest utf8
  refine Leads.final_bind (J := seen) ?_ fun b => hwrite xs m b
  show _ <+: _
  rw [log_stringRd]

/-! ## The call -/

/-- `ConvUTF8ToStr(strDesc.bString, (strDesc.bLength>>1)-1)`: in a string descriptor `bLength` is
the byte 0, and `bString` begins at 2. -/
def convStringDescriptor (strDesc : List Byte) : Driver (List Byte) :=
  convUTF8ToStr (strDesc.drop 2) ((strDesc.getD 0 0 >>> 1) - 1)

theorem fetchString_eq (index : Byte) :
    fetchString index = (do
      let strDesc ← uninitialised 256
      let (_, strDesc) ← xferGetStrDescr 0 0 2 index langEnUs strDesc
      let bLength := strDesc.getD 0 0
      let (_, strDesc) ← xferGetStrDescr 0 0 (bLength.setWidth 16) index langEnUs strDesc
      let _ ← convStringDescriptor strDesc) := rfl

/-- What the program reads and writes from `w` on. -/
def accessesOf {α : Type} (m : Driver α) (w : World Dword Tables) : List Access :=
  (final m w).st.log.drop w.st.log.length

section Descriptor

variable (strDesc : Vector Byte 256)

def bString : List Byte := strDesc.toList.drop 2

/-- The second argument, as the `BYTE` that it is passed as. -/
def stringLength : Byte := (strDesc[0] >>> 1) - 1

/-- The call stays inside `bString`, returns, and leaves every other byte of it at its start, with
a zero behind them. -/
structure Compacts (w : World Dword Tables) : Prop where
  inBounds : ∀ i, .stringRd i ∈ accessesOf (convStringDescriptor strDesc.toList) w ∨
    .stringWr i ∈ accessesOf (convStringDescriptor strDesc.toList) w → i < 254
  compacted : ∃ out v, convStringDescriptor strDesc.toList w = .ok out v ∧
    (∀ i < (stringLength strDesc).toNat, out[i]? = (bString strDesc)[2 * i]?) ∧
    out[(stringLength strDesc).toNat]? = some 0

end Descriptor

theorem length_bString (strDesc : Vector Byte 256) : (bString strDesc).length = 254 := by
  simp [bString]

theorem convStringDescriptor_eq (strDesc : Vector Byte 256) :
    convStringDescriptor strDesc.toList =
      convUTF8ToStr (bString strDesc) (stringLength strDesc) := by
  have hlength : strDesc.toList.getD 0 0 = strDesc[0] := by
    simp [List.getD_eq_getElem?_getD]
  rw [convStringDescriptor, hlength, bString, stringLength]

/-- A length that is shorter than the header of the descriptor wraps, and the reads run on past the
end of the buffer. -/
theorem stringRd_past {strDesc : Vector Byte 256} (h : ¬ 2 ≤ strDesc[0])
    (w : World Dword Tables) :
    .stringRd 254 ∈ accessesOf (convStringDescriptor strDesc.toList) w := by
  have hwraps : ∀ b : Byte, ¬ 2 ≤ b → ((b >>> 1) - 1).toNat = 255 := by decide
  have hm : 127 < (stringLength strDesc).toNat := by
    rw [stringLength, hwraps _ h]
    omega
  obtain ⟨later, hlater⟩ := convUTF8ToStr_past (length_bString strDesc) hm w
  rw [accessesOf, convStringDescriptor_eq, ← hlater]
  simp [List.append_assoc]

/-- **A string is compacted in place, inside its buffer**, exactly when its descriptor is at least
as long as its own header. -/
theorem compacts_iff (strDesc : Vector Byte 256) (w : World Dword Tables) :
    Compacts strDesc w ↔ 2 ≤ strDesc[0] := by
  constructor
  · intro h
    by_contra hshort
    exact absurd (h.inBounds 254 (.inl (stringRd_past hshort w))) (Nat.lt_irrefl _)
  · intro hlong
    have hbound : ∀ b : Byte, 2 ≤ b → ((b >>> 1) - 1).toNat ≤ 126 := by decide
    have hle : (stringLength strDesc).toNat ≤ 126 := hbound _ hlong
    have hlen := length_bString strDesc
    have hread : 2 * (stringLength strDesc).toNat ≤ (bString strDesc).length + 1 := by omega
    have hwrite : (stringLength strDesc).toNat < (bString strDesc).length := by omega
    obtain ⟨out, hrun, hfilled, hzero⟩ := convUTF8ToStr_eq hread hwrite w
    rw [← convStringDescriptor_eq] at hrun
    refine ⟨fun i hi => ?_, out, _, hrun, hfilled, hzero⟩
    rw [accessesOf, final_ok hrun, List.drop_left] at hi
    simp only [List.mem_append, List.mem_singleton, reduceCtorEq, or_false,
      Access.stringWr.injEq] at hi
    rcases hi with hi | hi | hi
    · exact (index_lt_of_mem_roundAccesses (.inl hi)).trans_le (by omega)
    · exact (index_lt_of_mem_roundAccesses (.inr hi)).trans_le (by omega)
    · omega

/-- A descriptor that says it has no bytes. -/
def emptyDescriptor : Vector Byte 256 := Vector.replicate 256 0

theorem not_compacts_empty : ¬ Compacts emptyDescriptor ⟨[], .powerUp⟩ := by
  intro h
  have hshort : ¬ 2 ≤ emptyDescriptor[0] := by decide
  exact absurd (h.inBounds 254 (.inl (stringRd_past hshort _))) (Nat.lt_irrefl _)

end Bosconian.Usb
