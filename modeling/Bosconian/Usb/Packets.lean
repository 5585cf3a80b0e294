import Bosconian.Usb.Hid
import Bosconian.Usb.InTransfer

/-!
# How many packets an IN transfer takes

The loop of `XferInTransfer` ends with a short packet or with the last of `nbytes` bytes, and what
is short is up to the packet size that the device has given for itself, of which one byte is left.
With packets of no bytes at all nothing is short, and packets that bring nothing are asked for
again.

Main result: `packets_bounded_iff`.
-/

namespace Bosconian.Usb

open Scripted

/-! ## The count -/

/-- After `n` packets, with `x` bytes before them, the transfer asks for one more: none was short
and too few bytes have come. -/
def Unfinished (m nbytes : Nat) : Nat → Nat → List Nat → Prop
  | 0, _, _ => True
  | _ + 1, _, [] => False
  | n + 1, x, p :: ps => m ≤ p ∧ x + p < nbytes ∧ Unfinished m nbytes n (x + p) ps

/-- Packets that are not short bring a byte each. -/
theorem Unfinished.lt {m nbytes n x : Nat} {ps : List Nat} (h : Unfinished m nbytes n x ps)
    (hm : 0 < m) (hn : 0 < n) : x + n ≤ nbytes := by
  induction n generalizing x ps with
  | zero => exact absurd hn (Nat.lt_irrefl 0)
  | succ n ih =>
    cases ps with
    | nil => exact h.elim
    | cons p ps =>
      obtain ⟨hp, hx, hrest⟩ := h
      rcases Nat.eq_zero_or_pos n with rfl | hpos
      · omega
      · have := ih hrest hpos
        omega

/-- Where no packet is short, only the bytes count. -/
theorem unfinished_zero_iff {nbytes n x : Nat} {ps : List Nat} :
    Unfinished 0 nbytes n x ps ↔
      n ≤ ps.length ∧ (0 < n → x + (ps.take n).sum < nbytes) := by
  induction n generalizing x ps with
  | zero => simp [Unfinished]
  | succ n ih =>
    cases ps with
    | nil => simp [Unfinished]
    | cons p ps =>
      simp only [Unfinished, ih, List.length_cons, List.take_succ_cons, List.sum_cons,
        Nat.zero_le, true_and, Nat.succ_pos, forall_const, Nat.add_le_add_iff_right,
        Nat.add_assoc]
      rcases Nat.eq_zero_or_pos n with rfl | hpos
      · simp
      · simp only [hpos, forall_const]
        omega

/-! ## The loop -/

/-- The transfer with `n` IN packets at most: one more, and it does not return. -/
def xferInTransferUpTo (n : Nat) (addr ep : Byte) (nbytes : Word) (data : List Byte)
    (maxpktsize : Byte) : Driver (Byte × List Byte) := do
  let r ← epRecord addr ep
  maxRegWr rHCTL r.rcvToggle
  let (rcode, data) ← loop (inRound addr ep nbytes maxpktsize) n (0, ⟨data, 0⟩)
  return (rcode, data.bytes)

section Loop

variable (addr ep : Byte) (nbytes : Word) (maxpktsize : Byte)

/-- A packet that completes the transfer is the last one. -/
theorem endsWithin_of_done {p : Byte} {bytes : List Byte} {w v : World Dword Tables}
    (h : receivePkt ep w = .ok (.inr (p, bytes)) v) {x : Word} (data : Cursor)
    (hdone : p < maxpktsize ∨ nbytes ≤ x + p.setWidth 16) (n : Nat) :
    EndsWithin (inRound addr ep nbytes maxpktsize) (n + 1) (x, data) w := by
  have hround : inRound addr ep nbytes maxpktsize (x, data) w = (do
      saveToggle addr ep
      return .inr (0, data.write bytes) : Driver ((Word × Cursor) ⊕ Byte × Cursor)) v := by
    refine (bind_ok h).trans ?_
    show countPkt addr ep nbytes maxpktsize p (x + p.setWidth 16) (data.write bytes) v = _
    rw [countPkt, if_pos hdone]
  have hends := (accesses_inRound addr ep nbytes maxpktsize (x, data)).ends w
  intro u
  rw [loop]
  rcases hsave : saveToggle addr ep v with ⟨_, v'⟩ | ⟨e, v'⟩
  · rw [bind_ok (hround.trans (bind_ok hsave))]
    rintro ⟨⟩
  · have herror := hround.trans (bind_error hsave)
    rw [bind_error herror]
    rintro ⟨⟩
    exact hends _ herror

/-- Without a packet it is over as well. -/
theorem endsWithin_of_stop {w : World Dword Tables}
    (h : ∀ x v, receivePkt ep w ≠ .ok (.inr x) v) (s : Word × Cursor) (n : Nat) :
    EndsWithin (inRound addr ep nbytes maxpktsize) (n + 1) s w := by
  have hends := (accesses_receivePkt ep).ends w
  intro u
  rw [loop]
  rcases hw : receivePkt ep w with ⟨rcode | x, v⟩ | ⟨e, v⟩
  · have hround : inRound addr ep nbytes maxpktsize s w = .ok (.inr (rcode, s.2)) v := bind_ok hw
    rw [bind_ok hround]
    rintro ⟨⟩
  · exact absurd hw (h x v)
  · have hround : inRound addr ep nbytes maxpktsize s w = .error e v := bind_error hw
    rw [bind_error hround]
    rintro ⟨⟩
    exact hends _ hw

/-- The loop needs more than `n` rounds exactly when the first `n` packets leave it unfinished. -/
theorem endsWithin_inRound_iff (hn : nbytes.toNat ≤ 256) (n : Nat) (x : Word)
    (hx : x.toNat ≤ 256) (data : Cursor) (w : World Dword Tables) :
    EndsWithin (inRound addr ep nbytes maxpktsize) n (x, data) w ↔
      ¬ Unfinished maxpktsize.toNat nbytes.toNat n x.toNat (arrivals ep w.script) := by
  induction n generalizing x data w with
  | zero => exact iff_of_false (fun h => h w rfl) (not_not.2 trivial)
  | succ n ih =>
    rcases storesPacket_receivePkt ep w with ⟨p, bytes, v, hpkt, hlen, -⟩ | ⟨hno, -⟩
    · have hsum : (x + p.setWidth 16).toNat = x.toNat + p.toNat := by
        have hp := p.isLt
        simp only [BitVec.toNat_add, BitVec.toNat_setWidth]
        omega
      rw [arrivals_of_packet hpkt, hlen, Unfinished]
      by_cases hdone : p < maxpktsize ∨ nbytes ≤ x + p.setWidth 16
      · refine iff_of_true (endsWithin_of_done addr ep nbytes maxpktsize hpkt data hdone n) ?_
        rw [BitVec.lt_def, BitVec.le_def, hsum] at hdone
        omega
      · have hmore : inRound addr ep nbytes maxpktsize (x, data) w =
            .ok (.inl (x + p.setWidth 16, data.write bytes)) v := by
          refine (bind_ok hpkt).trans ?_
          show countPkt addr ep nbytes maxpktsize p (x + p.setWidth 16) (data.write bytes) v = _
          rw [countPkt, if_neg hdone]
          rfl
        have hrest := ih (x + p.setWidth 16) (by rw [BitVec.le_def, hsum] at hdone; omega)
          (data.write bytes) v
        rw [hsum] at hrest
        rw [EndsWithin, loop, bind_ok hmore]
        show EndsWithin _ n _ v ↔ _
        rw [hrest]
        rw [BitVec.lt_def, BitVec.le_def, hsum] at hdone
        have hgoes : maxpktsize.toNat ≤ p.toNat ∧ x.toNat + p.toNat < nbytes.toNat := by omega
        simp only [hgoes, true_and]
    · rw [arrivals_of_stop hno]
      exact iff_of_true (endsWithin_of_stop addr ep nbytes maxpktsize hno _ n) id

/-- The transfer takes `n` packets at most exactly when its endpoint is not there or its loop ends
within `n` rounds. -/
theorem upTo_iff_endsWithin (data : List Byte) (n : Nat) (w : World Dword Tables) :
    xferInTransfer addr ep nbytes data maxpktsize w =
        xferInTransferUpTo n addr ep nbytes data maxpktsize w ↔
      ∀ slot, w.st.epSlot addr ep = some slot →
        EndsWithin (inRound addr ep nbytes maxpktsize) n (0, ⟨data, 0⟩) ⟨w.script,
          { w.st with log := w.st.log ++ [.regWr rHCTL (w.st.epRecord slot).rcvToggle] }⟩ := by
  have hrec := epRecord_eq addr ep w
  rcases hslot : w.st.epSlot addr ep with _ | slot <;> rw [hslot] at hrec
  · rw [xferInTransfer, xferInTransferUpTo, bind_error hrec, bind_error hrec]
    simp
  · let v : World Dword Tables := ⟨w.script,
      { w.st with log := w.st.log ++ [.regWr rHCTL (w.st.epRecord slot).rcvToggle] }⟩
    have htoggle : maxRegWr rHCTL (w.st.epRecord slot).rcvToggle w = .ok () v := rfl
    have hloop := forever_eq (uses_inRound addr ep nbytes maxpktsize)
    have hends := ends_xferInTransfer addr ep nbytes maxpktsize data w
    rw [xferInTransfer, bind_ok hrec, bind_ok htoggle] at hends ⊢
    rw [xferInTransferUpTo, bind_ok hrec, bind_ok htoggle]
    constructor
    · rintro heq _ ⟨⟩ u hu
      rw [bind_error hu] at heq
      exact hends u heq
    · intro h
      exact bind_congr_left
        (EndsWithin.forever_eq (uses_inRound addr ep nbytes maxpktsize) (h slot rfl))

end Loop

/-- **An IN transfer ends** within `nbytes + 1` packets exactly when its endpoint is not there, the
low byte of the packet size is not zero, or the packets that arrive bring enough: no more than
`nbytes` of them come, or the first `nbytes + 1` carry `nbytes` bytes. No call of the program asks
for more than 256. -/
theorem packets_bounded_iff (addr ep : Byte) (nbytes : Word) (data : List Byte)
    (maxpktsize : Byte) (w : World Dword Tables) (hn : nbytes.toNat ≤ 256) :
    xferInTransfer addr ep nbytes data maxpktsize w =
        xferInTransferUpTo (nbytes.toNat + 1) addr ep nbytes data maxpktsize w ↔
      w.st.epSlot addr ep = none ∨ maxpktsize ≠ 0 ∨
        (arrivals ep w.script).length ≤ nbytes.toNat ∨
        nbytes.toNat ≤ ((arrivals ep w.script).take (nbytes.toNat + 1)).sum := by
  rw [upTo_iff_endsWithin]
  rcases hslot : w.st.epSlot addr ep with _ | slot
  · simp
  · have hzero : (0 : Word).toNat = 0 := rfl
    have hends := fun v => endsWithin_inRound_iff addr ep nbytes maxpktsize hn (nbytes.toNat + 1) 0
      (by decide) ⟨data, 0⟩ v
    rw [hzero] at hends
    simp only [Option.some.injEq, forall_eq', hends, reduceCtorEq, false_or]
    by_cases hmax : maxpktsize = 0
    · have hmaxpktsize : maxpktsize.toNat = 0 := by rw [hmax]; rfl
      rw [hmaxpktsize, unfinished_zero_iff]
      simp only [hmax, ne_eq, not_true_eq_false, false_or]
      omega
    · have hpos : 0 < maxpktsize.toNat := by
        refine Nat.pos_of_ne_zero fun h => hmax ?_
        exact BitVec.toNat_inj.1 h
      refine iff_of_true (fun hmore => ?_) (.inl hmax)
      have := hmore.lt hpos (Nat.succ_pos _)
      omega

/-! ## Empty packets -/

theorem one_lt_numdevices : 1 < usbNumdevices + 1 := Nat.succ_lt_succ (Nat.succ_pos _)

/-- A keyboard on endpoint 1 that says its packets have `size` bytes, and sends `n` empty ones. -/
def emptyPackets (size : Word) (n : Nat) : World Dword Tables :=
  ⟨(List.replicate n (acknowledged ++ [0x04, 0])).flatten,
    { Tables.powerUp with
      devtable := Tables.powerUp.devtable.set 1 ⟨.hidEp, hidK⟩ one_lt_numdevices
      hidEp := Tables.powerUp.hidEp.set 1 ⟨0x81, 3, size, 10, 0, 0⟩ Nat.one_lt_two
      hidDevice := ⟨1, 0⟩ }⟩

/-- With 8 for the size, the first empty packet ends a poll. -/
theorem packets_bounded_eight :
    xferInTransfer 1 1 8 [] ((8 : Word).setWidth 8) (emptyPackets 8 10) =
      xferInTransferUpTo 9 1 1 8 [] ((8 : Word).setWidth 8) (emptyPackets 8 10) :=
  (packets_bounded_iff 1 1 8 [] ((8 : Word).setWidth 8) (emptyPackets 8 10) (by decide)).2
    (.inr (.inl (by decide)))

/-- Of 256 nothing is left in a byte, and after nine empty packets a poll asks for the tenth. -/
theorem packets_not_bounded :
    ¬ xferInTransfer 1 1 8 [] ((256 : Word).setWidth 8) (emptyPackets 256 9) =
      xferInTransferUpTo 9 1 1 8 [] ((256 : Word).setWidth 8) (emptyPackets 256 9) := by
  intro h
  have hwaits : stopped (xferInTransfer 1 1 8 [] ((256 : Word).setWidth 8)) (emptyPackets 256 9) =
      some .waiting := by decide +kernel
  have hmore : stopped (xferInTransferUpTo 9 1 1 8 [] ((256 : Word).setWidth 8))
      (emptyPackets 256 9) = some .diverged := by decide +kernel
  rw [stopped_congr h, hmore] at hwaits
  cases hwaits

end Bosconian.Usb
