import Bosconian.Usb.Hid

/-!
# What an IN transfer stores

`XferInTransfer` empties the FIFO into the destination before it compares the number of bytes
with `nbytes`. How much it stores is therefore up to the packets that arrive: `Fits` says of
their sizes when each one finds room.
-/

namespace Bosconian.Usb

open Scripted

/-! ## Packets -/

/-- The accesses of `m` store nothing. -/
def storingNothing (w v : World Dword Tables) : Prop := stored v.st.log = stored w.st.log

instance : IsPreorder (World Dword Tables) storingNothing where
  refl _ := rfl
  trans _ _ _ h₁ h₂ := h₂.trans h₁

theorem allows_storingNothing : Allows Access.StoresNothing storingNothing where
  ask w := by
    rw [storingNothing, final_ask]
  askN n w := by
    rw [storingNothing, st_final_askN]
  emit e he w := by
    show stored (w.st.log ++ [e]) = stored w.st.log
    rw [stored_append, he, Nat.add_zero]
  tables f hf w := by
    show stored (f w.st).log = stored w.st.log
    rw [(hf w.st).1]

theorem moves_storingNothing {α : Type} {m : Driver α} (hm : Accesses Access.OfRegister m) :
    Moves storingNothing m := hm.storesNothing.moves allows_storingNothing

/-- Either the answers run out, or the FIFO is read as asked and its bytes are stored. -/
theorem maxBytesRd_outcome (reg nbytes : Byte) (w : World Dword Tables) :
    (∃ e v, maxBytesRd reg nbytes w = .error e v ∧ stored v.st.log = stored w.st.log) ∨
      ∃ bytes v, maxBytesRd reg nbytes w = .ok bytes v ∧ bytes.length = nbytes.toNat ∧
        stored v.st.log = stored w.st.log + nbytes.toNat := by
  by_cases h : nbytes.toNat ≤ w.script.length
  · have hask : (askN nbytes.toNat : Driver (List Dword)) w =
        .ok (w.script.take nbytes.toNat) ⟨w.script.drop nbytes.toNat, w.st⟩ := by
      rw [askN, if_pos h]
    refine .inr ⟨_, _, bind_ok hask, ?_, ?_⟩
    · simp [h]
    · show stored (w.st.log ++ [_]) = _
      rw [stored_append]
      simp [Access.stored, h]
  · have hask : (askN nbytes.toNat : Driver (List Dword)) w = .error .waiting w := by
      rw [askN, if_neg h]
    exact .inl ⟨_, _, bind_error hask, rfl⟩

/-- A packet that comes stores its `pktsize` bytes, and without one nothing is stored. -/
def StoresPacket (m : Driver (Byte ⊕ Byte × List Byte)) : Prop :=
  ∀ w, (∃ p bytes v, m w = .ok (.inr (p, bytes)) v ∧ bytes.length = p.toNat ∧
      stored v.st.log = stored w.st.log + p.toNat) ∨
    (∀ x v, m w ≠ .ok (.inr x) v) ∧ storingNothing w (final m w)

theorem StoresPacket.inl (rcode : Byte) : StoresPacket (pure (.inl rcode)) := by
  intro w
  refine .inr ⟨?_, rfl⟩
  intro x v h
  cases h

theorem StoresPacket.bind {α : Type} {m : Driver α} {f : α → Driver (Byte ⊕ Byte × List Byte)}
    (hm : Moves storingNothing m) (hf : ∀ a, StoresPacket (f a)) : StoresPacket (m >>= f) := by
  intro w
  have hw : storingNothing w (final m w) := hm w
  rcases h : m w with ⟨a, v⟩ | ⟨e, v⟩
  · rw [final_ok h] at hw
    rw [final, bind_ok h]
    rcases hf a v with ⟨p, bytes, u, hp, hlen, hu⟩ | ⟨hno, hu⟩
    · exact .inl ⟨p, bytes, u, hp, hlen, by rw [hu, hw]⟩
    · exact .inr ⟨hno, hu.trans hw⟩
  · rw [final_error h] at hw
    rw [final, bind_error h]
    refine .inr ⟨?_, hw⟩
    intro x v h
    cases h

theorem storesPacket_fifo (p : Byte) : StoresPacket (do
    let bytes ← maxBytesRd rRCVFIFO p
    maxRegWr rHIRQ bmRCVDAVIRQ
    return .inr (p, bytes)) := by
  intro w
  rcases maxBytesRd_outcome rRCVFIFO p w with ⟨e, v, h, hv⟩ | ⟨bytes, v, h, hlen, hv⟩
  · rw [final, bind_error h]
    refine .inr ⟨?_, hv⟩
    intro x v h
    cases h
  · refine .inl ⟨p, bytes, _, bind_ok h, hlen, ?_⟩
    rw [← hv]
    exact moves_storingNothing (accesses_maxRegWr (by decide) bmRCVDAVIRQ) v

theorem storesPacket_receivePkt (ep : Byte) : StoresPacket (receivePkt ep) := by
  apply StoresPacket.bind (moves_storingNothing (accesses_xferDispatchPkt tokIN ep))
  intro rcode
  split
  · exact StoresPacket.inl rcode
  · apply StoresPacket.bind (moves_storingNothing (accesses_maxRegRd rHIRQ))
    intro _
    split
    · exact StoresPacket.inl 0xf0
    · exact StoresPacket.bind (moves_storingNothing (accesses_maxRegRd rRCVBC)) storesPacket_fifo

/-! ## Arrivals -/

/-- The sizes of the packets that the answers `is` deliver to endpoint `ep`, one IN after the
other, until one fails or the answers end. The tables play no part in it. -/
def arrivals (ep : Byte) (is : List Dword) : List Nat :=
  match _h : receivePkt ep ⟨is, .powerUp⟩ with
  | .ok (.inr (_, bytes)) v => bytes.length :: arrivals ep v.script
  | .ok (.inl _) _ | .error _ _ => []
termination_by is.length
decreasing_by exact uses_receivePkt ep _ _ _ _h

/-- Which packets arrive is the same whatever the tables hold. -/
theorem sameResult_receivePkt (ep : Byte) (w : World Dword Tables) :
    SameResult (fun _ _ => True) (receivePkt ep w) (receivePkt ep ⟨w.script, .powerUp⟩) :=
  related_receivePkt (fun _ _ _ _ => trivial) ep w.script w.st .powerUp trivial

theorem arrivals_of_packet {ep p : Byte} {bytes : List Byte} {w v : World Dword Tables}
    (h : receivePkt ep w = .ok (.inr (p, bytes)) v) :
    arrivals ep w.script = bytes.length :: arrivals ep v.script := by
  have hsame := sameResult_receivePkt ep w
  rw [h] at hsame
  rw [arrivals]
  split
  · next h' =>
    rw [h'] at hsame
    obtain ⟨heq, hscript, -⟩ := hsame
    cases heq
    rw [hscript]
  · next h' =>
    rw [h'] at hsame
    exact nomatch hsame.1
  · next h' =>
    rw [h'] at hsame
    exact hsame.elim

theorem arrivals_of_stop {ep : Byte} {w : World Dword Tables}
    (h : ∀ x v, receivePkt ep w ≠ .ok (.inr x) v) : arrivals ep w.script = [] := by
  have hsame := sameResult_receivePkt ep w
  rw [arrivals]
  split
  · next h' =>
    rw [h'] at hsame
    rcases hw : receivePkt ep w with ⟨x, v⟩ | ⟨e, v⟩
    · rw [hw] at hsame
      obtain ⟨rfl, -⟩ := hsame
      exact absurd hw (h _ v)
    · rw [hw] at hsame
      exact hsame.elim
  · rfl
  · rfl

/-- With room for `n` bytes and a full packet of `m`, no packet is larger than the room that is
left, up to the short packet or the last byte that ends the transfer. -/
def Fits (m : Nat) : Nat → List Nat → Prop
  | _, [] => True
  | n, p :: ps => p ≤ n ∧ (m ≤ p → p < n → Fits m (n - p) ps)

instance decidableFits (m : Nat) : (n : Nat) → (ps : List Nat) → Decidable (Fits m n ps)
  | _, [] => isTrue trivial
  | n, p :: ps =>
    have := decidableFits m (n - p) ps
    inferInstanceAs (Decidable (p ≤ n ∧ (m ≤ p → p < n → Fits m (n - p) ps)))

/-! ## The transfer -/

section Loop

variable (addr ep : Byte) (nbytes : Word) (maxpktsize : Byte)

theorem moves_countPkt (pktsize : Byte) (xfrlen : Word) (data : Cursor) :
    Moves storingNothing (countPkt addr ep nbytes maxpktsize pktsize xfrlen data) :=
  moves_storingNothing (accesses_countPkt addr ep nbytes maxpktsize pktsize xfrlen data)

/-- What is stored stays stored. -/
def storingMore (w v : World Dword Tables) : Prop := stored w.st.log ≤ stored v.st.log

instance : IsPreorder (World Dword Tables) storingMore where
  refl _ := Nat.le_refl _
  trans _ _ _ h₁ h₂ := Nat.le_trans h₁ h₂

theorem StoresPacket.moves {m : Driver (Byte ⊕ Byte × List Byte)} (hm : StoresPacket m) :
    Moves storingMore m := by
  intro w
  show stored w.st.log ≤ stored (final m w).st.log
  rcases hm w with ⟨p, bytes, v, h, -, hv⟩ | ⟨-, h⟩
  · rw [final_ok h, hv]
    exact Nat.le_add_right _ _
  · exact Nat.le_of_eq h.symm

theorem moves_inRound (s : Word × Cursor) :
    Moves storingMore (inRound addr ep nbytes maxpktsize s) := by
  apply Moves.bind (storesPacket_receivePkt ep).moves
  intro r
  rcases r with rcode | ⟨p, bytes⟩
  · exact Moves.pure _
  · exact fun w => Nat.le_of_eq (moves_countPkt addr ep nbytes maxpktsize p _ _ w).symm

/-- After a packet the loop goes on from its count. -/
theorem final_forever_of_packet {p : Byte} {bytes : List Byte} {w v : World Dword Tables}
    (h : receivePkt ep w = .ok (.inr (p, bytes)) v) (xfrlen : Word) (data : Cursor) :
    final (forever (inRound addr ep nbytes maxpktsize) (xfrlen, data)) w =
      final (countPkt addr ep nbytes maxpktsize p (xfrlen + p.setWidth 16) (data.write bytes) >>=
        resume (forever (inRound addr ep nbytes maxpktsize))) v := by
  have hround : inRound addr ep nbytes maxpktsize (xfrlen, data) w =
      countPkt addr ep nbytes maxpktsize p (xfrlen + p.setWidth 16) (data.write bytes) v :=
    bind_ok h
  rw [forever_eq (uses_inRound addr ep nbytes maxpktsize)]
  exact final_congr (bind_congr_left hround)

/-- Without a packet the loop is over. -/
theorem final_forever_of_stop {w : World Dword Tables}
    (h : ∀ x v, receivePkt ep w ≠ .ok (.inr x) v) (xfrlen : Word) (data : Cursor) :
    final (forever (inRound addr ep nbytes maxpktsize) (xfrlen, data)) w =
      final (receivePkt ep) w := by
  rw [forever_eq (uses_inRound addr ep nbytes maxpktsize)]
  rcases hw : receivePkt ep w with ⟨rcode | x, v⟩ | ⟨e, v⟩
  · have hround : inRound addr ep nbytes maxpktsize (xfrlen, data) w =
        .ok (.inr (rcode, data)) v := bind_ok hw
    rw [final_ok hw, final, bind_ok hround]
    rfl
  · exact absurd hw (h x v)
  · have hround : inRound addr ep nbytes maxpktsize (xfrlen, data) w = .error e v :=
      bind_error hw
    rw [final_error hw, final, bind_error hround]

/-- A transfer that is complete stores nothing more. -/
theorem stored_of_done {p : Byte} {xfrlen : Word} (h : p < maxpktsize ∨ nbytes ≤ xfrlen)
    (data : Cursor) (k : Word × Cursor → Driver (Byte × Cursor)) (v : World Dword Tables) :
    stored (final (countPkt addr ep nbytes maxpktsize p xfrlen data >>= resume k) v).st.log =
      stored v.st.log := by
  have hmoves := moves_countPkt addr ep nbytes maxpktsize p xfrlen data v
  rcases hv : saveToggle addr ep v with ⟨_, u⟩ | ⟨e, u⟩
  · have hdone : countPkt addr ep nbytes maxpktsize p xfrlen data v = .ok (.inr (0, data)) u := by
      rw [countPkt, if_pos h]
      exact bind_ok hv
    rw [final_ok hdone] at hmoves
    rw [final, bind_ok hdone]
    exact hmoves
  · have hdone : countPkt addr ep nbytes maxpktsize p xfrlen data v = .error e u := by
      rw [countPkt, if_pos h]
      exact bind_error hv
    rw [final_error hdone] at hmoves
    rw [final, bind_error hdone]
    exact hmoves

/-- A transfer that is not goes on with its next round. -/
theorem final_of_more {p : Byte} {xfrlen : Word} (h : ¬ (p < maxpktsize ∨ nbytes ≤ xfrlen))
    (data : Cursor) (k : Word × Cursor → Driver (Byte × Cursor)) (v : World Dword Tables) :
    final (countPkt addr ep nbytes maxpktsize p xfrlen data >>= resume k) v =
      final (k (xfrlen, data)) v := by
  have hmore : countPkt addr ep nbytes maxpktsize p xfrlen data v =
      .ok (.inl (xfrlen, data)) v := by
    rw [countPkt, if_neg h]
    rfl
  exact final_congr (bind_ok hmore)

/-- Either way what the packet stored stays stored. -/
theorem storingMore_rest (p : Byte) (xfrlen : Word) (data : Cursor) (v : World Dword Tables) :
    storingMore v (final (countPkt addr ep nbytes maxpktsize p xfrlen data >>=
      resume (forever (inRound addr ep nbytes maxpktsize))) v) := by
  by_cases h : p < maxpktsize ∨ nbytes ≤ xfrlen
  · exact Nat.le_of_eq (stored_of_done addr ep nbytes maxpktsize h data _ v).symm
  · rw [final_of_more addr ep nbytes maxpktsize h]
    exact Moves.forever (moves_inRound addr ep nbytes maxpktsize) _ v

/-- The rounds from `xfrlen` on store no more than the room left exactly when what still arrives
fits. -/
theorem stored_forever_iff (w : World Dword Tables) (xfrlen : Word) (data : Cursor)
    (hx : xfrlen ≤ nbytes) :
    stored (final (forever (inRound addr ep nbytes maxpktsize) (xfrlen, data)) w).st.log ≤
        stored w.st.log + (nbytes.toNat - xfrlen.toNat) ↔
      Fits maxpktsize.toNat (nbytes.toNat - xfrlen.toNat) (arrivals ep w.script) := by
  induction h : w.script.length using Nat.strongRecOn generalizing w xfrlen data with
  | ind n ih =>
  rw [BitVec.le_def] at hx
  rcases storesPacket_receivePkt ep w with ⟨p, bytes, v, hpkt, hlen, hv⟩ | ⟨hno, hw⟩
  · rw [final_forever_of_packet addr ep nbytes maxpktsize hpkt, arrivals_of_packet hpkt, hlen, Fits]
    by_cases hroom : p.toNat ≤ nbytes.toNat - xfrlen.toNat
    · have hlt := nbytes.isLt
      have hsum : (xfrlen + p.setWidth 16).toNat = xfrlen.toNat + p.toNat := by
        simp only [BitVec.toNat_add, BitVec.toNat_setWidth]
        omega
      by_cases hdone : p < maxpktsize ∨ nbytes ≤ xfrlen + p.setWidth 16
      · rw [stored_of_done addr ep nbytes maxpktsize hdone, hv]
        rw [BitVec.lt_def, BitVec.le_def, hsum] at hdone
        exact ⟨fun _ => ⟨hroom, fun _ _ => by omega⟩, fun _ => by omega⟩
      · rw [final_of_more addr ep nbytes maxpktsize hdone]
        rw [BitVec.lt_def, BitVec.le_def, hsum] at hdone
        have hscript := uses_receivePkt ep w _ v hpkt
        have hrest := ih _ (h ▸ hscript) v (xfrlen + p.setWidth 16) (data.write bytes)
          (by rw [BitVec.le_def, hsum]; omega) rfl
        have hleft : stored w.st.log + p.toNat + (nbytes.toNat - (xfrlen.toNat + p.toNat)) =
            stored w.st.log + (nbytes.toNat - xfrlen.toNat) := by omega
        rw [hsum, hv, hleft, Nat.sub_add_eq] at hrest
        rw [hrest]
        exact ⟨fun hfits => ⟨hroom, fun _ _ => hfits⟩, fun hfits => hfits.2 (by omega) (by omega)⟩
    · have hgrows := storingMore_rest addr ep nbytes maxpktsize p (xfrlen + p.setWidth 16)
        (data.write bytes) v
      rw [storingMore, hv] at hgrows
      exact ⟨fun hle => by omega, fun hfits => absurd hfits.1 hroom⟩
  · rw [final_forever_of_stop addr ep nbytes maxpktsize hno, arrivals_of_stop hno, hw]
    exact ⟨fun _ => trivial, fun _ => Nat.le_add_right _ _⟩

end Loop

/-- Without an endpoint the transfer stops before the first packet. -/
theorem final_xferInTransfer_of_none {addr ep : Byte} {w : World Dword Tables}
    (hslot : w.st.epSlot addr ep = none) (nbytes : Word) (data : List Byte) (maxpktsize : Byte) :
    final (xferInTransfer addr ep nbytes data maxpktsize) w = w := by
  have hrec := epRecord_eq addr ep w
  rw [hslot] at hrec
  rw [xferInTransfer, final_error (bind_error hrec)]

/-- With one, what it stores is up to the packets. -/
theorem stored_xferInTransfer_iff {addr ep : Byte} {w : World Dword Tables} {slot : EpSlot}
    (hslot : w.st.epSlot addr ep = some slot) (nbytes : Word) (data : List Byte)
    (maxpktsize : Byte) :
    stored (final (xferInTransfer addr ep nbytes data maxpktsize) w).st.log ≤
        stored w.st.log + nbytes.toNat ↔
      Fits maxpktsize.toNat nbytes.toNat (arrivals ep w.script) := by
  have hrec := epRecord_ok hslot
  have htoggle : maxRegWr rHCTL (w.st.epRecord slot).rcvToggle w = .ok () ⟨w.script,
      { w.st with log := w.st.log ++ [.regWr rHCTL (w.st.epRecord slot).rcvToggle] }⟩ := rfl
  have hloop := stored_forever_iff addr ep nbytes maxpktsize ⟨w.script,
    { w.st with log := w.st.log ++ [.regWr rHCTL (w.st.epRecord slot).rcvToggle] }⟩ 0
    ⟨data, 0⟩ (Nat.zero_le _)
  rw [xferInTransfer, final_congr (bind_ok hrec), final_congr (bind_ok htoggle),
    final_bind_value (fun _ _ => rfl)]
  simpa [Access.stored] using hloop

/-- **An IN transfer keeps to its destination** exactly when the endpoint does not exist, where
it stops before the first packet, or what arrives fits: each packet that it asks for is no larger
than the room left. -/
theorem in_transfer_within_iff (addr ep : Byte) (nbytes : Word) (data : List Byte)
    (maxpktsize : Byte) (w : World Dword Tables) :
    stored (final (xferInTransfer addr ep nbytes data maxpktsize) w).st.log ≤
        stored w.st.log + nbytes.toNat ↔
      w.st.epSlot addr ep = none ∨
        Fits maxpktsize.toNat nbytes.toNat (arrivals ep w.script) := by
  rcases hslot : w.st.epSlot addr ep with _ | slot
  · rw [final_xferInTransfer_of_none hslot]
    simp
  · rw [stored_xferInTransfer_iff hslot]
    simp

/-! ## The callers -/

/-- Both polls ask for the eight bytes of a report, and pass a buffer of eight bytes. -/
theorem poll_within_iff {buf : List Byte} (hbuf : buf.length = 8) {w : World Dword Tables}
    {slot : EpSlot} (hslot : w.st.epSlot w.st.hidDevice.addr 1 = some slot) :
    stored (final (bootPoll buf) w).st.log ≤ stored w.st.log + buf.length ↔
      Fits ((w.st.epRecord slot).maxPktSize.setWidth 8).toNat 8 (arrivals 1 w.script) := by
  set v : World Dword Tables :=
    ⟨w.script, { w.st with log := w.st.log ++ [.regWr rPERADDR w.st.hidDevice.addr] }⟩ with hv
  have hrec : epRecord w.st.hidDevice.addr 1 v = .ok (w.st.epRecord slot) v :=
    epRecord_ok (w := v) hslot
  have haddr : bootPoll buf w = (do
      let r ← epRecord w.st.hidDevice.addr 1
      xferInTransfer w.st.hidDevice.addr 1 8 buf (r.maxPktSize.setWidth 8)) v := rfl
  have hstored : stored v.st.log = stored w.st.log := stored_append _ _
  rw [final_congr (haddr.trans (bind_ok hrec)), hbuf, ← hstored]
  exact stored_xferInTransfer_iff (w := v) hslot 8 buf _

/-- What follows a program without storing anything stores nothing more. -/
theorem stored_bind {α β : Type} {m : Driver α} {f : α → Driver β}
    (hf : ∀ a, Moves storingNothing (f a)) (w : World Dword Tables) :
    stored (final (m >>= f) w).st.log = stored (final m w).st.log := by
  rcases final_bind m f w with ⟨_, _, -, h⟩ | ⟨a, -, h⟩
  · rw [h]
  · rw [h, hf a (final m w)]

/-- The data stage of a request asks for as many bytes as the request does: one for `GetIdle` and
`GetProto`, and no more than 256 for `bigbuf`. -/
theorem ctrlData_within_iff {addr ep : Byte} {w : World Dword Tables} {slot : EpSlot}
    (hslot : w.st.epSlot addr ep = some slot) (nbytes : Word) (data : List Byte) :
    stored (final (xferCtrlData addr ep nbytes data true) w).st.log ≤
        stored w.st.log + nbytes.toNat ↔
      Fits ((w.st.epRecord slot).maxPktSize.setWidth 8).toNat nbytes.toNat
        (arrivals ep w.script) := by
  have hset := setEpRecord_eq hslot fun r => { r with rcvToggle := bmRCVTOG1 }
  have hsize : ({ w.st.epRecord slot with rcvToggle := bmRCVTOG1 } : EpRecord).maxPktSize =
    (w.st.epRecord slot).maxPktSize := rfl
  generalize ({ w.st.epRecord slot with rcvToggle := bmRCVTOG1 } : EpRecord) = r at hset hsize
  set v : World Dword Tables := ⟨w.script, w.st.setEpRecord r slot⟩ with hv
  have hslot' : v.st.epSlot addr ep = some slot := by rw [hv, Tables.epSlot_setEpRecord, hslot]
  have hrecord : v.st.epRecord slot = r := Tables.epRecord_setEpRecord _ _ _
  have hrec := hrecord ▸ epRecord_ok hslot'
  have hstored : stored v.st.log = stored w.st.log := by
    rw [hv]
    cases slot <;> rfl
  -- the status stage that follows brings no data
  have hdata : stored (final (xferCtrlData addr ep nbytes data true) w).st.log =
      stored (final (xferInTransfer addr ep nbytes data (r.maxPktSize.setWidth 8)) v).st.log := by
    rw [xferCtrlData, if_pos rfl, final_congr (bind_ok hset), final_congr (bind_ok hrec)]
    apply stored_bind
    rintro ⟨rcode, bytes⟩
    dsimp only
    split
    · exact Moves.pure _
    · exact Moves.bind (moves_storingNothing (accesses_xferDispatchPkt tokOUTHS ep)) fun _ =>
        Moves.pure _
  rw [hdata, ← hstored, ← hsize]
  exact stored_xferInTransfer_iff hslot' nbytes data _

/-! ## A packet larger than the destination -/

/-- A device on endpoint 0 that answers an IN with eight bytes. -/
def eightBytes : World Dword Tables :=
  ⟨[0, 0, 0x80, 0, 0x04, 8, 1, 2, 3, 4, 5, 6, 7, 8, 0],
    { Tables.powerUp with
      devtable := Tables.powerUp.devtable.set 0 ⟨.dev0ep, 0⟩ (Nat.succ_pos _) }⟩

/-- Eight bytes for the one that was asked for. -/
theorem in_transfer_overruns :
    ¬ stored (final (xferInTransfer 0 0 1 [0] 8) eightBytes).st.log ≤
      stored eightBytes.st.log + (1 : Word).toNat := by
  decide

/-- The same in the request `main` makes for the idle rate, whose destination is one byte. -/
example : returned (xferGetIdle 0 0 0 0 [0])
    ⟨[0, 0, 0x80, 0] ++ eightBytes.script ++ [0, 0, 0x80, 0],
      { eightBytes.st with dev0ep := ⟨0, 0, 8, 0, 0, 0⟩ }⟩ =
    some (0, [1, 2, 3, 4, 5, 6, 7, 8]) := by
  decide

end Bosconian.Usb
