import Bosconian.Usb.Hid

/-!
# What a transfer receives

An IN transfer lays the bytes of its packets over the destination from the start of it, and how
many they are does not depend on what lies there. So a transfer into memory is one that only
receives, and then lays what it has received over the memory: `xferCtrlReq_lay`.
-/

namespace Bosconian.Usb

open Scripted

/-- `bs` over the first bytes of `data`. -/
def overlay (bs data : List Byte) : List Byte := bs ++ data.drop bs.length

@[simp] theorem overlay_nil_left (data : List Byte) : overlay [] data = data := by
  simp [overlay]

@[simp] theorem overlay_nil_right (bs : List Byte) : overlay bs [] = bs := by
  simp [overlay]

theorem length_le_overlay_left (bs data : List Byte) : bs.length ≤ (overlay bs data).length := by
  simp [overlay]

theorem length_le_overlay_right (bs data : List Byte) :
    data.length ≤ (overlay bs data).length := by
  simp only [overlay, List.length_append, List.length_drop]
  omega

/-- The bytes of `data` that show do so where they were. -/
theorem getElem?_overlay_congr {bs data data' : List Byte} {i : Nat}
    (h : bs.length ≤ i → data[i]? = data'[i]?) :
    (overlay bs data)[i]? = (overlay bs data')[i]? := by
  unfold overlay
  by_cases hi : i < bs.length
  · rw [List.getElem?_append_left hi, List.getElem?_append_left hi]
  · have hle : bs.length ≤ i := Nat.le_of_not_lt hi
    rw [List.getElem?_append_right hle, List.getElem?_append_right hle, List.getElem?_drop,
      List.getElem?_drop, Nat.add_sub_cancel' hle, h hle]

/-- Where `data` points once `got` has been received. -/
def Cursor.after (data got : List Byte) : Cursor := ⟨overlay got data, got.length⟩

theorem Cursor.after_write (data got bs : List Byte) :
    (Cursor.after data got).write bs = Cursor.after data (got ++ bs) := by
  simp [Cursor.after, Cursor.write, overlay, List.drop_append]

/-! ## IN transfers -/

/-- One round, on `xfrlen` and the bytes received. -/
def receiveRound (addr ep : Byte) (nbytes : Word) (maxpktsize : Byte) :
    Word × List Byte → Driver ((Word × List Byte) ⊕ Byte × List Byte)
  | (xfrlen, got) => do
    match ← receivePkt ep with
    | .inl rcode => return .inr (rcode, got)
    | .inr (pktsize, bytes) =>
      if pktsize < maxpktsize ∨ nbytes ≤ xfrlen + pktsize.setWidth 16 then do
        saveToggle addr ep
        return .inr (0, got ++ bytes)
      else return .inl (xfrlen + pktsize.setWidth 16, got ++ bytes)

def receive (addr ep : Byte) (nbytes : Word) (maxpktsize : Byte) :
    Driver (Byte × List Byte) := do
  let r ← epRecord addr ep
  maxRegWr rHCTL r.rcvToggle
  forever (receiveRound addr ep nbytes maxpktsize) (0, [])

/-- The result code, and `data` with what has been received laid over it. -/
def lay (data : List Byte) (r : Byte × List Byte) : Byte × List Byte := (r.1, overlay r.2 data)

section Transfers

variable (addr ep : Byte) (nbytes : Word) (data : List Byte)

theorem inRound_after (maxpktsize : Byte) (s : Word × List Byte) :
    inRound addr ep nbytes maxpktsize (s.1, Cursor.after data s.2) =
      Sum.map (fun s => (s.1, Cursor.after data s.2)) (fun r => (r.1, Cursor.after data r.2)) <$>
        receiveRound addr ep nbytes maxpktsize s := by
  obtain ⟨xfrlen, got⟩ := s
  rw [receiveRound, inRound, map_bind]
  refine bind_congr fun r => ?_
  rcases r with rcode | ⟨pktsize, bytes⟩
  · rfl
  · show countPkt _ _ _ _ _ _ _ = _ <$> (if _ then _ else _)
    rw [countPkt, Cursor.after_write]
    by_cases hdone : pktsize < maxpktsize ∨ nbytes ≤ xfrlen + pktsize.setWidth 16
    · rw [if_pos hdone, if_pos hdone, map_bind]
      rfl
    · rw [if_neg hdone, if_neg hdone]
      rfl

/-- The rounds only receive, whatever lies at the destination. -/
theorem xferInTransfer_lay (maxpktsize : Byte) :
    xferInTransfer addr ep nbytes data maxpktsize =
      lay data <$> receive addr ep nbytes maxpktsize := by
  have hstart : Cursor.after data [] = ⟨data, 0⟩ := by simp [Cursor.after]
  have hloop := forever_map (inRound_after addr ep nbytes data maxpktsize) (0, [])
  rw [hstart] at hloop
  simp only [xferInTransfer, receive, map_bind]
  refine bind_congr fun r => bind_congr fun _ => ?_
  rw [hloop, bind_map_left, ← bind_pure_comp]
  rfl

theorem xferInTransfer_nil (maxpktsize : Byte) :
    xferInTransfer addr ep nbytes [] maxpktsize = receive addr ep nbytes maxpktsize := by
  have hlay : lay [] = id := funext fun r => by simp [lay]
  rw [xferInTransfer_lay, hlay, id_map]

end Transfers

/-! ## Requests -/

section Requests

variable (addr ep : Byte) (nbytes : Word) (data : List Byte)

theorem lay_nil (rcode : Byte) : lay data (rcode, []) = (rcode, data) := by
  simp [lay]

theorem xferCtrlData_lay (direction : Bool) :
    xferCtrlData addr ep nbytes data direction =
      lay data <$> xferCtrlData addr ep nbytes [] direction := by
  unfold xferCtrlData
  cases direction
  · exact congrArg pure (lay_nil data 0xff).symm
  · simp only [if_true, map_bind]
    refine bind_congr fun _ => bind_congr fun r => ?_
    rw [xferInTransfer_lay, xferInTransfer_nil, bind_map_left]
    refine bind_congr fun x => ?_
    obtain ⟨rcode, got⟩ := x
    show (if rcode ≠ 0 then _ else _) = lay data <$> (if rcode ≠ 0 then _ else _)
    split
    · rfl
    · rw [map_bind]
      rfl

/-- **A request with a data stage only receives**, and what it has received is laid over the
destination. -/
theorem xferCtrlReq_lay (bmReqType bRequest wValLo wValHi : Byte) (wInd : Word) :
    xferCtrlReq addr ep bmReqType bRequest wValLo wValHi wInd nbytes (some data) =
      lay data <$>
        xferCtrlReq addr ep bmReqType bRequest wValLo wValHi wInd nbytes (some []) := by
  simp only [xferCtrlReq, map_bind]
  refine bind_congr fun _ => bind_congr fun _ => bind_congr fun rcode => ?_
  split
  · exact congrArg pure (lay_nil data rcode).symm
  · exact xferCtrlData_lay addr ep nbytes data _

end Requests

/-! ## What is told of a transfer while it receives -/

/-- `G got log` can be told along a transfer that has received `got`: a register leaves it true,
and a burst adds its bytes. -/
structure Receives (G : List Byte → List Access → Prop) : Prop where
  ofRegister : ∀ {got log e}, e.OfRegister → G got log → G got (log ++ [e])
  fifo : ∀ {got log} reg bytes, G got log → G (got ++ bytes) (log ++ [.bytesRd reg bytes])

namespace Receives

variable {G : List Byte → List Access → Prop} (hG : Receives G)
include hG

theorem keeps {α : Type} {got : List Byte} {m : Driver α} (hm : Accesses Access.OfRegister m) :
    Keeps (fun t : Tables => G got t.log) m := by
  refine hm.moves ⟨?_, ?_, ?_, ?_⟩
  · intro w hw
    rw [final_ask]
    exact hw
  · intro n w hw
    rw [st_final_askN]
    exact hw
  · exact fun e he => Keeps.update fun t ht => hG.ofRegister he ht
  · refine fun f hf => Keeps.update fun t ht => ?_
    rw [(hf t).1]
    exact ht

theorem ofRegister_triple {α : Type} {got : List Byte} {m : Driver α}
    (hm : Accesses Access.OfRegister m) :
    Triple (fun t => G got t.log) m (fun _ t => G got t.log) fun t => ∃ got, G got t.log :=
  (hG.keeps hm).triple fun _ h => ⟨got, h⟩

theorem maxBytesRd (got : List Byte) (reg nbytes : Byte) :
    Triple (fun t => G got t.log) (maxBytesRd reg nbytes)
      (fun bytes t => G (got ++ bytes) t.log) fun t => ∃ got, G got t.log := by
  have hask : Keeps (fun t => G got t.log) (askN nbytes.toNat : Driver (List Dword)) := by
    intro w hw
    rw [st_final_askN]
    exact hw
  refine Triple.bind (hask.triple fun _ h => ⟨got, h⟩) fun answers => ?_
  refine Triple.bind (Q := fun _ t => G (got ++ answers.map (·.setWidth 8)) t.log)
    (Triple.update fun t ht => ?_) fun _ => Triple.pure fun _ => id
  exact hG.fifo reg _ ht

theorem receivePkt (ep : Byte) (got : List Byte) :
    Triple (fun t => G got t.log) (receivePkt ep)
      (fun r t => G (got ++ r.elim (fun _ => []) Prod.snd) t.log)
      fun t => ∃ got, G got t.log := by
  have hno {rcode : Byte} : Triple (fun t => G got t.log)
      (pure (.inl rcode) : Driver (Byte ⊕ Byte × List Byte))
      (fun r t => G (got ++ r.elim (fun _ => []) Prod.snd) t.log)
      fun t => ∃ got, G got t.log := by
    refine Triple.pure fun t ht => ?_
    rw [Sum.elim_inl, List.append_nil]
    exact ht
  refine Triple.bind (hG.ofRegister_triple (accesses_xferDispatchPkt tokIN ep)) fun rcode => ?_
  split
  · exact hno
  · refine Triple.bind (hG.ofRegister_triple (accesses_maxRegRd rHIRQ)) fun hirq => ?_
    split
    · exact hno
    · exact Triple.bind (hG.ofRegister_triple (accesses_maxRegRd rRCVBC)) fun p =>
        Triple.bind (hG.maxBytesRd got rRCVFIFO p) fun bytes =>
        Triple.bind (hG.ofRegister_triple (accesses_maxRegWr (by decide) _)) fun _ =>
        Triple.pure fun _ => id

theorem receive (addr ep : Byte) (nbytes : Word) (maxpktsize : Byte) :
    Triple (fun t => G [] t.log) (receive addr ep nbytes maxpktsize)
      (fun r t => G r.2 t.log) fun t => ∃ got, G got t.log := by
  refine Triple.bind (hG.ofRegister_triple (accesses_epRecord addr ep)) fun r =>
    Triple.bind (hG.ofRegister_triple (accesses_maxRegWr (by decide) _)) fun _ => ?_
  refine Triple.forever (I := fun (c : Word × List Byte) (t : Tables) => G c.2 t.log)
    (R := fun (r : Byte × List Byte) (t : Tables) => G r.2 t.log) ?_ (fun c _ h => ⟨c.2, h⟩)
    (0, [])
  rintro ⟨xfrlen, got⟩
  refine Triple.bind (hG.receivePkt ep got) fun r => ?_
  rcases r with rcode | ⟨pktsize, bytes⟩
  · refine Triple.pure fun t ht => ?_
    rw [Sum.elim_inl, List.append_nil] at ht
    exact ht
  · show Triple _ (if _ then _ else _) _ _
    split
    · have hset (g : EpRecord → EpRecord) : Accesses Access.OfRegister (setEpRecord addr ep g) :=
        accesses_setEpRecord addr ep g
      refine Triple.bind (Triple.bind (hG.ofRegister_triple (accesses_maxRegRd rHRSL))
        fun hrsl => ?_) fun _ => Triple.pure fun _ => id
      split
      · exact hG.ofRegister_triple (hset _)
      · exact hG.ofRegister_triple (hset _)
    · exact Triple.pure fun _ => id

/-- A transfer lays what it has received over its destination. -/
theorem xferInTransfer (addr ep : Byte) (nbytes : Word) (data : List Byte) (maxpktsize : Byte) :
    Triple (fun t => G [] t.log) (xferInTransfer addr ep nbytes data maxpktsize)
      (fun r t => ∃ got, r.2 = overlay got data ∧ G got t.log) fun t => ∃ got, G got t.log := by
  rw [xferInTransfer_lay, ← bind_pure_comp]
  exact Triple.bind (hG.receive addr ep nbytes maxpktsize) fun r =>
    Triple.pure fun t ht => ⟨r.2, rfl, ht⟩

/-- A request with a data stage does so too, once its set-up packet has been written. -/
theorem xferCtrlReq {P : Tables → Prop} {addr bmReqType bRequest wValLo wValHi : Byte}
    {wInd nbytes : Word} (ep : Byte) (data : List Byte)
    (hstart : ∀ t, P t → G [] (t.log ++ [.regWr rPERADDR addr] ++
      [.bytesWr rSUDFIFO (setupPkt bmReqType bRequest wValLo wValHi wInd nbytes)])) :
    Triple P (xferCtrlReq addr ep bmReqType bRequest wValLo wValHi wInd nbytes (some data))
      (fun r t => ∃ got, r.2 = overlay got data ∧ G got t.log) fun t => ∃ got, G got t.log := by
  have hnone (rcode : Byte) :
      Triple (fun t => G [] t.log) (pure (rcode, data) : Driver (Byte × List Byte))
        (fun r t => ∃ got, r.2 = overlay got data ∧ G got t.log) fun t => ∃ got, G got t.log :=
    Triple.pure fun t ht => ⟨[], (overlay_nil_left data).symm, ht⟩
  -- the set-up stage
  unfold Usb.xferCtrlReq maxRegWr maxBytesWr
  refine Triple.bind (Q := fun _ t => ∃ s, P s ∧ t.log = s.log ++ [.regWr rPERADDR addr])
    (Triple.update ?_) fun _ => ?_
  · exact fun t ht => ⟨t, ht, rfl⟩
  refine Triple.bind (Q := fun _ t => G [] t.log) (Triple.update ?_) fun _ => ?_
  · rintro t ⟨s, hs, hlog⟩
    show G [] (t.log ++ _)
    rw [hlog]
    exact hstart s hs
  refine Triple.bind (hG.ofRegister_triple (accesses_xferDispatchPkt tokSETUP ep)) fun rcode => ?_
  split
  · exact hnone rcode
  show Triple _ (xferCtrlData _ _ _ _ _) _ _
  unfold xferCtrlData
  split
  · -- the data stage, and then the status stage, which stores nothing
    refine Triple.bind (hG.ofRegister_triple (accesses_setEpRecord addr ep _)) fun _ =>
      Triple.bind (hG.ofRegister_triple (accesses_epRecord addr ep)) fun r =>
      Triple.bind (hG.xferInTransfer addr ep nbytes data _) ?_
    rintro ⟨rcode, bytes⟩
    refine Triple.ghost (f := id) fun s hs => ?_
    obtain ⟨got, hgot, hlog⟩ := hs
    refine Triple.pre (P := fun t => G got t.log) ?_ fun t ht => (show t = s from ht) ▸ hlog
    show Triple _ (if rcode ≠ 0 then _ else _) _ _
    split
    · exact Triple.pure fun t ht => ⟨got, hgot, ht⟩
    · exact Triple.bind (hG.ofRegister_triple (accesses_xferDispatchPkt tokOUTHS ep)) fun _ =>
        Triple.pure fun t ht => ⟨got, hgot, ht⟩
  · exact hnone 0xff

/-- A poll. -/
theorem bootPoll {P : Tables → Prop} (buf : List Byte)
    (hstart : ∀ t addr, P t → G [] (t.log ++ [.regWr rPERADDR addr])) :
    Triple P (bootPoll buf) (fun r t => ∃ got, r.2 = overlay got buf ∧ G got t.log)
      fun t => ∃ got, G got t.log := by
  unfold Usb.bootPoll maxRegWr
  refine Triple.read_bind fun s hs => ?_
  refine Triple.bind (Q := fun _ t => G [] t.log) (Triple.update ?_) fun _ => ?_
  · rintro t rfl
    exact hstart t _ hs
  refine Triple.bind (hG.ofRegister_triple (accesses_epRecord _ 1)) fun r => ?_
  exact hG.xferInTransfer _ 1 8 buf _

end Receives

end Bosconian.Usb
