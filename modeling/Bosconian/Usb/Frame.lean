import Bosconian.Usb.Routines

/-!
# What the transfers leave alone

A transfer writes the log, the toggle of the endpoint it worked on, and the destination it was
given. Everything else in the tables is as it was, whatever the controller answers and however
the transfer ends.
-/

namespace Bosconian.Usb

open Scripted

/-- `f` reads neither the log nor a toggle off the tables. -/
structure TransferFree {γ : Type} (f : Tables → γ) : Prop where
  log : ∀ e t, f { t with log := t.log ++ [e] } = f t
  rcvToggle : ∀ b slot t,
    f (t.setEpRecord { t.epRecord slot with rcvToggle := b } slot) = f t

section TransferFree

variable {γ : Type} {f : Tables → γ} (hf : TransferFree f)
include hf

/-- A transfer is made of accesses, and so is what reads memory. -/
theorem TransferFree.allows (P : Access → Prop) :
    AllowsAccesses P fun _ m => Preserves f m where
  toSequential := Moves.sequential
  ask := Preserves.ask
  askN := Preserves.askN
  emit e _ := Preserves.update (hf.log e)

theorem preserves_emit (e : Access) : Preserves f (emit e) := Preserves.update (hf.log e)

theorem preserves_maxRegRd (reg : Byte) : Preserves f (maxRegRd reg) :=
  (hf.allows fun _ => True).maxRegRd fun _ => trivial

theorem preserves_pioRd (port : Pio) : Preserves f (pioRd port) :=
  (hf.allows fun _ => True).pioRd fun _ => trivial

theorem preserves_milliseconds : Preserves f milliseconds :=
  (hf.allows fun _ => True).milliseconds fun _ => trivial

omit hf in
theorem preserves_uninitialised (n : Nat) : Preserves f (uninitialised n) :=
  Moves.bind (Preserves.askN n) fun _ => Moves.pure _

omit hf in
theorem preserves_epRecord (addr ep : Byte) : Preserves f (epRecord addr ep) := by
  refine Moves.bind Moves.read fun t => ?_
  split
  · exact Moves.halt _
  · exact Moves.pure _

omit hf in
theorem preserves_setEpRecord {g : EpRecord → EpRecord}
    (h : ∀ slot t, f (t.setEpRecord (g (t.epRecord slot)) slot) = f t) (addr ep : Byte) :
    Preserves f (setEpRecord addr ep g) := by
  refine Moves.bind Moves.read fun t => ?_
  split
  · exact Moves.halt _
  · next slot _ => exact Preserves.update (h slot)

/-! ## Transfers -/

/-- A transfer follows one record, and of that it sets the toggle. -/
theorem TransferFree.transfers (addr ep : Byte) :
    AllowsTransfers addr ep fun _ m => Preserves f m where
  toAllowsAccesses := hf.allows Access.OfTransfer
  epRecord := preserves_epRecord addr ep
  setToggle toggle := preserves_setEpRecord (hf.rcvToggle toggle) addr ep

theorem preserves_xferInTransfer (addr ep : Byte) (nbytes : Word) (data : List Byte)
    (maxpktsize : Byte) : Preserves f (xferInTransfer addr ep nbytes data maxpktsize) :=
  (hf.transfers addr ep).xferInTransfer nbytes data maxpktsize

/-- **A request** leaves alone what is neither the log nor a toggle. -/
theorem preserves_xferCtrlReq (addr ep bmReqType bRequest wValLo wValHi : Byte)
    (wInd nbytes : Word) (dataptr : Option (List Byte)) :
    Preserves f
      (xferCtrlReq addr ep bmReqType bRequest wValLo wValHi wInd nbytes dataptr) :=
  (hf.transfers addr ep).xferCtrlReq bmReqType bRequest wValLo wValHi wInd nbytes dataptr

theorem preserves_xferSetAddr (oldaddr ep newaddr : Byte) :
    Preserves f (xferSetAddr oldaddr ep newaddr) :=
  Moves.bind (preserves_xferCtrlReq hf _ _ _ _ _ _ _ _ _) fun _ => Moves.pure _

theorem preserves_xferSetConf (addr ep confValue : Byte) :
    Preserves f (xferSetConf addr ep confValue) :=
  Moves.bind (preserves_xferCtrlReq hf _ _ _ _ _ _ _ _ _) fun _ => Moves.pure _

theorem preserves_xferSetProto (addr ep interface protocol : Byte) :
    Preserves f (xferSetProto addr ep interface protocol) :=
  Moves.bind (preserves_xferCtrlReq hf _ _ _ _ _ _ _ _ _) fun _ => Moves.pure _

/-- And so do the routines that are made of requests. -/
theorem TransferFree.requests (addr : Byte) : AllowsRequests addr fun _ m => Preserves f m where
  toAllowsAccesses := hf.allows Access.OfHost
  request _ _ _ _ _ _ _ := preserves_xferCtrlReq hf _ _ _ _ _ _ _ _ _

/-- Where none of the records is read, one may be assigned to. -/
theorem TransferFree.endpoint
    (hset : ∀ (g : EpRecord → EpRecord) slot t, f (t.setEpRecord (g (t.epRecord slot)) slot) = f t)
    (addr ep : Byte) : AllowsEndpoint addr ep fun _ m => Preserves f m where
  toAllowsRequests := hf.requests addr
  setEpRecord g := preserves_setEpRecord (hset g) addr ep

theorem preserves_confDescrToBigbuf (hbuf : ∀ bytes t, f { t with bigbuf := bytes } = f t)
    (addr : Byte) (nbytes : Word) : Preserves f (confDescrToBigbuf addr nbytes) := by
  refine Moves.bind Moves.read fun t => ?_
  refine Moves.bind (preserves_xferCtrlReq hf _ _ _ _ _ _ _ _ _) fun r => ?_
  exact Moves.bind (Preserves.update (hbuf _)) fun _ => Moves.pure _

theorem preserves_bigbufRd (i : Nat) : Preserves f (bigbufRd i) :=
  (hf.allows Access.OfHost).bigbufRd i

theorem preserves_bigbufRdWord (i : Nat) : Preserves f (bigbufRdWord i) :=
  (hf.allows Access.OfHost).bigbufRdWord i

/-- A poll is one transfer. -/
theorem preserves_bootPoll (buf : List Byte) : Preserves f (bootPoll buf) := by
  refine Moves.bind Moves.read fun t => ?_
  refine Moves.bind (preserves_emit hf _) fun _ => ?_
  refine Moves.bind (preserves_epRecord _ 1) fun r => ?_
  exact preserves_xferInTransfer hf _ 1 8 buf _

end TransferFree

end Bosconian.Usb
