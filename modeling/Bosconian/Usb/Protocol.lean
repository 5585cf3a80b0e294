import Bosconian.Usb.Phases

/-!
# The driver keeps to the protocol

Requests and polls begin where no transfer is under way and come back there, and nothing in between
launches a token or touches the FIFOs.

* `spoken_xferCtrlReq` — the stages of a control transfer follow each other.
* `Rests` — from a resting phase to a resting phase, the protocol kept all along.
* `speaks_protocol` — all accesses of all runs of `main` are allowed.
-/

namespace Bosconian.Usb

open Scripted EventMachine

/-! ## Control transfers -/

/-- The data stage is received from DATA1 on. -/
theorem spoken_setDataToggle (addr : Byte) :
    Triple (InPhase (· = .accepted))
      (setEpRecord addr 0 fun r => { r with rcvToggle := bmRCVTOG1 })
      (fun _ t => InPhase (· = .accepted) t ∧ Opens true (· = .accepted) addr t) Speaks := by
  refine Triple.read_bind fun t ht => ?_
  cases hslot : t.epSlot addr 0 with
  | none => exact Triple.halt _ fun s hs => hs ▸ ht.speaks
  | some slot =>
    refine Triple.update ?_
    rintro s rfl
    refine ⟨ht.log (by cases slot <;> rfl), ?_⟩
    intro slot' hslot' p hp
    have heq : slot = slot' := by
      rw [Tables.epSlot_setEpRecord] at hslot'
      exact Option.some.inj (hslot.symm.trans hslot')
    rw [← heq, Tables.epRecord_setEpRecord, hp]
    exact Phase.only_self _ _

theorem spoken_xferCtrlData (addr : Byte) (nbytes : Word) (dataptr : List Byte) :
    Triple (InPhase (· = .accepted)) (xferCtrlData addr 0 nbytes dataptr true)
      (fun _ => InPhase Phase.Resting) Speaks := by
  refine Triple.bind (spoken_setDataToggle addr) fun _ => ?_
  have hrecord : Triple (fun t => InPhase (· = .accepted) t ∧ Opens true (· = .accepted) addr t)
      (epRecord addr 0)
      (fun _ t => InPhase (· = .accepted) t ∧ Opens true (· = .accepted) addr t) Speaks := by
    refine Triple.read_bind fun t ht => ?_
    split
    · exact Triple.halt _ fun s hs => hs ▸ ht.1.speaks
    · exact Triple.pure fun s hs => hs ▸ ht
  refine Triple.bind hrecord fun r =>
    Triple.bind (spoken_xferInTransfer true addr nbytes dataptr _) fun out => ?_
  obtain ⟨rcode, data⟩ := out
  show Triple _ (if rcode ≠ 0 then _ else _) _ _
  split
  · next hne => exact Triple.pure fun t ht => ht.mono fun p hp => hp.failed hne
  · next hzero =>
    refine Triple.bind (spoken_xferDispatchPkt (s := .status true) fun t p hp => ?_) fun rcode' =>
      Triple.pure fun t ht => ht.mono fun p hp => hp.resting trivial
    rw [hp.ok (not_not.1 hzero)]
    rfl

/-- A control transfer on endpoint 0. One that asks for data has a place for it, and one without a
data stage asks for none. -/
theorem spoken_xferCtrlReq {addr bmReqType bRequest wValLo wValHi : Byte} {wInd nbytes : Word}
    {dataptr : Option (List Byte)} (hdir : bmReqType &&& 0x80 ≠ 0 ↔ dataptr.isSome) :
    Triple (InPhase Phase.Resting)
      (xferCtrlReq addr 0 bmReqType bRequest wValLo wValHi wInd nbytes dataptr)
      (fun _ => InPhase Phase.Resting) Speaks := by
  have hsetup := spoken_xferDispatchPkt (P := fun p => p = .ready (.setup dataptr.isSome))
    (s := .setup dataptr.isSome) fun t p hp => hp ▸ rfl
  have hdirection : decide (bmReqType &&& 0x80 ≠ 0) = dataptr.isSome :=
    Bool.eq_iff_iff.2 (decide_eq_true_iff.trans hdir)
  refine Triple.bind (spoken_emit (Q := fun p => p = .addressed) ?_) fun _ =>
    Triple.bind (spoken_emit (Q := fun p => p = .ready (.setup dataptr.isSome)) ?_) fun _ =>
    Triple.bind hsetup fun rcode => ?_
  · intro p hp
    exact ⟨_, hp.step_peraddr addr, rfl⟩
  · rintro - rfl
    rw [← hdirection]
    exact ⟨_, Phase.step_setup rfl, rfl⟩
  show Triple _ (if rcode ≠ 0 then _ else _) _ _
  split
  · next hne => exact Triple.pure fun t ht => ht.mono fun p hp => hp.failed hne
  next hzero =>
  rw [hdirection]
  cases dataptr with
  | none =>
    refine Triple.bind (spoken_xferDispatchPkt (s := .status false) fun t p hp => ?_) fun rcode' =>
      Triple.pure fun t ht => ht.mono fun p hp => hp.resting trivial
    rw [hp.ok (not_not.1 hzero)]
    rfl
  | some data =>
    exact (spoken_xferCtrlData addr nbytes data).pre fun t ht => ht.mono fun p hp =>
      hp.ok (not_not.1 hzero)

/-! ## Between the transfers -/

/-- The program begins and ends between two transfers. `get` finds the tables. -/
def Rests {σ α : Type} (get : σ → Tables) (m : Prog Dword σ α) : Prop :=
  Triple (fun s => InPhase Phase.Resting (get s)) m (fun _ s => InPhase Phase.Resting (get s))
    fun s => Speaks (get s)

theorem Rests.sequential {σ : Type} (get : σ → Tables) :
    Sequential fun α (m : Prog Dword σ α) => Rests get m :=
  Triple.sequential fun _ h => h.speaks

section Rests

variable {σ α : Type} {get : σ → Tables}

/-- A change that is none of the log. -/
theorem Rests.update {f : σ → σ} (hf : ∀ s, (get (f s)).log = (get s).log) :
    Rests get (update f) := Triple.update fun s h => h.log (hf s)

theorem Rests.zoom {τ : Type} {f : τ → σ} {put : σ → τ → τ} {m : Prog Dword σ α}
    (hm : Rests get m) (hput : ∀ s t, f (put s t) = s) :
    Rests (fun t => get (f t)) (zoom f put m) := by
  refine Triple.zoom hm (fun _ => id) (fun _ s t _ h => ?_) fun s t _ h => ?_
  · show InPhase Phase.Resting (get (f (put s t)))
    rwa [hput]
  · show Speaks (get (f (put s t)))
    rwa [hput]

end Rests

/-- An access that the protocol leaves to the host. -/
def Access.Harmless (e : Access) : Prop :=
  (∀ s : Stage, e ≠ s.launch) ∧ Phase.between e = some .idle

theorem rests_of_accesses {α : Type} {m : Driver α} (hm : Accesses Access.Harmless m) :
    Rests id m := by
  have hkeeps : Keeps (InPhase Phase.Resting) m := by
    refine hm.moves ⟨?_, ?_, ?_, fun f hf w hw => hw.log (hf w.st).1⟩
    · intro w hw
      rw [final_ask]
      exact hw
    · intro n w hw
      rw [st_final_askN]
      exact hw
    · intro e he
      exact Keeps.update fun t ht => ht.access fun p hp =>
        ⟨.idle, (hp.step_eq he.1).trans he.2, trivial⟩
  exact hkeeps.triple fun _ h => h.speaks

/-- What is no part of a transfer does not disturb the protocol. -/
theorem Access.OfHost.harmless {e : Access} (h : e.OfHost) : e.Harmless := by
  have hother {e : Access} (hbetween : Phase.between e = some .idle)
      (hwrite : ∀ reg val, e ≠ .regWr reg val) : e.Harmless := ⟨fun _ => hwrite _ _, hbetween⟩
  cases e with
  | regWr reg val =>
    refine ⟨fun s hs => ?_, ?_⟩
    · cases hs
      exact h.2 rfl
    · rw [Phase.between, if_neg h.1, if_neg h.2]
  | bytesRd | bytesWr => exact h.elim
  | _ => exact hother rfl nofun

theorem harmless_pioWr (port : Pio) (val : Dword) : (Access.pioWr port val).Harmless :=
  ⟨fun _ => nofun, rfl⟩

/-! ## Requests and polls -/

theorem rests_confDescrToBigbuf (addr : Byte) (nbytes : Word) :
    Rests id (confDescrToBigbuf addr nbytes) := by
  have hdir (data : List Byte) : bmREQ_GET_DESCR &&& 0x80 ≠ 0 ↔ (some data).isSome :=
    iff_of_true (by decide) rfl
  refine Triple.bind ((Rests.sequential id).read) fun t => ?_
  refine Triple.bind (spoken_xferCtrlReq (hdir t.bigbuf)) fun r => ?_
  exact Triple.bind (Rests.update fun _ => rfl) fun _ => (Rests.sequential id).pure _

/-- All that the driver does between two transfers, and the requests, begin and end there. -/
theorem allowsDriver_rests : AllowsDriver fun _ m => Rests id m where
  requests _ :=
    { toSequential := Rests.sequential id
      ask := rests_of_accesses Accesses.ask
      askN := fun n => rests_of_accesses (Accesses.askN n)
      emit := fun _ he => rests_of_accesses (Accesses.emit he.harmless)
      request := fun _ _ _ _ _ _ hdir => spoken_xferCtrlReq hdir }
  tables hm := rests_of_accesses (hm.mono fun _ => False.elim)
  confDescr := rests_confDescrToBigbuf

/-- A poll asks endpoint 1 of the device, with the toggle it was left at. -/
theorem rests_bootPoll (buf : List Byte) : Rests id (bootPoll buf) := by
  refine Triple.bind ((Rests.sequential id).read) fun t => ?_
  refine Triple.bind (spoken_emit (Q := fun p => p = .addressed) ?_) fun _ => ?_
  · exact fun p hp => ⟨_, hp.step_peraddr _, rfl⟩
  refine Triple.bind (spoken_silent (accesses_epRecord _ 1)) fun r => ?_
  refine (spoken_xferInTransfer (P := fun p => p = .addressed) false _ 8 buf _).mono
    (fun s hs => ⟨hs, ?_⟩) (fun out s hs => hs.mono fun p hp => hp.resting trivial) fun _ => id
  rintro slot - p rfl
  rfl

/-! ## The calls of `main` -/

theorem allowsHost_rests :
    AllowsHost (fun _ m => Rests id m) fun _ m => Rests Host.toTables m where
  toSequential := Rests.sequential Host.toTables
  allowsDriver := allowsDriver_rests
  driver hm := hm.zoom fun _ _ => rfl
  globals hf := Rests.update fun u => congrArg Tables.log (hf u)

def Main.tables (m : Main) : Tables := m.toTables

theorem Rests.main {α : Type} {m : Task α} (hm : Rests Host.toTables m) :
    Rests Main.tables (liftM m : MainProg α) := by
  show Rests Main.tables (Scripted.zoom Main.toHost (fun u m => { m with toHost := u }) m)
  exact hm.zoom fun _ _ => rfl

/-- A use of the device is a request, a poll or the port. -/
theorem allowsUse_rests : AllowsUse fun _ m => Rests Main.tables m where
  toSequential := Rests.sequential Main.tables
  report := (allowsHost_rests.driver
    (allowsDriver_rests.requests mainAddr).getDriverandReport).main
  poll buf := (allowsHost_rests.driver (rests_bootPoll buf)).main
  port val := (allowsHost_rests.driver
    (rests_of_accesses (Accesses.emit (harmless_pioWr .keycode val)))).main
  locals hf := Rests.update fun m => congrArg (fun u : Host => u.log) (hf m)

theorem rests_startOver : Rests Main.tables startOver := by
  refine Triple.bind (Q := fun _ s => InPhase Phase.Resting (Main.tables s))
    (Rests.update fun _ => rfl) fun _ => ?_
  refine Triple.bind allowsHost_rests.allowsProbe.controller.max3421eInit.main fun _ => ?_
  exact (allowsHost_rests.driver allowsDriver_rests.usbInit).main

theorem rests_exec (c : Call) : Rests Main.tables (Main.exec c) := by
  cases c with
  | max3421eInit => exact allowsHost_rests.allowsProbe.controller.max3421eInit.main
  | usbInit => exact (allowsHost_rests.driver allowsDriver_rests.usbInit).main
  | max3421eTask => exact allowsHost_rests.max3421eTask.main
  | usbTask => exact allowsHost_rests.usbTask.main
  | useDevice => exact allowsUse_rests.useDevice rests_startOver

/-- The log keeps to the protocol, and before a call no transfer is under way. -/
structure Conforms (m : Main) : Prop where
  speaks : Speaks m.tables
  resting : m.call ≠ none → InPhase Phase.Resting m.tables

theorem conforms_step {m : Main} (answers : List Dword) (h : Conforms m) :
    Conforms (m.step answers) := by
  cases hcall : m.call with
  | none =>
    rw [Main.step_of_none hcall]
    exact h
  | some c =>
    have hresting : InPhase Phase.Resting m.tables := h.resting (by simp [hcall])
    rw [Main.step_of_some hcall]
    obtain ⟨hok, herror⟩ := rests_exec c ⟨answers, m⟩ hresting
    rcases hrun : Main.exec c ⟨answers, m⟩ with ⟨a, v⟩ | ⟨e, v⟩
    · rw [final_ok hrun]
      exact ⟨(hok a v hrun).speaks, fun _ => hok a v hrun⟩
    · rw [final_error hrun, returned, hrun]
      exact ⟨herror e v hrun, fun hne => absurd rfl hne⟩

/-- **The host speaks the protocol**: in every run, whatever the controller and the device answer,
each access of the log is one that the protocol allows where the transfer has come to. -/
theorem speaks_protocol (buf kbdbuf : List Byte) (device : Byte) (run : List (List Dword)) :
    (phaseAfter Phase.step .idle
      (EventMachine.run Main.step (Main.powerUp buf kbdbuf device) run).log).isSome := by
  have hstart : Conforms (Main.powerUp buf kbdbuf device) :=
    ⟨⟨.idle, rfl, trivial⟩, fun _ => ⟨.idle, rfl, trivial⟩⟩
  have hconforms := EventMachine.run_invariant (fun m as => conforms_step (m := m) as) hstart run
  obtain ⟨p, hp, -⟩ := hconforms.speaks
  exact Option.isSome_iff_exists.2 ⟨p, hp⟩

end Bosconian.Usb
