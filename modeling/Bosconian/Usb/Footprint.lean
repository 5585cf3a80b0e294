import Bosconian.Usb.TaskRoutines

/-!
# What the program touches

A relation between tables that an access goes along, a change to the tables, and the request that
fills `bigbuf`, the whole driver goes along, and with it the tasks: `Footprint`.

One such relation is that the port to the game is left alone: only `main` writes it, after a poll
of the keyboard.
-/

namespace Bosconian.Usb

open Scripted

/-! ## The port to the game -/

/-- A write to the port that the game reads. -/
def Access.keyWrite : Access → Option Dword
  | .pioWr .keycode val => some val
  | _ => none

def Tables.keyWrites (t : Tables) : List Dword := t.log.filterMap Access.keyWrite

theorem Access.OfTransfer.keyWrite {e : Access} (h : e.OfTransfer) : e.keyWrite = none := by
  cases e with
  | pioWr => exact h.elim
  | _ => rfl

/-! ## The driver -/

theorem Access.OfHost.keyWrite {e : Access} (h : e.OfHost) : e.keyWrite = none := by
  cases e with
  | pioWr port val =>
    cases port with
    | keycode => exact h.elim
    | _ => rfl
  | _ => rfl

/-- What the driver does goes along `Q`: an access other than a write to the port, a change to the
tables that leaves `bigbuf` alone, and the request that fills `bigbuf`. -/
structure Footprint (Q : Tables → Tables → Prop) : Prop where
  access : ∀ t e, e.keyWrite = none → Q t { t with log := t.log ++ [e] }
  tables : ∀ t t' : Tables, t'.log = t.log → t'.bigbuf = t.bigbuf → Q t t'
  confDescr : ∀ addr nbytes, Moves (along id Q) (confDescrToBigbuf addr nbytes)

namespace Footprint

variable {Q : Tables → Tables → Prop} [IsPreorder Tables Q] (hQ : Footprint Q)
include hQ

theorem allows : Allows (fun e => e.keyWrite = none) (along id Q) where
  ask w := by
    rw [along, final_ask]
    exact refl_of Q _
  askN n w := by
    rw [along, st_final_askN]
    exact refl_of Q _
  emit e he := Moves.update_along fun t => hQ.access t e he
  tables f hf := Moves.update_along fun t => hQ.tables t (f t) (hf t).1 (hf t).2

theorem moves {α : Type} {P : Access → Prop} {m : Driver α} (hm : Accesses P m)
    (hP : ∀ e, P e → e.keyWrite = none) : Moves (along id Q) m :=
  (hm.mono hP).moves hQ.allows

theorem allowsDriver : AllowsDriver fun _ m => Moves (along id Q) m where
  requests _ :=
    { toAllowsAccesses := hQ.allows.accesses.mono fun _ => Access.OfHost.keyWrite
      request := fun _ _ _ _ _ _ _ => hQ.moves (accesses_xferCtrlReq _ _ _ _ _ _ _ _ _)
        fun _ => Access.OfTransfer.keyWrite }
  tables hm := hQ.moves hm fun _ => False.elim
  confDescr := hQ.confDescr

/-- The tasks keep globals of their own beside the tables. -/
theorem allowsHost :
    AllowsHost (fun _ m => Moves (along id Q) m) fun _ m => Moves (along Host.toTables Q) m where
  toSequential := Moves.sequential
  allowsDriver := hQ.allowsDriver
  driver {_ m} hm := by
    show Moves _ (zoom Host.toTables (fun t u => { u with toTables := t }) m)
    exact Moves.zoom hm fun t u h => h
  globals hf := by
    refine Moves.update_along fun u => ?_
    rw [hf]
    exact refl_of Q _

theorem bootPoll (buf : List Byte) : Moves (along id Q) (bootPoll buf) := by
  refine Moves.bind Moves.read fun t => ?_
  refine Moves.bind (hQ.allows.accesses.emit _ rfl) fun _ => ?_
  refine Moves.bind (hQ.allowsDriver.tables (accesses_epRecord _ 1)) fun r => ?_
  exact hQ.moves (accesses_xferInTransfer _ 1 8 _ buf) fun _ => Access.OfTransfer.keyWrite

end Footprint

end Bosconian.Usb
