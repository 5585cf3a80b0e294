import Bosconian.Scripted.Loops
import Bosconian.Scripted.Related
import Mathlib.Data.List.Infix

/-!
# The host controller and the tables of the driver

The registers of the MAX3421E as the driver reaches them over SPI, and the globals of
`transfer.c` and `HID.c` that the transfers work on. Every answer of the outside is a word of
the script: a register, a byte of the FIFO, the tick counter, a port, and memory the driver reads
without having written it. The log keeps every access in order.
-/

namespace Bosconian.Usb

open Scripted

abbrev Byte := BitVec 8
abbrev Word := BitVec 16
abbrev Dword := BitVec 32

/-! ## Registers -/

section Registers

def rRCVFIFO : Byte := 0x08
def rSUDFIFO : Byte := 0x20
def rRCVBC : Byte := 0x30
def rSNDBC : Byte := 0x38
def rUSBIRQ : Byte := 0x68
def bmOSCOKIRQ : Byte := 0x01
def rUSBCTL : Byte := 0x78
def bmCHIPRES : Byte := 0x20
def rCPUCTL : Byte := 0x80
def rPINCTL : Byte := 0x88
def bmFDUPSPI : Byte := 0x10
def bmINTLEVEL : Byte := 0x08
def bmGPXB : Byte := 0x02
def rGPINIRQ : Byte := 0xb0
def rGPINIEN : Byte := 0xb8
def bmGPINIEN7 : Byte := 0x80

def rHIRQ : Byte := 0xc8
def bmBUSEVENTIRQ : Byte := 0x01
def bmRCVDAVIRQ : Byte := 0x04
def bmSNDBAVIRQ : Byte := 0x08
def bmCONDETIRQ : Byte := 0x20
def bmFRAMEIRQ : Byte := 0x40
def bmHXFRDNIRQ : Byte := 0x80

def rHIEN : Byte := 0xd0
def bmCONDETIE : Byte := 0x20

def rMODE : Byte := 0xd8
def bmHOST : Byte := 0x01
def bmLOWSPEED : Byte := 0x02
def bmSOFKAENAB : Byte := 0x08
def bmSEPIRQ : Byte := 0x10
def bmDMPULLDN : Byte := 0x40
def bmDPPULLDN : Byte := 0x80
def modeFsHost : Byte := bmDPPULLDN ||| bmDMPULLDN ||| bmHOST ||| bmSOFKAENAB
def modeLsHost : Byte := bmDPPULLDN ||| bmDMPULLDN ||| bmHOST ||| bmLOWSPEED ||| bmSOFKAENAB

def rPERADDR : Byte := 0xe0

def rHCTL : Byte := 0xe8
def bmBUSRST : Byte := 0x01
def bmSAMPLEBUS : Byte := 0x04
def bmRCVTOG0 : Byte := 0x10
def bmRCVTOG1 : Byte := 0x20
def bmSNDTOG0 : Byte := 0x40

def rHXFR : Byte := 0xf0
def tokSETUP : Byte := 0x10
def tokIN : Byte := 0x00
def tokINHS : Byte := 0x80
def tokOUTHS : Byte := 0xa0

def rHRSL : Byte := 0xf8
def bmRCVTOGRD : Byte := 0x10
def bmKSTATUS : Byte := 0x40
def bmJSTATUS : Byte := 0x80
def bmSE0 : Byte := 0x00
def bmSE1 : Byte := 0xc0

def hrNAK : Byte := 0x04
def hrTIMEOUT : Byte := 0x0e

end Registers

/-- The parallel ports of the board that the driver uses. -/
inductive Pio
  | usbRst
  | usbIrq
  | usbGpx
  | keycode
deriving DecidableEq, Repr

/-! ## Tables -/

/-- `EP_RECORD`. -/
structure EpRecord where
  epAddr : Byte
  attr : Byte
  maxPktSize : Word
  interval : Byte
  sndToggle : Byte
  rcvToggle : Byte
deriving DecidableEq, Repr

/-- What an `epinfo` points to. -/
inductive EpInfo
  | null
  | dev0ep
  | hidEp
deriving DecidableEq, Repr

/-- `DEV_RECORD`. -/
structure DevRecord where
  epinfo : EpInfo
  devclass : Byte
deriving DecidableEq, Repr

/-- `HID_DEVICE`. -/
structure HidDevice where
  addr : Byte
  interface : Byte
deriving DecidableEq, Repr

def usbNumdevices : Nat := 8

/-- One access to the outside, or to a byte at an index that the device chose. -/
inductive Access
  | regRd (reg val : Byte)
  | regWr (reg val : Byte)
  | bytesRd (reg : Byte) (bytes : List Byte)
  | bytesWr (reg : Byte) (bytes : List Byte)
  | ticks (t : Dword)
  | pioRd (port : Pio) (val : Dword)
  | pioWr (port : Pio) (val : Dword)
  | bigbufRd (i : Nat)
  | stringRd (i : Nat)
  | stringWr (i : Nat)
deriving DecidableEq, Repr

/-- `devtable`, `dev0ep`, `hid_ep`, `hid_device` and `bigbuf`, with the log of accesses. -/
structure Tables where
  devtable : Vector DevRecord (usbNumdevices + 1)
  dev0ep : EpRecord
  hidEp : Vector EpRecord 2
  hidDevice : HidDevice
  bigbuf : List Byte
  log : List Access
deriving DecidableEq, Repr

/-- A place `devtable[addr].epinfo[ep]` can lie at. -/
inductive EpSlot
  | dev0ep
  | hidEp (i : Fin 2)
deriving DecidableEq, Repr

namespace Tables

/-- Static storage before `main`. -/
def powerUp : Tables where
  devtable := .replicate _ ⟨.null, 0⟩
  dev0ep := ⟨0, 0, 0, 0, 0, 0⟩
  hidEp := .replicate _ ⟨0, 0, 0, 0, 0, 0⟩
  hidDevice := ⟨0, 0⟩
  bigbuf := .replicate 256 0
  log := []

/-- The record that `devtable[addr].epinfo[ep]` names, if it names one. -/
def epSlot (t : Tables) (addr ep : Byte) : Option EpSlot :=
  match t.devtable[addr.toNat]? with
  | none => none
  | some d =>
    match d.epinfo with
    | .null => none
    | .dev0ep => if ep = 0 then some .dev0ep else none
    | .hidEp => if h : ep.toNat < 2 then some (.hidEp ⟨ep.toNat, h⟩) else none

def epRecord (t : Tables) : EpSlot → EpRecord
  | .dev0ep => t.dev0ep
  | .hidEp i => t.hidEp[i]

def setEpRecord (t : Tables) (r : EpRecord) : EpSlot → Tables
  | .dev0ep => { t with dev0ep := r }
  | .hidEp i => { t with hidEp := t.hidEp.set i r }

theorem epSlot_setEpRecord (t : Tables) (r : EpRecord) (slot : EpSlot) (addr ep : Byte) :
    (t.setEpRecord r slot).epSlot addr ep = t.epSlot addr ep := by
  cases slot <;> rfl

theorem epRecord_setEpRecord (t : Tables) (r : EpRecord) (slot : EpSlot) :
    (t.setEpRecord r slot).epRecord slot = r := by
  cases slot with
  | dev0ep => rfl
  | hidEp i => simp [setEpRecord, epRecord]

end Tables

/-- Code that works on the tables alone. -/
abbrev Driver := Prog Dword Tables

/-! ## Access -/

def emit (e : Access) : Driver Unit := update fun t => { t with log := t.log ++ [e] }

def maxRegWr (reg val : Byte) : Driver Unit := emit (.regWr reg val)

def maxRegRd (reg : Byte) : Driver Byte := do
  let val := (← ask).setWidth 8
  emit (.regRd reg val)
  return val

def maxBytesWr (reg : Byte) (data : List Byte) : Driver Unit := emit (.bytesWr reg data)

/-- The bytes that `MAXbytes_rd` stores at the destination it is given. -/
def maxBytesRd (reg nbytes : Byte) : Driver (List Byte) := do
  let bytes := (← askN nbytes.toNat).map (·.setWidth 8)
  emit (.bytesRd reg bytes)
  return bytes

def pioRd (port : Pio) : Driver Dword := do
  let val ← ask
  emit (.pioRd port val)
  return val

def pioWr (port : Pio) (val : Dword) : Driver Unit := emit (.pioWr port val)

def altNticks : Driver Dword := do
  let t ← ask
  emit (.ticks t)
  return t

/-- `TIMER_0_TICKS_PER_SEC`, the system clock of the board support package. -/
def altTicksPerSecond : Dword := 1000

/-- `(alt_nticks()*1000)/alt_ticks_per_second()`, at 32 bits. -/
def milliseconds : Driver Dword := do
  return (← altNticks) * 1000 / altTicksPerSecond

/-- `n` bytes of a local that was never written. -/
def uninitialised (n : Nat) : Driver (List Byte) := do
  return (← askN n).map (·.setWidth 8)

/-- `devtable[addr].epinfo[ep]`. -/
def epRecord (addr ep : Byte) : Driver EpRecord := do
  let t ← read
  match t.epSlot addr ep with
  | none => halt .fault
  | some slot => return t.epRecord slot

theorem epRecord_eq (addr ep : Byte) (w : World Dword Tables) :
    epRecord addr ep w =
      match w.st.epSlot addr ep with
      | none => .error .fault w
      | some slot => .ok (w.st.epRecord slot) w := by
  show (match w.st.epSlot addr ep with
    | none => halt .fault
    | some slot => pure (w.st.epRecord slot) : Driver EpRecord) w = _
  rcases w.st.epSlot addr ep with _ | slot <;> rfl

theorem epRecord_ok {addr ep : Byte} {w : World Dword Tables} {slot : EpSlot}
    (hslot : w.st.epSlot addr ep = some slot) :
    epRecord addr ep w = .ok (w.st.epRecord slot) w := by
  rw [epRecord_eq, hslot]

/-- An assignment to fields of `devtable[addr].epinfo[ep]`. -/
def setEpRecord (addr ep : Byte) (f : EpRecord → EpRecord) : Driver Unit := do
  let t ← read
  match t.epSlot addr ep with
  | none => halt .fault
  | some slot => update fun t => t.setEpRecord (f (t.epRecord slot)) slot

theorem setEpRecord_eq {addr ep : Byte} {w : World Dword Tables} {slot : EpSlot}
    (hslot : w.st.epSlot addr ep = some slot) (g : EpRecord → EpRecord) :
    setEpRecord addr ep g w =
      .ok () ⟨w.script, w.st.setEpRecord (g (w.st.epRecord slot)) slot⟩ := by
  have hread : (read : Driver Tables) w = .ok w.st w := rfl
  rw [setEpRecord, bind_ok hread, hslot]
  rfl

/-- An assignment to fields of `devtable[addr]`. -/
def setDevRecord (addr : Byte) (f : DevRecord → DevRecord) : Driver Unit := do
  let t ← read
  if h : addr.toNat < usbNumdevices + 1 then
    update fun t => { t with devtable := t.devtable.set addr.toNat (f t.devtable[addr.toNat]) }
  else halt .fault

/-- A destination in memory and how far into it `data` has moved. A store past the end
lengthens it: what lies there in memory is not modelled, and a run is to be read only as far as
no transfer stores past its destination (`InBounds`). -/
structure Cursor where
  bytes : List Byte
  pos : Nat
deriving DecidableEq, Repr

def Cursor.write (data : Cursor) (bs : List Byte) : Cursor :=
  ⟨data.bytes.take data.pos ++ bs ++ data.bytes.drop (data.pos + bs.length),
    data.pos + bs.length⟩

/-! ## What a driver does

A program of the driver is made of accesses, of changes to the tables and of loops that ask. What
these go along, for a relation on worlds, the whole program goes along. -/

/-- How many bytes an access stores at the destination it was given. -/
def Access.stored : Access → Nat
  | .bytesRd _ bytes => bytes.length
  | _ => 0

/-- The bytes a list of accesses stored. -/
def stored (log : List Access) : Nat := (log.map Access.stored).sum

@[simp] theorem stored_append (log : List Access) (e : Access) :
    stored (log ++ [e]) = stored log + e.stored := by
  simp [stored]

def Access.StoresNothing (e : Access) : Prop := e.stored = 0

/-- The clock, or a register of the controller other than the address of the device. -/
def Access.OfRegister : Access → Prop
  | .regRd _ _ | .ticks _ => True
  | .regWr reg _ => reg ≠ rPERADDR
  | _ => False

/-- What a transfer is made of: the clock, a register, or a burst. -/
def Access.OfTransfer : Access → Prop
  | .regRd _ _ | .regWr _ _ | .ticks _ | .bytesRd _ _ | .bytesWr _ _ => True
  | _ => False

theorem Access.OfRegister.ofTransfer {e : Access} (h : e.OfRegister) : e.OfTransfer := by
  cases e <;> first | exact trivial | exact h.elim

theorem Access.OfRegister.storesNothing {e : Access} (h : e.OfRegister) : e.StoresNothing := by
  cases e with
  | bytesRd => exact h.elim
  | _ => rfl

/-- What makes a program that makes accesses in `P` only, and leaves `bigbuf` to others, go along
`R`. -/
structure Allows (P : Access → Prop) (R : World Dword Tables → World Dword Tables → Prop) :
    Prop where
  ask : Moves R ask
  askN : ∀ n, Moves R (askN n)
  emit : ∀ e, P e → Moves R (emit e)
  tables : ∀ f : Tables → Tables, (∀ t, (f t).log = t.log ∧ (f t).bigbuf = t.bigbuf) →
    Moves R (update f)

/-- What is read off the log goes along `R` if each access in `P` takes it along `R`. -/
theorem allows_log {γ : Type} {R : γ → γ → Prop} [IsPreorder γ R] {P : Access → Prop}
    {f : List Access → γ} (h : ∀ log e, P e → R (f log) (f (log ++ [e]))) :
    Allows P (along (fun t : Tables => f t.log) R) where
  ask w := by
    rw [along, final_ask]
    exact refl_of R _
  askN n w := by
    rw [along, st_final_askN]
    exact refl_of R _
  emit e he := Moves.update_along fun t => h t.log e he
  tables g hg := by
    apply Moves.update_along
    intro t
    rw [(hg t).1]
    exact refl_of R _

/-- The program makes accesses in `P` only, it leaves `bigbuf` alone, and it does not run for
ever. -/
structure Accesses (P : Access → Prop) {α : Type} (m : Driver α) : Prop where
  ends : Ends m
  moves : ∀ {R : World Dword Tables → World Dword Tables → Prop} [IsPreorder _ R],
    Allows P R → Moves R m

namespace Accesses

variable {α β : Type} {P : Access → Prop}

theorem pure (a : α) : Accesses P (pure a) := ⟨Ends.pure a, fun _ => Moves.pure a⟩

theorem fault : Accesses P (halt .fault : Driver α) := by
  refine ⟨fun w v h => ?_, fun _ => Moves.halt _⟩
  cases h

theorem read : Accesses P read := by
  refine ⟨fun w v h => ?_, fun _ => Moves.read⟩
  cases h

theorem ask : Accesses P ask := ⟨Ends.ask, fun hR => hR.ask⟩

theorem askN (n : Nat) : Accesses P (askN n) := ⟨Ends.askN n, fun hR => hR.askN n⟩

theorem emit {e : Access} (he : P e) : Accesses P (emit e) :=
  ⟨Ends.update _, fun hR => hR.emit e he⟩

theorem update {f : Tables → Tables} (hf : ∀ t, (f t).log = t.log ∧ (f t).bigbuf = t.bigbuf) :
    Accesses P (update f) :=
  ⟨Ends.update f, fun hR => hR.tables f hf⟩

theorem bind {m : Driver α} {f : α → Driver β} (hm : Accesses P m) (hf : ∀ a, Accesses P (f a)) :
    Accesses P (m >>= f) :=
  ⟨Ends.bind hm.ends fun a => (hf a).ends,
    fun hR => Moves.bind (hm.moves hR) fun a => (hf a).moves hR⟩

theorem forever {body : α → Driver (α ⊕ β)} (hbody : ∀ a, Accesses P (body a))
    (huses : ∀ a, Uses (body a)) (a : α) : Accesses P (forever body a) :=
  ⟨Ends.forever (fun a => (hbody a).ends) huses a,
    fun hR => Moves.forever (fun a => (hbody a).moves hR) a⟩

theorem mono {Q : Access → Prop} (h : ∀ e, P e → Q e) {m : Driver α} (hm : Accesses P m) :
    Accesses Q m :=
  ⟨hm.ends, fun hR => hm.moves ⟨hR.ask, hR.askN, fun e he => hR.emit e (h e he), hR.tables⟩⟩

theorem any {m : Driver α} (hm : Accesses P m) : Accesses (fun _ => True) m :=
  hm.mono fun _ _ => trivial

theorem storesNothing {m : Driver α} (hm : Accesses Access.OfRegister m) :
    Accesses Access.StoresNothing m :=
  hm.mono fun _ => Access.OfRegister.storesNothing

theorem ofTransfer {m : Driver α} (hm : Accesses Access.OfRegister m) :
    Accesses Access.OfTransfer m :=
  hm.mono fun _ => Access.OfRegister.ofTransfer

/-- The log is only added to. -/
theorem grows {m : Driver α} (hm : Accesses P m) :
    Moves (along (fun t : Tables => t.log) (· <+: ·)) m :=
  hm.moves (allows_log (f := id) fun log e _ => List.prefix_append log [e])

/-- No access puts an answer back. -/
theorem draws {m : Driver α} (hm : Accesses P m) : Draws m :=
  hm.moves ⟨Draws.ask, Draws.askN, fun _ _ => Draws.update _, fun _ _ => Draws.update _⟩

end Accesses

section Accesses

open Access

theorem accesses_maxRegWr {reg : Byte} (h : reg ≠ rPERADDR) (val : Byte) :
    Accesses OfRegister (maxRegWr reg val) := Accesses.emit h

theorem Accesses.maxRegRd {P : Access → Prop} {reg : Byte} (h : ∀ val, P (.regRd reg val)) :
    Accesses P (maxRegRd reg) :=
  Accesses.bind Accesses.ask fun _ => Accesses.bind (Accesses.emit (h _)) fun _ => Accesses.pure _

theorem accesses_maxRegRd (reg : Byte) : Accesses OfRegister (maxRegRd reg) :=
  Accesses.maxRegRd fun _ => trivial

theorem accesses_maxBytesRd (reg nbytes : Byte) :
    Accesses OfTransfer (maxBytesRd reg nbytes) :=
  Accesses.bind (Accesses.askN _) fun _ =>
    Accesses.bind (Accesses.emit trivial) fun _ => Accesses.pure _

theorem Accesses.milliseconds {P : Access → Prop} (h : ∀ t, P (.ticks t)) :
    Accesses P milliseconds :=
  Accesses.bind (Accesses.bind Accesses.ask fun _ =>
    Accesses.bind (Accesses.emit (h _)) fun _ => Accesses.pure _) fun _ => Accesses.pure _

theorem accesses_milliseconds : Accesses OfRegister milliseconds :=
  Accesses.milliseconds fun _ => trivial

theorem accesses_epRecord {P : Access → Prop} (addr ep : Byte) : Accesses P (epRecord addr ep) := by
  apply Accesses.bind Accesses.read
  intro t
  split
  · exact Accesses.fault
  · exact Accesses.pure _

theorem accesses_setEpRecord {P : Access → Prop} (addr ep : Byte) (f : EpRecord → EpRecord) :
    Accesses P (setEpRecord addr ep f) := by
  apply Accesses.bind Accesses.read
  intro t
  split
  · exact Accesses.fault
  · next slot _ =>
    exact Accesses.update fun t => by cases slot <;> exact ⟨rfl, rfl⟩

theorem accesses_setDevRecord {P : Access → Prop} (addr : Byte) (f : DevRecord → DevRecord) :
    Accesses P (setDevRecord addr f) := by
  apply Accesses.bind Accesses.read
  intro t
  split
  · exact Accesses.update fun _ => ⟨rfl, rfl⟩
  · exact Accesses.fault

theorem uses_milliseconds : Uses milliseconds := by
  refine Uses.bind_left (Uses.bind_left Uses.ask fun _ => ?_) fun _ => Moves.pure _
  exact Moves.bind (Draws.update _) fun _ => Moves.pure _

end Accesses

/-- The relation stays when both sides log the same access. -/
def KeptByLog (R : Tables → Tables → Prop) : Prop :=
  ∀ e s t, R s t → R { s with log := s.log ++ [e] } { t with log := t.log ++ [e] }

section Related

variable {R : Tables → Tables → Prop} (hR : KeptByLog R)
include hR

theorem related_emit (e : Access) : Related R (emit e) (emit e) := Related.update (hR e)

theorem related_maxRegRd (reg : Byte) : Related R (maxRegRd reg) (maxRegRd reg) :=
  Related.bind Related.ask fun _ => Related.bind (related_emit hR _) fun _ => Related.pure _

theorem related_maxBytesRd (reg nbytes : Byte) :
    Related R (maxBytesRd reg nbytes) (maxBytesRd reg nbytes) :=
  Related.bind (Related.askN _) fun _ => Related.bind (related_emit hR _) fun _ => Related.pure _

theorem related_milliseconds : Related R milliseconds milliseconds :=
  Related.bind
    (Related.bind Related.ask fun _ => Related.bind (related_emit hR _) fun _ => Related.pure _)
    fun _ => Related.pure _

end Related

end Bosconian.Usb
