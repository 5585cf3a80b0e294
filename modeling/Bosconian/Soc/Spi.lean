import Bosconian.Usb.Chip

/-!
# The serial port to the controller

`lab62_soc_spi_0`, the core that puts bytes on the wires to the MAX3421E bit by bit, and the
routines over it: `alt_avalon_spi_command` of the board support package, and the register accesses
of `MAX3421E.c`. The processor comes to an access when it comes, and the core goes on meanwhile.
-/

namespace Bosconian.Soc

open Scripted Usb

/-! ## The core -/

/-- The registers of `lab62_soc_spi_0`. -/
structure SpiCore where
  rdStrobe : Bool
  dataRdStrobe : Bool
  wrStrobe : Bool
  dataWrStrobe : Bool
  dataToCpu : BitVec 16
  iEopReg : Bool
  iEReg : Bool
  iRrdyReg : Bool
  iTrdyReg : Bool
  iTmtReg : Bool
  iToeReg : Bool
  iRoeReg : Bool
  ssoReg : Bool
  irqReg : Bool
  spiSlaveSelectReg : BitVec 16
  spiSlaveSelectHoldingReg : BitVec 16
  slowcount : BitVec 4
  endofpacketvalueReg : BitVec 16
  state : BitVec 5
  stateZero : Bool
  shiftReg : Byte
  rxHoldingReg : Byte
  txHoldingReg : Byte
  eop : Bool
  rrdy : Bool
  roe : Bool
  toe : Bool
  txHoldingPrimed : Bool
  transmitting : Bool
  sclkReg : Bool
  misoReg : Bool
deriving DecidableEq, Repr

/-- The signals of `spi_control_port`. -/
structure ControlPort where
  spiSelect : Bool
  readN : Bool
  writeN : Bool
  memAddr : BitVec 3
  dataFromCpu : BitVec 16
deriving DecidableEq, Repr

namespace SpiCore

/-- After `reset_n`. -/
def reset : SpiCore where
  rdStrobe := false
  dataRdStrobe := false
  wrStrobe := false
  dataWrStrobe := false
  dataToCpu := 0
  iEopReg := false
  iEReg := false
  iRrdyReg := false
  iTrdyReg := false
  iTmtReg := false
  iToeReg := false
  iRoeReg := false
  ssoReg := false
  irqReg := false
  spiSlaveSelectReg := 1
  spiSlaveSelectHoldingReg := 1
  slowcount := 0
  endofpacketvalueReg := 0
  state := 0
  stateZero := true
  shiftReg := 0
  rxHoldingReg := 0
  txHoldingReg := 0
  eop := false
  rrdy := false
  roe := false
  toe := false
  txHoldingPrimed := false
  transmitting := false
  sclkReg := false
  misoReg := false

section Wires

variable (b : ControlPort) (s : SpiCore)

def p1RdStrobe : Bool := !s.rdStrobe && b.spiSelect && !b.readN
def p1DataRdStrobe : Bool := s.p1RdStrobe b && b.memAddr == 0
def p1WrStrobe : Bool := !s.wrStrobe && b.spiSelect && !b.writeN
def p1DataWrStrobe : Bool := s.p1WrStrobe b && b.memAddr == 1
def controlWrStrobe : Bool := s.wrStrobe && b.memAddr == 3
def statusWrStrobe : Bool := s.wrStrobe && b.memAddr == 2
def slaveselectWrStrobe : Bool := s.wrStrobe && b.memAddr == 5
def endofpacketvalueWrStrobe : Bool := s.wrStrobe && b.memAddr == 6

def tmt : Bool := !s.transmitting && !s.txHoldingPrimed
def trdy : Bool := !(s.transmitting && s.txHoldingPrimed)

def spiStatus : BitVec 16 :=
  (BitVec.ofBool s.eop ++ BitVec.ofBool (s.roe || s.toe) ++ BitVec.ofBool s.rrdy ++
    BitVec.ofBool s.trdy ++ BitVec.ofBool s.tmt ++ BitVec.ofBool s.toe ++ BitVec.ofBool s.roe ++
    0#3).setWidth 16

def spiControl : BitVec 16 :=
  (BitVec.ofBool s.ssoReg ++ BitVec.ofBool s.iEopReg ++ BitVec.ofBool s.iEReg ++
    BitVec.ofBool s.iRrdyReg ++ BitVec.ofBool s.iTrdyReg ++ 0#1 ++ BitVec.ofBool s.iToeReg ++
    BitVec.ofBool s.iRoeReg ++ 0#3).setWidth 16

def p1DataToCpu : BitVec 16 :=
  if b.memAddr = 2 then s.spiStatus
  else if b.memAddr = 3 then s.spiControl
  else if b.memAddr = 6 then s.endofpacketvalueReg
  else if b.memAddr = 5 then s.spiSlaveSelectReg
  else s.rxHoldingReg.setWidth 16

/-- Once every ten clocks of a transmission. -/
def slowclock : Bool := s.slowcount == 9

/-- The last of the states 0 to 17. -/
def lastState : Bool := s.state == 17

def writeTxHolding : Bool := s.dataWrStrobe && s.trdy
def writeShiftReg : Bool := s.txHoldingPrimed && !s.transmitting

def mosi : Bool := s.shiftReg.msb

/-- `SS_n` is one bit wide. -/
def ssN : Bool :=
  if (s.transmitting && !s.stateZero) || s.ssoReg then !s.spiSlaveSelectReg.getLsbD 0 else true

end Wires

/-- The rising edge of `clk`. Where a register is assigned more than once the last one counts. -/
def posedgeClk (b : ControlPort) (miso : Bool) (s : SpiCore) : SpiCore where
  rdStrobe := s.p1RdStrobe b
  dataRdStrobe := s.p1DataRdStrobe b
  wrStrobe := s.p1WrStrobe b
  dataWrStrobe := s.p1DataWrStrobe b
  dataToCpu := s.p1DataToCpu b
  iEopReg := if s.controlWrStrobe b then b.dataFromCpu.getLsbD 9 else s.iEopReg
  iEReg := if s.controlWrStrobe b then b.dataFromCpu.getLsbD 8 else s.iEReg
  iRrdyReg := if s.controlWrStrobe b then b.dataFromCpu.getLsbD 7 else s.iRrdyReg
  iTrdyReg := if s.controlWrStrobe b then b.dataFromCpu.getLsbD 6 else s.iTrdyReg
  iTmtReg := if s.controlWrStrobe b then b.dataFromCpu.getLsbD 5 else s.iTmtReg
  iToeReg := if s.controlWrStrobe b then b.dataFromCpu.getLsbD 4 else s.iToeReg
  iRoeReg := if s.controlWrStrobe b then b.dataFromCpu.getLsbD 3 else s.iRoeReg
  ssoReg := if s.controlWrStrobe b then b.dataFromCpu.getLsbD 10 else s.ssoReg
  irqReg := (s.eop && s.iEopReg) || ((s.toe || s.roe) && s.iEReg) || (s.rrdy && s.iRrdyReg) ||
    (s.trdy && s.iTrdyReg) || (s.toe && s.iToeReg) || (s.roe && s.iRoeReg)
  spiSlaveSelectReg :=
    if s.writeShiftReg || (s.controlWrStrobe b && b.dataFromCpu.getLsbD 10 && !s.ssoReg) then
      s.spiSlaveSelectHoldingReg else s.spiSlaveSelectReg
  spiSlaveSelectHoldingReg :=
    if s.slaveselectWrStrobe b then b.dataFromCpu else s.spiSlaveSelectHoldingReg
  slowcount := if s.transmitting && !s.slowclock then s.slowcount + 1 else 0
  endofpacketvalueReg :=
    if s.endofpacketvalueWrStrobe b then b.dataFromCpu else s.endofpacketvalueReg
  state :=
    if s.transmitting && s.slowclock then (if s.lastState then 0 else s.state + 1) else s.state
  stateZero := if s.transmitting && s.slowclock then s.lastState else s.stateZero
  shiftReg :=
    if s.slowclock && s.sclkReg then s.shiftReg.shiftConcat s.misoReg
    else if s.writeShiftReg then s.txHoldingReg else s.shiftReg
  rxHoldingReg := if s.slowclock && s.lastState then s.shiftReg else s.rxHoldingReg
  txHoldingReg := if s.writeTxHolding then b.dataFromCpu.setWidth 8 else s.txHoldingReg
  eop :=
    if s.statusWrStrobe b then false
    else if (s.p1DataRdStrobe b && s.rxHoldingReg.setWidth 16 == s.endofpacketvalueReg) ||
        (s.p1DataWrStrobe b &&
          (b.dataFromCpu.setWidth 8).setWidth 16 == s.endofpacketvalueReg) then true
    else s.eop
  rrdy :=
    if s.slowclock && s.lastState then true
    else if s.statusWrStrobe b || s.dataRdStrobe then false else s.rrdy
  roe :=
    if s.slowclock && s.lastState && s.rrdy then true
    else if s.statusWrStrobe b then false else s.roe
  toe :=
    if s.statusWrStrobe b then false
    else if s.dataWrStrobe && !s.trdy then true else s.toe
  txHoldingPrimed :=
    if s.writeShiftReg && !s.writeTxHolding then false
    else if s.writeTxHolding then true else s.txHoldingPrimed
  transmitting :=
    if s.slowclock && s.lastState then false
    else if s.writeShiftReg then true else s.transmitting
  sclkReg :=
    if s.slowclock then
      (if s.lastState then false
      else if s.state ≠ 0 ∧ s.transmitting = true then !s.sclkReg else s.sclkReg)
    else s.sclkReg
  misoReg := if s.slowclock && !s.sclkReg then miso else s.misoReg

end SpiCore

/-! ## The wires -/

/-- What a device on the wires sees: that it is selected or left, and a bit in either direction at
each rising edge of `SCLK` while it is selected. -/
inductive WireEvent
  | select
  | bit (mosi miso : Bool)
  | deselect
deriving DecidableEq, Repr

/-- The core and what has been on its wires. -/
structure Spi where
  core : SpiCore
  wire : List WireEvent
deriving DecidableEq, Repr

def Spi.powerUp : Spi := ⟨.reset, []⟩

/-- What a device sees of a clock. -/
def wireEvents (miso : Bool) (s s' : SpiCore) : List WireEvent :=
  (if s.ssN && !s'.ssN then [.select] else []) ++
    (if !s.sclkReg && s'.sclkReg && !s'.ssN then [.bit s'.mosi miso] else []) ++
    if !s.ssN && s'.ssN then [.deselect] else []

def Spi.clock (b : ControlPort) (s : Spi) (miso : Bool) : Spi :=
  ⟨s.core.posedgeClk b miso, s.wire ++ wireEvents miso s.core (s.core.posedgeClk b miso)⟩

/-! ## Access -/

/-- `MISO` at each clock until the next access, and at its two clocks. -/
structure Turn where
  idle : List Bool
  first : Bool
  second : Bool
deriving DecidableEq, Repr

abbrev SpiProg := Prog Turn Spi

def ControlPort.idle : ControlPort := ⟨false, true, true, 0, 0⟩
def ControlPort.read (reg : BitVec 3) : ControlPort := ⟨true, false, true, reg, 0⟩
def ControlPort.write (reg : BitVec 3) (data : BitVec 16) : ControlPort :=
  ⟨true, true, false, reg, data⟩

/-- An access takes two clocks, and reads what the core has put out after the first one. -/
def access (b : ControlPort) : SpiProg (BitVec 16) := do
  let t ← ask
  update fun s => t.idle.foldl (Spi.clock .idle) s
  update fun s => s.clock b t.first
  let dataToCpu := (← read).core.dataToCpu
  update fun s => s.clock b t.second
  return dataToCpu

def iord (reg : BitVec 3) : SpiProg (BitVec 16) := access (.read reg)

def iowr (reg : BitVec 3) (data : BitVec 16) : SpiProg Unit := do
  let _ ← access (.write reg data)

def spiRxdata : BitVec 3 := 0
def spiTxdata : BitVec 3 := 1
def spiStatusReg : BitVec 3 := 2
def spiControlReg : BitVec 3 := 3
def spiSlaveSel : BitVec 3 := 5
def statusTmtMsk : BitVec 16 := 0x20
def statusTrdyMsk : BitVec 16 := 0x40
def statusRrdyMsk : BitVec 16 := 0x80
def controlSsoMsk : BitVec 16 := 0x400
def commandMerge : Dword := 0x01
def commandToggleSsN : Dword := 0x02

/-! ## `alt_avalon_spi_command` -/

/-- The locals of the loop: what is left of `write_data` and what `read_data` has got. -/
structure Command where
  credits : Int
  writeData : List Byte
  writeZeros : Nat
  readIgnore : Nat
  readData : List Byte
deriving DecidableEq, Repr

/-- Poll until there is something to do. -/
def awaitStatus (credits : Int) : SpiProg (BitVec 16) :=
  forever (fun _ => do
    let status ← iord spiStatusReg
    if (status &&& statusTrdyMsk = 0 ∨ credits = 0) ∧ status &&& statusRrdyMsk = 0 then
      return .inl ()
    else return .inr status) ()

/-- The next byte is sent, or a zero for each byte to be read. -/
def Command.send (c : Command) : SpiProg Command :=
  match c.writeData with
  | b :: bs => do
    iowr spiTxdata (b.setWidth 16)
    return { c with credits := c.credits - 1, writeData := bs }
  | [] =>
    if 0 < c.writeZeros then do
      iowr spiTxdata 0
      return { c with credits := c.credits - 1, writeZeros := c.writeZeros - 1 }
    else return { c with credits := -1024 }

/-- A byte that has come is kept once the answers to `write_data` are through. -/
def Command.receive (rxdata : BitVec 16) (c : Command) : Command :=
  if 0 < c.readIgnore then { c with readIgnore := c.readIgnore - 1, credits := c.credits + 1 }
  else { c with readData := c.readData ++ [rxdata.setWidth 8], credits := c.credits + 1 }

/-- What has come is read, and the loop ends with the last answer. -/
def Command.collect (readLength : Nat) (status : BitVec 16) (c : Command) :
    SpiProg (Command ⊕ List Byte) := do
  if status &&& statusRrdyMsk ≠ 0 then
    let c := c.receive (← iord spiRxdata)
    if c.readIgnore = 0 ∧ c.readData.length = readLength then return .inr c.readData
    else return .inl c
  else return .inl c

def commandRound (readLength : Nat) (c : Command) : SpiProg (Command ⊕ List Byte) := do
  let status ← awaitStatus c.credits
  let c ← if status &&& statusTrdyMsk ≠ 0 ∧ 0 < c.credits then c.send else pure c
  c.collect readLength status

def awaitTransmitted : SpiProg Unit :=
  forever (fun _ => do
    if (← iord spiStatusReg) &&& statusTmtMsk = 0 then return .inl () else return .inr ()) ()

/-- Returns with the count it returns what `read_data` has got. -/
def altAvalonSpiCommand (slave : Nat) (writeData : List Byte) (readLength : Nat) (flags : Dword) :
    SpiProg (Nat × List Byte) := do
  iowr spiSlaveSel (1 <<< slave)
  onlyIf (flags &&& commandToggleSsN = 0) (iowr spiControlReg controlSsoMsk)
  let _ ← iord spiRxdata
  let readData ← forever (commandRound readLength) ⟨1, writeData, readLength, writeData.length, []⟩
  awaitTransmitted
  onlyIf (flags &&& commandMerge = 0) (iowr spiControlReg 0)
  return (readLength, readData)

/-! ## `MAX3421E.c` -/

def spiMaxRegWr (reg val : Byte) : SpiProg Unit := do
  let _ ← altAvalonSpiCommand 0 [reg + 2, val] 0 0

def spiMaxBytesWr (reg : Byte) (data : List Byte) : SpiProg Unit := do
  let _ ← altAvalonSpiCommand 0 ((reg + 2) :: data) 0 0

/-- The byte read is whatever the stack held if none came. -/
def spiMaxRegRd (reg spiByteRead : Byte) : SpiProg Byte := do
  let (_, data) ← altAvalonSpiCommand 0 [reg] 1 0
  return data.getD 0 spiByteRead

def spiMaxBytesRd (reg nbytes : Byte) : SpiProg (List Byte) := do
  let (_, data) ← altAvalonSpiCommand 0 [reg] nbytes.toNat 0
  return data

end Bosconian.Soc
