import Bosconian.Soc.Spi
import Bosconian.Hdl.Words

/-!
# A byte on the wires

What the core does from the write of `txdata` until the answer lies in `rxdata`, clock by clock and
whatever the processor reads meanwhile.

* `Shifting` — the core some clocks into a byte.
* `Exchange` — a byte on its way, the clocks that are left, and what has been on the wires.
* `Exchange.clock` — a clock brings it on, and after the last one the eight bits of either
  direction have passed.
-/

namespace Bosconian.Soc

open Usb Words

namespace SpiCore

/-- No write is under way. -/
structure Calm (s : SpiCore) : Prop where
  dataWrStrobe : s.dataWrStrobe = false
  wrStrobe : s.wrStrobe = false

/-- The core holds `SS_n` low, and no byte was lost. -/
structure Selected (s : SpiCore) : Prop where
  ssoReg : s.ssoReg = true
  spiSlaveSelectReg : s.spiSlaveSelectReg.getLsbD 0 = true
  spiSlaveSelectHoldingReg : s.spiSlaveSelectHoldingReg.getLsbD 0 = true
  roe : s.roe = false
  toe : s.toe = false

/-- The counters between two bytes. The next one may be primed already. -/
structure AtRest (primed : Bool) (s : SpiCore) : Prop where
  transmitting : s.transmitting = false
  txHoldingPrimed : s.txHoldingPrimed = primed
  slowcount : s.slowcount = 0
  state : s.state = 0
  stateZero : s.stateZero = true
  sclkReg : s.sclkReg = false

/-- The bit that is sampled while `SCLK` rises waits until it falls. -/
def sampled (s : SpiCore) : List Bool := if s.sclkReg then [s.misoReg] else []

/-- The core `n` clocks into the byte `b`, when the bits `ins` have come. -/
structure Shifting (b : Byte) (ins : List Bool) (n : Nat) (s : SpiCore) : Prop where
  lt : n < 180
  transmitting : s.transmitting = true
  txHoldingPrimed : s.txHoldingPrimed = false
  slowcount : s.slowcount.toNat = n % 10
  state : s.state.toNat = n / 10
  stateZero : s.stateZero = decide (n / 10 = 0)
  sclkReg : s.sclkReg = decide (2 ≤ n / 10 ∧ n / 10 % 2 = 0)
  length : ins.length = n / 10 / 2
  shiftReg : shiftIn s.shiftReg s.sampled = shiftIn b ins

section Clock

variable {b : Byte} {ins : List Bool} {n : Nat} {s : SpiCore} (port : ControlPort) (miso : Bool)

theorem Calm.controlWrStrobe (h : s.Calm) : s.controlWrStrobe port = false := by
  simp [SpiCore.controlWrStrobe, h.wrStrobe]

theorem Calm.statusWrStrobe (h : s.Calm) : s.statusWrStrobe port = false := by
  simp [SpiCore.statusWrStrobe, h.wrStrobe]

theorem Calm.slaveselectWrStrobe (h : s.Calm) : s.slaveselectWrStrobe port = false := by
  simp [SpiCore.slaveselectWrStrobe, h.wrStrobe]

theorem Calm.writeTxHolding (h : s.Calm) : s.writeTxHolding = false := by
  simp [SpiCore.writeTxHolding, h.dataWrStrobe]

theorem Shifting.writeShiftReg (h : Shifting b ins n s) : s.writeShiftReg = false := by
  simp [SpiCore.writeShiftReg, h.transmitting]

theorem Shifting.slowclock (h : Shifting b ins n s) : s.slowclock = decide (n % 10 = 9) := by
  have hnine : (9 : BitVec 4).toNat = 9 := rfl
  rw [SpiCore.slowclock, Bool.eq_iff_iff, beq_iff_eq, decide_eq_true_eq, ← BitVec.toNat_inj,
    h.slowcount, hnine]

theorem Shifting.lastState (h : Shifting b ins n s) : s.lastState = decide (170 ≤ n) := by
  have hlast : (17 : BitVec 5).toNat = 17 := rfl
  have hlt := h.lt
  rw [SpiCore.lastState, Bool.eq_iff_iff, beq_iff_eq, decide_eq_true_eq, ← BitVec.toNat_inj,
    h.state, hlast]
  omega

theorem Shifting.state_ne_zero (h : Shifting b ins n s) : s.state ≠ 0 ↔ 10 ≤ n := by
  have hzero : (0 : BitVec 5).toNat = 0 := rfl
  rw [ne_eq, ← BitVec.toNat_inj, h.state, hzero]
  omega

/-- A clock between two of the slow ones only counts. -/
theorem Shifting.count (h : Shifting b ins n s) (hcalm : s.Calm) (hslow : n % 10 ≠ 9) :
    Shifting b ins (n + 1) (s.posedgeClk port miso) := by
  have hlt := h.lt
  have hclock : s.slowclock = false := by rw [h.slowclock, decide_eq_false hslow]
  have hnext : (n + 1) / 10 = n / 10 := by omega
  constructor
  · omega
  · simp [posedgeClk, hclock, h.writeShiftReg, h.transmitting]
  · simp [posedgeClk, h.writeShiftReg, hcalm.writeTxHolding, h.txHoldingPrimed]
  · have hone : (1 : BitVec 4).toNat = 1 := rfl
    simp only [posedgeClk, hclock, h.transmitting, Bool.not_false, Bool.and_true, if_true,
      BitVec.toNat_add, h.slowcount, hone]
    omega
  · simp [posedgeClk, hclock, h.state, hnext]
  · simp [posedgeClk, hclock, h.stateZero, hnext]
  · simp [posedgeClk, hclock, h.sclkReg, hnext]
  · rw [h.length, hnext]
  · simp [posedgeClk, sampled, hclock, h.writeShiftReg, ← h.shiftReg]

theorem Shifting.sclkReg_slow (h : Shifting b ins n s) (hslow : n % 10 = 9) (hn : n ≠ 179) :
    (s.posedgeClk port miso).sclkReg = decide (n % 20 = 19) := by
  have hlt := h.lt
  have hclock : s.slowclock = true := by rw [h.slowclock, decide_eq_true hslow]
  have hlast : s.lastState = false := by
    rw [h.lastState, decide_eq_false_iff_not]
    omega
  have hstate := h.state_ne_zero
  simp only [posedgeClk, hclock, hlast, if_true, Bool.false_eq_true, if_false, h.transmitting,
    and_true, hstate, h.sclkReg]
  by_cases hrise : n % 20 = 19
  · rw [if_pos (by omega), decide_eq_true hrise, decide_eq_false (by omega), Bool.not_false]
  · rw [decide_eq_false hrise]
    by_cases hfirst : 10 ≤ n
    · rw [if_pos hfirst, decide_eq_true (by omega), Bool.not_true]
    · rw [if_neg hfirst, decide_eq_false (by omega)]

/-- After a slow clock every bit that was sampled before is shifted in. -/
theorem Shifting.shiftReg_slow (h : Shifting b ins n s) (hslow : n % 10 = 9) :
    (s.posedgeClk port miso).shiftReg = shiftIn b ins := by
  have hclock : s.slowclock = true := by rw [h.slowclock, decide_eq_true hslow]
  rw [← h.shiftReg, sampled]
  by_cases hhigh : s.sclkReg = true
  · simp [posedgeClk, hclock, hhigh, shiftIn]
  · simp [posedgeClk, hhigh, h.writeShiftReg, shiftIn]

/-- At a slow clock but the last one `SCLK` rises, from the second state on, and the bit on `MISO`
is sampled; or it falls. -/
theorem Shifting.slow (h : Shifting b ins n s) (hcalm : s.Calm) (hslow : n % 10 = 9)
    (hn : n ≠ 179) :
    Shifting b (if n % 20 = 19 then ins ++ [miso] else ins) (n + 1) (s.posedgeClk port miso) := by
  have hlt := h.lt
  have hclock : s.slowclock = true := by rw [h.slowclock, decide_eq_true hslow]
  have hlast : s.lastState = false := by
    rw [h.lastState, decide_eq_false_iff_not]
    omega
  have hnext : (n + 1) / 10 = n / 10 + 1 := by omega
  constructor
  · omega
  · simp [posedgeClk, hlast, h.writeShiftReg, h.transmitting]
  · simp [posedgeClk, h.writeShiftReg, hcalm.writeTxHolding, h.txHoldingPrimed]
  · have hzero : (0 : BitVec 4).toNat = 0 := rfl
    simp only [posedgeClk, hclock, Bool.not_true, Bool.and_false, Bool.false_eq_true, if_false,
      hzero]
    omega
  · have hone : (1 : BitVec 5).toNat = 1 := rfl
    simp only [posedgeClk, hclock, hlast, h.transmitting, Bool.and_true, if_true,
      Bool.false_eq_true, if_false, BitVec.toNat_add, h.state, hone]
    omega
  · simp [posedgeClk, hclock, hlast, h.transmitting, hnext]
  · rw [h.sclkReg_slow port miso hslow hn, decide_eq_decide]
    omega
  · split_ifs
    · rw [List.length_append, h.length, List.length_singleton]
      omega
    · rw [h.length]
      omega
  · rw [sampled, h.sclkReg_slow port miso hslow hn, h.shiftReg_slow port miso hslow]
    by_cases hrise : n % 20 = 19
    · have hlow : s.sclkReg = false := by
        rw [h.sclkReg, decide_eq_false_iff_not]
        omega
      simp [posedgeClk, hclock, hlow, hrise, shiftIn]
    · simp [hrise, shiftIn]

/-- The last clock puts the answer into `rxdata`. -/
theorem Shifting.last (h : Shifting b ins 179 s) (hcalm : s.Calm) :
    (s.posedgeClk port miso).AtRest false ∧ (s.posedgeClk port miso).rrdy = true ∧
      (s.posedgeClk port miso).rxHoldingReg = shiftIn b ins := by
  have hclock : s.slowclock = true := by rw [h.slowclock, decide_eq_true rfl]
  have hlast : s.lastState = true := by rw [h.lastState, decide_eq_true (by omega)]
  have hlow : s.sampled = [] := by
    rw [sampled, h.sclkReg]
    rfl
  have hshift := h.shiftReg
  rw [hlow] at hshift
  refine ⟨⟨?_, ?_, ?_, ?_, ?_, ?_⟩, ?_, ?_⟩
  · simp [posedgeClk, hclock, hlast]
  · simp [posedgeClk, h.writeShiftReg, hcalm.writeTxHolding, h.txHoldingPrimed]
  · simp [posedgeClk, hclock]
  · simp [posedgeClk, hclock, hlast, h.transmitting]
  · simp [posedgeClk, hclock, hlast, h.transmitting]
  · simp [posedgeClk, hclock, hlast]
  · simp [posedgeClk, hclock, hlast]
  · simpa [posedgeClk, hclock, hlast, shiftIn] using hshift

/-- A byte that is primed is on its way at the next clock. -/
theorem AtRest.load (h : s.AtRest true) (hcalm : s.Calm) :
    Shifting s.txHoldingReg [] 0 (s.posedgeClk port miso) := by
  have hclock : s.slowclock = false := by simp [SpiCore.slowclock, h.slowcount]
  have hload : s.writeShiftReg = true := by
    simp [SpiCore.writeShiftReg, h.transmitting, h.txHoldingPrimed]
  constructor
  · omega
  · simp [posedgeClk, hclock, hload]
  · simp [posedgeClk, hload, hcalm.writeTxHolding]
  · simp [posedgeClk, h.transmitting]
  · simp [posedgeClk, h.transmitting, h.state]
  · simp [posedgeClk, h.transmitting, h.stateZero]
  · simp [posedgeClk, hclock, h.sclkReg]
  · rfl
  · simp [posedgeClk, hclock, hload, sampled, h.sclkReg, shiftIn]

/-- With nothing primed the core rests on. -/
theorem AtRest.stay (h : s.AtRest false) (hwr : s.dataWrStrobe = false) :
    (s.posedgeClk port miso).AtRest false := by
  have hclock : s.slowclock = false := by simp [SpiCore.slowclock, h.slowcount]
  have hload : s.writeShiftReg = false := by simp [SpiCore.writeShiftReg, h.txHoldingPrimed]
  constructor
  · simp [posedgeClk, hclock, hload, h.transmitting]
  · simp [posedgeClk, hload, writeTxHolding, hwr, h.txHoldingPrimed]
  · simp [posedgeClk, h.transmitting]
  · simp [posedgeClk, h.transmitting, h.state]
  · simp [posedgeClk, h.transmitting, h.stateZero]
  · simp [posedgeClk, hclock, h.sclkReg]

/-- The core stays selected, and loses no byte as long as the last one has been read. -/
theorem Selected.clock (h : s.Selected) (hcalm : s.Calm)
    (hread : (s.slowclock && s.lastState && s.rrdy) = false) :
    (s.posedgeClk port miso).Selected := by
  constructor
  · simp [posedgeClk, hcalm.controlWrStrobe, h.ssoReg]
  · simp only [posedgeClk]
    split_ifs
    · exact h.spiSlaveSelectHoldingReg
    · exact h.spiSlaveSelectReg
  · simpa [posedgeClk, hcalm.slaveselectWrStrobe] using h.spiSlaveSelectHoldingReg
  · simp [posedgeClk, hread, hcalm.statusWrStrobe, h.roe]
  · simp [posedgeClk, hcalm.statusWrStrobe, hcalm.dataWrStrobe, h.toe]

end Clock

end SpiCore

/-! ## On the wires -/

/-- A byte out and a byte in, the highest bit first. -/
def byteEvents (out answer : Byte) : List WireEvent :=
  (List.range 8).map fun j => .bit (out.getMsbD j) (answer.getMsbD j)

/-- The first bits of a byte out, and what came for them. -/
def bitEvents (out : Byte) (ins : List Bool) : List WireEvent :=
  ins.mapIdx fun j m => .bit (out.getMsbD j) m

theorem bitEvents_concat (out : Byte) (ins : List Bool) (m : Bool) :
    bitEvents out (ins ++ [m]) = bitEvents out ins ++ [.bit (out.getMsbD ins.length) m] := by
  rw [bitEvents, bitEvents, List.mapIdx_concat]

/-- After eight bits the word that they were shifted into holds them and nothing else. -/
theorem bitEvents_eight (out : Byte) (ins : List Bool) (hlen : ins.length = 8) :
    bitEvents out ins = byteEvents out (shiftIn out ins) := by
  apply List.ext_getElem
  · simp [bitEvents, byteEvents, hlen]
  · intro j hj hj'
    have hlt : j < 8 := by simpa [byteEvents] using hj'
    have hin : (shiftIn out ins).getMsbD j = ins.getD j false := by
      rw [getMsbD_shiftIn out ins (by omega) hlt, if_neg (by omega)]
      congr 1
      omega
    have hget : ins[j]? = some ins[j] := List.getElem?_eq_getElem (by omega)
    simp [bitEvents, byteEvents, hin, hget]

/-- The device is selected, and nothing is on its way. An answer may be `unread`. -/
structure Ready (unread : Bool) (L : List WireEvent) (s : Spi) : Prop where
  selected : s.core.Selected
  atRest : s.core.AtRest false
  rrdy : s.core.rrdy = unread
  wire : s.wire = L

/-- The byte `out` on its way after the events `L`, and the clocks until its answer is there. -/
inductive Exchange (out : Byte) (L : List WireEvent) : Nat → Spi → Prop
  | primed {s : Spi} (selected : s.core.Selected) (atRest : s.core.AtRest true)
      (txHoldingReg : s.core.txHoldingReg = out) (rrdy : s.core.rrdy = false)
      (wire : s.wire = L) : Exchange out L 181 s
  | shifting {s : Spi} {ins : List Bool} {n : Nat} (selected : s.core.Selected)
      (shifting : s.core.Shifting out ins n) (rrdy : s.core.rrdy = false)
      (wire : s.wire = L ++ bitEvents out ins) : Exchange out L (180 - n) s
  | arrived {s : Spi} (ready : Ready true (L ++ byteEvents out s.core.rxHoldingReg) s) :
      Exchange out L 0 s

section Exchange

variable {out : Byte} {L : List WireEvent} {k : Nat} {s : Spi}

theorem ssN_selected {s : SpiCore} (h : s.Selected) : s.ssN = false := by
  simp [SpiCore.ssN, h.ssoReg, h.spiSlaveSelectReg]

theorem ssN_left {s : SpiCore} (hsso : s.ssoReg = false) (hrest : s.AtRest false) :
    s.ssN = true := by
  simp [SpiCore.ssN, hsso, hrest.transmitting]

/-- While the device stays selected it sees no more than a rising edge of `SCLK`. -/
theorem wireEvents_selected {s s' : SpiCore} (h : s.Selected) (h' : s'.Selected) (miso : Bool) :
    wireEvents miso s s' = if !s.sclkReg && s'.sclkReg then [.bit s'.mosi miso] else [] := by
  simp [wireEvents, ssN_selected h, ssN_selected h']

theorem wireEvents_left {s s' : SpiCore} (h : s.ssN = true) (h' : s'.ssN = true) (miso : Bool) :
    wireEvents miso s s' = [] := by
  simp [wireEvents, h, h']

theorem wireEvents_select {s s' : SpiCore} (h : s.ssN = true) (h' : s'.ssN = false)
    (hrest : s'.AtRest false) (miso : Bool) : wireEvents miso s s' = [.select] := by
  simp [wireEvents, h, h', hrest.sclkReg]

theorem wireEvents_deselect {s s' : SpiCore} (h : s.ssN = false) (h' : s'.ssN = true)
    (miso : Bool) : wireEvents miso s s' = [.deselect] := by
  simp [wireEvents, h, h']

theorem Ready.slowclock {unread : Bool} (h : Ready unread L s) : s.core.slowclock = false := by
  simp [SpiCore.slowclock, h.atRest.slowcount]

/-- Reading `rxdata` is all that happens to the core. -/
theorem Ready.clock {unread : Bool} (h : Ready unread L s) (hcalm : s.core.Calm)
    (port : ControlPort) (miso : Bool) :
    Ready (unread && !s.core.dataRdStrobe) L (s.clock port miso) ∧
      (s.clock port miso).core.rxHoldingReg = s.core.rxHoldingReg := by
  have hselected : (s.core.posedgeClk port miso).Selected :=
    h.selected.clock port miso hcalm (by rw [h.slowclock, Bool.false_and, Bool.false_and])
  have hrest := h.atRest.stay port miso hcalm.dataWrStrobe
  refine ⟨⟨hselected, hrest, ?_, ?_⟩, ?_⟩
  · by_cases hread : s.core.dataRdStrobe = true
    · simp [Spi.clock, SpiCore.posedgeClk, h.slowclock, hread]
    · simp [Spi.clock, SpiCore.posedgeClk, h.slowclock, hread, hcalm.statusWrStrobe, h.rrdy]
  · rw [Spi.clock, wireEvents_selected h.selected hselected, hrest.sclkReg, Bool.and_false]
    simpa using h.wire
  · simp [Spi.clock, SpiCore.posedgeClk, h.slowclock]

/-- While `out` is shifted, the bit on `MOSI` at a rising edge of `SCLK` is the next one of it. -/
theorem mosi_rise {ins : List Bool} {n : Nat} {s : SpiCore} (h : s.Shifting out ins n)
    (hslow : n % 20 = 19) (hn : n ≠ 179) (port : ControlPort) (miso : Bool) :
    (s.posedgeClk port miso).mosi = out.getMsbD ins.length := by
  have hlt := h.lt
  have hlen := h.length
  rw [SpiCore.mosi, h.shiftReg_slow port miso (by omega), BitVec.msb,
    getMsbD_shiftIn out ins (by omega) (by omega), if_pos (by omega), Nat.zero_add]

theorem Exchange.clock (h : Exchange out L k s) (hcalm : s.core.Calm)
    (hread : s.core.dataRdStrobe = false) (port : ControlPort) (miso : Bool) :
    Exchange out L (k - 1) (s.clock port miso) := by
  cases h with
  | primed selected atRest txHoldingReg rrdy wire =>
    have hselected : (s.core.posedgeClk port miso).Selected :=
      selected.clock port miso hcalm (by rw [rrdy, Bool.and_false])
    have hclock : s.core.slowclock = false := by
      simp [SpiCore.slowclock, atRest.slowcount]
    have hload := atRest.load port miso hcalm
    rw [txHoldingReg] at hload
    show Exchange out L (180 - 0) (s.clock port miso)
    refine Exchange.shifting hselected hload ?_ ?_
    · simp [Spi.clock, SpiCore.posedgeClk, hclock, rrdy]
    · rw [Spi.clock, wireEvents_selected selected hselected, hload.sclkReg]
      simpa [bitEvents] using wire
  | arrived ready =>
    obtain ⟨hready, hrx⟩ := ready.clock hcalm port miso
    rw [hread, ← hrx] at hready
    exact Exchange.arrived hready
  | @shifting _ ins n selected shifting rrdy wire =>
    have hlt := shifting.lt
    have hselected : (s.core.posedgeClk port miso).Selected :=
      selected.clock port miso hcalm (by rw [rrdy, Bool.and_false])
    by_cases hlast : n = 179
    · subst hlast
      obtain ⟨hrest, hrrdy, hrx⟩ := shifting.last port miso hcalm
      refine Exchange.arrived ⟨hselected, hrest, hrrdy, ?_⟩
      have hlen : ins.length = 8 := shifting.length
      have hwire := wireEvents_selected selected hselected miso
      rw [hrest.sclkReg, Bool.and_false] at hwire
      rw [Spi.clock, hwire, hrx, ← bitEvents_eight out ins hlen]
      simpa using wire
    · have hclocks : 180 - n - 1 = 180 - (n + 1) := by omega
      have hrrdy : (s.core.posedgeClk port miso).rrdy = false := by
        have hstate : s.core.slowclock = true → s.core.lastState = false := by
          rw [shifting.slowclock, shifting.lastState, decide_eq_true_eq, decide_eq_false_iff_not]
          omega
        by_cases hclock : s.core.slowclock = true
        · simp [SpiCore.posedgeClk, hstate hclock, rrdy]
        · simp [SpiCore.posedgeClk, hclock, rrdy]
      rw [hclocks]
      by_cases hslow : n % 10 = 9
      · have hnext := shifting.slow port miso hcalm hslow hlast
        refine Exchange.shifting hselected hnext hrrdy ?_
        rw [Spi.clock, wireEvents_selected selected hselected,
          shifting.sclkReg_slow port miso hslow hlast, shifting.sclkReg]
        by_cases hrise : n % 20 = 19
        · have hlow : decide (2 ≤ n / 10 ∧ n / 10 % 2 = 0) = false := by
            rw [decide_eq_false_iff_not]
            omega
          simp [hlow, hrise, bitEvents_concat, mosi_rise shifting hrise hlast, wire]
        · simp [hrise, wire]
      · have hnext := shifting.count port miso hcalm hslow
        refine Exchange.shifting hselected hnext hrrdy ?_
        have hsame : (s.core.posedgeClk port miso).sclkReg = s.core.sclkReg := by
          simp [SpiCore.posedgeClk, shifting.slowclock, hslow]
        rw [Spi.clock, wireEvents_selected selected hselected, hsame, Bool.not_and_self]
        simpa using wire

end Exchange

end Bosconian.Soc
