import Bosconian.Soc.SpiBytes

/-!
# Accesses to the serial port

What a read or a write of one register does to a core with nothing or a byte on its way, however
many clocks went by since the last access.

* `Quiet` and `Ready` — the core while the device is left, and selected between two bytes.
* `Counts` — what every clock without a write keeps.
* `iord_returns`, `iowr_returns` — a read lets the core go on, and a write acts in its second clock.
* `awaitStatus_exchange` — polling ends with the answer.
-/

namespace Bosconian.Soc

open Scripted Usb

/-! ## Accesses -/

namespace SpiCore

/-- No strobe is active. -/
structure Still (s : SpiCore) : Prop extends Calm s where
  rdStrobe : s.rdStrobe = false
  dataRdStrobe : s.dataRdStrobe = false

theorem Still.after_idle {s : SpiCore} (miso : Bool) : (s.posedgeClk .idle miso).Still := by
  constructor
  · constructor
    · simp [posedgeClk, p1DataWrStrobe, p1WrStrobe, ControlPort.idle]
    · simp [posedgeClk, p1WrStrobe, ControlPort.idle]
  · simp [posedgeClk, p1RdStrobe, ControlPort.idle]
  · simp [posedgeClk, p1DataRdStrobe, p1RdStrobe, ControlPort.idle]

section Strobes

variable {s : SpiCore} (reg : BitVec 3) (data : BitVec 16) (miso : Bool)

/-- The first clock of a read raises its strobes, and the second one takes them back. -/
theorem Still.read_first (h : s.Still) :
    (s.posedgeClk (.read reg) miso).Calm ∧ (s.posedgeClk (.read reg) miso).rdStrobe = true ∧
      (s.posedgeClk (.read reg) miso).dataRdStrobe = (reg == 0) := by
  refine ⟨⟨?_, ?_⟩, ?_, ?_⟩
  · simp [posedgeClk, p1DataWrStrobe, p1WrStrobe, ControlPort.read]
  · simp [posedgeClk, p1WrStrobe, ControlPort.read]
  · simp [posedgeClk, p1RdStrobe, ControlPort.read, h.rdStrobe]
  · simp [posedgeClk, p1DataRdStrobe, p1RdStrobe, ControlPort.read, h.rdStrobe]

theorem still_after_read (hrd : s.rdStrobe = true) : (s.posedgeClk (.read reg) miso).Still := by
  constructor
  · constructor
    · simp [posedgeClk, p1DataWrStrobe, p1WrStrobe, ControlPort.read]
    · simp [posedgeClk, p1WrStrobe, ControlPort.read]
  · simp [posedgeClk, p1RdStrobe, hrd]
  · simp [posedgeClk, p1DataRdStrobe, p1RdStrobe, hrd]

/-- So does a write. -/
theorem Still.write_first (h : s.Still) :
    (s.posedgeClk (.write reg data) miso).wrStrobe = true ∧
      (s.posedgeClk (.write reg data) miso).dataWrStrobe = (reg == 1) ∧
      (s.posedgeClk (.write reg data) miso).dataRdStrobe = false := by
  refine ⟨?_, ?_, ?_⟩
  · simp [posedgeClk, p1WrStrobe, ControlPort.write, h.wrStrobe]
  · simp [posedgeClk, p1DataWrStrobe, p1WrStrobe, ControlPort.write, h.wrStrobe]
  · simp [posedgeClk, p1DataRdStrobe, p1RdStrobe, ControlPort.write]

theorem still_after_write (hwr : s.wrStrobe = true) :
    (s.posedgeClk (.write reg data) miso).Still := by
  constructor
  · constructor
    · simp [posedgeClk, p1DataWrStrobe, p1WrStrobe, hwr]
    · simp [posedgeClk, p1WrStrobe, hwr]
  · simp [posedgeClk, p1RdStrobe, ControlPort.write]
  · simp [posedgeClk, p1DataRdStrobe, p1RdStrobe, ControlPort.write]

end Strobes

end SpiCore

/-- Nobody has selected the device, and no byte was lost. -/
structure Quiet (L : List WireEvent) (s : Spi) : Prop where
  ssoReg : s.core.ssoReg = false
  atRest : s.core.AtRest false
  rrdy : s.core.rrdy = false
  roe : s.core.roe = false
  toe : s.core.toe = false
  wire : s.wire = L

theorem Quiet.slowclock {L : List WireEvent} {s : Spi} (h : Quiet L s) :
    s.core.slowclock = false := by
  simp [SpiCore.slowclock, h.atRest.slowcount]

/-- Unless `SSO` is written the device is not selected. -/
theorem Quiet.clock {L : List WireEvent} {s : Spi} (h : Quiet L s)
    (hwr : s.core.dataWrStrobe = false) {port : ControlPort}
    (hcontrol : s.core.controlWrStrobe port = false) (miso : Bool) :
    Quiet L (s.clock port miso) := by
  have hrest := h.atRest.stay port miso hwr
  have hsso : (s.core.posedgeClk port miso).ssoReg = false := by
    simp [SpiCore.posedgeClk, hcontrol, h.ssoReg]
  refine ⟨hsso, hrest, ?_, ?_, ?_, ?_⟩
  · simp [Spi.clock, SpiCore.posedgeClk, h.slowclock, h.rrdy]
  · simp [Spi.clock, SpiCore.posedgeClk, h.slowclock, h.roe]
  · simp [Spi.clock, SpiCore.posedgeClk, hwr, h.toe]
  · rw [Spi.clock, wireEvents_left (ssN_left h.ssoReg h.atRest) (ssN_left hsso hrest)]
    simpa using h.wire

section Access

variable {I : Nat → Spi → Prop}

/-- A family of states that every clock without a write takes down by one. -/
def Counts (I : Nat → Spi → Prop) : Prop :=
  ∀ k s port miso, I k s → s.core.Calm → s.core.dataRdStrobe = false →
    I (k - 1) (s.clock port miso)

theorem Counts.idle (h : Counts I) {k : Nat} {s : Spi} (hI : I k s) (hstill : s.core.Still)
    (bits : List Bool) :
    I (k - bits.length) (bits.foldl (Spi.clock .idle) s) ∧
      (bits.foldl (Spi.clock .idle) s).core.Still := by
  induction bits generalizing k s with
  | nil => exact ⟨hI, hstill⟩
  | cons m bits ih =>
    have hnext := h k s .idle m hI hstill.toCalm hstill.dataRdStrobe
    have hlen : k - (m :: bits).length = k - 1 - bits.length := by
      rw [List.length_cons]
      omega
    rw [List.foldl_cons, hlen]
    exact ih hnext (SpiCore.Still.after_idle m)

/-- An access has the idle clocks before it and its own two. -/
theorem returns_access {P : Spi → Prop} {b : ControlPort} {Q : BitVec 16 → Spi → Prop}
    (h : ∀ s (t : Turn), P s →
      Q ((t.idle.foldl (Spi.clock .idle) s).core.p1DataToCpu b)
        (((t.idle.foldl (Spi.clock .idle) s).clock b t.first).clock b t.second)) :
    Returns P (access b) 1 Q := by
  rintro ⟨_ | ⟨t, ts⟩, s⟩ hP hlen
  · exact absurd hlen (by simp)
  · refine ⟨_, _, rfl, ?_, h s t hP⟩
    rfl

/-- A register other than `rxdata` can be read at any time. -/
theorem iord_returns (h : Counts I) {reg : BitVec 3} (hreg : reg ≠ 0) (k : Nat) :
    Returns (fun s => I k s ∧ s.core.Still) (iord reg) 1 fun v s =>
      ∃ j t, j ≤ k ∧ I j t ∧ v = t.core.p1DataToCpu (.read reg) ∧ I (j - 2) s ∧ s.core.Still := by
  refine returns_access ?_
  rintro s t ⟨hI, hstill⟩
  obtain ⟨hidle, hstill'⟩ := h.idle hI hstill t.idle
  generalize t.idle.foldl (Spi.clock .idle) s = u at hidle hstill'
  obtain ⟨hcalm, hrd, hdata⟩ := hstill'.read_first reg t.first
  have hfirst := h _ u (.read reg) t.first hidle hstill'.toCalm hstill'.dataRdStrobe
  have hsecond := h _ _ (.read reg) t.second hfirst hcalm
    (by rw [Spi.clock, hdata]; simpa using hreg)
  exact ⟨k - t.idle.length, u, Nat.sub_le _ _, hidle, rfl, hsecond,
    SpiCore.still_after_read reg t.second hrd⟩

/-- What a write does is done by its second clock, in what the first one has kept. -/
theorem iowr_returns {J K : Spi → Prop} (h : Counts fun _ => J) (reg : BitVec 3)
    (data : BitVec 16)
    (hlast : ∀ s miso, J s → s.core.wrStrobe = true → s.core.dataWrStrobe = (reg == 1) →
      K (s.clock (.write reg data) miso)) :
    Returns (fun s => J s ∧ s.core.Still) (iowr reg data) 1 fun _ s => K s ∧ s.core.Still := by
  have haccess : Returns (fun s => J s ∧ s.core.Still) (access (.write reg data)) 1
      fun _ s => K s ∧ s.core.Still := by
    refine returns_access ?_
    intro s t hs
    have hrun := Counts.idle (k := 0) h hs.1 hs.2 t.idle
    generalize t.idle.foldl (Spi.clock .idle) s = u at hrun
    obtain ⟨hidle, hstill⟩ := hrun
    obtain ⟨hwr, hdata, hrd⟩ := hstill.write_first reg data t.first
    have hfirst := h 0 u (.write reg data) t.first hidle hstill.toCalm hstill.dataRdStrobe
    exact ⟨hlast _ t.second hfirst hwr hdata, SpiCore.still_after_write reg data t.second hwr⟩
  exact haccess.bind fun _ => Returns.pure fun _ => id

end Access

section Registers

variable {L : List WireEvent} {s : Spi}

theorem Counts.ready (unread : Bool) : Counts fun _ => Ready unread L := by
  intro k s port miso h hcalm hread
  have hready := (h.clock hcalm port miso).1
  rwa [hread, Bool.not_false, Bool.and_true] at hready

theorem Counts.quiet : Counts fun _ => Quiet L :=
  fun _ _ port miso h hcalm _ => h.clock hcalm.dataWrStrobe (hcalm.controlWrStrobe port) miso

theorem Counts.exchange {out : Byte} : Counts (Exchange out L) :=
  fun _ _ port miso h hcalm hread => h.clock hcalm hread port miso

/-- The byte is on its way from the write of `txdata` on. -/
theorem iowr_txdata (L : List WireEvent) (b : Byte) :
    Returns (fun s => Ready false L s ∧ s.core.Still) (iowr spiTxdata (b.setWidth 16)) 1
      fun _ s => Exchange b L 181 s ∧ s.core.Still := by
  refine iowr_returns (Counts.ready false) spiTxdata (b.setWidth 16) ?_
  intro s miso h hwr hdata
  have hdata' : s.core.dataWrStrobe = true := hdata
  have hload : s.core.writeShiftReg = false := by
    simp [SpiCore.writeShiftReg, h.atRest.txHoldingPrimed]
  have htrdy : s.core.trdy = true := by simp [SpiCore.trdy, h.atRest.transmitting]
  have hhold : s.core.writeTxHolding = true := by
    simp [SpiCore.writeTxHolding, hdata', htrdy]
  have hselected :
      (s.core.posedgeClk (.write spiTxdata (b.setWidth 16)) miso).Selected := by
    constructor <;>
      simp [SpiCore.posedgeClk, SpiCore.controlWrStrobe, SpiCore.slaveselectWrStrobe,
        SpiCore.statusWrStrobe, ControlPort.write, spiTxdata, hload, h.slowclock, htrdy,
        h.selected.ssoReg, h.selected.spiSlaveSelectReg, h.selected.spiSlaveSelectHoldingReg,
        h.selected.roe, h.selected.toe]
  have hrest : (s.core.posedgeClk (.write spiTxdata (b.setWidth 16)) miso).AtRest true := by
    constructor <;>
      simp [SpiCore.posedgeClk, hload, hhold, h.slowclock, h.atRest.transmitting, h.atRest.state,
        h.atRest.stateZero, h.atRest.sclkReg]
  refine Exchange.primed hselected hrest ?_ ?_ ?_
  · simp [Spi.clock, SpiCore.posedgeClk, hhold, ControlPort.write]
  · simp [Spi.clock, SpiCore.posedgeClk, h.slowclock, h.rrdy]
  · rw [Spi.clock, wireEvents_selected h.selected hselected, hrest.sclkReg, Bool.and_false]
    simpa using h.wire

/-- `SS_n` is to go to the device as soon as it is driven. -/
structure Aimed (L : List WireEvent) (s : Spi) : Prop extends Quiet L s where
  spiSlaveSelectHoldingReg : s.core.spiSlaveSelectHoldingReg.getLsbD 0 = true

theorem Counts.aimed : Counts fun _ => Aimed L := by
  intro k s port miso h hcalm hread
  refine ⟨Counts.quiet k s port miso h.toQuiet hcalm hread, ?_⟩
  simpa [Spi.clock, SpiCore.posedgeClk, hcalm.slaveselectWrStrobe] using
    h.spiSlaveSelectHoldingReg

theorem iowr_slaveSel (L : List WireEvent) :
    Returns (fun s => Quiet L s ∧ s.core.Still) (iowr spiSlaveSel 1) 1
      fun _ s => Aimed L s ∧ s.core.Still := by
  refine iowr_returns Counts.quiet spiSlaveSel 1 ?_
  intro s miso h hwr hdata
  have hcontrol : s.core.controlWrStrobe (.write spiSlaveSel 1) = false := by
    simp [SpiCore.controlWrStrobe, ControlPort.write, spiSlaveSel]
  refine ⟨h.clock hdata hcontrol miso, ?_⟩
  simp [Spi.clock, SpiCore.posedgeClk, SpiCore.slaveselectWrStrobe, ControlPort.write,
    spiSlaveSel, hwr]

/-- The write of `SSO` selects the device. -/
theorem iowr_control_sso (L : List WireEvent) :
    Returns (fun s => Aimed L s ∧ s.core.Still) (iowr spiControlReg controlSsoMsk) 1
      fun _ s => Ready false (L ++ [.select]) s ∧ s.core.Still := by
  refine iowr_returns Counts.aimed spiControlReg controlSsoMsk ?_
  intro s miso h hwr hdata
  have hdata' : s.core.dataWrStrobe = false := hdata
  have hrest := h.atRest.stay (.write spiControlReg controlSsoMsk) miso hdata
  have hselected : (s.core.posedgeClk (.write spiControlReg controlSsoMsk) miso).Selected := by
    constructor <;>
      simp [SpiCore.posedgeClk, SpiCore.controlWrStrobe, SpiCore.slaveselectWrStrobe,
        SpiCore.statusWrStrobe, ControlPort.write, spiControlReg, controlSsoMsk, h.ssoReg, hwr,
        hdata', h.slowclock, h.spiSlaveSelectHoldingReg, h.roe, h.toe]
  refine ⟨hselected, hrest, ?_, ?_⟩
  · simp [Spi.clock, SpiCore.posedgeClk, h.slowclock, h.rrdy]
  · rw [Spi.clock, wireEvents_select (ssN_left h.ssoReg h.atRest) (ssN_selected hselected) hrest,
      h.wire]

/-- Without `SSO` the device is left. -/
theorem iowr_control_zero (L : List WireEvent) :
    Returns (fun s => Ready false L s ∧ s.core.Still) (iowr spiControlReg 0) 1
      fun _ s => Quiet (L ++ [.deselect]) s ∧ s.core.Still := by
  refine iowr_returns (Counts.ready false) spiControlReg 0 ?_
  intro s miso h hwr hdata
  have hdata' : s.core.dataWrStrobe = false := hdata
  have hrest := h.atRest.stay (.write spiControlReg 0) miso hdata
  have hsso : (s.core.posedgeClk (.write spiControlReg 0) miso).ssoReg = false := by
    simp [SpiCore.posedgeClk, SpiCore.controlWrStrobe, ControlPort.write, spiControlReg, hwr]
  refine ⟨hsso, hrest, ?_, ?_, ?_, ?_⟩
  · simp [Spi.clock, SpiCore.posedgeClk, h.slowclock, h.rrdy]
  · simp [Spi.clock, SpiCore.posedgeClk, h.slowclock, h.selected.roe]
  · simp [Spi.clock, SpiCore.posedgeClk, hdata', h.selected.toe]
  · rw [Spi.clock, wireEvents_deselect (ssN_selected h.selected) (ssN_left hsso hrest), h.wire]

/-- What `rxdata` holds is read, and not again. -/
theorem iord_rxdata (L : List WireEvent) (unread : Bool) (a : Byte) :
    Returns (fun s => (Ready unread L s ∧ s.core.rxHoldingReg = a) ∧ s.core.Still)
      (iord spiRxdata) 1
      fun v s => v = a.setWidth 16 ∧ Ready false L s ∧ s.core.Still := by
  have hcounts : Counts fun _ s => Ready unread L s ∧ s.core.rxHoldingReg = a := by
    intro k s port miso h hcalm hread
    obtain ⟨hready, hrx⟩ := h.1.clock hcalm port miso
    rw [hread, Bool.not_false, Bool.and_true] at hready
    exact ⟨hready, hrx.trans h.2⟩
  refine returns_access ?_
  intro s t hs
  have hrun := Counts.idle (k := 0) hcounts hs.1 hs.2 t.idle
  generalize t.idle.foldl (Spi.clock .idle) s = u at hrun
  obtain ⟨hidle, hstill⟩ := hrun
  obtain ⟨hcalm, hrd, hdata⟩ := hstill.read_first spiRxdata t.first
  have hfirst := hcounts 0 u (.read spiRxdata) t.first hidle hstill.toCalm hstill.dataRdStrobe
  have hsecond := (hfirst.1.clock hcalm (.read spiRxdata) t.second).1
  rw [Spi.clock, hdata, spiRxdata, beq_self_eq_true, Bool.not_true, Bool.and_false] at hsecond
  refine ⟨?_, hsecond, SpiCore.still_after_read spiRxdata t.second hrd⟩
  rw [← hidle.2]
  rfl

end Registers

/-! ## Polling -/

section Status

variable {out : Byte} {L : List WireEvent} {k : Nat} {s : Spi}

theorem status_rrdy (s : SpiCore) : s.spiStatus &&& statusRrdyMsk = 0 ↔ s.rrdy = false := by
  have hall : ∀ eop e rrdy trdy tmt toe roe : Bool,
      (BitVec.ofBool eop ++ BitVec.ofBool e ++ BitVec.ofBool rrdy ++ BitVec.ofBool trdy ++
        BitVec.ofBool tmt ++ BitVec.ofBool toe ++ BitVec.ofBool roe ++ 0#3).setWidth 16 &&&
        statusRrdyMsk = 0 ↔ rrdy = false := by decide
  exact hall s.eop (s.roe || s.toe) s.rrdy s.trdy s.tmt s.toe s.roe

theorem status_trdy (s : SpiCore) : s.spiStatus &&& statusTrdyMsk = 0 ↔ s.trdy = false := by
  have hall : ∀ eop e rrdy trdy tmt toe roe : Bool,
      (BitVec.ofBool eop ++ BitVec.ofBool e ++ BitVec.ofBool rrdy ++ BitVec.ofBool trdy ++
        BitVec.ofBool tmt ++ BitVec.ofBool toe ++ BitVec.ofBool roe ++ 0#3).setWidth 16 &&&
        statusTrdyMsk = 0 ↔ trdy = false := by decide
  exact hall s.eop (s.roe || s.toe) s.rrdy s.trdy s.tmt s.toe s.roe

theorem status_tmt (s : SpiCore) : s.spiStatus &&& statusTmtMsk = 0 ↔ s.tmt = false := by
  have hall : ∀ eop e rrdy trdy tmt toe roe : Bool,
      (BitVec.ofBool eop ++ BitVec.ofBool e ++ BitVec.ofBool rrdy ++ BitVec.ofBool trdy ++
        BitVec.ofBool tmt ++ BitVec.ofBool toe ++ BitVec.ofBool roe ++ 0#3).setWidth 16 &&&
        statusTmtMsk = 0 ↔ tmt = false := by decide
  exact hall s.eop (s.roe || s.toe) s.rrdy s.trdy s.tmt s.toe s.roe

theorem Exchange.rrdy (h : Exchange out L k s) : s.core.rrdy = true ↔ k = 0 := by
  cases h with
  | primed _ _ _ hrrdy _ => simp [hrrdy]
  | shifting _ hshifting hrrdy _ =>
    have hlt := hshifting.lt
    rw [hrrdy]
    simp
    omega
  | arrived hready => simp [hready.rrdy]

theorem Exchange.answer (h : Exchange out L 0 s) :
    ∃ a, Ready true (L ++ byteEvents out a) s ∧ s.core.rxHoldingReg = a := by
  generalize hk : 0 = k at h
  cases h with
  | primed => cases hk
  | shifting _ hshifting =>
    have hlt := hshifting.lt
    omega
  | arrived hready => exact ⟨s.core.rxHoldingReg, hready, rfl⟩

/-- Between two bytes the core can take one, and has none. -/
theorem iord_status_ready (L : List WireEvent) :
    Returns (fun s => Ready false L s ∧ s.core.Still) (iord spiStatusReg) 1 fun v s =>
      (v &&& statusRrdyMsk = 0 ∧ v &&& statusTrdyMsk ≠ 0 ∧ v &&& statusTmtMsk ≠ 0) ∧
        Ready false L s ∧ s.core.Still := by
  refine (iord_returns (Counts.ready (L := L) false) (by decide) 0).mono (fun _ => id)
    (Nat.le_refl 1) ?_
  intro v s hv
  obtain ⟨j, t, -, ht, hval, hs⟩ := hv
  have hstatus : v = t.core.spiStatus := hval
  have hrest := ht.atRest
  refine ⟨⟨?_, ?_, ?_⟩, hs⟩
  · rw [hstatus, status_rrdy, ht.rrdy]
  · rw [hstatus, ne_eq, status_trdy]
    simp [SpiCore.trdy, hrest.transmitting]
  · rw [hstatus, ne_eq, status_tmt]
    simp [SpiCore.tmt, hrest.transmitting, hrest.txHoldingPrimed]

/-- While a byte is on its way, a poll finds its answer or comes nearer to it. -/
theorem iord_status_exchange (out : Byte) (L : List WireEvent) (k : Nat) :
    Returns (fun s => Exchange out L k s ∧ s.core.Still) (iord spiStatusReg) 1 fun v s =>
      (v &&& statusRrdyMsk ≠ 0 ∧ Exchange out L 0 s ∨
        v &&& statusRrdyMsk = 0 ∧ ∃ j < k, Exchange out L j s) ∧ s.core.Still := by
  have hcounts : Counts (Exchange out L) := Counts.exchange
  refine (iord_returns hcounts (by decide) k).mono (fun _ => id) (Nat.le_refl 1) ?_
  intro v s hv
  obtain ⟨j, t, hj, ht, hval, hs, hstill⟩ := hv
  have hstatus : v = t.core.spiStatus := hval
  rw [hstatus, ne_eq, status_rrdy, Bool.not_eq_false, ht.rrdy]
  refine ⟨?_, hstill⟩
  by_cases hzero : j = 0
  · subst hzero
    exact .inl ⟨rfl, hs⟩
  · have hne : ¬ t.core.rrdy = true := fun h => hzero (ht.rrdy.1 h)
    exact .inr ⟨by simpa using hne, j - 2, by omega, hs⟩

end Status

/-- With a credit left the first status will do. -/
theorem awaitStatus_ready (L : List WireEvent) {credits : Int} (hcredits : credits ≠ 0) :
    Returns (fun s => Ready false L s ∧ s.core.Still) (awaitStatus credits) 1 fun v s =>
      (v &&& statusRrdyMsk = 0 ∧ v &&& statusTrdyMsk ≠ 0 ∧ v &&& statusTmtMsk ≠ 0) ∧
        Ready false L s ∧ s.core.Still := by
  refine Returns.forever (I := fun _ _ s => Ready false L s ∧ s.core.Still) Nat.one_pos ?_ 0 ()
  intro k a
  refine (iord_status_ready L).last ?_
  intro v
  refine Returns.assume (fun s hs => hs.1.2.1) ?_
  intro htrdy
  rw [if_neg fun h => h.1.elim htrdy hcredits]
  exact Returns.pure fun _ => id

/-- With none left the answer to the byte on its way is awaited. -/
theorem awaitStatus_exchange (out : Byte) (L : List WireEvent) (k : Nat) :
    Returns (fun s => Exchange out L k s ∧ s.core.Still) (awaitStatus 0) (k + 1) fun v s =>
      v &&& statusRrdyMsk ≠ 0 ∧ Exchange out L 0 s ∧ s.core.Still := by
  rw [← Nat.one_mul (k + 1)]
  refine Returns.forever (I := fun k _ s => Exchange out L k s ∧ s.core.Still) Nat.one_pos ?_ k ()
  intro k a
  refine (iord_status_exchange out L k).last ?_
  intro v
  refine Returns.ghost ?_
  intro t ht
  rcases ht with ⟨⟨hv, ht⟩ | ⟨hv, j, hj, ht⟩, hstill⟩
  · rw [if_neg fun h => hv h.2]
    refine Returns.pure ?_
    intro s hs
    rw [hs]
    exact ⟨hv, ht, hstill⟩
  · rw [if_pos ⟨.inr rfl, hv⟩]
    refine Returns.pure ?_
    intro s hs
    rw [hs]
    exact ⟨j, hj, ht, hstill⟩

end Bosconian.Soc
