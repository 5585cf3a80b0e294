import Bosconian.Soc.SpiAccess
import Mathlib.Data.List.Forall2

/-!
# Frames on the wires

Every call of `alt_avalon_spi_command` returns, whenever the processor comes to its accesses, and
the device sees one frame: it is selected, every byte goes out and one comes in, it is left.

* `frame` — the bytes of a command and the answers to them, on the wires.
* `Command.sent` — the locals of the loop after some bytes.
* `commandRound_returns` — a round sends the next byte, or takes the answer to it.
-/

namespace Bosconian.Soc

open Scripted Usb

/-- Bytes out, and a byte in for each. -/
def exchanges (outs answers : List Byte) : List WireEvent :=
  (List.zipWith byteEvents outs answers).flatten

/-- What the device sees of a command. -/
def frame (outs answers : List Byte) : List WireEvent :=
  .select :: exchanges outs answers ++ [.deselect]

/-- What a command puts out: its own bytes, and a zero for every byte it reads. -/
def commandBytes (writeData : List Byte) (readLength : Nat) : List Byte :=
  writeData ++ List.replicate readLength 0

theorem exchanges_concat {outs answers : List Byte} {out : Byte}
    (hout : outs[answers.length]? = some out) (a : Byte) :
    exchanges outs (answers ++ [a]) = exchanges outs answers ++ byteEvents out a := by
  induction answers generalizing outs with
  | nil =>
    cases outs with
    | nil => cases hout
    | cons o outs =>
      have ho : o = out := Option.some.inj hout
      simp [exchanges, ho]
  | cons b answers ih =>
    cases outs with
    | nil => cases hout
    | cons o outs =>
      have hnext := @ih outs hout
      simp only [exchanges, List.cons_append, List.zipWith_cons_cons, List.flatten_cons,
        List.append_assoc] at hnext ⊢
      rw [hnext]

section Loop

variable (writeData : List Byte) (readLength : Nat)

/-- The locals when `sent` bytes are out and `answers` have come. -/
def Command.sent (sent : Nat) (answers : List Byte) : Command where
  credits := 1 + answers.length - sent
  writeData := writeData.drop sent
  writeZeros := readLength - (sent - writeData.length)
  readIgnore := writeData.length - answers.length
  readData := answers.drop writeData.length

variable {writeData readLength}

/-- The next byte goes out. -/
theorem send_returns (L : List WireEvent) {answers : List Byte} {out : Byte}
    (hout : (commandBytes writeData readLength)[answers.length]? = some out) :
    Returns (fun s => Ready false L s ∧ s.core.Still)
      (Command.sent writeData readLength answers.length answers).send 1 fun c s =>
      c = Command.sent writeData readLength (answers.length + 1) answers ∧
        Exchange out L 181 s ∧ s.core.Still := by
  by_cases hown : answers.length < writeData.length
  · have hbyte : writeData[answers.length]? = some out := by
      rwa [commandBytes, List.getElem?_append_left hown] at hout
    have hdrop : writeData.drop answers.length = out :: writeData.drop (answers.length + 1) := by
      rw [List.drop_eq_getElem_cons hown]
      congr 1
      exact (List.getElem?_eq_some_iff.1 hbyte).2
    have hsend : (Command.sent writeData readLength answers.length answers).send =
        (iowr spiTxdata (out.setWidth 16) >>= fun _ => pure
          (Command.sent writeData readLength (answers.length + 1) answers)) := by
      have hzeros : answers.length + 1 - writeData.length = answers.length - writeData.length := by
        omega
      simp only [Command.send, Command.sent, hdrop, hzeros]
      congr 1
      funext u
      congr 2
      omega
    rw [hsend]
    exact (iowr_txdata L out).last fun _ => Returns.pure fun s hs => ⟨rfl, hs⟩
  · rw [commandBytes, List.getElem?_append_right (by omega), List.getElem?_replicate] at hout
    have hlt : answers.length - writeData.length < readLength := by
      by_contra hge
      rw [if_neg hge] at hout
      cases hout
    rw [if_pos hlt] at hout
    have hdone : writeData.drop answers.length = [] := List.drop_eq_nil_of_le (by omega)
    have hdone' : writeData.drop (answers.length + 1) = [] := List.drop_eq_nil_of_le (by omega)
    have hzeros : readLength - (answers.length + 1 - writeData.length) =
        readLength - (answers.length - writeData.length) - 1 := by omega
    have hsend : (Command.sent writeData readLength answers.length answers).send =
        (iowr spiTxdata (out.setWidth 16) >>= fun _ => pure
          (Command.sent writeData readLength (answers.length + 1) answers)) := by
      cases hout
      simp only [Command.send, Command.sent, hdone, hdone', hzeros]
      rw [if_pos (by omega)]
      congr 1
      funext u
      congr 2
      omega
    rw [hsend]
    exact (iowr_txdata L out).last fun _ => Returns.pure fun s hs => ⟨rfl, hs⟩

/-- An answer counts as read data once there was one for every byte of the command. -/
theorem receive_sent {answers : List Byte} (a : Byte) :
    (Command.sent writeData readLength (answers.length + 1) answers).receive (a.setWidth 16) =
      Command.sent writeData readLength (answers.length + 1) (answers ++ [a]) := by
  have hbyte : (a.setWidth 16).setWidth 8 = a := by simp
  have hlen : (answers ++ [a]).length = answers.length + 1 := by simp
  by_cases hignore : answers.length < writeData.length
  · have hdrop : answers.drop writeData.length = [] := List.drop_eq_nil_of_le (by omega)
    have hdrop' : (answers ++ [a]).drop writeData.length = [] :=
      List.drop_eq_nil_of_le (by omega)
    have hone : writeData.length - answers.length - 1 =
        writeData.length - (answers.length + 1) := by omega
    simp only [Command.receive, Command.sent, hlen, hdrop, hdrop', hone]
    rw [if_pos (by omega)]
    congr 1
    omega
  · have hdrop : (answers ++ [a]).drop writeData.length = answers.drop writeData.length ++ [a] :=
      List.drop_append_of_le_length (by omega)
    have hnone : writeData.length - answers.length = writeData.length - (answers.length + 1) := by
      omega
    simp only [Command.receive, Command.sent, hlen, hdrop, hbyte, hnone]
    rw [if_neg (by omega)]
    congr 1
    omega

variable (writeData readLength)

/-- The loop ends with the last answer. -/
theorem sent_done {answers : List Byte} {sent : Nat}
    (hle : answers.length < writeData.length + readLength + 1) :
    (Command.sent writeData readLength sent answers).readIgnore = 0 ∧
      (Command.sent writeData readLength sent answers).readData.length = readLength ↔
      answers.length = writeData.length + readLength := by
  have hle' := Nat.lt_succ_iff.1 hle
  simp only [Command.sent, List.length_drop]
  omega

/-- The loop after the events `L`, and a bound on the rounds that are left. -/
inductive Underway (L : List WireEvent) : Nat → Command → Spi → Prop
  | ready {s : Spi} {answers : List Byte}
      (more : answers.length < writeData.length + readLength)
      (ready : Ready false (L ++ exchanges (commandBytes writeData readLength) answers) s)
      (still : s.core.Still) :
      Underway L (2 * (writeData.length + readLength - answers.length))
        (Command.sent writeData readLength answers.length answers) s
  | waiting {s : Spi} {answers : List Byte} {out : Byte}
      (hout : (commandBytes writeData readLength)[answers.length]? = some out)
      (exchange : Exchange out (L ++ exchanges (commandBytes writeData readLength) answers) 181 s)
      (still : s.core.Still) :
      Underway L (2 * (writeData.length + readLength - answers.length) - 1)
        (Command.sent writeData readLength (answers.length + 1) answers) s

/-- Every answer has come. -/
def Answered (L : List WireEvent) (data : List Byte) (s : Spi) : Prop :=
  ∃ answers, answers.length = writeData.length + readLength ∧
    data = answers.drop writeData.length ∧
    Ready false (L ++ exchanges (commandBytes writeData readLength) answers) s ∧ s.core.Still

variable {writeData readLength}

/-- The byte that was on its way has come back, and takes the loop to its end or to the next
one. -/
theorem collect_returns (L : List WireEvent) {answers : List Byte} {out : Byte}
    {status : BitVec 16} (hstatus : status &&& statusRrdyMsk ≠ 0)
    (hout : (commandBytes writeData readLength)[answers.length]? = some out) :
    Returns (fun s =>
      Exchange out (L ++ exchanges (commandBytes writeData readLength) answers) 0 s ∧
        s.core.Still)
      ((Command.sent writeData readLength (answers.length + 1) answers).collect readLength status) 1
      fun r s => Sum.elim
        (fun c => ∃ j < 2 * (writeData.length + readLength - answers.length) - 1,
          Underway writeData readLength L j c s)
        (Answered writeData readLength L · s) r := by
  refine Returns.ghost ?_
  intro t ht
  obtain ⟨a, hready, hrx⟩ := ht.1.answer
  obtain ⟨hlt, -⟩ := List.getElem?_eq_some_iff.1 hout
  rw [commandBytes, List.length_append, List.length_replicate] at hlt
  rw [List.append_assoc, ← exchanges_concat hout] at hready
  have hread := iord_rxdata (L ++ exchanges (commandBytes writeData readLength) (answers ++ [a]))
    true a
  rw [Command.collect, if_pos hstatus]
  refine (Returns.from_state ⟨⟨hready, hrx⟩, ht.2⟩ hread).last ?_
  intro v
  refine Returns.assume (fun s hs => hs.1) ?_
  intro hv
  have hlen : (answers ++ [a]).length = answers.length + 1 := by simp
  have hle : (answers ++ [a]).length < writeData.length + readLength + 1 := by omega
  simp only [hv, receive_sent, sent_done writeData readLength hle, hlen]
  by_cases hlast : answers.length + 1 = writeData.length + readLength
  · rw [if_pos hlast]
    refine Returns.pure ?_
    intro s hs
    exact ⟨answers ++ [a], hlen.trans hlast, rfl, hs.2⟩
  · rw [if_neg hlast]
    refine Returns.pure ?_
    intro s hs
    have hnext : Underway writeData readLength L
        (2 * (writeData.length + readLength - (answers ++ [a]).length))
        (Command.sent writeData readLength (answers ++ [a]).length (answers ++ [a])) s :=
      Underway.ready (by omega) hs.2.1 hs.2.2
    rw [hlen] at hnext
    exact ⟨_, by omega, hnext⟩

theorem commandRound_returns (L : List WireEvent) (k : Nat) (c : Command) :
    Returns (Underway writeData readLength L k c) (commandRound readLength c) 184 fun r s =>
      Sum.elim (fun c' => ∃ j < k, Underway writeData readLength L j c' s)
        (Answered writeData readLength L · s) r := by
  refine Returns.ghost ?_
  intro t ht
  unfold commandRound
  dsimp only
  cases ht with
  | @ready _ answers more ready still =>
    have hcredits : (Command.sent writeData readLength answers.length answers).credits = 1 := by
      simp [Command.sent]
    obtain ⟨out, hout⟩ : ∃ out, (commandBytes writeData readLength)[answers.length]? = some out :=
      ⟨_, List.getElem?_eq_getElem (by simpa [commandBytes] using more)⟩
    rw [hcredits]
    refine Returns.from_state (P := fun s => Ready false _ s ∧ s.core.Still) ⟨ready, still⟩ ?_
    refine Returns.bind_le 1 (by decide) (awaitStatus_ready _ Int.one_ne_zero) ?_
    intro status
    refine Returns.assume (fun s hs => hs.1) ?_
    intro hstatus
    rw [if_pos ⟨hstatus.2.1, Int.one_pos⟩]
    refine Returns.last ((send_returns _ hout).mono (fun s hs => hs.2) (Nat.le_refl 1)
      fun _ _ => id) ?_
    intro c
    refine Returns.assume (fun s hs => hs.1) ?_
    intro hc
    rw [hc, Command.collect, if_neg (not_not.2 hstatus.1)]
    refine Returns.pure ?_
    intro s hs
    exact ⟨_, by omega, Underway.waiting hout hs.2.1 hs.2.2⟩
  | @waiting _ answers out hout exchange still =>
    have hcredits :
        (Command.sent writeData readLength (answers.length + 1) answers).credits = 0 := by
      simp only [Command.sent]
      omega
    rw [hcredits]
    refine Returns.from_state (P := fun s => Exchange out _ 181 s ∧ s.core.Still)
      ⟨exchange, still⟩ ?_
    refine Returns.bind_le 1 (by decide) (awaitStatus_exchange out _ 181) ?_
    intro status
    refine Returns.assume (fun s hs => hs.1) ?_
    intro hstatus
    rw [if_neg fun h => Int.lt_irrefl 0 h.2, pure_bind]
    exact (collect_returns L hstatus hout).mono (fun s hs => hs.2) (Nat.le_refl 1) fun _ _ => id

end Loop

theorem awaitTransmitted_returns (L : List WireEvent) :
    Returns (fun s => Ready false L s ∧ s.core.Still) awaitTransmitted 1 fun _ s =>
      Ready false L s ∧ s.core.Still := by
  refine Returns.forever (I := fun _ _ s => Ready false L s ∧ s.core.Still) Nat.one_pos ?_ 0 ()
  intro k a
  refine (iord_status_ready L).last ?_
  intro v
  refine Returns.assume (fun s hs => hs.1.2.2) ?_
  intro htmt
  rw [if_neg htmt]
  exact Returns.pure fun s hs => hs.2

/-- A command comes back with what was answered to its zeros, and leaves the device. -/
theorem command_returns (L : List WireEvent) (writeData : List Byte) (readLength : Nat)
    (hpos : 0 < writeData.length + readLength) :
    Returns (fun s => Quiet L s ∧ s.core.Still) (altAvalonSpiCommand 0 writeData readLength 0)
      (184 * (2 * (writeData.length + readLength) + 1) + 5) fun r s =>
      ∃ answers, answers.length = writeData.length + readLength ∧
        r = (readLength, answers.drop writeData.length) ∧
        Quiet (L ++ frame (commandBytes writeData readLength) answers) s ∧ s.core.Still := by
  unfold altAvalonSpiCommand
  refine Returns.bind_le (184 * (2 * (writeData.length + readLength) + 1) + 4) (by omega)
    (iowr_slaveSel L) ?_
  intro u
  refine Returns.bind_le (184 * (2 * (writeData.length + readLength) + 1) + 3) (by omega)
    (iowr_control_sso L) ?_
  intro u
  refine Returns.ghost ?_
  intro t ht
  refine Returns.from_state (P := fun s => (Ready false (L ++ [.select]) s ∧
    s.core.rxHoldingReg = t.core.rxHoldingReg) ∧ s.core.Still) ⟨⟨ht.1, rfl⟩, ht.2⟩ ?_
  refine Returns.bind_le (184 * (2 * (writeData.length + readLength) + 1) + 2) (by omega)
    (iord_rxdata (L ++ [.select]) false t.core.rxHoldingReg) ?_
  intro v
  have hloop := Returns.forever (R := Answered writeData readLength (L ++ [.select]))
    (by decide) (commandRound_returns (L ++ [.select])) (2 * (writeData.length + readLength))
    (Command.sent writeData readLength 0 [])
  have hstart (s : Spi) (hs : v = t.core.rxHoldingReg.setWidth 16 ∧
      Ready false (L ++ [.select]) s ∧ s.core.Still) :
      Underway writeData readLength (L ++ [.select]) (2 * (writeData.length + readLength))
        (Command.sent writeData readLength 0 []) s := by
    have hready : Ready false (L ++ [.select] ++ exchanges (commandBytes writeData readLength) [])
        s := by simpa [exchanges] using hs.2.1
    exact @Underway.ready writeData readLength (L ++ [.select]) s [] hpos hready hs.2.2
  have hsent : (⟨1, writeData, readLength, writeData.length, []⟩ : Command) =
      Command.sent writeData readLength 0 [] := by simp [Command.sent]
  rw [hsent]
  refine Returns.bind_le 2 (Nat.le_refl _) (hloop.mono hstart (Nat.le_refl _) fun _ _ => id) ?_
  intro data
  refine Returns.ghost ?_
  intro t' ht'
  obtain ⟨answers, hlen, hdata, hready, hstill⟩ := ht'
  refine Returns.from_state (P := fun s => Ready false _ s ∧ s.core.Still) ⟨hready, hstill⟩ ?_
  refine Returns.bind_le 1 (Nat.le_refl _) (awaitTransmitted_returns _) ?_
  intro u
  refine Returns.last (iowr_control_zero _) ?_
  intro u
  refine Returns.pure ?_
  intro s hs
  refine ⟨answers, hlen, by rw [hdata], ?_, hs.2⟩
  have hwire : L ++ frame (commandBytes writeData readLength) answers =
      L ++ [.select] ++ exchanges (commandBytes writeData readLength) answers ++ [.deselect] := by
    simp [frame]
  rw [hwire]
  exact hs.1

theorem quiet_powerUp : Quiet [] .powerUp ∧ Spi.powerUp.core.Still := by
  refine ⟨⟨rfl, ⟨rfl, rfl, rfl, rfl, rfl, rfl⟩, rfl, rfl, rfl, rfl⟩, ?_⟩
  exact ⟨⟨rfl, rfl⟩, rfl, rfl⟩

/-- From a core that rests, every command returns, and the device sees its frame and no more. -/
theorem command_exchange (L : List WireEvent) (writeData : List Byte) (readLength : Nat)
    (hpos : 0 < writeData.length + readLength) (s : Spi) (hs : Quiet L s ∧ s.core.Still)
    (turns : List Turn)
    (hturns : 184 * (2 * (writeData.length + readLength) + 1) + 5 ≤ turns.length) :
    ∃ answers s' rest, answers.length = writeData.length + readLength ∧
      altAvalonSpiCommand 0 writeData readLength 0 ⟨turns, s⟩ =
        .ok (readLength, answers.drop writeData.length) ⟨rest, s'⟩ ∧
      (Quiet (L ++ frame (commandBytes writeData readLength) answers) s' ∧ s'.core.Still) := by
  obtain ⟨r, v, hrun, -, answers, hlen, hr, hv⟩ :=
    command_returns L writeData readLength hpos ⟨turns, s⟩ hs hturns
  exact ⟨answers, v.st, v.script, hlen, by rw [hrun, hr], hv⟩

/-- A register read as the first command, at an even pace. -/
theorem command_exchange_read : ∃ answers s' rest, List.length answers = 1 + 1 ∧
    altAvalonSpiCommand 0 [rHRSL] 1 0 ⟨.replicate 1000 ⟨[], true, true⟩, .powerUp⟩ =
      .ok (1, answers.drop 1) ⟨rest, s'⟩ ∧
    (Quiet ([] ++ frame (commandBytes [rHRSL] 1) answers) s' ∧ s'.core.Still) :=
  command_exchange [] [rHRSL] 1 (by decide) .powerUp quiet_powerUp _
    (by rw [List.length_replicate]; decide)

/-! ## Any driver -/

/-- What a driver may ask for. The count of `MAXbytes_wr` is a byte. -/
inductive Request
  | regWr (reg val : Byte)
  | regRd (reg spiByteRead : Byte)
  | bytesWr (reg : Byte) (data : List Byte) (lt : data.length < 256)
  | bytesRd (reg nbytes : Byte)

def Request.perform : Request → SpiProg Access
  | .regWr reg val => do
    spiMaxRegWr reg val
    return .regWr reg val
  | .regRd reg spiByteRead => do
    return .regRd reg (← spiMaxRegRd reg spiByteRead)
  | .bytesWr reg data _ => do
    spiMaxBytesWr reg data
    return .bytesWr reg data
  | .bytesRd reg nbytes => do
    return .bytesRd reg (← spiMaxBytesRd reg nbytes)

/-- A driver that goes by all the answers it has had. -/
def drive (next : List Access → Request) : Nat → List Access → SpiProg (List Access)
  | 0, log => return log
  | n + 1, log => do
    let a ← (next log).perform
    drive next n (log ++ [a])

/-- An access was the one that was asked for. -/
def Request.Asks : Request → Access → Prop
  | .regWr reg val, a => a = .regWr reg val
  | .regRd reg _, a => ∃ val, a = .regRd reg val
  | .bytesWr reg data _, a => a = .bytesWr reg data
  | .bytesRd reg nbytes, a => ∃ bytes, bytes.length = nbytes.toNat ∧ a = .bytesRd reg bytes

/-- Accesses, each the one the driver asks for after those before it. -/
def Obeys (next : List Access → Request) : List Access → List Access → Prop
  | _, [] => True
  | log, a :: more => (next log).Asks a ∧ Obeys next (log ++ [a]) more

/-- What the device sees of an access: `reg + 2` for a write, the values it is given or gives, and
answers that nobody looks at. -/
def Framed : Access → List WireEvent → Prop
  | .regWr reg val, ws => ∃ a b, ws = frame [reg + 2, val] [a, b]
  | .regRd reg val, ws => ∃ a, ws = frame [reg, 0] [a, val]
  | .bytesWr reg data, ws => ∃ answers, answers.length = data.length + 1 ∧
      ws = frame ((reg + 2) :: data) answers
  | .bytesRd reg bytes, ws => ∃ a, ws = frame (reg :: List.replicate bytes.length 0) (a :: bytes)
  | _, _ => False

/-- A command of at most 256 bytes, by what becomes of its answers. -/
theorem command_framed (L : List WireEvent) {writeData : List Byte} {readLength : Nat}
    (hpos : 0 < writeData.length + readLength) (hle : writeData.length + readLength ≤ 256) :
    Returns (fun s => Quiet L s ∧ s.core.Still) (altAvalonSpiCommand 0 writeData readLength 0) 94397
      fun r s => ∃ answers, answers.length = writeData.length + readLength ∧
        r.2 = answers.drop writeData.length ∧
        Quiet (L ++ frame (commandBytes writeData readLength) answers) s ∧ s.core.Still := by
  refine (command_returns L writeData readLength hpos).mono (fun _ => id) (by omega) ?_
  intro r s hr
  obtain ⟨answers, hlen, hr, hs⟩ := hr
  exact ⟨answers, hlen, by rw [hr], hs⟩

section Registers

variable (L : List WireEvent) (reg : Byte)

/-- After a register access that the device has seen as `a`. -/
def Seen (a : Access) (s : Spi) : Prop := ∃ ws, Framed a ws ∧ Quiet (L ++ ws) s ∧ s.core.Still

theorem spiMaxRegWr_returns (val : Byte) :
    Returns (fun s => Quiet L s ∧ s.core.Still) (spiMaxRegWr reg val) 94397 fun _ =>
      Seen L (.regWr reg val) := by
  refine (command_framed L (by simp) (by simp)).last ?_
  intro r
  refine Returns.pure ?_
  intro s hs
  obtain ⟨answers, hlen, -, hs⟩ := hs
  obtain ⟨a, b, rfl⟩ := List.length_eq_two.1 hlen
  exact ⟨_, ⟨a, b, rfl⟩, hs⟩

theorem spiMaxBytesWr_returns (data : List Byte) (lt : data.length < 256) :
    Returns (fun s => Quiet L s ∧ s.core.Still) (spiMaxBytesWr reg data) 94397 fun _ =>
      Seen L (.bytesWr reg data) := by
  refine (command_framed L (by simp) (by rw [List.length_cons]; omega)).last ?_
  intro r
  refine Returns.pure ?_
  intro s hs
  obtain ⟨answers, hlen, -, hs⟩ := hs
  rw [commandBytes, List.replicate_zero, List.append_nil] at hs
  exact ⟨_, ⟨answers, by simpa using hlen, rfl⟩, hs⟩

theorem spiMaxBytesRd_returns (nbytes : Byte) :
    Returns (fun s => Quiet L s ∧ s.core.Still) (spiMaxBytesRd reg nbytes) 94397 fun bytes s =>
      bytes.length = nbytes.toNat ∧ Seen L (.bytesRd reg bytes) s := by
  have hlt : nbytes.toNat < 256 := nbytes.isLt
  have hcount : [reg].length + nbytes.toNat = nbytes.toNat + 1 := Nat.add_comm 1 _
  refine (command_framed L (by omega) (by omega)).last ?_
  rintro ⟨count, data⟩
  refine Returns.pure ?_
  intro s hs
  obtain ⟨answers, hlen, hdata, hs⟩ := hs
  rw [hcount] at hlen
  cases answers with
  | nil => cases hlen
  | cons a bytes =>
    have hbytes : bytes.length = nbytes.toNat := Nat.succ_injective hlen
    have hdata' : data = bytes := hdata
    rw [hdata']
    refine ⟨hbytes, _, ⟨a, rfl⟩, ?_⟩
    rw [hbytes]
    exact hs

theorem spiMaxRegRd_returns (spiByteRead : Byte) :
    Returns (fun s => Quiet L s ∧ s.core.Still) (spiMaxRegRd reg spiByteRead) 94397 fun val =>
      Seen L (.regRd reg val) := by
  refine (command_framed L (by simp) (by simp)).last ?_
  rintro ⟨count, data⟩
  refine Returns.pure ?_
  intro s hs
  obtain ⟨answers, hlen, hdata, hs⟩ := hs
  obtain ⟨a, val, rfl⟩ := List.length_eq_two.1 hlen
  have hdata' : data = [val] := hdata
  rw [hdata']
  exact ⟨_, ⟨a, rfl⟩, hs⟩

theorem perform_returns (r : Request) :
    Returns (fun s => Quiet L s ∧ s.core.Still) r.perform 94397
      fun a s => r.Asks a ∧ Seen L a s := by
  cases r with
  | regWr reg val =>
    exact (spiMaxRegWr_returns L reg val).last fun _ => Returns.pure fun s hs => ⟨rfl, hs⟩
  | regRd reg spiByteRead =>
    exact (spiMaxRegRd_returns L reg spiByteRead).last fun val =>
      Returns.pure fun s hs => ⟨⟨val, rfl⟩, hs⟩
  | bytesWr reg data lt =>
    exact (spiMaxBytesWr_returns L reg data lt).last fun _ =>
      Returns.pure fun s hs => ⟨rfl, hs⟩
  | bytesRd reg nbytes =>
    exact (spiMaxBytesRd_returns L reg nbytes).last fun bytes =>
      Returns.pure fun s hs => ⟨⟨bytes, hs.1, rfl⟩, hs.2⟩

end Registers

/-- The accesses so far are on the wires one after the other. -/
def Logged (log : List Access) (s : Spi) : Prop :=
  ∃ frames, List.Forall₂ Framed log frames ∧ Quiet frames.flatten s ∧ s.core.Still

theorem perform_logged (log : List Access) (r : Request) :
    Returns (Logged log) r.perform 94397 fun a s => r.Asks a ∧ Logged (log ++ [a]) s := by
  refine Returns.ghost ?_
  intro t ht
  obtain ⟨frames, hframes, hquiet⟩ := ht
  refine Returns.from_state (P := fun s => Quiet frames.flatten s ∧ s.core.Still) hquiet ?_
  refine (perform_returns frames.flatten r).mono (fun _ => id) (Nat.le_refl _) ?_
  intro a s hs
  obtain ⟨hasks, ws, hframed, hs⟩ := hs
  refine ⟨hasks, frames ++ [ws], ?_, ?_⟩
  · exact List.rel_append hframes (List.Forall₂.cons hframed List.Forall₂.nil)
  · rwa [List.flatten_append, List.flatten_singleton]

theorem drive_returns (next : List Access → Request) (n : Nat) (log : List Access) :
    Returns (Logged log) (drive next n log) (94397 * n) fun log' s =>
      Logged log' s ∧ ∃ more, log' = log ++ more ∧ more.length = n ∧ Obeys next log more := by
  induction n generalizing log with
  | zero =>
    refine Returns.pure ?_
    intro s hs
    exact ⟨hs, [], by simp, rfl, trivial⟩
  | succ n ih =>
    refine Returns.bind_le (94397 * n) (by omega) (perform_logged log (next log)) ?_
    intro a
    refine Returns.assume (fun s hs => hs.1) ?_
    intro hasks
    refine (ih (log ++ [a])).mono (fun s hs => hs.2) (Nat.le_refl _) ?_
    intro log' s hs
    obtain ⟨hlogged, more, hlog, hlen, hobeys⟩ := hs
    refine ⟨hlogged, a :: more, ?_, ?_, hasks, hobeys⟩
    · rw [hlog, List.append_assoc, List.singleton_append]
    · rw [List.length_cons, hlen]

theorem logged_powerUp : Logged [] .powerUp := ⟨[], List.Forall₂.nil, quiet_powerUp⟩

/-- Whatever a driver makes of the answers it gets, each of its accesses returns, and the device
has seen them in order, a frame for each and nothing else. -/
theorem accesses_framed (next : List Access → Request) (n : Nat) (turns : List Turn)
    (hturns : 94397 * n ≤ turns.length) :
    ∃ log s rest frames, drive next n [] ⟨turns, .powerUp⟩ = .ok log ⟨rest, s⟩ ∧
      log.length = n ∧ Obeys next [] log ∧ List.Forall₂ Framed log frames ∧
      s.wire = frames.flatten ∧ s.core.roe = false ∧ s.core.toe = false := by
  obtain ⟨log, v, hrun, -, ⟨frames, hframes, hquiet, -⟩, more, hlog, hlen, hobeys⟩ :=
    drive_returns next n [] ⟨turns, .powerUp⟩ logged_powerUp hturns
  rw [List.nil_append] at hlog
  subst hlog
  exact ⟨log, v.st, v.script, frames, hrun, hlen, hobeys, hframes, hquiet.wire, hquiet.roe,
    hquiet.toe⟩

/-- A driver that writes back what it has read. -/
def echo : List Access → Request
  | [.regRd reg val] => .regWr reg val
  | _ => .regRd rPERADDR 0

theorem accesses_framed_echo :
    ∃ log s rest frames, drive echo 2 [] ⟨.replicate 188794 ⟨[], true, false⟩, .powerUp⟩ =
        .ok log ⟨rest, s⟩ ∧
      log.length = 2 ∧ Obeys echo [] log ∧ List.Forall₂ Framed log frames ∧
      s.wire = frames.flatten ∧ s.core.roe = false ∧ s.core.toe = false :=
  accesses_framed _ 2 _ (by rw [List.length_replicate])

end Bosconian.Soc
