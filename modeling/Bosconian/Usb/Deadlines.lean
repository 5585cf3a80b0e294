import Bosconian.Usb.Task

/-!
# Deadlines

Both waits of the driver read the clock as `(alt_nticks()*1000)/alt_ticks_per_second()`. With a
thousand ticks a second that would be the tick count, but the product wraps at 32 bits, every 72
minutes, and the milliseconds start over (`toNat_milliseconds`). The deadline is compared by size
and not by difference, so a wait that sees a wrap goes on until the milliseconds have caught up.

Main result: `deadline_onTime_iff`.
-/

namespace Bosconian.Usb

open Scripted

/-! ## The clock -/

/-- What the driver takes for milliseconds at tick `t`. -/
def millisecondsAt (t : Dword) : Dword := t * 1000 / altTicksPerSecond

theorem milliseconds_eq (t : Dword) (is : List Dword) (s : Tables) :
    milliseconds ⟨t :: is, s⟩ =
      .ok (millisecondsAt t) ⟨is, { s with log := s.log ++ [.ticks t] }⟩ := rfl

/-- The milliseconds that the wraps of the product have taken away by tick `t`, rounded up. -/
def millisecondsLost (t : Nat) : Nat := (t * 1000 / 2 ^ 32 * 2 ^ 32 + 999) / 1000

theorem toNat_milliseconds (t : Dword) :
    (millisecondsAt t).toNat + millisecondsLost t.toNat = t.toNat := by
  have hthousand : altTicksPerSecond.toNat = 1000 := rfl
  have hfactor : (1000 : Dword).toNat = 1000 := rfl
  have ht := t.isLt
  rw [millisecondsAt, BitVec.toNat_udiv, BitVec.toNat_mul, hthousand, hfactor, millisecondsLost]
  omega

theorem millisecondsLost_mono {t t' : Nat} (h : t ≤ t') :
    millisecondsLost t ≤ millisecondsLost t' := by
  unfold millisecondsLost
  omega

/-! ## The waits -/

/-- What the driver waits for. -/
inductive Deadline
  | transfer (token ep : Byte)
  | settle
deriving DecidableEq, Repr

namespace Deadline

/-- The milliseconds configured: `USB_XFER_TIMEOUT`, and 200 for `usb_delay`. -/
def limit : Deadline → Nat
  | transfer _ _ => 5000
  | settle => 200

/-- How many milliseconds the comparison waits for: one is `<` and the other `>`. -/
def awaited : Deadline → Nat
  | transfer _ _ => 5000
  | settle => 201

/-- The wait that is armed at tick `t₀` in state `u` is over for a look at the clock at tick `t`. -/
def Over (u : Host) (t₀ t : Dword) : Deadline → Prop
  | transfer token ep => returned (xferDispatchPkt token ep) ⟨[t₀, t], u.toTables⟩ = some 0xff
  | settle =>
    let armed := (final (taskAttached usbStateAttached) ⟨[t₀], u⟩).st
    (final (taskAttached armed.usbTaskState) ⟨[t], armed⟩).st.usbTaskState =
      usbAttachedSubstateResetDevice

instance (u : Host) (t₀ t : Dword) (d : Deadline) : Decidable (d.Over u t₀ t) := by
  cases d <;> unfold Over <;> infer_instance

/-- Over when more has elapsed than configured, and not before that much has. -/
structure OnTime (u : Host) (t₀ t : Dword) (d : Deadline) : Prop where
  overAfter : d.limit < t.toNat - t₀.toNat → d.Over u t₀ t
  notBefore : t.toNat - t₀.toNat < d.limit → ¬ d.Over u t₀ t

/-- Without an answer but the clock, the wait for a transfer ends where it is over. -/
theorem awaitTransfer_eq (timeout t : Dword) (s : Tables) :
    awaitTransfer timeout ⟨[t], s⟩ =
      if millisecondsAt t < timeout then
        .error .waiting ⟨[], { s with log := s.log ++ [.ticks t] }⟩
      else .ok 0xff ⟨[], { s with log := s.log ++ [.ticks t] }⟩ := by
  rw [awaitTransfer, forever_eq fun _ => uses_awaitRound timeout]
  split_ifs with h
  · have hround : awaitRound timeout ⟨[t], s⟩ =
        .error .waiting ⟨[], { s with log := s.log ++ [.ticks t] }⟩ := by
      rw [awaitRound, bind_ok (milliseconds_eq t [] s), if_pos h]
      rfl
    exact bind_error hround
  · have hround : awaitRound timeout ⟨[t], s⟩ =
        .ok (.inr 0xff) ⟨[], { s with log := s.log ++ [.ticks t] }⟩ := by
      rw [awaitRound, bind_ok (milliseconds_eq t [] s), if_neg h]
      rfl
    exact bind_ok hround

/-- A packet is given up with `0xff` at the first look at the clock that finds its wait over. -/
theorem over_transfer_iff (token ep : Byte) (u : Host) (t₀ t : Dword) :
    (transfer token ep).Over u t₀ t ↔
      ¬ millisecondsAt t < millisecondsAt t₀ + usbXferTimeout := by
  let timeout := millisecondsAt t₀ + usbXferTimeout
  let launched : Tables :=
    { u.toTables with log := u.log ++ [.ticks t₀] ++ [.regWr rHXFR (token ||| ep)] }
  have hwait := awaitTransfer_eq timeout t launched
  have hdispatch : xferDispatchPkt token ep ⟨[t₀, t], u.toTables⟩ =
      (dispatchRound token ep timeout (0, 0) >>= resume (forever (dispatchRound token ep timeout)))
        ⟨[t], { u.toTables with log := u.log ++ [.ticks t₀] }⟩ := by
    rw [← forever_eq (uses_dispatchRound token ep timeout)]
    exact bind_ok (milliseconds_eq t₀ [t] u.toTables)
  have hwrite : maxRegWr rHXFR (token ||| ep)
      ⟨[t], { u.toTables with log := u.log ++ [.ticks t₀] }⟩ = .ok () ⟨[t], launched⟩ := rfl
  show returned (xferDispatchPkt token ep) ⟨[t₀, t], u.toTables⟩ = some 0xff ↔ _
  rw [returned, hdispatch]
  split_ifs at hwait with h
  · have hround : dispatchRound token ep timeout (0, 0)
        ⟨[t], { u.toTables with log := u.log ++ [.ticks t₀] }⟩ =
          .error .waiting ⟨[], { launched with log := launched.log ++ [.ticks t] }⟩ :=
      (bind_ok hwrite).trans (bind_error hwait)
    rw [bind_error hround]
    exact iff_of_false nofun (not_not.2 h)
  · have hround : dispatchRound token ep timeout (0, 0)
        ⟨[t], { u.toTables with log := u.log ++ [.ticks t₀] }⟩ =
          .ok (.inr 0xff) ⟨[], { launched with log := launched.log ++ [.ticks t] }⟩ :=
      (bind_ok hwrite).trans (bind_ok hwait)
    rw [bind_ok hround]
    exact iff_of_true rfl h

theorem over_settle_iff (u : Host) (t₀ t : Dword) :
    settle.Over u t₀ t ↔ millisecondsAt t₀ + 200 < millisecondsAt t := by
  let looked (t : Dword) (v : Host) : Host := { v with log := v.log ++ [.ticks t] }
  let armed := ((looked t₀ u).armUsbDelay (millisecondsAt t₀ + 200)).setTaskState
    usbAttachedSubstateSettle
  have harmed : (final (taskAttached usbStateAttached) ⟨[t₀], u⟩).st = armed := rfl
  have hlook : final (taskAttached usbAttachedSubstateSettle) ⟨[t], armed⟩ =
      final (if millisecondsAt t₀ + 200 < millisecondsAt t then
          setTaskState usbAttachedSubstateResetDevice else pure ())
        ⟨[], looked t armed⟩ := rfl
  show (final (taskAttached (final (taskAttached usbStateAttached) ⟨[t₀], u⟩).st.usbTaskState)
    ⟨[t], (final (taskAttached usbStateAttached) ⟨[t₀], u⟩).st⟩).st.usbTaskState = _ ↔ _
  rw [harmed]
  show (final (taskAttached usbAttachedSubstateSettle) ⟨[t], armed⟩).st.usbTaskState = _ ↔ _
  rw [hlook]
  split_ifs with h
  · exact iff_of_true rfl h
  · have hsettle : usbAttachedSubstateSettle ≠ usbAttachedSubstateResetDevice := by decide
    exact iff_of_false hsettle h

theorem millisecondsAt_lt (t : Dword) : (millisecondsAt t).toNat < 2 ^ 23 := by
  have hthousand : altTicksPerSecond.toNat = 1000 := rfl
  have hlt := (t * 1000).isLt
  rw [millisecondsAt, BitVec.toNat_udiv, hthousand]
  omega

/-- The deadline itself does not wrap. -/
theorem over_iff (u : Host) (t₀ t : Dword) (d : Deadline) :
    d.Over u t₀ t ↔ (millisecondsAt t₀).toNat + d.awaited ≤ (millisecondsAt t).toNat := by
  have hlt := millisecondsAt_lt t₀
  have hsum {n : Dword} (hn : n.toNat < 2 ^ 23) :
      (millisecondsAt t₀ + n).toNat = (millisecondsAt t₀).toNat + n.toNat := by
    rw [BitVec.toNat_add, Nat.mod_eq_of_lt (by omega)]
  cases d with
  | transfer token ep =>
    rw [over_transfer_iff, BitVec.lt_def, hsum (by decide), Nat.not_lt]
    rfl
  | settle =>
    rw [over_settle_iff, BitVec.lt_def, hsum (by decide)]
    rfl

end Deadline

/-- **A wait is over on time** exactly when it sees no wrap of the product, or ends before its
deadline, or has gone on for as much longer as the wraps took away. -/
theorem deadline_onTime_iff (u : Host) (d : Deadline) (t₀ t : Dword) (h : t₀ ≤ t) :
    d.OnTime u t₀ t ↔
      millisecondsLost t.toNat = millisecondsLost t₀.toNat ∨ t.toNat - t₀.toNat ≤ d.limit ∨
        d.awaited + (millisecondsLost t.toNat - millisecondsLost t₀.toNat) ≤
          t.toNat - t₀.toNat := by
  have hover := d.over_iff u t₀ t
  have hmono := millisecondsLost_mono (BitVec.le_def.1 h)
  have hstart := toNat_milliseconds t₀
  have hnow := toNat_milliseconds t
  have hlimit : d.limit ≤ d.awaited ∧ d.awaited ≤ d.limit + 1 := by
    cases d with
    | transfer token ep => exact ⟨Nat.le_refl _, Nat.le_succ _⟩
    | settle => exact ⟨Nat.le_succ _, Nat.le_refl _⟩
  rw [BitVec.le_def] at h
  constructor
  · rintro ⟨hlate, -⟩
    rw [hover] at hlate
    omega
  · intro hcases
    refine ⟨fun hlate => ?_, fun hearly => ?_⟩
    · rw [hover]
      omega
    · rw [hover]
      omega

/-- Half an hour after power-up a transfer is given up after five seconds and not before. -/
theorem deadline_onTime_halfHour :
    (Deadline.transfer tokIN 0).OnTime .powerUp 1800000 1805001 :=
  (deadline_onTime_iff .powerUp (.transfer tokIN 0) 1800000 1805001 (by decide)).2 (by decide)

/-- Armed in the last millisecond before the wrap, it is not given up ten seconds later. -/
theorem deadline_not_onTime :
    ¬ (Deadline.transfer tokIN 0).OnTime .powerUp 4294967 4304967 := by
  rintro ⟨hover, -⟩
  exact absurd (hover (by decide)) (by decide)

end Bosconian.Usb
