import Bosconian.EventMachine
import Bosconian.Usb.Reports

/-!
# Runs in which every transfer keeps to its destination

`XferInTransfer` stores what a packet brings before it looks at how much was asked for, and
`ConvUTF8ToStr` takes its length from the device. What lies behind a destination is other data of
the program: `devtable` behind `bigbuf`, one report behind the other on the stack of `main`. The
model keeps each destination for itself, so it tells of these only as far as nothing was stored
past one.

* `Tables.InBounds` — nothing was, as the log shows it.
* `Main.Sized` — the buffers have the bytes that they have in memory.
* `sized_step` — a call that stays in bounds keeps the sizes.
-/

namespace Bosconian.Usb

open EventMachine Scripted

/-! ## What the log shows -/

/-- The bytes at the destination of a request, by its set-up packet: a device descriptor, `bigbuf`
or a string descriptor, and else the byte of `GetIdle` and `GetProto`. -/
def destination (setup : List Byte) : Nat :=
  if setup.getD 1 0 ≠ 6 then 1
  else if setup.getD 3 0 = 1 then 18 else 256

/-- The characters of `USB_STRING_DESCRIPTOR`. -/
def bStringLen : Nat := 254

/-- The room at the destination behind an access that finds room: to address a device begins a
transfer, which is a poll into a report of eight bytes unless a request is set up. -/
def Access.takes (room : Nat) : Access → Option Nat
  | .regWr reg _ => some (if reg = rPERADDR then 8 else room)
  | .bytesWr _ setup => some (destination setup)
  | .bytesRd _ bytes => if bytes.length ≤ room then some (room - bytes.length) else none
  | .stringWr i => if i < bStringLen then some room else none
  | _ => some room

def roomAfter (log : List Access) : Option Nat := phaseAfter Access.takes 0 log

/-- No access has stored past its destination. -/
def Tables.InBounds (t : Tables) : Prop := (roomAfter t.log).isSome = true

instance (t : Tables) : Decidable t.InBounds :=
  inferInstanceAs (Decidable ((roomAfter t.log).isSome = true))

theorem roomAfter_concat (log : List Access) (e : Access) :
    roomAfter (log ++ [e]) = (roomAfter log).bind fun room => e.takes room :=
  phaseAfter_concat _ _ _ _

theorem isSome_roomAfter_of_prefix {log log' : List Access} (h : log <+: log')
    (hsome : (roomAfter log').isSome = true) : (roomAfter log).isSome = true := by
  obtain ⟨more, rfl⟩ := h
  induction more using List.reverseRecOn with
  | nil => rwa [List.append_nil] at hsome
  | append_singleton more e ih =>
    rw [← List.append_assoc, roomAfter_concat] at hsome
    exact ih (by cases hroom : roomAfter (log ++ more) <;> simp_all)

theorem Tables.InBounds.of_prefix {t t' : Tables} (h : t.log <+: t'.log) (ht : t'.InBounds) :
    t.InBounds := isSome_roomAfter_of_prefix h ht

/-! ## What a transfer stores -/

/-- Of `n` bytes at the destination those left over are still free, if all of them went there. -/
def Within (n : Nat) (got : List Byte) (log : List Access) : Prop :=
  ∀ room, roomAfter log = some room → got.length + room = n

theorem receives_within (n : Nat) : Receives (Within n) where
  ofRegister := by
    intro got log e he h room hroom
    rw [roomAfter_concat] at hroom
    obtain ⟨room', hlog, htakes⟩ := Option.bind_eq_some_iff.1 hroom
    have hsame : room' = room := by
      cases e with
      | regRd | ticks => exact Option.some.inj htakes
      | regWr reg val =>
        have hreg : reg ≠ rPERADDR := he
        rw [Access.takes, if_neg hreg] at htakes
        exact Option.some.inj htakes
      | _ => exact he.elim
    exact hsame ▸ h room' hlog
  fifo := by
    intro got log reg bytes h room hroom
    rw [roomAfter_concat] at hroom
    obtain ⟨room', hlog, htakes⟩ := Option.bind_eq_some_iff.1 hroom
    have hgot := h room' hlog
    rw [Access.takes] at htakes
    split at htakes
    · next hle =>
      obtain rfl := Option.some.inj htakes
      rw [List.length_append]
      omega
    · cases htakes

/-- What follows once the room is known to be `n`, whatever it was. -/
theorem within_concat {n : Nat} {e : Access} (h : ∀ room, e.takes room = some n)
    (log : List Access) : Within n [] (log ++ [e]) := by
  intro room hroom
  rw [roomAfter_concat] at hroom
  obtain ⟨room', -, htakes⟩ := Option.bind_eq_some_iff.1 hroom
  rw [h room'] at htakes
  rw [List.length_nil, Nat.zero_add]
  exact (Option.some.inj htakes).symm

theorem within_poll (log : List Access) (addr : Byte) :
    Within 8 [] (log ++ [.regWr rPERADDR addr]) :=
  within_concat (fun room => by rw [Access.takes, if_pos rfl]) log

/-- What lay in bounds is as long as the destination. -/
theorem length_overlay {n : Nat} {got data : List Byte} {t : Tables} (h : Within n got t.log)
    (ht : t.InBounds) (hdata : data.length = n) : (overlay got data).length = n := by
  obtain ⟨room, hroom⟩ := Option.isSome_iff_exists.1 ht
  have hgot := h room hroom
  simp only [overlay, List.length_append, List.length_drop]
  omega

/-! ## `bigbuf` -/

/-- The log grew, and `bigbuf` keeps its bytes if it stayed in bounds. -/
structure Bounded (t t' : Tables) : Prop where
  log : t.log <+: t'.log
  bigbuf : t'.InBounds → t.bigbuf.length = 256 → t'.bigbuf.length = 256

instance : IsPreorder Tables Bounded where
  refl _ := ⟨List.prefix_rfl, fun _ => id⟩
  trans _ _ _ h₁ h₂ := ⟨h₁.log.trans h₂.log, fun hin hlen =>
    h₂.bigbuf hin (h₁.bigbuf (hin.of_prefix h₂.log) hlen)⟩

theorem bounded_access (t : Tables) (e : Access) : Bounded t { t with log := t.log ++ [e] } :=
  ⟨List.prefix_append _ _, fun _ => id⟩

theorem Accesses.bounded {α : Type} {P : Access → Prop} {m : Driver α} (hm : Accesses P m) :
    Moves (along id Bounded) m := by
  refine hm.moves ⟨fun w => ?_, fun n w => ?_, fun e _ => ?_, fun f hf => ?_⟩
  · rw [along, final_ask]
    exact refl_of Bounded _
  · rw [along, st_final_askN]
    exact refl_of Bounded _
  · exact Moves.update_along fun t => bounded_access t e
  · exact Moves.update_along fun t => ⟨(hf t).1 ▸ List.prefix_rfl, fun _ hlen => (hf t).2 ▸ hlen⟩

/-- A configuration descriptor is asked for into `bigbuf`. -/
theorem bounded_confDescrToBigbuf (addr : Byte) (nbytes : Word) :
    Moves (along id Bounded) (confDescrToBigbuf addr nbytes) := by
  refine Triple.moves fun s => ?_
  refine Triple.read_bind fun t ht => ?_
  obtain rfl : t = s := ht
  have hlay : Triple (fun s => s = t) (xferGetConfDescr addr 0 nbytes 0 t.bigbuf)
      (fun r u => ∃ got, r.2 = overlay got t.bigbuf ∧ Within 256 got u.log)
      fun u => ∃ got, Within 256 got u.log :=
    (receives_within 256).xferCtrlReq 0 t.bigbuf fun _ _ => within_concat (fun _ => rfl) _
  have hgrows : Moves (along id Bounded) (xferGetConfDescr addr 0 nbytes 0 t.bigbuf) :=
    (accesses_xferCtrlReq _ _ _ _ _ _ _ _ _).bounded
  refine Triple.bind ((hlay.and (hgrows.triple t)).mono (fun _ h => ⟨h, h⟩) (fun _ _ h => h)
    fun _ h => h.2) ?_
  rintro ⟨rcode, bytes⟩
  refine Triple.bind (Q := fun _ => Bounded t) (Triple.update ?_) fun _ => Triple.pure fun _ => id
  rintro u ⟨⟨got, hbytes, hwithin⟩, hu⟩
  refine ⟨hu.log, fun hin hlen => ?_⟩
  show bytes.length = 256
  rw [show bytes = overlay got t.bigbuf from hbytes]
  exact length_overlay hwithin (show u.InBounds from hin) hlen

theorem footprint_bounded : Footprint Bounded where
  access t e _ := bounded_access t e
  tables _ _ hlog hbuf := ⟨hlog ▸ List.prefix_rfl, fun _ hlen => hbuf ▸ hlen⟩
  confDescr := bounded_confDescrToBigbuf

/-! ## The calls of `main` -/

namespace Main

/-- The buffers have the bytes that they have in memory. -/
structure Sized (m : Main) : Prop where
  bigbuf : m.bigbuf.length = 256
  buf : m.buf.length = 8
  kbdbuf : m.kbdbuf.length = 8

theorem sized_powerUp {buf kbdbuf : List Byte} (hbuf : buf.length = 8) (hkbdbuf : kbdbuf.length = 8)
    (device : Byte) : (Main.powerUp buf kbdbuf device).Sized :=
  ⟨List.length_replicate, hbuf, hkbdbuf⟩

theorem bounded_step (m : Main) (answers : List Dword) :
    Bounded m.toTables (m.step answers).toTables := by
  have hpoll (buf : List Byte) :
      Bounded m.toTables (final (bootPoll buf) ⟨answers, m.toTables⟩).st :=
    footprint_bounded.bootPoll buf ⟨answers, m.toTables⟩
  by_cases hk : m.PollsKeyboard
  · have hbuf := hpoll m.kbdbuf
    rw [step_of_pollKeyboard hk]
    rcases hrun : bootPoll m.kbdbuf ⟨answers, m.toTables⟩ with ⟨⟨rcode, kbdbuf⟩, v⟩ | ⟨e, v⟩
    · rw [final_ok hrun] at hbuf
      show Bounded m.toTables (if rcode = 0 then v.st.keyWritten _ else v.st)
      split
      · exact trans_of Bounded hbuf (bounded_access v.st _)
      · exact hbuf
    · rwa [final_error hrun] at hbuf
  by_cases hmouse : m.PollsMouse
  · have hbuf := hpoll m.buf
    rw [step_of_pollMouse hmouse]
    rcases hrun : bootPoll m.buf ⟨answers, m.toTables⟩ with ⟨⟨rcode, buf⟩, v⟩ | ⟨e, v⟩
    · rwa [final_ok hrun] at hbuf
    · rwa [final_error hrun] at hbuf
  · exact (touches_step footprint_bounded hk hmouse answers).tables

/-- A poll that comes back in bounds leaves a report of eight bytes. -/
theorem length_report {t : Tables} {buf : List Byte} {answers : List Dword} {rcode : Byte}
    {bytes : List Byte} {v : World Dword Tables} (hlen : buf.length = 8)
    (hrun : bootPoll buf ⟨answers, t⟩ = .ok (rcode, bytes) v) (hin : v.st.InBounds) :
    bytes.length = 8 := by
  have hlay : Triple (fun _ => True) (bootPoll buf)
      (fun r u => ∃ got, r.2 = overlay got buf ∧ Within 8 got u.log)
      fun u => ∃ got, Within 8 got u.log :=
    (receives_within 8).bootPoll buf fun t addr _ => within_poll t.log addr
  obtain ⟨got, hbytes, hwithin⟩ := (hlay ⟨answers, t⟩ trivial).1 _ v hrun
  rw [show bytes = overlay got buf from hbytes]
  exact length_overlay hwithin hin hlen

/-- **A call that stays in bounds keeps the sizes.** -/
theorem sized_step {m : Main} (hm : m.Sized) {answers : List Dword}
    (hin : (m.step answers).InBounds) : (m.step answers).Sized := by
  have hbigbuf := (bounded_step m answers).bigbuf hin hm.bigbuf
  by_cases hk : m.PollsKeyboard
  · rw [step_of_pollKeyboard hk] at hin hbigbuf ⊢
    rcases hrun : bootPoll m.kbdbuf ⟨answers, m.toTables⟩ with ⟨⟨rcode, kbdbuf⟩, v⟩ | ⟨e, v⟩
    · rw [hrun] at hin hbigbuf
      refine ⟨hbigbuf, hm.buf, length_report hm.kbdbuf hrun ?_⟩
      have hport : (if rcode = 0 then v.st.keyWritten ((kbdbuf.getD 2 0).setWidth 32)
        else v.st).InBounds := hin
      split at hport
      · exact hport.of_prefix (List.prefix_append _ _)
      · exact hport
    · rw [hrun] at hbigbuf
      exact ⟨hbigbuf, hm.buf, hm.kbdbuf⟩
  by_cases hmouse : m.PollsMouse
  · rw [step_of_pollMouse hmouse] at hin hbigbuf ⊢
    rcases hrun : bootPoll m.buf ⟨answers, m.toTables⟩ with ⟨⟨rcode, buf⟩, v⟩ | ⟨e, v⟩
    · rw [hrun] at hin hbigbuf
      exact ⟨hbigbuf, length_report hm.buf hrun hin, hm.kbdbuf⟩
    · rw [hrun] at hbigbuf
      exact ⟨hbigbuf, hm.buf, hm.kbdbuf⟩
  · obtain ⟨-, hbuf, hkbdbuf⟩ := touches_step footprint_bounded hk hmouse answers
    exact ⟨hbigbuf, hbuf ▸ hm.buf, hkbdbuf ▸ hm.kbdbuf⟩

theorem bounded_run (m : Main) (answers : List (List Dword)) :
    Bounded m.toTables (run step m answers).toTables := by
  induction answers generalizing m with
  | nil => exact refl_of Bounded _
  | cons first rest ih => exact trans_of Bounded (bounded_step m first) (ih (m.step first))

end Main

end Bosconian.Usb
