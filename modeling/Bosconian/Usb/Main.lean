import Bosconian.Usb.Task

/-!
# `main`

The program on the soft processor: it sets the controller up and then calls the two tasks for
ever, reading the device once it runs. A run is a list of answers for each call in turn.
-/

namespace Bosconian.Usb

open Scripted

/-- The calls `main` makes: two before the loop, then three in every round, the last one being
what the round does with the device. -/
inductive Call
  | max3421eInit
  | usbInit
  | max3421eTask
  | usbTask
  | useDevice
deriving DecidableEq, Repr

def Call.next : Call → Call
  | .max3421eInit => .usbInit
  | .usbInit => .max3421eTask
  | .max3421eTask => .usbTask
  | .usbTask => .useDevice
  | .useDevice => .max3421eTask

/-- The locals of `main` over the globals. `call` is the one it makes next, and none after a call
that did not return. -/
structure Main extends Host where
  call : Option Call
  buf : List Byte
  kbdbuf : List Byte
  runningdebugflag : Byte
  errorflag : Byte
  device : Byte
deriving DecidableEq, Repr

/-- `buf`, `kbdbuf` and `device` start as whatever the stack holds. -/
def Main.powerUp (buf kbdbuf : List Byte) (device : Byte) : Main where
  toHost := .powerUp
  call := some .max3421eInit
  buf := buf
  kbdbuf := kbdbuf
  runningdebugflag := 0
  errorflag := 0
  device := device

abbrev MainProg := Prog Dword Main

instance : MonadLift Task MainProg := ⟨zoom Main.toHost fun u m => { m with toHost := u }⟩

/-- The hard-wired address. -/
def mainAddr : Byte := 1

/-- The class of the last device in `devtable`, after the two requests whose answers are only
printed. -/
def getDriverandReport : Driver Byte := do
  let t ← read
  let device := ((t.devtable.toList.take usbNumdevices).drop 1).foldl
    (fun device tpl => if tpl.epinfo ≠ .null then tpl.devclass else device) 0xff
  let tmpbyte ← uninitialised 1
  let (_, tmpbyte) ← xferGetIdle mainAddr 0 t.hidDevice.interface 0 tmpbyte
  let _ ← xferGetProto mainAddr 0 t.hidDevice.interface tmpbyte
  return device

/-- A keyboard report that came whole puts its first key on the port to the game. -/
def pollKeyboard : MainProg Unit := do
  let (rcode, kbdbuf) ← (kbdPoll (← read).kbdbuf : Task (Byte × List Byte))
  update fun m => { m with kbdbuf := kbdbuf }
  onlyIf (rcode = 0) (do (pioWr .keycode ((kbdbuf.getD 2 0).setWidth 32) : Task Unit))

def pollMouse : MainProg Unit := do
  let (_, buf) ← (mousePoll (← read).buf : Task (Byte × List Byte))
  update fun m => { m with buf := buf }

/-- The device is there for the first time. -/
def meetDevice : MainProg Unit := do
  update fun m => { m with runningdebugflag := 1 }
  let device ← (getDriverandReport : Task Byte)
  update fun m => { m with device := device }

/-- The device has gone: set the controller and the tables up again. -/
def startOver : MainProg Unit := do
  update fun m => { m with runningdebugflag := 0 }
  max3421eInit
  (usbInit : Task Unit)

/-- The rest of a round, by the state that the two tasks left. -/
def useDevice : MainProg Unit := do
  let m ← read
  if m.usbTaskState = usbStateRunning then
    if m.runningdebugflag = 0 then meetDevice
    else if m.device = hidK then pollKeyboard
    else if m.device = hidM then pollMouse
  else if m.usbTaskState = usbStateError then update fun m => { m with errorflag := 1 }
  else
    onlyIf (m.runningdebugflag ≠ 0) startOver
    update fun m => { m with errorflag := 0 }

namespace Main

def exec : Call → MainProg Unit
  | .max3421eInit => max3421eInit
  | .usbInit => (usbInit : Task Unit)
  | .max3421eTask => max3421eTask
  | .usbTask => usbTask
  | .useDevice => useDevice

/-- One call, with the answers the outside gives to it. -/
def step (m : Main) (answers : List Dword) : Main :=
  match m.call with
  | none => m
  | some c =>
    { (final (exec c) ⟨answers, m⟩).st with
      call := (returned (exec c) ⟨answers, m⟩).map fun _ => c.next }

theorem step_of_none {m : Main} (h : m.call = none) (answers : List Dword) :
    m.step answers = m := by
  rw [step, h]

theorem step_of_some {m : Main} {c : Call} (h : m.call = some c) (answers : List Dword) :
    m.step answers = { (final (exec c) ⟨answers, m⟩).st with
      call := (returned (exec c) ⟨answers, m⟩).map fun _ => c.next } := by
  rw [step, h]

end Main

end Bosconian.Usb
