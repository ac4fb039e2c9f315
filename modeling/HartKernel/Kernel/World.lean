import HartKernel.Device.Clint
import HartKernel.Device.Uart
import HartKernel.Frame.Table
import HartKernel.Hart.Patch
import HartKernel.Log
import HartKernel.Trap.Handler
import HartKernel.Trap.Report

/-!
# What the harts share

The world of the running kernel: the clock, the diagnostics, the table of active frames, the mask of
harts that are online, and the stores to devices and writes to control registers that have been
made. A text routine that writes to a serial line makes stores like any other code (`World.write`).
-/

namespace HartKernel

/-- A write to a control register of the running hart. -/
inductive ControlWrite where
  /-- Sets bits and leaves the others. -/
  | setBits (name : ControlRegister) (bits : Word)
  /-- Replaces the value. -/
  | replace (name : ControlRegister) (value : Word)
  deriving DecidableEq, Repr

namespace ControlWrite

/-- The register that is written. -/
def name : ControlWrite → ControlRegister
  | setBits name _ => name
  | replace name _ => name

/-- The word that is written. -/
def value : ControlWrite → Word
  | setBits _ bits => bits
  | replace _ value => value

/-- Makes the write take effect. -/
def apply (registers : ControlRegisters) : ControlWrite → ControlRegisters
  | setBits name bits => registers.write name (registers.read name ||| bits)
  | replace name value => registers.write name value

end ControlWrite

/-- What the harts of a running kernel share. -/
structure World where
  /-- What the clock reads. -/
  mtime : Word
  diagnostics : Diagnostics
  frameTable : FrameTable
  /-- Bit `n` is set once hart `n` is online. -/
  online : Word
  /-- The stores to devices, in order. -/
  stores : List Store
  /-- The writes to control registers, in order. -/
  controlWrites : List ControlWrite
  deriving DecidableEq, Repr

namespace World

/-- The world before any hart runs. -/
def fresh : World :=
  { mtime := 0
    diagnostics := .empty
    frameTable := .empty
    online := 0
    stores := []
    controlWrites := [] }

/-- Makes some stores. -/
def store (world : World) (stores : List Store) : World :=
  { world with stores := world.stores ++ stores }

/-- Makes a store whose address may fault to compute. -/
def tryStore (world : World) (store : Except Fault Store) : Except Fault World :=
  store.map fun store => world.store [store]

end World

/-- A world with a serial line that strings are written to. -/
structure Console (line : Uart.Line) where
  world : World

/-- A string is sent as a whole or not at all. -/
instance consoleOutlet (line : Uart.Line) : Outlet (Console line) where
  accept console text :=
    match line.send text with
    | .ok stores => (true, { world := console.world.store stores })
    | .error _ => (false, console)

namespace World

/-- Runs a text routine on a serial line. Nobody asks how it ended. -/
def write (world : World) (line : Uart.Line) (routine : Writing (Console line) Unit) : World :=
  (routine.outcome { world }).2.world

/-- Prints a text on the kernel's line, without its lock. -/
def print (world : World) (pieces : Pieces) : World :=
  world.write Uart.rawLine (Writing.putAll pieces)

/-- Prints a log line. -/
def log (world : World) (level : LogLevel) (target : String) (message : Pieces) : World :=
  world.write (Uart.kernelLine Uart.base) (writeLogLine level target message)

/-- Records a trap. -/
def recordTrap (world : World) (info : TrapInfo) : World :=
  { world with diagnostics := world.diagnostics.record info }

/-- Makes a frame the active one of a hart. -/
def activateFrame (world : World) (hart : HartId) (frame : Word) : World :=
  { world with frameTable := world.frameTable.activate hart frame }

/-- Makes a frame the active one of a hart, and logs that. -/
def adopt (world : World) (hart : HartId) (frame : Word) : World :=
  (world.activateFrame hart frame).log .trace "switch"
    [hart.text, " -> frame 0x", Numeral.hex frame]

/-- Adopts a frame on the hart with a raw identifier, and says which hart that is. Nothing is done
for a hart beyond the ceiling. -/
def adoptRaw (world : World) (raw frame : Word) : Option HartId × World :=
  match HartId.ofRaw? raw with
  | some hart => (some hart, world.adopt hart frame)
  | none => (none, world)

/-- Makes a hart's kernel frame its active one. -/
def activateKernelFrame [KernelImage] (world : World) (hart : HartId) : World :=
  { world with frameTable := world.frameTable.activateKernel hart }

/-- Marks a hart as online. -/
def markOnline (world : World) (hart : HartId) : World :=
  { world with online := world.online ||| (1 <<< hart.val) }

/-- The deadline one tick from now; the clock wraps around. -/
def nextDeadline (world : World) : Word :=
  world.mtime + Clint.tick

/-- Sets the timer of a hart to the next tick. -/
def setNextTick (world : World) (hart : Word) : Except Fault World :=
  world.tryStore (Clint.setDeadline hart world.nextDeadline)

/-- Writes a control register of the running hart. -/
def writeControl (world : World) (write : ControlWrite) : World :=
  { world with controlWrites := world.controlWrites ++ [write] }

/-- Prints the report of a panic that was raised somewhere in the source. -/
def reportPanic (world : World) (location : Option (String × Nat)) (panic : Panic) : World :=
  world.write Uart.rawLine (world.diagnostics.writeReport location panic.message)

end World

end HartKernel
