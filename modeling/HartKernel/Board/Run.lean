import HartKernel.Board.Task
import HartKernel.Hart.Boot
import HartKernel.Picture
import HartKernel.Script

/-!
# A board that runs the kernel

Some harts that run the kernel on shared devices, driven by a list of commands. A command boots a
hart or has it run a task; it is answered with how that ended, and reported with the stores and
control-register writes it made and with what it changed. A hart whose code panicked is halted: it
is not reported on any more and does nothing.
-/

namespace HartKernel

/-- Harts that run the kernel. -/
structure Board (n : Nat) where
  symbols : LinkerSymbols
  harts : Vector Hart n
  halted : Vector Bool n
  frames : FrameMemory
  /-- How many of the frames are reported on. -/
  frameCount : Nat
  world : World

namespace Board

open Kernel

/-- A command to the board. -/
inductive Command (n : Nat) where
  | setHart (hart : Fin n) (writes : Hart.Patch)
  | setFrame (frame : FramePosition) (writes : Frame.Patch)
  /-- Puts a context into a frame that starts at an address. -/
  | startFrame (frame : FramePosition) (pc sp satp : Word) (mode : Privilege)
  | setClock (mtime : Word)
  /-- Holds exactly the given locks of the diagnostics. -/
  | hold (last history : Bool)
  | release
  | boot (hart : Fin n) (bss : Array Word)
  | runTask (hart : Fin n) (task : Task)
  /-- Calls the trap handler directly, on no hart and possibly without a frame. -/
  | callHandler (info : TrapInfo) (frame : Option FramePosition)
  | recentTraps
  | activeFrames
  | symbols
  | layout
  deriving Repr

/-- The answer to a command. -/
inductive Answer where
  | done
  /-- The hart is halted. -/
  | halted
  | ended (ending : Ending Value)
  /-- How the boot went and, unless the hart parked, how the code ended that it dropped into. -/
  | booted (landing : Boot.Landing) (bss : Array Word) (ending : Option (Ending Value))
  | recentTraps (traps : List TrapInfo)
  | activeFrames (names : List (Option String))
  | symbols (symbols : LinkerSymbols)
  | layout (layout : Except Stack.Refusal Stack.Layout)

/-- The answer to a command and all that it did. -/
structure Report where
  answer : Answer
  /-- All stores to devices, those to the serial line included. -/
  stores : List Store
  controlWrites : List ControlWrite
  changes : List NamedCell

namespace Report

/-- The text that a command sent through the serial line. -/
def serialText (report : Report) : String :=
  Uart.sentText report.stores

/-- The stores that a command made to anything but the serial line. -/
def deviceStores (report : Report) : List Store :=
  report.stores.filter fun store => (Uart.sent store).isNone

end Report

/-- The hart that a command names. -/
def Command.hart? {n : Nat} : Command n → Option (Fin n)
  | setHart i _ => some i
  | boot i _ => some i
  | runTask i _ => some i
  | _ => none

variable {n : Nat}

/-- A board with harts `0` to `n - 1` out of reset on some memory, and all else empty. -/
def fresh (n : Nat) (frames : FrameMemory) (frameCount : Nat) (symbols : LinkerSymbols) : Board n :=
  { symbols
    harts := Vector.ofFn fun i => Hart.reset (BitVec.ofNat 64 i.val)
    halted := Vector.replicate n false
    frames
    frameCount
    world := .fresh }

/-- Replaces a hart. -/
def withHart (board : Board n) (i : Fin n) (hart : Hart) : Board n :=
  { board with harts := replaceAt board.harts i hart }

/-- The address of the frame of a context. -/
def address (board : Board n) (position : FramePosition) : Word :=
  board.frames.address position

/-- Replaces the frame of a context. -/
def withFrame (board : Board n) (position : FramePosition) (frame : Frame) : Board n :=
  { board with frames := board.frames.set (board.address position) frame }

/-- The frame of a context. -/
def frame (board : Board n) (position : FramePosition) : Frame :=
  board.frames.get (board.address position)

/-- Changes the diagnostics. -/
def onDiagnostics (board : Board n) (change : Diagnostics → Diagnostics) : Board n :=
  { board with world.diagnostics := change board.world.diagnostics }

variable [KernelImage]

/-- The code that a booted hart drops into: that of hart 0 if the hart is at its entry, and
otherwise that of the hart which the first argument register names. -/
def startCode (board : Board n) (hart : Hart) : Code Value := do
  if hart.pc = board.symbols.bootEntry then startBootHart board.symbols
  else startHart (hart.read Register.a0)
  return .none

/-- Runs code on a hart to its end. A panic halts the hart. -/
def runOn (board : Board n) (i : Fin n) (code : Code Value) : Ending Value × Board n :=
  let (ending, after) :=
    code.finish { hart := board.harts[i], frames := board.frames, world := board.world }
  (ending,
    { board with
      harts := replaceAt board.harts i after.hart
      halted := replaceAt board.halted i (board.halted[i] || decide (ending = .panicked))
      frames := after.frames
      world := after.world })

/-- Boots a hart and, unless it parks, runs the code that it drops into. -/
def bootHart (board : Board n) (i : Fin n) (bss : Array Word) :
    Except Fault (Answer × Board n) := do
  let result ← board.harts[i].boot board.symbols.toSymbols bss
  let booted := board.withHart i result.hart
  match result.landing with
  | .parked => return (.booted .parked result.bss none, booted)
  | landing =>
    let (ending, after) := booted.runOn i (board.startCode result.hart)
    return (.booted landing result.bss (some ending), after)

/-- Calls the trap handler directly. A panic prints its report and halts nothing. -/
def callHandler (board : Board n) (info : TrapInfo) (position : Option FramePosition) :
    Ending Value × Board n :=
  let reply := handleTrap info (position.map board.frame) board.world
  let after :=
    match position, reply.frame with
    | some position, some frame => board.withFrame position frame
    | _, _ => board
  match reply.resume with
  | .ok resume => (.returned (.word resume), { after with world := reply.world })
  | .error panic =>
    let world := reply.world.reportPanic (KernelImage.panicLocation panic) panic
    (.panicked, { after with world })

/-- Carries out a command that names no halted hart. Only a boot can fail outside of kernel code. -/
def execute (board : Board n) : Command n → Except Fault (Answer × Board n)
  | .setHart i writes => .ok (.done, board.withHart i (board.harts[i].patch writes))
  | .setFrame position writes =>
    .ok (.done, board.withFrame position ((board.frame position).patch writes))
  | .startFrame position pc sp satp mode =>
    .ok (.done, board.withFrame position (Frame.start pc sp satp mode))
  | .setClock mtime => .ok (.done, { board with world.mtime := mtime })
  | .hold last history => .ok (.done, board.onDiagnostics (·.hold last history))
  | .release => .ok (.done, board.onDiagnostics (·.release))
  | .boot i bss => board.bootHart i bss
  | .runTask i task =>
    let (ending, after) := board.runOn i (task.code board.symbols)
    .ok (.ended ending, after)
  | .callHandler info position =>
    let (ending, after) := board.callHandler info position
    .ok (.ended ending, after)
  | .recentTraps => .ok (.recentTraps (board.world.diagnostics.recent.toList.filterMap id), board)
  | .activeFrames => .ok (.activeFrames (board.frames.activeNames board.world.frameTable), board)
  | .symbols => .ok (.symbols board.symbols, board)
  | .layout => .ok (.layout board.symbols.layout?, board)

/-- Whether a hart is halted. -/
def isHalted (board : Board n) (i : Fin n) : Bool :=
  board.halted[i]

/-- Carries out a command, or answers that its hart is halted. -/
def attempt (board : Board n) (command : Command n) : Except Fault (Answer × Board n) :=
  match command.hart? with
  | some i => if board.isHalted i then .ok (.halted, board) else board.execute command
  | none => board.execute command

/-- The board with no store and no control-register write on record. -/
def clearRecord (board : Board n) : Board n :=
  { board with world.stores := [], world.controlWrites := [] }

/-- Carries out a command and reports what it did. -/
def step (board : Board n) (command : Command n) : Except Fault (Report × Board n) := do
  let before := board.clearRecord
  let (answer, after) ← before.attempt command
  let changes :=
    hartChanges before.harts after.harts (fun i => !after.isHalted i) ++
      before.frames.changes after.frames before.frameCount
  let stores := after.world.stores
  return ({ answer, stores, controlWrites := after.world.controlWrites, changes }, after)

/-- Runs a list of commands. -/
def run (board : Board n) (commands : List (Command n)) : List (Except Fault Report) :=
  runScript step board commands

end Board

end HartKernel
