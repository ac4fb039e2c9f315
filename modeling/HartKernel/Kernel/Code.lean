import HartKernel.Frame.Memory
import HartKernel.Hart.Call
import HartKernel.Hart.Resume
import HartKernel.Kernel.TrapHandler

/-!
# Code that runs on a hart

Kernel code acts on its hart, on the frames in memory and on the shared world. It may return a
value; it may also end for good, because the hart parks, leaves for a context, is refused by the
trap vector, or panics. A panic ends with its report on the serial line.
-/

namespace HartKernel.Kernel

/-- What code acts on. -/
structure Context where
  hart : Hart
  frames : FrameMemory
  world : World

/-- Why code does not go on. -/
inductive Exit where
  /-- The hart waits for good. -/
  | parked
  /-- The hart has left for another context. -/
  | switched
  /-- The trap vector did not run. -/
  | refused (error : TrapError)
  | panicked (panic : Panic)
  deriving DecidableEq, Repr

/-- Code that runs on a hart and gives a value, or exits; its effects hold either way. -/
abbrev Code (α : Type) := EStateM Exit Context α

/-- How code ended. -/
inductive Ending (α : Type) where
  | returned (value : α)
  | parked
  | switched
  | refused (error : TrapError)
  /-- The code panicked, and the report is printed. -/
  | panicked
  deriving DecidableEq, Repr

/-- The ending that an exit leads to. -/
def Exit.ending {α : Type} : Exit → Ending α
  | parked => .parked
  | switched => .switched
  | refused error => .refused error
  | panicked _ => .panicked

section KernelImage

variable [KernelImage]

/-- The world after an exit: a panic prints its report. -/
def Exit.close (exit : Exit) (world : World) : World :=
  match exit with
  | panicked panic => world.reportPanic (KernelImage.panicLocation panic) panic
  | _ => world

/-- Runs code to its end. -/
def Code.run {α : Type} (code : Code α) (context : Context) : Ending α × Context :=
  match EStateM.run code context with
  | .ok value after => (.returned value, after)
  | .error exit after => (exit.ending, { after with world := exit.close after.world })

/-- Runs code to its end. The writes to control registers that it made take effect on its hart then.
-/
def Code.finish {α : Type} (code : Code α) (context : Context) : Ending α × Context :=
  let (ending, after) := code.run context
  let made := after.world.controlWrites.drop context.world.controlWrites.length
  (ending, { after with hart.csr := made.foldl ControlWrite.apply after.hart.csr })

end KernelImage

/-! ### Steps of code -/

/-- Changes the shared world. -/
def onWorld (change : World → World) : Code Unit :=
  modify fun context => { context with world := change context.world }

/-- Panics if a computation faulted. -/
def orPanic {α : Type} (value : Except Fault α) : Code α :=
  match value with
  | .ok value => pure value
  | .error reason => throw (.panicked (.fault reason))

/-- Changes the shared world by a computation that may fault; then nothing is changed. -/
def tryOnWorld (change : World → Except Fault World) : Code Unit := do
  let context ← get
  let next ← orPanic (change context.world)
  set { context with world := next }

/-- Parks the hart. -/
def park {α : Type} : Code α :=
  throw .parked

/-- Prints a log line. -/
def log (level : LogLevel) (target : String) (message : Pieces) : Code Unit :=
  onWorld (·.log level target message)

/-- Keeps what a routine of the hart left of hart, of the frame at an address and of the world, and
goes on unless it panicked. -/
def keepOutcome {α : Type} (address : Word) (outcome : Outcome World α) :
    Code (Except TrapError α) := do
  modify fun context =>
    { hart := outcome.hart
      frames := context.frames.set address outcome.frame
      world := outcome.world }
  match outcome.result with
  | .ok value => return .ok value
  | .error (.refused error) => return .error error
  | .error (.panicked panic) => throw (.panicked panic)

section KernelImage

variable [KernelImage]

/-- Raises a trap while the frame at an address is at hand, for some handler to take. -/
def raiseTrapFor (handler : Handler World) (address cause tval : Word) :
    Code (Except TrapError TrapInfo) := do
  let context ← get
  keepOutcome address
    (context.hart.takeTrap cause tval address (context.frames.get address) handler context.world)

/-- Raises a trap that the kernel handles. -/
def raiseTrap (address cause tval : Word) : Code (Except TrapError TrapInfo) :=
  raiseTrapFor trapHandler address cause tval

/-- Makes a system call. The frame at hand is the one that `mscratch` is taken to mean. -/
def systemCall (number : Word) (args : Vector Word 6) : Code Word := do
  let context ← get
  let address := context.frames.designated context.hart.csr.mscratch
  let result ← keepOutcome address
    (context.hart.systemCall number args address (context.frames.get address) trapHandler
      context.world)
  match result with
  | .ok value => return value
  | .error error => throw (.refused error)

end KernelImage

/-- The hart that runs the code, unless it is beyond the ceiling. -/
def currentHart : Code (Option HartId) := do
  return HartId.ofRaw? (← get).hart.csr.mhartid

/-- Adopts the frame at an address on the running hart and leaves for the context in it. A hart
beyond the ceiling parks. -/
def resumeContext {α : Type} (address : Word) : Code α := do
  let context ← get
  match context.world.adoptRaw context.hart.csr.mhartid address with
  | (none, _) => park
  | (some _, world) =>
    set
      { context with
        hart := context.hart.resumeContext address (context.frames.get address)
        world }
    throw .switched

/-- Points the running hart at a trap vector. -/
def pointAtVector (address : Word) : Code Unit := do
  onWorld (·.writeControl (.replace .mtvec address))
  log .debug "trap" ["mtvec=0x", Numeral.hex address]

/-- Enables timer interrupts on the running hart. -/
def enableTimer : Code Unit :=
  onWorld (·.writeControl (.setBits .mie Mie.mtie))

/-- Sends a text through the serial line at an address. All lines are idle; for one that is not the
hart would wait for good. -/
def sendText (address : Word) (text : String) : Code Unit :=
  match (Uart.kernelLine address).send text with
  | .ok stores => onWorld (·.store stores)
  | .error (.fault reason) => throw (.panicked (.fault reason))
  | .error .busy => park

end HartKernel.Kernel
