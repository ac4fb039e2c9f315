import HartKernel.Bench.Handler
import HartKernel.Hart.Boot
import HartKernel.Hart.Call
import HartKernel.Hart.Resume
import HartKernel.Picture
import HartKernel.Script

/-!
# A bench of harts

Some harts and the frames of eight contexts, with a frame table and diagnostics, driven by a list of
commands. Each command is answered, and what it changed on harts and frames is reported. A panic
ends the run.
-/

namespace HartKernel

/-- Harts and frames under test. -/
structure Bench (n : Nat) where
  harts : Vector Hart n
  frames : FrameMemory
  /-- How many of the frames are reported on. -/
  frameCount : Nat
  frameTable : FrameTable
  diagnostics : Diagnostics

namespace Bench

/-- A command to the bench. -/
inductive Command (n : Nat) where
  | setHart (hart : Fin n) (writes : Hart.Patch)
  | setFrame (frame : FramePosition) (writes : Frame.Patch)
  /-- Puts a context into a frame that starts at an address. -/
  | startFrame (frame : FramePosition) (pc sp satp : Word) (mode : Privilege)
  /-- Makes a frame the active one of a hart. -/
  | activate (hart : Fin n) (frame : FramePosition)
  | takeTrap (hart : Fin n) (frame : FramePosition) (cause tval : Word)
    (script : HandlerScript)
  /-- Runs the trap vector without an entry into the trap. -/
  | serveTrap (hart : Fin n) (frame : FramePosition) (script : HandlerScript)
  | resumeContext (hart : Fin n) (frame : FramePosition)
  | systemCall (hart : Fin n) (frame : FramePosition) (number : Word) (args : Vector Word 6)
    (script : HandlerScript)
  | boot (hart : Fin n) (symbols : Boot.Symbols) (bss : Array Word)
  | readRegister (hart : Fin n) (index : Nat)
  | query (hart : Fin n)
  /-- Enters a frame in the table for the hart with a raw identifier. -/
  | enterFrame (raw : Word) (frame : FramePosition)
  /-- Enters the kernel frame in the table for the hart with a raw identifier. -/
  | enterKernelFrame (raw : Word)
  | activeFrames
  | lastTrap
  deriving Repr

/-- What a query tells about a hart. -/
structure HartFacts where
  lastStatusWrite : Option Mstatus
  /-- The stack of the latest handler call, as the distance from the trap stacks. -/
  handlerStack : Option Word
  mpp : Option Privilege
  floatStatus : FloatStatus
  floatDirty : Bool
  /-- The interrupt sources that are enabled. -/
  sources : Mie
  deriving DecidableEq, Repr

/-- The answer to a command. -/
inductive Answer where
  | done
  | trapped (info : TrapInfo) (sighting : Option Sighting)
  | returned (value : Word) (sighting : Option Sighting)
  | refused (error : TrapError)
  | booted (landing : Boot.Landing) (bss : Array Word)
  | word (value : Word)
  | facts (facts : HartFacts)
  | hart (id : Option HartId)
  /-- Whether a raw identifier names a hart that the kernel runs. -/
  | valid (flag : Bool)
  | activeFrames (names : List (Option String))
  | lastTrap (info : Option TrapInfo)

/-- The answer to a command and the cells that it changed. -/
structure Report where
  answer : Answer
  changes : List NamedCell

variable {n : Nat}

/-- Some harts out of reset with the given identifiers and the frames of contexts from an address
on, and all else empty. -/
def fresh (ids : Vector Word n) (framesBase : Word) (frameCount : Nat) : Bench n :=
  { harts := ids.map Hart.reset
    frames := .zeroed framesBase
    frameCount
    frameTable := .empty
    diagnostics := .empty }

/-- Replaces a hart. -/
def withHart (bench : Bench n) (i : Fin n) (hart : Hart) : Bench n :=
  { bench with harts := replaceAt bench.harts i hart }

/-- The address of the frame of a context. -/
def address (bench : Bench n) (position : FramePosition) : Word :=
  bench.frames.address position

/-- The frame of a context. -/
def frame (bench : Bench n) (position : FramePosition) : Frame :=
  bench.frames.get (bench.address position)

/-- Replaces the frame of a context. -/
def withFrame (bench : Bench n) (position : FramePosition) (frame : Frame) : Bench n :=
  { bench with frames := bench.frames.set (bench.address position) frame }

variable [KernelImage]

/-- What can be told about a hart. -/
def factsOf (hart : Hart) : HartFacts :=
  { lastStatusWrite := hart.lastStatusWrite
    handlerStack := hart.handlerStack.map (· - KernelImage.trapStacks)
    mpp := hart.csr.mstatus.mpp?
    floatStatus := hart.csr.mstatus.floatStatus
    floatDirty := hart.csr.mstatus.floatDirty
    sources := hart.csr.mie }

/-- The world that a handler of the bench starts from. -/
def notebook (bench : Bench n) : Notebook :=
  { diagnostics := bench.diagnostics, sighting := none }

/-- Keeps what a routine left of its hart, its frame and the diagnostics, and answers with its
result. -/
def conclude {α : Type} (bench : Bench n) (i : Fin n) (position : FramePosition)
    (outcome : Outcome Notebook α) (answer : α → Option Sighting → Answer) :
    Except Panic (Answer × Bench n) :=
  let after :=
    { (bench.withHart i outcome.hart).withFrame position outcome.frame with
      diagnostics := outcome.world.diagnostics }
  match outcome.result with
  | .ok value => .ok (answer value outcome.world.sighting, after)
  | .error (.refused error) => .ok (.refused error, after)
  | .error (.panicked panic) => .error panic

/-- Carries out a command. -/
def execute (bench : Bench n) : Command n → Except Panic (Answer × Bench n)
  | .setHart i writes => .ok (.done, bench.withHart i (bench.harts[i].patch writes))
  | .setFrame position writes =>
    .ok (.done, bench.withFrame position ((bench.frame position).patch writes))
  | .startFrame position pc sp satp mode =>
    .ok (.done, bench.withFrame position (Frame.start pc sp satp mode))
  | .activate i position =>
    .ok (.done, bench.withHart i (bench.harts[i].activate (bench.address position)))
  | .takeTrap i position cause tval script =>
    bench.conclude i position
      (bench.harts[i].takeTrap cause tval (bench.address position) (bench.frame position)
        script.handler bench.notebook)
      .trapped
  | .serveTrap i position script =>
    bench.conclude i position
      (bench.harts[i].serveTrap (bench.address position) (bench.frame position) script.handler
        bench.notebook)
      .trapped
  | .resumeContext i position =>
    .ok (.done,
      bench.withHart i
        (bench.harts[i].resumeContext (bench.address position) (bench.frame position)))
  | .systemCall i position number args script =>
    bench.conclude i position
      (bench.harts[i].systemCall number args (bench.address position) (bench.frame position)
        script.handler bench.notebook)
      .returned
  | .boot i symbols bss =>
    match bench.harts[i].boot symbols bss with
    | .ok result => .ok (.booted result.landing result.bss, bench.withHart i result.hart)
    | .error reason => .error (.fault reason)
  | .readRegister i index =>
    match bench.harts[i].readIndex index with
    | .ok value => .ok (.word value, bench)
    | .error reason => .error (.fault reason)
  | .query i => .ok (.facts (factsOf bench.harts[i]), bench)
  | .enterFrame raw position =>
    let entered := bench.frameTable.activateRaw raw (bench.address position)
    .ok (.hart entered.1, { bench with frameTable := entered.2 })
  | .enterKernelFrame raw =>
    match HartId.ofRaw? raw with
    | some hart =>
      .ok (.valid true, { bench with frameTable := bench.frameTable.activateKernel hart })
    | none => .ok (.valid false, bench)
  | .activeFrames => .ok (.activeFrames (bench.frames.activeNames bench.frameTable), bench)
  | .lastTrap => .ok (.lastTrap bench.diagnostics.last, bench)

/-- Carries out a command and reports what it changed. -/
def step (bench : Bench n) (command : Command n) : Except Panic (Report × Bench n) :=
  match bench.execute command with
  | .ok (answer, after) =>
    let changes :=
      hartChanges bench.harts after.harts (fun _ => true) ++
        bench.frames.changes after.frames bench.frameCount
    .ok ({ answer, changes }, after)
  | .error panic => .error panic

/-- Runs a list of commands. -/
def run (bench : Bench n) (commands : List (Command n)) : List (Except Panic Report) :=
  runScript step bench commands

end Bench

end HartKernel
