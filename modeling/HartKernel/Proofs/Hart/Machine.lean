import HartKernel.Hart.Call
import HartKernel.Proofs.Hart.UserState
import Mathlib.Logic.Function.Basic

/-!
# One hart and many frames

A hart takes traps into one frame at a time, but over its life it is given many. A `Machine` is a
hart with all the frames it may be given, each known by a name, and with the world that its handlers
share; the address of every frame is fixed. The operations on it are those of the hart: a trap and a
system call into a frame, a switch to the context of a frame, the activation of a frame, and
whatever the context on the hart does to its registers in between.
-/

namespace HartKernel

/-- One hart, the frames that it may be given, and the world that its handlers act on. -/
structure Machine (ι σ : Type) where
  hart : Hart
  frames : ι → Frame
  world : σ

namespace Machine

variable {ι σ : Type}

/-- The machine after the context on the hart has replaced what it sees. -/
def runUser (machine : Machine ι σ) (next : UserState) : Machine ι σ :=
  { machine with hart := machine.hart.withUserState next }

/-- The machine after the hart has left for the context in a frame. -/
def switchTo (address : ι → Word) (machine : Machine ι σ) (frame : ι) : Machine ι σ :=
  { machine with hart := machine.hart.resumeContext (address frame) (machine.frames frame) }

/-- The machine after a frame has been made the active one. -/
def activate (address : ι → Word) (machine : Machine ι σ) (frame : ι) : Machine ι σ :=
  { machine with hart := machine.hart.activate (address frame) }

variable [KernelImage]

/-- A trap into a frame. -/
def trapInto (address : ι → Word) (machine : Machine ι σ) (frame : ι) (cause tval : Word)
    (handler : Handler σ) : Outcome σ TrapInfo :=
  machine.hart.takeTrap cause tval (address frame) (machine.frames frame) handler machine.world

/-- A system call into a frame. -/
def callInto (address : ι → Word) (machine : Machine ι σ) (frame : ι) (number : Word)
    (args : Vector Word 6) (handler : Handler σ) : Outcome σ Word :=
  machine.hart.systemCall number args (address frame) (machine.frames frame) handler machine.world

variable [DecidableEq ι]

/-- The machine with what a routine left of its hart, of one frame and of the world. -/
def keep {α : Type} (machine : Machine ι σ) (frame : ι) (outcome : Outcome σ α) : Machine ι σ :=
  { hart := outcome.hart
    frames := Function.update machine.frames frame outcome.frame
    world := outcome.world }

end Machine

end HartKernel
