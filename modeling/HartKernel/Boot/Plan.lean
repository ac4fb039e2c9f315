import HartKernel.Frame.Table
import HartKernel.Stack.Region
import HartKernel.Status.Mstatus

/-!
# Boot plans

What the reset path programs on one hart before it lowers the privilege. The addresses come from the
linker. A hart beyond the ceiling has no plan and parks. Hart 0 clears memory and drops to
supervisor mode; every other hart stays in machine mode and listens for software interrupts.
-/

namespace HartKernel.Boot

/-- The addresses that the reset path uses. -/
structure Symbols where
  globalPointer : Word
  /-- The first address of the memory that hart 0 clears. -/
  bssStart : Word
  /-- The address after the memory that hart 0 clears. -/
  bssStop : Word
  /-- The top of the region that the boot stacks are carved from. -/
  stackTop : Word
  /-- The address of the kernel frame of hart 0. -/
  frames : Word
  /-- Where hart 0 continues. -/
  bootEntry : Word
  /-- Where every other hart continues. -/
  hartEntry : Word
  /-- The trap vector that the harts are pointed at. -/
  trapVector : Word
  /-- Where a hart waits that has nothing to run. -/
  park : Word
  deriving DecidableEq, Repr

/-- What the reset path programs on one hart. -/
structure Plan where
  hart : HartId
  clearsBss : Bool
  stackTop : Word
  mstatus : Mstatus
  mie : Mie
  entry : Word
  /-- The return address at the drop: an entry that returns lands here. -/
  returnTo : Word
  trapVector : Word
  kernelFrame : Word
  deriving DecidableEq, Repr

/-- What is programmed on hart 0, given its stack top and kernel frame. -/
def Symbols.bootPlan (symbols : Symbols) (stackTop kernelFrame : Word) : Plan :=
  { hart := HartId.boot
    clearsBss := decide (symbols.bssStart.toNat < symbols.bssStop.toNat)
    stackTop
    mstatus := Mstatus.boot
    mie := 0
    entry := symbols.bootEntry
    returnTo := symbols.park
    trapVector := symbols.trapVector
    kernelFrame }

/-- What is programmed on any other hart, given its stack top and kernel frame. -/
def Symbols.secondaryPlan (symbols : Symbols) (hart : HartId) (stackTop kernelFrame : Word) :
    Plan :=
  { hart
    clearsBss := false
    stackTop
    mstatus := Mstatus.secondary
    mie := Mie.secondary
    entry := symbols.hartEntry
    returnTo := symbols.park
    trapVector := symbols.trapVector
    kernelFrame }

/-- The plan of the hart with a raw identifier; none if the hart parks. The address of the kernel
frame is computed first, then both ends of the stack. -/
def Symbols.plan? (symbols : Symbols) (raw : Word) : Except Fault (Option Plan) :=
  match HartId.ofRaw? raw with
  | none => .ok none
  | some hart => do
    let kernelFrame ← checkedAdd symbols.frames (hart.word * frameStride)
    let stack ← Stack.bootRange symbols.stackTop hart
    if hart.isBoot then return some (symbols.bootPlan stack.stop kernelFrame)
    else return some (symbols.secondaryPlan hart stack.stop kernelFrame)

end HartKernel.Boot
