import HartKernel.HartId
import HartKernel.KernelImage

/-!
# Boot stacks and trap stacks

Boot stacks are carved downward from the top of one region, one of fixed size for each hart. Trap
stacks are a separate array that is indexed upward, so that a trap never runs on the stack it
interrupted. Both computations are checked: where the address space ends, they fault.
-/

namespace HartKernel

/-- A range of addresses, without its stop. -/
structure AddressRange where
  start : Word
  stop : Word
  deriving DecidableEq, Repr

namespace Stack

/-- The size of a hart's boot stack. -/
abbrev bootSize : Word := 0x10000

/-- The size of a hart's trap stack. -/
abbrev trapSize : Word := 0x4000

/-- The required alignment of a stack top. -/
abbrev alignment : Word := 16

/-- The boot stack of a hart below the top of the region. -/
def bootRange (top : Word) (hart : HartId) : Except Fault AddressRange := do
  let stop ← checkedSub top (hart.word * bootSize)
  let start ← checkedSub stop bootSize
  return { start, stop }

/-- The top of a trap stack, as the trap vector computes it for any raw hart identifier: the
successor of the identifier, times the size of a stack, above the first stack. -/
def trapTop [KernelImage] (raw : Word) : Except Fault Word := do
  let count ← checkedAdd raw 1
  let offset ← checkedMul count trapSize
  checkedAdd KernelImage.trapStacks offset

/-- The trap stack of a hart. -/
def trapRange [KernelImage] (hart : HartId) : Except Fault AddressRange := do
  let stop ← trapTop hart.word
  let start ← checkedSub stop trapSize
  return { start, stop }

end Stack

end HartKernel
