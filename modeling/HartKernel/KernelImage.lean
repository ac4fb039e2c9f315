import HartKernel.Trap.Handler

/-!
# The image of the kernel

What a build fixes and no code can know beforehand: the linker places the frames and the trap stacks
of the harts, and the compiler notes where in the source each panic stands. The kernel runs the same
for every image.
-/

namespace HartKernel

/-- What a build of the kernel fixes. The linker places nothing past the end of the address space,
which has `2 ^ 64` bytes. -/
class KernelImage where
  /-- The address of the kernel frame of hart 0; those of the other harts follow it. -/
  frames : Word
  /-- The address of the trap stack of hart 0; those of the other harts follow it. -/
  trapStacks : Word
  /-- The file and line that a panic is reported at, if the compiler has noted them. -/
  panicLocation : Panic → Option (String × Nat)
  frames_fit : frames.toNat + 4 * 560 ≤ 0x10000000000000000
  /-- The top of a stack is an address too. -/
  trapStacks_fit : trapStacks.toNat + 4 * 0x4000 < 0x10000000000000000

/-- An image for examples. Its frames and trap stacks lie in the machine's memory, and the place of
a panic is known for traps that nothing handles. -/
scoped instance KernelImage.sample : KernelImage where
  frames := 0x80008000
  trapStacks := 0x80010000
  panicLocation
    | .unhandledTrap _ _ => some ("mina-boot/src/main.rs", 179)
    | .fault _ => none
  frames_fit := by decide
  trapStacks_fit := by decide

end HartKernel
