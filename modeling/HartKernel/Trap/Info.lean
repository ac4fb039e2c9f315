import HartKernel.Trap.Cause

/-!
# What is known about a trap

The five words that the trap vector reads from the hart and hands to the trap handler.
-/

namespace HartKernel

/-- What the trap handler is told about a trap. -/
structure TrapInfo where
  /-- The address of the interrupted instruction. -/
  epc : Word
  /-- The address or instruction that the trap is about. -/
  tval : Word
  /-- The cause word. -/
  cause : Word
  /-- The raw identifier of the hart. -/
  hart : Word
  /-- The status word that the hart entered the trap with. -/
  status : Word
  deriving DecidableEq, Repr

/-- The printed name of the cause of a trap. -/
def TrapInfo.causeName (info : TrapInfo) : String :=
  HartKernel.causeName info.cause

end HartKernel
