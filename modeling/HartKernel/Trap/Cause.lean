import HartKernel.Status.Privilege

/-!
# Trap causes

A cause word tells why a trap was taken: its top bit separates interrupts from exceptions, the other
bits are a code.
-/

namespace HartKernel

/-- A decoded cause. The code has 64 bits here, one more than a cause word can carry. -/
structure Cause where
  interrupt : Bool
  code : Word
  deriving DecidableEq, Repr

namespace Cause

/-- The bit of a cause word that marks an interrupt. -/
abbrev interruptFlag : Word := 1 <<< 63

/-- Interrupt: another hart asks for attention. -/
abbrev machineSoft : Word := 3

/-- Interrupt: the timer has reached its deadline. -/
abbrev machineTimer : Word := 7

/-- Exception: a system call from user mode. -/
abbrev callFromUser : Word := 8

/-- Exception: a system call from supervisor mode. -/
abbrev callFromSupervisor : Word := 9

/-- Exception: a system call from machine mode. -/
abbrev callFromMachine : Word := 11

/-- Decodes a cause word. -/
def ofWord (mcause : Word) : Cause :=
  { interrupt := mcause &&& interruptFlag != 0, code := mcause &&& ~~~interruptFlag }

/-- The cause word of a cause. -/
def word (cause : Cause) : Word :=
  if cause.interrupt then cause.code ||| interruptFlag else cause.code

/-- Whether the cause is a system call. -/
def isCall (cause : Cause) : Bool :=
  !cause.interrupt &&
    (cause.code == callFromUser || cause.code == callFromSupervisor ||
      cause.code == callFromMachine)

/-- The cause word of a system call made in a mode. -/
def callFrom : Privilege → Word
  | .user => callFromUser
  | .supervisor => callFromSupervisor
  | .machine => callFromMachine

/-- The printed name of a cause. -/
def name (cause : Cause) : String :=
  if cause.interrupt then
    match cause.code.toNat with
    | 1 => "SupervisorSoftInt"
    | 3 => "MachineSoftInt"
    | 5 => "SupervisorTimerInt"
    | 7 => "MachineTimerInt"
    | 9 => "SupervisorExternalInt"
    | 11 => "MachineExternalInt"
    | _ => "Interrupt"
  else
    match cause.code.toNat with
    | 0 => "InstructionAddressMisaligned"
    | 1 => "InstructionAccessFault"
    | 2 => "IllegalInstruction"
    | 3 => "Breakpoint"
    | 4 => "LoadAddressMisaligned"
    | 5 => "LoadAccessFault"
    | 6 => "StoreAMOAddressMisaligned"
    | 7 => "StoreAMOAccessFault"
    | 8 => "EnvironmentCallFromUMode"
    | 9 => "EnvironmentCallFromSMode"
    | 11 => "EnvironmentCallFromMMode"
    | 12 => "InstructionPageFault"
    | 13 => "LoadPageFault"
    | 15 => "StoreAMOPageFault"
    | _ => "Exception"

end Cause

/-- The printed name of the cause that a cause word holds. -/
def causeName (mcause : Word) : String :=
  (Cause.ofWord mcause).name

end HartKernel
