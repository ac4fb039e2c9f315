import HartKernel.Device.Store

/-!
# The interrupt controller of the harts

Each hart has a software-interrupt word and a timer deadline, at fixed distances from one base
address. The address of a register is computed with checks for any raw hart identifier: first the
distance, then the sum.
-/

namespace HartKernel.Clint

/-- The address of the controller. -/
abbrev base : Word := 0x02000000

/-- The distance of the first timer deadline from the base. -/
abbrev deadlineOffset : Word := 0x4000

/-- How often the timer counts in a second. -/
abbrev ticksPerSecond : Word := 10000000

/-- The time between two timer interrupts of the kernel, a hundredth of a second. -/
def tick : Word :=
  ticksPerSecond / 100

/-- The address of a hart's software-interrupt word. -/
def softwareInterruptAddress (hart : Word) : Except Fault Word := do
  let offset ← checkedMul hart 4
  checkedAdd base offset

/-- The address of a hart's timer deadline. -/
def deadlineAddress (hart : Word) : Except Fault Word := do
  let offset ← checkedMul hart 8
  checkedAdd (base + deadlineOffset) offset

/-- The store that raises a software interrupt on a hart. -/
def raise (hart : Word) : Except Fault Store := do
  return { width := .word, address := ← softwareInterruptAddress hart, value := 1 }

/-- The store that acknowledges a software interrupt on a hart. -/
def acknowledge (hart : Word) : Except Fault Store := do
  return { width := .word, address := ← softwareInterruptAddress hart, value := 0 }

/-- The store that sets the timer deadline of a hart. -/
def setDeadline (hart deadline : Word) : Except Fault Store := do
  return { width := .double, address := ← deadlineAddress hart, value := deadline }

end HartKernel.Clint
