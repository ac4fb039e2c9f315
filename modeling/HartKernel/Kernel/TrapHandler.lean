import HartKernel.Kernel.World

/-!
# The kernel's trap handler

Every trap is recorded and traced. Software interrupts are acknowledged, timer interrupts set the
next deadline, system calls get their result, and every other trap is a panic that dumps what it
can.

This is the handler of a debug build with the features `boot_banner`, `trap_trace` and `timer_irq`.
Without `trap_trace` no trap is traced, and without `timer_irq` a timer interrupt moves the deadline
to the end of time; these builds are not modelled.
-/

namespace HartKernel.Kernel

open Numeral

/-- The system call that does nothing and gives zero. -/
abbrev yieldCall : Word := 1

/-- The system call that gives the identifier of the hart. -/
abbrev hartIdCall : Word := 2

/-- The result of a system call that does not exist: minus 38. -/
abbrev noSuchCall : Word := -38

/-- The result of a system call on a hart. -/
def callResult (number hart : Word) : Word :=
  if number = yieldCall then 0
  else if number = hartIdCall then hart
  else noSuchCall

/-- The line that traces a trap. -/
def traceLine (info : TrapInfo) : Pieces :=
  ["[TRACE trap] hart", decimal info.hart, " ", info.causeName, " epc=0x", hex info.epc, "\n"]

/-- The line that names the cause of a trap that nothing handles. -/
def unhandledLine (info : TrapInfo) : Pieces :=
  ["TRAP: unhandled ", info.causeName, " (mcause=0x", hex info.cause, ")\n"]

/-- Prints the cause of a trap, and its dump if there is a frame. -/
def printUnhandled (info : TrapInfo) (frame : Option Frame) (world : World) : World :=
  let named := world.print (unhandledLine info)
  match frame with
  | some frame => named.write Uart.rawLine (info.writeDump frame)
  | none => named

/-- Prints what is known about a trap and panics. -/
def unhandled (info : TrapInfo) (frame : Option Frame) (world : World) :
    Reply (Option Frame) World :=
  { resume := .error (.unhandledTrap info.cause info.hart)
    frame
    world := printUnhandled info frame world }

/-- Resumes at the interrupted instruction after a device has been served. -/
def served (info : TrapInfo) (frame : Option Frame) (world : World) (after : Except Fault World) :
    Reply (Option Frame) World :=
  match after with
  | .ok next => { resume := .ok info.epc, frame, world := next }
  | .error reason => { resume := .error (.fault reason), frame, world }

/-- Answers the system call of a frame and resumes after the call instruction. The answer is in the
frame even if the address to resume at cannot be computed. -/
def answerCall (info : TrapInfo) (frame : Frame) (world : World) : Reply (Option Frame) World :=
  { resume := (checkedAdd info.epc 4).mapError .fault
    frame := some (frame.setResult (callResult frame.callNumber info.hart))
    world }

/-- Handles an interrupt. -/
def handleInterrupt (code : Word) (info : TrapInfo) (frame : Option Frame) (world : World) :
    Reply (Option Frame) World :=
  if code = Cause.machineSoft then
    served info frame world (world.tryStore (Clint.acknowledge info.hart))
  else if code = Cause.machineTimer then served info frame world (world.setNextTick info.hart)
  else unhandled info frame world

/-- Handles a trap. The frame is missing if the handler was not called by the trap vector. -/
def handleTrap (info : TrapInfo) (frame : Option Frame) (world : World) :
    Reply (Option Frame) World :=
  let traced := (world.recordTrap info).print (traceLine info)
  let cause := Cause.ofWord info.cause
  if cause.interrupt then handleInterrupt cause.code info frame traced
  else
    match cause.isCall, frame with
    | true, some saved => answerCall info saved traced
    | _, _ => unhandled info frame traced

/-- The handler that the trap vector calls. -/
def trapHandler : Handler World := fun info frame world =>
  let reply := handleTrap info (some frame) world
  { resume := reply.resume, frame := reply.frame.getD frame, world := reply.world }

end HartKernel.Kernel
