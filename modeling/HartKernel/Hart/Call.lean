import HartKernel.Hart.Trap

/-!
# System calls

Callers pass the number of a system call first and its six arguments after it, as to any function.
The call moves the number to `a7` and every argument down by one register, traps, and returns to its
caller.
-/

namespace HartKernel.Hart

/-- Places a number and six arguments in the argument registers, in this order. -/
def placeArguments (hart : Hart) (number : Word) (args : Vector Word 6) : Hart :=
  ((((((hart.write Register.a0 number).write Register.a1 args[0]).write Register.a2 args[1]).write
    Register.a3 args[2]).write Register.a4 args[3]).write Register.a5 args[4]).write
      Register.a6 args[5]

/-- Copies one register to another. -/
def copy (hart : Hart) (target source : Register) : Hart :=
  hart.write target (hart.read source)

/-- Moves the number out of the way and every argument down by one register. -/
def shiftArguments (hart : Hart) : Hart :=
  ((((((hart.copy Register.a7 Register.a0).copy Register.a0 Register.a1).copy
    Register.a1 Register.a2).copy Register.a2 Register.a3).copy Register.a3 Register.a4).copy
      Register.a4 Register.a5).copy Register.a5 Register.a6

/-- Goes back to the caller of a function. -/
def returnToCaller (hart : Hart) : Hart :=
  { hart with pc := hart.read Register.ra }

/-- Makes a system call from the hart's current mode and gives its result. The caller continues at
its return address, whatever address the handler resumes at. -/
def systemCall [KernelImage] {σ : Type} (hart : Hart) (number : Word) (args : Vector Word 6)
    (address : Word) (frame : Frame) (handler : Handler σ) (world : σ) : Outcome σ Word :=
  let prepared := (hart.placeArguments number args).shiftArguments
  let outcome := prepared.takeTrap (Cause.callFrom prepared.mode) 0 address frame handler world
  match outcome.result with
  | .error stop => { outcome with result := .error stop }
  | .ok _ =>
    { outcome with
      result := .ok (outcome.hart.read Register.a0)
      hart := outcome.hart.returnToCaller }

end HartKernel.Hart
