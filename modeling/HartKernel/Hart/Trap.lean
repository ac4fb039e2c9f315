import HartKernel.Hart.Basic
import HartKernel.Stack.Region
import HartKernel.Trap.Handler

/-!
# Taking a trap

The hardware's entry into a trap and the trap vector that follows it. The vector exchanges `t6` with
`mscratch` to get hold of the active frame, saves the interrupted registers there, calls the handler
on the hart's trap stack, restores what the frame then holds and returns. Floating-point registers
are saved and restored only while the unit is dirty.
-/

namespace HartKernel

/-- How a routine of a hart ended, and what it left of the hart, of the frame at hand and of the
world. -/
structure Outcome (σ α : Type) where
  result : Except Stop α
  hart : Hart
  frame : Frame
  world : σ

namespace Hart

/-- The hardware's part of a trap. The interrupted mode, interrupt enable and address are put aside,
and the hart continues in machine mode at the vector with interrupts off. -/
def acceptTrap (hart : Hart) (cause tval : Word) : Except TrapError Hart :=
  if hart.csr.mtvec ≠ vectorAddress then .error (.noVector hart.csr.mtvec)
  else
    let status := hart.csr.mstatus
    let entered :=
      Flags.set (status.setMpp hart.mode) Mstatus.mpie (Flags.contains status Mstatus.mie)
    .ok
      { hart with
        csr.mstatus := Flags.difference entered Mstatus.mie
        csr.mepc := hart.pc
        csr.mcause := cause
        csr.mtval := tval
        mode := .machine
        pc := hart.csr.mtvec }

/-- Exchanges `t6` with `mscratch`. -/
def swapScratch (hart : Hart) : Hart :=
  { hart.write Register.t6 hart.csr.mscratch with csr.mscratch := hart.x[Register.t6] }

/-- Moves the frame address from `t6` to `t5` and back into `mscratch`, which gives `t6` its
interrupted value. -/
def recoverScratch (hart : Hart) : Hart :=
  let base := hart.x[Register.t6]
  { (hart.write Register.t5 base).write Register.t6 hart.csr.mscratch with csr.mscratch := base }

/-- The frame with the interrupted context of a hart in it, taken while `t6` and `mscratch` are
exchanged. Register 0 is saved as zero. -/
def saveInto (hart : Hart) (frame : Frame) : Frame :=
  { frame with
    regs := Vector.ofFn fun i => if i = Register.t6 then hart.csr.mscratch else hart.read i
    fregs := if hart.csr.mstatus.floatDirty then hart.f else frame.fregs
    pc := hart.csr.mepc }

/-- What the vector tells the handler about the trap that the hart is in. -/
def trapInfo (hart : Hart) : TrapInfo :=
  { epc := hart.csr.mepc
    tval := hart.csr.mtval
    cause := hart.csr.mcause
    hart := hart.csr.mhartid
    status := hart.csr.mstatus }

/-- Passes the arguments of the handler in registers. -/
def passArguments (hart : Hart) (info : TrapInfo) : Hart :=
  (((((hart.write Register.a0 info.epc).write Register.a1 info.tval).write
    Register.a2 info.cause).write Register.a3 info.hart).write Register.a4 info.status).write
      Register.a5 hart.csr.mscratch

/-- Moves to a trap stack. -/
def moveToStack (hart : Hart) (stack : Word) : Hart :=
  { hart.write Register.sp stack with handlerStack := some stack }

/-- Leaves the vector for the context that the frame holds, at the address the handler chose. -/
def leaveVector (hart : Hart) (resume : Word) (frame : Frame) : Hart :=
  let loaded :=
    { hart with
      csr.mepc := resume
      f := if hart.csr.mstatus.floatDirty then frame.fregs else hart.f }
  (loaded.restore frame.regs).machineReturn

variable [KernelImage] {σ : Type}

/-- The trap vector from its first instruction on a hart that is already in a trap. The frame at
hand lies at the given address. The stack is computed when all arguments are in place, and there is
none for a hart far beyond the ceiling. -/
def serveTrap (hart : Hart) (address : Word) (frame : Frame) (handler : Handler σ) (world : σ) :
    Outcome σ TrapInfo :=
  let swapped := hart.swapScratch
  let found := hart.csr.mscratch
  if found ≠ address then
    { result := .error (.refused (.scratchMismatch address found)), hart := swapped, frame, world }
  else
    let saved := swapped.saveInto frame
    let recovered := swapped.recoverScratch
    let info := recovered.trapInfo
    let passed := recovered.passArguments info
    match Stack.trapTop info.hart with
    | .error reason =>
      { result := .error (.panicked (.fault reason)), hart := passed, frame := saved, world }
    | .ok stack =>
      let called := passed.moveToStack stack
      let reply := handler info saved world
      match reply.resume with
      | .error panic =>
        { result := .error (.panicked panic)
          hart := called
          frame := reply.frame
          world := reply.world }
      | .ok resume =>
        { result := .ok info
          hart := called.leaveVector resume reply.frame
          frame := reply.frame
          world := reply.world }

/-- Raises a trap and runs the vector through its return. -/
def takeTrap (hart : Hart) (cause tval : Word) (address : Word) (frame : Frame)
    (handler : Handler σ) (world : σ) : Outcome σ TrapInfo :=
  match hart.acceptTrap cause tval with
  | .error error => { result := .error (.refused error), hart, frame, world }
  | .ok entered => entered.serveTrap address frame handler world

end Hart

end HartKernel
