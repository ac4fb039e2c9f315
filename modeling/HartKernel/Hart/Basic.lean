import HartKernel.Frame.Patch
import HartKernel.Trap.Info

/-!
# One hart

The state of one RISC-V hart as far as the kernel's lowest layer touches it: both register files,
the machine-mode control registers, the privilege mode and the program counter. Two notes are kept
beside it, the last status word that was written explicitly and the stack that the latest trap
handler ran on. Main statements: `Hart.read_write` and `Hart.read_restore`, what the registers read
as after one or all of them are written; register 0 stays zero.
-/

namespace HartKernel

/-- The control registers that the kernel uses. -/
structure ControlRegisters where
  mstatus : Mstatus
  mepc : Word
  mcause : Word
  mtval : Word
  mscratch : Word
  mtvec : Word
  mie : Mie
  satp : Word
  mhartid : Word
  pmpaddr0 : Word
  pmpcfg0 : Word
  deriving DecidableEq, Repr

/-- The state of one hart. -/
structure Hart where
  /-- The integer registers; the slot of register 0 may hold anything, and the register reads as
  zero. -/
  x : RegisterFile
  /-- The floating-point registers. -/
  f : RegisterFile
  /-- The control registers. -/
  csr : ControlRegisters
  mode : Privilege
  pc : Word
  /-- The word that was last written to `mstatus` by an explicit write, and not by a trap or a
  return. -/
  lastStatusWrite : Option Mstatus
  /-- The stack pointer that the latest trap handler was called with. -/
  handlerStack : Option Word
  deriving DecidableEq, Repr

/-- The address of the trap vector. -/
abbrev vectorAddress : Word := 0x80000100

namespace Hart

/-- A hart out of reset: machine mode, all else zero but its identifier. -/
def reset (id : Word) : Hart :=
  { x := .zeroed
    f := .zeroed
    csr :=
      { mstatus := 0, mepc := 0, mcause := 0, mtval := 0, mscratch := 0, mtvec := 0, mie := 0,
        satp := 0, mhartid := id, pmpaddr0 := 0, pmpcfg0 := 0 }
    mode := .machine
    pc := 0
    lastStatusWrite := none
    handlerStack := none }

/-- The value of an integer register. -/
def read (hart : Hart) (register : Register) : Word :=
  if register = Register.zero then 0 else hart.x[register]

/-- The value of an integer register by its number; there is no register 32 or above. -/
def readIndex (hart : Hart) (index : Nat) : Except Fault Word :=
  if h : index < registerCount then .ok (hart.read ⟨index, h⟩)
  else .error (.indexOutOfBounds registerCount index)

/-- Writes an integer register; a write to register 0 is dropped. -/
def write (hart : Hart) (register : Register) (value : Word) : Hart :=
  if register = Register.zero then hart else { hart with x := hart.x.set register value }

/-- Loads all integer registers but register 0. -/
def restore (hart : Hart) (saved : RegisterFile) : Hart :=
  { hart with x := Vector.ofFn fun i => if i = Register.zero then hart.x[i] else saved[i] }

/-- Writes `mstatus` explicitly. -/
def writeStatus (hart : Hart) (status : Mstatus) : Hart :=
  { hart with csr.mstatus := status, lastStatusWrite := some status }

/-- Makes the frame at an address the active one, so that the hart can take a trap. -/
def activate (hart : Hart) (address : Word) : Hart :=
  { hart with csr.mscratch := address, csr.mtvec := vectorAddress }

/-- Returns from machine mode: to the previous privilege, or to user mode if none is encoded, at
`mepc`. Interrupts are enabled as they were before the trap. -/
def machineReturn (hart : Hart) : Hart :=
  let status := hart.csr.mstatus
  let restored := Flags.set (status.setMpp .user) Mstatus.mie (Flags.contains status Mstatus.mpie)
  { hart with
    csr.mstatus := Flags.union restored Mstatus.mpie
    mode := (Mstatus.mpp? status).getD .user
    pc := hart.csr.mepc }

theorem read_write (hart : Hart) (r s : Register) (value : Word) :
    (hart.write r value).read s = if r = s ∧ r ≠ Register.zero then value else hart.read s := by
  unfold read write
  by_cases hr : r = Register.zero
  · simp [hr]
  · by_cases hrs : r = s
    · subst hrs
      simp [hr]
    · have hne : (r : Nat) ≠ s := fun e => hrs (Fin.ext e)
      simp [hr, hrs, Vector.getElem_set_ne _ _ hne]

theorem read_restore (hart : Hart) (saved : RegisterFile) (r : Register) :
    (hart.restore saved).read r = if r = Register.zero then 0 else saved[r] := by
  by_cases hr : r = Register.zero
  · simp [hr, read]
  · simp [read, restore, hr]

/-! ### What a register write leaves alone -/

@[simp] theorem f_write (hart : Hart) (r : Register) (value : Word) :
    (hart.write r value).f = hart.f := by
  unfold write
  split <;> rfl

@[simp] theorem csr_write (hart : Hart) (r : Register) (value : Word) :
    (hart.write r value).csr = hart.csr := by
  unfold write
  split <;> rfl

@[simp] theorem mode_write (hart : Hart) (r : Register) (value : Word) :
    (hart.write r value).mode = hart.mode := by
  unfold write
  split <;> rfl

@[simp] theorem pc_write (hart : Hart) (r : Register) (value : Word) :
    (hart.write r value).pc = hart.pc := by
  unfold write
  split <;> rfl

@[simp] theorem lastStatusWrite_write (hart : Hart) (r : Register) (value : Word) :
    (hart.write r value).lastStatusWrite = hart.lastStatusWrite := by
  unfold write
  split <;> rfl

@[simp] theorem handlerStack_write (hart : Hart) (r : Register) (value : Word) :
    (hart.write r value).handlerStack = hart.handlerStack := by
  unfold write
  split <;> rfl

/-- The slot of register 0 is never written. -/
@[simp] theorem x_zero_write (hart : Hart) (r : Register) (value : Word) :
    (hart.write r value).x[0] = hart.x[0] := by
  unfold write
  by_cases hr : r = Register.zero
  · rw [if_pos hr]
  · have hne : (r : Nat) ≠ 0 := fun e => hr (Fin.ext e)
    rw [if_neg hr]
    exact Vector.getElem_set_ne r.isLt (by decide) hne

end Hart

end HartKernel
