import HartKernel.Status.Mstatus

/-!
# Trap frames

A frame holds everything that has to be kept of a context while it does not run: both register
files, the address-space selector, the resume address and the target privilege. Slot 0 of the
integer registers exists so that slots and registers line up; it reads as zero through `Frame.read`
and is never restored. Main statement: `Frame.read_write`, a register that exists, other than
register 0, keeps what is written to it.
-/

namespace HartKernel

/-- The number of registers in a register file. -/
abbrev registerCount : Nat := 32

/-- The 32 integer registers, or the 32 floating-point registers as bit patterns. -/
abbrev RegisterFile := Vector Word 32

/-- A register number. -/
abbrev Register := Fin 32

/-! ### Registers by their role in the calling convention -/

namespace Register

/-- Always zero. -/
abbrev zero : Register := 0

/-- Return address. -/
abbrev ra : Register := 1

/-- Stack pointer. -/
abbrev sp : Register := 2

/-- Global pointer. -/
abbrev gp : Register := 3

/-- Thread pointer. -/
abbrev tp : Register := 4

/-- First argument and result. -/
abbrev a0 : Register := 10

/-- Second argument. -/
abbrev a1 : Register := 11

/-- Third argument. -/
abbrev a2 : Register := 12

/-- Fourth argument. -/
abbrev a3 : Register := 13

/-- Fifth argument. -/
abbrev a4 : Register := 14

/-- Sixth argument. -/
abbrev a5 : Register := 15

/-- Seventh argument. -/
abbrev a6 : Register := 16

/-- Eighth argument, and the number of a system call. -/
abbrev a7 : Register := 17

/-- First temporary. -/
abbrev t0 : Register := 5

/-- Sixth temporary. -/
abbrev t5 : Register := 30

/-- Seventh temporary, which the trap vector exchanges with `mscratch`. -/
abbrev t6 : Register := 31

end Register

/-- A register file with every register zero. -/
def RegisterFile.zeroed : RegisterFile :=
  Vector.replicate 32 0

/-- Replaces the value of a register. -/
abbrev RegisterFile.set (file : RegisterFile) (register : Register) (value : Word) : RegisterFile :=
  Vector.set file register value

/-- The saved state of one context. -/
structure Frame where
  /-- The integer registers. -/
  regs : RegisterFile
  /-- The floating-point registers; current only if the unit was dirty when the context was last
  saved. -/
  fregs : RegisterFile
  /-- The address-space selector that a context switch installs. -/
  satp : Word
  /-- The resume address. -/
  pc : Word
  /-- Three words that belong to the owner of the frame. -/
  scratch : Vector Word 3
  /-- The target privilege, encoded as in `Privilege.bits`; other values are possible. -/
  mode : Word
  deriving DecidableEq, Repr

namespace Frame

/-- The frame whose words are all zero. -/
def zeroed : Frame :=
  { regs := .zeroed
    fregs := .zeroed
    satp := 0
    pc := 0
    scratch := Vector.replicate 3 0
    mode := 0 }

/-- A context that starts at `pc` with stack pointer `sp`. -/
def start (pc sp satp : Word) (mode : Privilege) : Frame :=
  { zeroed with regs := zeroed.regs.set Register.sp sp, pc := pc, satp := satp, mode := mode.bits }

/-- Reads an integer register. Register 0 is zero whatever its slot holds, and there is no register
32 or above. -/
def read (frame : Frame) (index : Nat) : Except Fault Word :=
  if index = 0 then .ok 0
  else if h : index < registerCount then .ok frame.regs[index]
  else .error (.indexOutOfBounds registerCount index)

/-- Writes an integer register. A write to register 0, or to a register that does not exist, is
dropped. -/
def write (frame : Frame) (index : Nat) (value : Word) : Frame :=
  if h : index < registerCount then
    if index = 0 then frame else { frame with regs := frame.regs.set ⟨index, h⟩ value }
  else frame

/-- The target privilege, if the mode field encodes one. -/
def privilege? (frame : Frame) : Option Privilege :=
  Privilege.ofBits? frame.mode

/-- Sets the target privilege. -/
def withPrivilege (frame : Frame) (mode : Privilege) : Frame :=
  { frame with mode := mode.bits }

/-- The register that holds the number of a system call. -/
abbrev numberRegister : Register := Register.a7

/-- The registers that hold the arguments of a system call, in order. -/
def argumentRegisters : Vector Register 6 :=
  #v[Register.a0, Register.a1, Register.a2, Register.a3, Register.a4, Register.a5]

/-- The register that carries the result of a system call back. -/
abbrev resultRegister : Register := Register.a0

/-- The number of the system call that the frame was saved at. -/
def callNumber (frame : Frame) : Word :=
  frame.regs[numberRegister]

/-- The arguments of the system call that the frame was saved at. -/
def callArgs (frame : Frame) : Vector Word 6 :=
  argumentRegisters.map (frame.regs[·])

/-- Stores the value that the caller of a system call gets back. -/
def setResult (frame : Frame) (value : Word) : Frame :=
  { frame with regs := frame.regs.set resultRegister value }

/-- The machine-status word that is written when the frame is switched in. -/
def resumeStatus (frame : Frame) : Mstatus :=
  Mstatus.contextWord frame.mode

theorem read_write (frame : Frame) (i j : Nat) (value : Word) :
    (frame.write i value).read j =
      if i = j ∧ i ≠ 0 ∧ i < registerCount then .ok value else frame.read j := by
  unfold read write
  by_cases hi : i < registerCount
  · by_cases hi0 : i = 0
    · simp [hi0]
    · by_cases hij : i = j
      · subst hij
        simp [hi, hi0]
      · by_cases hj : j < registerCount
        · simp [hi, hi0, hij, hj, Vector.getElem_set_ne]
        · simp [hi, hi0, hij, hj]
  · simp [hi]

theorem regs_setResult (frame : Frame) (value : Word) (r : Register) :
    (frame.setResult value).regs[r] = if r = resultRegister then value else frame.regs[r] := by
  by_cases hr : r = resultRegister
  · subst hr
    rw [if_pos rfl]
    exact Vector.getElem_set_self resultRegister.isLt
  · have hne : (resultRegister : Nat) ≠ r := fun e => hr (Fin.ext e.symm)
    rw [if_neg hr]
    exact Vector.getElem_set_ne resultRegister.isLt r.isLt hne

end Frame

end HartKernel
