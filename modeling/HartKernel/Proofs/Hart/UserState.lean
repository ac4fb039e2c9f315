import HartKernel.Proofs.Hart.ResumePath
import HartKernel.Proofs.Hart.TrapPath
import Mathlib.Data.Fin.SuccPred

/-!
# What a context sees of its hart

The part of a hart that the context on it can read and write: registers 1 to 31, the floating-point
registers and the program counter. A frame holds the same part of a context that does not run.

* `userState_withUserState`: what a context loads is what it sees.
* `userState_captureInto` and `userState_resumeContext`: a trap moves what the context sees to its
  frame, and a switch brings it back.
* `resumeFrom_captureInto`: a trap whose handler only watches is not seen, whether the
  floating-point registers went through the frame or not.
-/

namespace HartKernel

/-- Registers 1 to 31 of a file. -/
def RegisterFile.visible (file : RegisterFile) : Vector Word 31 :=
  Vector.ofFn fun i => file[i.succ]

/-- What a context sees of its hart. -/
structure UserState where
  /-- Registers 1 to 31, the first of them at position 0. -/
  x : Vector Word 31
  f : RegisterFile
  pc : Word
  deriving DecidableEq, Repr

/-- A file with these registers, and zero for register 0. -/
def UserState.file (user : UserState) : RegisterFile :=
  Vector.ofFn fun i => if h : i = Register.zero then 0 else user.x[i.pred h]

/-- What the context that the hart runs sees. -/
def Hart.userState (hart : Hart) : UserState :=
  { x := RegisterFile.visible hart.x, f := hart.f, pc := hart.pc }

/-- The context in a frame as it will see its hart. -/
def Frame.userState (frame : Frame) : UserState :=
  { x := RegisterFile.visible frame.regs, f := frame.fregs, pc := frame.pc }

/-- Two frames hold the same beside the registers of their contexts. -/
structure Frame.SameSettings (before after : Frame) : Prop where
  satp : after.satp = before.satp
  mode : after.mode = before.mode
  scratch : after.scratch = before.scratch

/-- The hart after the context on it has replaced what it sees. -/
def Hart.withUserState (hart : Hart) (user : UserState) : Hart :=
  { hart with x := (hart.restore user.file).x, f := user.f, pc := user.pc }

namespace Frame.SameSettings

theorem refl (frame : Frame) : frame.SameSettings frame :=
  ⟨rfl, rfl, rfl⟩

theorem trans {a b c : Frame} (h : a.SameSettings b) (h' : b.SameSettings c) : a.SameSettings c :=
  ⟨h'.satp.trans h.satp, h'.mode.trans h.mode, h'.scratch.trans h.scratch⟩

end Frame.SameSettings

namespace RegisterFile

theorem visible_eq_iff (a b : RegisterFile) :
    visible a = visible b ↔ ∀ r : Register, r ≠ Register.zero → a[r] = b[r] := by
  constructor
  · intro h r hr
    obtain ⟨i, rfl⟩ := Fin.exists_succ_eq.mpr hr
    have hi := congrArg (fun v : Vector Word 31 => v[i]) h
    simpa [visible] using hi
  · intro h
    apply Vector.ext
    intro i hi
    simpa [visible] using h (Fin.succ ⟨i, hi⟩) (Fin.succ_ne_zero _)

theorem visible_file (user : UserState) : visible user.file = user.x := by
  apply Vector.ext
  intro i hi
  simp [visible, UserState.file]

theorem visible_restore (hart : Hart) (saved : RegisterFile) :
    visible (hart.restore saved).x = visible saved := by
  rw [visible_eq_iff]
  intro r hr
  simp [Hart.restore, hr]

end RegisterFile

namespace Hart

theorem userState_withUserState (hart : Hart) (user : UserState) :
    (hart.withUserState user).userState = user := by
  simp only [withUserState, userState, RegisterFile.visible_restore, RegisterFile.visible_file]

theorem csr_withUserState (hart : Hart) (user : UserState) :
    (hart.withUserState user).csr = hart.csr := by
  simp only [withUserState]

theorem mode_withUserState (hart : Hart) (user : UserState) :
    (hart.withUserState user).mode = hart.mode := by
  simp only [withUserState]

/-! ### Into a frame and back -/

theorem visible_regs_captureInto (hart : Hart) (frame : Frame) :
    RegisterFile.visible (hart.captureInto frame).regs = RegisterFile.visible hart.x := by
  rw [RegisterFile.visible_eq_iff]
  intro r hr
  simp [captureInto, read, hr]

theorem sameSettings_captureInto (hart : Hart) (frame : Frame) :
    frame.SameSettings (hart.captureInto frame) := by
  constructor <;> simp only [captureInto]

/-- A trap moves all that the context sees to its frame, if the floating-point registers are
dirty. -/
theorem userState_captureInto (hart : Hart) (frame : Frame)
    (h : hart.csr.mstatus.floatDirty = true) :
    (hart.captureInto frame).userState = hart.userState := by
  rw [Frame.userState, visible_regs_captureInto, userState]
  simp only [captureInto, h, if_true]

theorem userState_resumeContext (hart : Hart) (address : Word) (frame : Frame) :
    (hart.resumeContext address frame).userState = frame.userState := by
  rw [resumeContext_eq, userState, Frame.userState, RegisterFile.visible_restore]

/-- Nothing is lost on the way to the frame and back, and nothing stale is taken for it: only the
traces of the trap itself remain. -/
theorem resumeFrom_captureInto [KernelImage] (hart : Hart) (cause tval : Word) (frame : Frame) :
    hart.resumeFrom cause tval hart.pc (hart.captureInto frame) =
      { hart with
        csr :=
          { hart.csr with
            mstatus := hart.csr.mstatus.afterTrap
            mepc := hart.pc
            mcause := cause
            mtval := tval }
        handlerStack := some (Stack.trapTopOf hart.csr.mhartid) } := by
  have hx : (hart.restore (hart.captureInto frame).regs).x = hart.x := by
    ext i hi
    by_cases hzero : (⟨i, hi⟩ : Register) = Register.zero
    · simp [restore, hzero]
    · simp [restore, captureInto, read, hzero]
  -- The two tests of the status word agree, so that the registers go both ways or neither.
  have hf : (if hart.csr.mstatus.floatDirty then (hart.captureInto frame).fregs else hart.f) =
      hart.f := by
    by_cases h : hart.csr.mstatus.floatDirty = true
    · simp only [captureInto, h, if_true]
    · rw [if_neg h]
  simp only [resumeFrom, hx, hf]

end Hart

end HartKernel
