import HartKernel.Proofs.Hart.ResumePath

/-!
# What a context can learn from the hart it is given

A hart that leaves for a context has run something else before, in other registers, in another mode
and in another address space. Here everything that the context can see of the hart is told in terms
of its own frame (`Runs`), so that two harts that leave for it are alike from then on, whatever each
of them ran (`sameContext_of_runs`). What a switch does not write, no context is given to read
(`Untouched`).

The mode field of a frame is 64 bits of memory that nobody has checked, and a status word is made
from it. `resumeContext_mode`: the hart that results is the same for the field and for its remainder
by four. `resumeContext_noninterference` puts these together.
-/

namespace HartKernel

/-! ### The mode field -/

theorem mod_four_and_fieldMask (w : Word) : (w % 4) &&& fieldMask = w &&& fieldMask := by
  apply BitVec.eq_of_toNat_eq
  have hfour : (4 : Word).toNat = 4 := rfl
  rw [toNat_and_fieldMask, toNat_and_fieldMask, BitVec.toNat_umod, hfour, Nat.mod_mod]

namespace Frame

/-- The mode of a context by the remainder of its mode field. -/
theorem targetMode_eq (frame : Frame) :
    frame.targetMode =
      match frame.mode.toNat % 4 with
      | 1 => .supervisor
      | 3 => .machine
      | _ => .user := by
  rw [← toNat_and_fieldMask, targetMode]
  rcases and_fieldMask_cases frame.mode with h | h | h | h <;> rw [h] <;> rfl

/-- The status word for a context is the common one with a mode in it. -/
theorem resumeStatus_clear_mpp (frame : Frame) :
    frame.resumeStatus &&& ~~~Mstatus.mpp = Mstatus.context := by
  apply BitVec.eq_of_getLsbD_eq
  intro i hi
  rw [BitVec.getLsbD_and, BitVec.getLsbD_not, Mstatus.getLsbD_mpp, resumeStatus,
    Mstatus.getLsbD_contextWord]
  by_cases h11 : i = 11
  · subst h11
    rw [show Mstatus.context.getLsbD 11 = false by decide]
    exact Bool.and_false _
  by_cases h12 : i = 12
  · subst h12
    rw [show Mstatus.context.getLsbD 12 = false by decide]
    exact Bool.and_false _
  -- The mask keeps every bit outside the field.
  simp [h11, h12, hi]

theorem targetMode_mod_four (frame : Frame) :
    targetMode { frame with mode := frame.mode % 4 } = frame.targetMode := by
  simp only [targetMode, mod_four_and_fieldMask]

theorem resumeStatus_mod_four (frame : Frame) :
    resumeStatus { frame with mode := frame.mode % 4 } = frame.resumeStatus := by
  simp only [resumeStatus, Mstatus.contextWord, mod_four_and_fieldMask]

end Frame

theorem Mstatus.getLsbD_resumed (i : Nat) :
    resumed.getLsbD i = decide (i = 3 ∨ i = 5 ∨ i = 7 ∨ i = 13 ∨ i = 14) := by
  by_cases hi : i < 64
  · exact (by decide : ∀ i : Fin 64, resumed.getLsbD i =
      decide (i.val = 3 ∨ i.val = 5 ∨ i.val = 7 ∨ i.val = 13 ∨ i.val = 14)) ⟨i, hi⟩
  · rw [BitVec.getLsbD_of_ge _ _ (by omega), decide_eq_false (by omega)]

namespace Hart

/-! ### Before and after a switch -/

/-- The hart has just left for the context of a frame at an address. No field speaks of what it ran
before. -/
structure Runs (address : Word) (frame : Frame) (hart : Hart) : Prop where
  read : ∀ r, hart.read r = if r = Register.zero then 0 else frame.regs[r]
  f : hart.f = frame.fregs
  pc : hart.pc = frame.pc
  mepc : hart.csr.mepc = frame.pc
  mode : hart.mode =
    match frame.mode.toNat % 4 with
    | 1 => .supervisor
    | 3 => .machine
    | _ => .user
  satp : hart.csr.satp = frame.satp
  mie : hart.csr.mie = Mie.context
  mtvec : hart.csr.mtvec = vectorAddress
  mscratch : hart.csr.mscratch = address
  /-- MIE, SPIE and MPIE are set and FS is dirty. MPP and all other bits are zero. -/
  mstatus : ∀ i, hart.csr.mstatus.getLsbD i = decide (i = 3 ∨ i = 5 ∨ i = 7 ∨ i = 13 ∨ i = 14)
  lastStatusWrite : hart.lastStatusWrite = some frame.resumeStatus

/-- What a switch leaves of a hart as it was. -/
structure Untouched (before after : Hart) : Prop where
  zero : after.x[Register.zero] = before.x[Register.zero]
  mcause : after.csr.mcause = before.csr.mcause
  mtval : after.csr.mtval = before.csr.mtval
  mhartid : after.csr.mhartid = before.csr.mhartid
  pmpaddr0 : after.csr.pmpaddr0 = before.csr.pmpaddr0
  pmpcfg0 : after.csr.pmpcfg0 = before.csr.pmpcfg0
  handlerStack : after.handlerStack = before.handlerStack

/-- Two harts agree on all that a switch writes. -/
structure SameContext (a b : Hart) : Prop where
  read : ∀ r, a.read r = b.read r
  f : a.f = b.f
  pc : a.pc = b.pc
  mode : a.mode = b.mode
  mstatus : a.csr.mstatus = b.csr.mstatus
  mepc : a.csr.mepc = b.csr.mepc
  satp : a.csr.satp = b.csr.satp
  mie : a.csr.mie = b.csr.mie
  mtvec : a.csr.mtvec = b.csr.mtvec
  mscratch : a.csr.mscratch = b.csr.mscratch
  lastStatusWrite : a.lastStatusWrite = b.lastStatusWrite

theorem read_resumeContext (hart : Hart) (address : Word) (frame : Frame) (r : Register) :
    (hart.resumeContext address frame).read r =
      if r = Register.zero then 0 else frame.regs[r] := by
  have hread : (hart.resumeContext address frame).read r = (hart.restore frame.regs).read r := by
    rw [resumeContext_eq]
    rfl
  rw [hread, read_restore]

theorem runs_resumeContext (hart : Hart) (address : Word) (frame : Frame) :
    Runs address frame (hart.resumeContext address frame) := by
  have hcsr := csr_resumeContext hart address frame
  refine ⟨read_resumeContext hart address frame, ?_, ?_, ?_, ?_, ?_, ?_, ?_, ?_, ?_, ?_⟩
  · rw [resumeContext_eq]
  · rw [resumeContext_eq]
  · rw [hcsr]
  · rw [mode_resumeContext, Frame.targetMode_eq]
  · rw [hcsr]
  · rw [hcsr]
  · rw [hcsr]
  · rw [hcsr]
  · intro i
    rw [hcsr]
    exact Mstatus.getLsbD_resumed i
  · rw [resumeContext_eq]

theorem untouched_resumeContext (hart : Hart) (address : Word) (frame : Frame) :
    hart.Untouched (hart.resumeContext address frame) := by
  have hcsr := csr_resumeContext hart address frame
  refine ⟨?_, ?_, ?_, ?_, ?_, ?_, ?_⟩
  · have hx : (hart.resumeContext address frame).x = (hart.restore frame.regs).x := by
      rw [resumeContext_eq]
    rw [hx]
    simp [restore]
  · rw [hcsr]
  · rw [hcsr]
  · rw [hcsr]
  · rw [hcsr]
  · rw [hcsr]
  · rw [resumeContext_eq]

/-- What a hart that runs the context of a frame shows is a function of the frame. -/
theorem sameContext_of_runs {address : Word} {frame : Frame} {a b : Hart}
    (ha : Runs address frame a) (hb : Runs address frame b) : a.SameContext b := by
  refine ⟨?_, ha.f.trans hb.f.symm, ha.pc.trans hb.pc.symm, ha.mode.trans hb.mode.symm, ?_,
    ha.mepc.trans hb.mepc.symm, ha.satp.trans hb.satp.symm, ha.mie.trans hb.mie.symm,
    ha.mtvec.trans hb.mtvec.symm, ha.mscratch.trans hb.mscratch.symm,
    ha.lastStatusWrite.trans hb.lastStatusWrite.symm⟩
  · intro r
    rw [ha.read, hb.read]
  · -- Two words with the same bits are one word.
    apply BitVec.eq_of_getLsbD_eq
    intro i _
    rw [ha.mstatus, hb.mstatus]

/-- Only two bits of the mode field have any effect on the hart. -/
theorem resumeContext_mode (hart : Hart) (address : Word) (frame : Frame) :
    hart.resumeContext address { frame with mode := frame.mode % 4 } =
      hart.resumeContext address frame := by
  rw [resumeContext_eq, resumeContext_eq, Frame.targetMode_mod_four, Frame.resumeStatus_mod_four]

/-- **No state leaks through a context switch.** Two harts in any states leave for the context of
one frame. They agree on all that the context can see, and where they may still differ each of them
is as it was. Of the mode field the remainder by four decides, and nothing of it gets past MPP into
the status word. -/
theorem resumeContext_noninterference (address : Word) (frame : Frame) (a b : Hart) :
    (a.resumeContext address frame).SameContext (b.resumeContext address frame) ∧
      a.Untouched (a.resumeContext address frame) ∧
      b.Untouched (b.resumeContext address frame) ∧
      Runs address frame (a.resumeContext address frame) ∧
      a.resumeContext address { frame with mode := frame.mode % 4 } =
        a.resumeContext address frame ∧
      frame.resumeStatus &&& ~~~Mstatus.mpp = Mstatus.context := by
  have ha := runs_resumeContext a address frame
  have hb := runs_resumeContext b address frame
  exact ⟨sameContext_of_runs ha hb, untouched_resumeContext a address frame,
    untouched_resumeContext b address frame, ha, resumeContext_mode a address frame,
    frame.resumeStatus_clear_mpp⟩

end Hart

end HartKernel
