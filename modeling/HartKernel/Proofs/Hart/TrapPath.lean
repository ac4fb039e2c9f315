import HartKernel.Hart.Trap
import HartKernel.Proofs.Status.Bits

/-!
# The path of a trap, in closed form

`Hart.takeTrap` is told in the steps in which a hart takes it: entry, exchange of `t6` with
`mscratch`, save, hand-over of the arguments, handler, restore, return. On a hart that is `Ready`,
that is, one whose vector and whose `mscratch` are in place and whose identifier has a trap stack,
none of these steps can fail, and together they come to three functions of the interrupted hart:

* `infoOfTrap`, what the handler is told;
* `captureInto`, the frame that the handler is given;
* `resumeFrom`, the hart once the frame that the handler leaves is restored.

`takeTrap_of_ready` says so, for a handler that answers and for one that panics. The detour that
`t6` takes costs the vector no register but `t5` (`recoverScratch_swapScratch`), which the restore
brings back with all others.
-/

namespace HartKernel

/-! ### The stack of a trap -/

namespace Stack

/-- The top of the trap stack of a hart, with no regard to overflow. -/
def trapTopOf [KernelImage] (raw : Word) : Word :=
  KernelImage.trapStacks + (raw + 1) * trapSize

/-- A hart that the kernel runs has a trap stack. -/
theorem trapTop_of_lt [KernelImage] {raw : Word} (h : raw.toNat < maxHarts) :
    trapTop raw = .ok (trapTopOf raw) := by
  have hraw : raw.toNat < 4 := h
  have hfit := KernelImage.trapStacks_fit
  have hcount : (raw + 1).toNat = raw.toNat + 1 := by
    rw [BitVec.toNat_add, show (1 : Word).toNat = 1 from rfl]
    omega
  have hoffset : ((raw + 1) * trapSize).toNat = (raw.toNat + 1) * 0x4000 := by
    rw [BitVec.toNat_mul, hcount, show trapSize.toNat = 0x4000 from rfl]
    omega
  -- None of the three checked operations leaves the range of a word.
  have h1 : checkedAdd raw 1 = .ok (raw + 1) := checkedAdd_eq_ok_iff.mpr hcount.symm
  have h2 : checkedMul (raw + 1) trapSize = .ok ((raw + 1) * trapSize) := by
    rw [checkedMul_eq_ok_iff, hoffset, hcount]
    rfl
  have h3 : checkedAdd KernelImage.trapStacks ((raw + 1) * trapSize) = .ok (trapTopOf raw) := by
    rw [checkedAdd_eq_ok_iff, trapTopOf, BitVec.toNat_add, hoffset]
    omega
  unfold trapTop
  rw [h1]
  show (do let offset ← checkedMul (raw + 1) trapSize
           checkedAdd KernelImage.trapStacks offset) = _
  rw [h2]
  exact h3

end Stack

namespace Hart

/-- The hart can take a trap into the frame at an address: its vector is installed, `mscratch`
designates the frame, and the hart is one that the kernel runs. -/
structure Ready (hart : Hart) (address : Word) : Prop where
  vector : hart.csr.mtvec = vectorAddress
  scratch : hart.csr.mscratch = address
  id : hart.csr.mhartid.toNat < maxHarts

/-- Whether a hart can take a trap is decided by its control registers. -/
theorem Ready.of_csr_eq {hart other : Hart} {address : Word} (h : hart.Ready address)
    (hcsr : other.csr = hart.csr) : other.Ready address := by
  refine ⟨?_, ?_, ?_⟩ <;> rw [hcsr]
  · exact h.vector
  · exact h.scratch
  · exact h.id

/-! ### The closed form -/

/-- What the handler of a trap is told. -/
def infoOfTrap (hart : Hart) (cause tval : Word) : TrapInfo :=
  { epc := hart.pc
    tval
    cause
    hart := hart.csr.mhartid
    status := hart.csr.mstatus.inTrap hart.mode }

/-- The frame with the context in it that the hart runs. Its floating-point registers are taken over
only if they are dirty. -/
def captureInto (hart : Hart) (frame : Frame) : Frame :=
  { frame with
    regs := Vector.ofFn hart.read
    fregs := if hart.csr.mstatus.floatDirty then hart.f else frame.fregs
    pc := hart.pc }

/-- The hart once it has taken a trap and is back where the handler sent it, with the registers that
the frame then holds. -/
def resumeFrom [KernelImage] (hart : Hart) (cause tval resume : Word) (frame : Frame) : Hart :=
  { hart with
    x := (hart.restore frame.regs).x
    f := if hart.csr.mstatus.floatDirty then frame.fregs else hart.f
    csr :=
      { hart.csr with
        mstatus := hart.csr.mstatus.afterTrap
        mepc := resume
        mcause := cause
        mtval := tval }
    pc := resume
    handlerStack := some (Stack.trapTopOf hart.csr.mhartid) }

/-- The hart after the hardware's part of a trap. -/
def enterTrap (hart : Hart) (cause tval : Word) : Hart :=
  { hart with
    csr.mstatus := hart.csr.mstatus.inTrap hart.mode
    csr.mepc := hart.pc
    csr.mcause := cause
    csr.mtval := tval
    mode := .machine
    pc := vectorAddress }

/-- The hart as the handler of a trap finds it. -/
def inHandler [KernelImage] (hart : Hart) (cause tval : Word) : Hart :=
  (((hart.enterTrap cause tval).write Register.t5 hart.csr.mscratch).passArguments
    (hart.infoOfTrap cause tval)).moveToStack (Stack.trapTopOf hart.csr.mhartid)

/-- How a trap ends whose handler has answered. A handler that panics leaves the hart where it
called it from. -/
def concludeTrap [KernelImage] {σ : Type} (hart : Hart) (cause tval : Word)
    (reply : Reply Frame σ) : Outcome σ TrapInfo :=
  match reply.resume with
  | .ok resume =>
    { result := .ok (hart.infoOfTrap cause tval)
      hart := hart.resumeFrom cause tval resume reply.frame
      frame := reply.frame
      world := reply.world }
  | .error panic =>
    { result := .error (.panicked panic)
      hart := hart.inHandler cause tval
      frame := reply.frame
      world := reply.world }

/-! ### The steps of the path -/

theorem acceptTrap_of_vector {hart : Hart} (h : hart.csr.mtvec = vectorAddress)
    (cause tval : Word) :
    hart.acceptTrap cause tval = .ok (hart.enterTrap cause tval) := by
  unfold acceptTrap enterTrap
  rw [if_neg (not_not_intro h)]
  rw [h]
  rfl

/-- The detour of `t6` through `mscratch` ends with both at their interrupted values, and with the
address of the frame in `t5`. -/
theorem recoverScratch_swapScratch (hart : Hart) :
    hart.swapScratch.recoverScratch = hart.write Register.t5 hart.csr.mscratch := by
  have hsteps : hart.swapScratch.recoverScratch =
      { hart with
        x := ((hart.x.set 31 hart.csr.mscratch).set 30 (hart.x.set 31 hart.csr.mscratch)[31]).set 31
          hart.x[31]
        csr.mscratch := (hart.x.set 31 hart.csr.mscratch)[31] } := rfl
  have hbase : (hart.x.set 31 hart.csr.mscratch)[31] = hart.csr.mscratch :=
    Vector.getElem_set_self ..
  -- The last write to `t6` undoes the first, and only the one to `t5` remains.
  have hx : ((hart.x.set 31 hart.csr.mscratch).set 30 hart.csr.mscratch).set 31 hart.x[31] =
      hart.x.set 30 hart.csr.mscratch := by
    ext i hi
    simp only [Vector.getElem_set]
    split
    · next h => subst h; rfl
    · rfl
  rw [hsteps, hbase, hx]
  rfl

/-- The vector saves the interrupted `t6` out of `mscratch` and all other registers out of
themselves. -/
theorem saveInto_swapScratch (hart : Hart) (frame : Frame) :
    hart.swapScratch.saveInto frame =
      { frame with
        regs := Vector.ofFn hart.read
        fregs := if hart.csr.mstatus.floatDirty then hart.f else frame.fregs
        pc := hart.csr.mepc } := by
  have hregs : (fun i : Register =>
      if i = Register.t6 then hart.x[Register.t6] else hart.swapScratch.read i) = hart.read := by
    funext i
    by_cases hi : i = Register.t6
    · subst hi; rfl
    · have hread : hart.swapScratch.read i = (hart.write Register.t6 hart.csr.mscratch).read i :=
        rfl
      rw [if_neg hi, hread, read_write, if_neg]
      rintro ⟨h, -⟩
      exact hi h.symm
  rw [← hregs]
  rfl

/-- The entry into the trap leaves the test of the floating-point registers as it was, so that the
frame is the one of the interrupted hart. -/
theorem saveInto_swapScratch_enterTrap (hart : Hart) (cause tval : Word) (frame : Frame) :
    (hart.enterTrap cause tval).swapScratch.saveInto frame = hart.captureInto frame := by
  have hdirty : (hart.enterTrap cause tval).csr.mstatus.floatDirty = hart.csr.mstatus.floatDirty :=
    Mstatus.floatDirty_inTrap _ _
  rw [saveInto_swapScratch, captureInto, hdirty]
  rfl

theorem csr_passArguments (hart : Hart) (info : TrapInfo) :
    (hart.passArguments info).csr = hart.csr := by
  simp [passArguments]

theorem csr_moveToStack (hart : Hart) (stack : Word) :
    (hart.moveToStack stack).csr = hart.csr :=
  csr_write hart Register.sp stack

variable [KernelImage]

theorem csr_inHandler (hart : Hart) (cause tval : Word) :
    (hart.inHandler cause tval).csr = (hart.enterTrap cause tval).csr := by
  rw [inHandler, csr_moveToStack, csr_passArguments, csr_write]

/-- What the vector leaves of a hart whose handler has answered: all registers but register 0 come
from the frame, and what was put aside at the entry comes back. -/
theorem leaveVector_inHandler (hart : Hart) (cause tval resume : Word) (frame : Frame) :
    (hart.inHandler cause tval).leaveVector resume frame =
      hart.resumeFrom cause tval resume frame := by
  have hzero : (hart.inHandler cause tval).x[0] = hart.x[0] := by
    simp [inHandler, moveToStack, passArguments, enterTrap]
  have hf : (hart.inHandler cause tval).f = hart.f := by
    simp [inHandler, moveToStack, passArguments, enterTrap]
  have hlast : (hart.inHandler cause tval).lastStatusWrite = hart.lastStatusWrite := by
    simp [inHandler, moveToStack, passArguments, enterTrap]
  -- The restore overwrites every register that the call of the handler has used.
  have hx : ((hart.inHandler cause tval).restore frame.regs).x = (hart.restore frame.regs).x := by
    have hslot : ∀ i : Register,
        (if i = Register.zero then (hart.inHandler cause tval).x[i] else frame.regs[i]) =
          if i = Register.zero then hart.x[i] else frame.regs[i] := by
      intro i
      by_cases hi : i = Register.zero
      · subst hi
        rw [if_pos rfl, if_pos rfl]
        exact hzero
      · rw [if_neg hi, if_neg hi]
    exact congrArg Vector.ofFn (funext hslot)
  have hsteps : (hart.inHandler cause tval).leaveVector resume frame =
      { x := ((hart.inHandler cause tval).restore frame.regs).x
        f :=
          if (hart.inHandler cause tval).csr.mstatus.floatDirty then frame.fregs
          else (hart.inHandler cause tval).f
        csr :=
          { (hart.inHandler cause tval).csr with
            mstatus := (hart.inHandler cause tval).csr.mstatus.afterReturn
            mepc := resume }
        mode := (Mstatus.mpp? (hart.inHandler cause tval).csr.mstatus).getD .user
        pc := resume
        lastStatusWrite := (hart.inHandler cause tval).lastStatusWrite
        handlerStack := (hart.inHandler cause tval).handlerStack } := rfl
  have hstatus : (hart.enterTrap cause tval).csr.mstatus = hart.csr.mstatus.inTrap hart.mode := rfl
  rw [hsteps, hx, hf, hlast, csr_inHandler, hstatus, Mstatus.floatDirty_inTrap,
    Mstatus.afterReturn_inTrap, Mstatus.mpp?_inTrap, Option.getD_some]
  rfl

/-! ### The whole path -/

variable {σ : Type}

theorem serveTrap_enterTrap {hart : Hart} {address : Word} (h : hart.Ready address)
    (cause tval : Word) (frame : Frame) (handler : Handler σ) (world : σ) :
    (hart.enterTrap cause tval).serveTrap address frame handler world =
      hart.concludeTrap cause tval
        (handler (hart.infoOfTrap cause tval) (hart.captureInto frame) world) := by
  -- What each stage of the vector finds, in the order of the stages.
  have hfound : (hart.enterTrap cause tval).csr.mscratch = address := h.scratch
  have hsaved := saveInto_swapScratch_enterTrap hart cause tval frame
  have hinfo : (hart.enterTrap cause tval).swapScratch.recoverScratch.trapInfo =
      hart.infoOfTrap cause tval := by
    rw [recoverScratch_swapScratch, trapInfo, csr_write]
    rfl
  have hstack : Stack.trapTop (hart.infoOfTrap cause tval).hart =
      .ok (Stack.trapTopOf hart.csr.mhartid) := Stack.trapTop_of_lt h.id
  have hcalled : ((hart.enterTrap cause tval).swapScratch.recoverScratch.passArguments
      (hart.infoOfTrap cause tval)).moveToStack (Stack.trapTopOf hart.csr.mhartid) =
        hart.inHandler cause tval := by
    rw [recoverScratch_swapScratch]
    rfl
  unfold serveTrap concludeTrap
  simp only [hfound, hsaved, hinfo, hstack, hcalled, ne_eq, not_true_eq_false, if_false]
  cases (handler (hart.infoOfTrap cause tval) (hart.captureInto frame) world).resume with
  | error panic => rfl
  | ok resume => simp only [leaveVector_inHandler]

/-- **The closed form of a trap.** On a hart that is ready, the handler is called on the interrupted
context, and what it answers decides how the trap ends. -/
theorem takeTrap_of_ready {hart : Hart} {address : Word} (h : hart.Ready address)
    (cause tval : Word) (frame : Frame) (handler : Handler σ) (world : σ) :
    hart.takeTrap cause tval address frame handler world =
      hart.concludeTrap cause tval
        (handler (hart.infoOfTrap cause tval) (hart.captureInto frame) world) := by
  rw [takeTrap, acceptTrap_of_vector h.vector]
  exact serveTrap_enterTrap h cause tval frame handler world

end Hart

end HartKernel
