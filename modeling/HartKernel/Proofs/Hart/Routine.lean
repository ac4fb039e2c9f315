import HartKernel.Hart.Call
import HartKernel.Proofs.Hart.ResumePath
import HartKernel.Proofs.Hart.TrapPath
import Mathlib.Tactic.Set

/-!
# What a routine needs, and what it leaves ready

A trap and a system call run only on a hart whose vector is in place and whose `mscratch` designates
the frame at hand. If so they are never refused, and the hart is ready for the next one afterwards,
whatever the handler does and also if it panics (`ready_takeTrap`, `ready_systemCall`). If the
vector is not in place they do nothing, but that a system call has moved its arguments by then
(`takeTrap_of_noVector`, `systemCall_of_noVector`).
-/

namespace HartKernel

variable {σ : Type}

namespace Hart

/-! ### Refusals -/

/-- The routine was not refused, however else it ended. -/
def NotRefused {α : Type} (result : Except Stop α) : Prop :=
  ∀ error, result ≠ .error (.refused error)

/-- Without the vector a trap does nothing. -/
theorem takeTrap_of_noVector [KernelImage] {hart : Hart} (h : hart.csr.mtvec ≠ vectorAddress)
    (cause tval : Word) (address : Word) (frame : Frame) (handler : Handler σ) (world : σ) :
    hart.takeTrap cause tval address frame handler world =
      { result := .error (.refused (.noVector hart.csr.mtvec)), hart, frame, world } := by
  have hentry : hart.acceptTrap cause tval = .error (.noVector hart.csr.mtvec) := by
    rw [acceptTrap, if_pos h]
  rw [takeTrap, hentry]

/-- Two harts are equal but for the registers in which arguments are passed. -/
structure SameButArguments (before after : Hart) : Prop where
  csr : after.csr = before.csr
  f : after.f = before.f
  mode : after.mode = before.mode
  pc : after.pc = before.pc
  read : ∀ r : Register, r < Register.a0 ∨ Register.a7 < r → after.read r = before.read r

theorem SameButArguments.refl (hart : Hart) : hart.SameButArguments hart :=
  ⟨rfl, rfl, rfl, rfl, fun _ _ => rfl⟩

theorem SameButArguments.trans {a b c : Hart} (h : a.SameButArguments b)
    (h' : b.SameButArguments c) : a.SameButArguments c :=
  ⟨h'.csr.trans h.csr, h'.f.trans h.f, h'.mode.trans h.mode, h'.pc.trans h.pc,
    fun r hr => (h'.read r hr).trans (h.read r hr)⟩

theorem SameButArguments.write {before after : Hart} (h : before.SameButArguments after)
    {target : Register} (htarget : Register.a0 ≤ target ∧ target ≤ Register.a7) (value : Word) :
    before.SameButArguments (after.write target value) := by
  refine ⟨(csr_write ..).trans h.csr, (f_write ..).trans h.f, (mode_write ..).trans h.mode,
    (pc_write ..).trans h.pc, ?_⟩
  intro r hr
  have hne : target ≠ r := by
    rintro rfl
    rcases hr with hr | hr
    · exact absurd htarget.1 (Fin.not_le.mpr hr)
    · exact absurd htarget.2 (Fin.not_le.mpr hr)
  rw [read_write, if_neg, h.read r hr]
  rintro ⟨heq, -⟩
  exact hne heq

theorem sameButArguments_prepareCall (hart : Hart) (number : Word) (args : Vector Word 6) :
    hart.SameButArguments (hart.placeArguments number args).shiftArguments := by
  simp only [placeArguments, shiftArguments, copy]
  repeat' apply SameButArguments.write
  all_goals first | exact .refl hart | decide

variable [KernelImage]

theorem systemCall_of_noVector {hart : Hart} (h : hart.csr.mtvec ≠ vectorAddress) (number : Word)
    (args : Vector Word 6) (address : Word) (frame : Frame) (handler : Handler σ) (world : σ) :
    hart.systemCall number args address frame handler world =
      { result := .error (.refused (.noVector hart.csr.mtvec))
        hart := (hart.placeArguments number args).shiftArguments
        frame
        world } := by
  have hcsr := (sameButArguments_prepareCall hart number args).csr
  have hvector : (hart.placeArguments number args).shiftArguments.csr.mtvec ≠ vectorAddress := by
    rw [hcsr]
    exact h
  simp only [systemCall, takeTrap_of_noVector hvector, hcsr]

/-! ### One routine -/

variable {hart : Hart} {address : Word}

/-- A trap is not refused, and leaves the hart ready for the next one even if the handler panics. -/
theorem ready_takeTrap (h : hart.Ready address) (cause tval : Word) (frame : Frame)
    (handler : Handler σ) (world : σ) :
    NotRefused (hart.takeTrap cause tval address frame handler world).result ∧
      (hart.takeTrap cause tval address frame handler world).hart.Ready address := by
  obtain ⟨hvector, hscratch, hid⟩ := h
  rw [takeTrap_of_ready ⟨hvector, hscratch, hid⟩]
  cases hreply : (handler (hart.infoOfTrap cause tval) (hart.captureInto frame) world).resume with
  | ok resume =>
    simp only [concludeTrap, hreply]
    refine ⟨?_, ?_⟩
    · intro error hrefused
      cases hrefused
    · simp only [resumeFrom]
      exact ⟨hvector, hscratch, hid⟩
  | error panic =>
    simp only [concludeTrap, hreply]
    refine ⟨?_, ?_⟩
    · intro error hrefused
      cases hrefused
    · -- The handler runs on the control registers that the entry left.
      refine ⟨?_, ?_, ?_⟩ <;> rw [csr_inHandler] <;> simp only [enterTrap]
      · exact hvector
      · exact hscratch
      · exact hid

theorem ready_systemCall (h : hart.Ready address) (number : Word) (args : Vector Word 6)
    (frame : Frame) (handler : Handler σ) (world : σ) :
    NotRefused (hart.systemCall number args address frame handler world).result ∧
      (hart.systemCall number args address frame handler world).hart.Ready address := by
  -- The arguments are moved before the trap, which changes no control register.
  set prepared := (hart.placeArguments number args).shiftArguments with hprepared
  have hready : prepared.Ready address :=
    h.of_csr_eq (sameButArguments_prepareCall hart number args).csr
  obtain ⟨hruns, hafter⟩ :=
    ready_takeTrap hready (Cause.callFrom prepared.mode) 0 frame handler world
  simp only [systemCall, ← hprepared]
  cases hresult : (prepared.takeTrap (Cause.callFrom prepared.mode) 0 address frame handler
    world).result with
  | ok info =>
    refine ⟨?_, hafter.of_csr_eq (by simp only [returnToCaller])⟩
    intro error hrefused
    cases hrefused
  | error stop =>
    refine ⟨?_, hafter⟩
    intro error hrefused
    cases hrefused
    exact hruns error hresult

omit [KernelImage] in
theorem ready_resumeContext (hid : hart.csr.mhartid.toNat < maxHarts) (address : Word)
    (frame : Frame) : (hart.resumeContext address frame).Ready address := by
  refine ⟨?_, ?_, ?_⟩ <;> rw [csr_resumeContext]
  exact hid

end Hart

end HartKernel
