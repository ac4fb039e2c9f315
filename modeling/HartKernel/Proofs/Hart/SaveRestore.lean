import HartKernel.Proofs.Frame.Image
import HartKernel.Proofs.Hart.ContextSwitch
import HartKernel.Proofs.Hart.Routine
import HartKernel.Proofs.Hart.TrapContract

/-!
# Saving undoes restoring

A context that is switched in and interrupted at once is saved as the frame it came from. The switch
loads the floating-point registers in any case, the trap saves them only if they are dirty, and what
makes the two meet is the status word that the switch makes up: it leaves the unit dirty, and the
mode of the context in a field that the return empties and the next trap fills again.

* `Mstatus.inTrap_resumed`: the status word of the first trap is the one for a switch to the mode of
  the context, whatever word the switch has written for the mode field of the frame.
* `captureInto_resumeContext`: the frame that is saved is the frame that was loaded, but that the
  slot of register 0, which no register stands for, is saved as zero.
* `takeTrap_undoes_resumeContext` tells both of a trap with any handler, and the frame also byte by
  byte.
-/

namespace HartKernel

namespace Mstatus

/-- Between a switch and a trap only MPP and the interrupt enables move, and they come back to
where the switch has put them. -/
theorem inTrap_resumed (mode : Privilege) : resumed.inTrap mode = contextAt mode := by
  apply BitVec.eq_of_getLsbD_eq
  intro i hi
  rw [getLsbD_inTrap, getLsbD_setMpp, contextAt, getLsbD_contextWord]
  by_cases h11 : i = 11
  · subst h11; rfl
  by_cases h12 : i = 12
  · subst h12; rfl
  rw [if_neg h11, if_neg h12, if_neg h11, if_neg h12]
  -- Outside the field both words are closed terms.
  have hclosed : ∀ i : Fin 64, i.val ≠ 11 → i.val ≠ 12 →
      (if i.val = 3 then false
        else if i.val = 7 then resumed.getLsbD 3 else resumed.getLsbD i.val) =
        context.getLsbD i.val := by decide
  exact hclosed ⟨i, hi⟩ h11 h12

end Mstatus

theorem Frame.targetMode_eq_ofBits?_mod (frame : Frame) :
    frame.targetMode = (Privilege.ofBits? (frame.mode % 4)).getD .user := by
  have hmod : frame.mode &&& fieldMask = frame.mode % 4 := by
    apply BitVec.eq_of_toNat_eq
    rw [toNat_and_fieldMask, BitVec.toNat_umod]
    rfl
  rw [targetMode, hmod]

/-- What a trap tells that interrupts a context right after the switch to its frame. -/
structure TrapInfo.FollowsSwitch (frame : Frame) (info : TrapInfo) : Prop where
  epc : info.epc = frame.pc
  float : Mstatus.floatStatus info.status = .dirty
  mpie : Flags.contains info.status Mstatus.mpie = true
  spie : Flags.contains info.status Mstatus.spie = true
  mie : Flags.intersects info.status Mstatus.mie = false
  /-- The mode that the mode field encodes modulo four, where the reserved pattern stands for user
  mode. -/
  mpp : Mstatus.mpp? info.status = some ((Privilege.ofBits? (frame.mode % 4)).getD .user)

/-- A trap has ended the way in which its handler answered. -/
structure Outcome.EndsAs {σ : Type} (outcome : Outcome σ TrapInfo) (info : TrapInfo)
    (reply : Reply Frame σ) : Prop where
  frame : outcome.frame = reply.frame
  world : outcome.world = reply.world
  result : outcome.result =
    match reply.resume with
    | .ok _ => .ok info
    | .error panic => .error (.panicked panic)

namespace Hart

theorem endsAs_takeTrap [KernelImage] {σ : Type} {hart : Hart} {address : Word}
    (h : hart.Ready address) (cause tval : Word) (frame : Frame) (handler : Handler σ) (world : σ) :
    (hart.takeTrap cause tval address frame handler world).EndsAs (hart.infoOfTrap cause tval)
      (handler (hart.infoOfTrap cause tval) (hart.captureInto frame) world) := by
  rw [takeTrap_of_ready h]
  cases hreply : (handler (hart.infoOfTrap cause tval) (hart.captureInto frame) world).resume with
  | ok resume =>
    simp only [concludeTrap, hreply]
    exact ⟨rfl, rfl, by simp only [hreply]⟩
  | error panic =>
    simp only [concludeTrap, hreply]
    exact ⟨rfl, rfl, by simp only [hreply]⟩

/-- The frame that is saved right after a switch is the one that was switched to. -/
theorem captureInto_resumeContext (hart : Hart) (address : Word) (frame : Frame) :
    (hart.resumeContext address frame).captureInto frame = frame.setRegister Register.zero 0 := by
  have hruns := runs_resumeContext hart address frame
  have hregs : Vector.ofFn (hart.resumeContext address frame).read =
      frame.regs.set Register.zero 0 := by
    apply Vector.ext
    intro i hi
    have hread := hruns.read ⟨i, hi⟩
    rw [Vector.getElem_ofFn, hread, Vector.getElem_set]
    by_cases hzero : i = 0
    · subst hzero
      rfl
    · have hne : (⟨i, hi⟩ : Register) ≠ Register.zero := fun h => hzero (congrArg Fin.val h)
      have hne' : (Register.zero : Nat) ≠ i := Ne.symm hzero
      rw [if_neg hne, if_neg hne']
      rfl
  -- The switch leaves the unit dirty, and so its registers are saved.
  have hdirty : (hart.resumeContext address frame).csr.mstatus.floatDirty = true := by
    rw [csr_resumeContext]
    show Mstatus.resumed.floatDirty = true
    decide
  rw [captureInto, hregs, hdirty, if_pos rfl, hruns.f, hruns.pc]
  rfl

theorem followsSwitch_infoOfTrap (hart : Hart) (address : Word) (frame : Frame)
    (cause tval : Word) :
    ((hart.resumeContext address frame).infoOfTrap cause tval).FollowsSwitch frame := by
  have hepc : ((hart.resumeContext address frame).infoOfTrap cause tval).epc = frame.pc :=
    (runs_resumeContext hart address frame).pc
  have hstatus : ((hart.resumeContext address frame).infoOfTrap cause tval).status =
      Mstatus.contextAt frame.targetMode := by
    rw [infoOfTrap, csr_resumeContext, mode_resumeContext, Mstatus.inTrap_resumed]
  have hmpp : Mstatus.mpp? (Mstatus.contextAt frame.targetMode) = some frame.targetMode := by
    cases frame.targetMode <;> rfl
  refine ⟨hepc, ?_, ?_, ?_, ?_, ?_⟩ <;> rw [hstatus]
  · cases frame.targetMode <;> decide
  · cases frame.targetMode <;> decide
  · cases frame.targetMode <;> decide
  · cases frame.targetMode <;> decide
  · rw [hmpp, Frame.targetMode_eq_ofBits?_mod]

/-- **Saving undoes restoring.** A hart that the kernel runs switches to a frame, whatever the frame
holds and whatever the hart ran before, and is interrupted at once. The handler of the trap, be it
what it may, is called once, on the same frame with the slot of register 0 cleared, and is told the
address and the mode in which the context runs. -/
theorem takeTrap_undoes_resumeContext [KernelImage] {hart : Hart}
    (hid : hart.csr.mhartid.toNat < maxHarts) (address : Word) (frame : Frame) (cause tval : Word) :
    ∃ info saved,
      (∀ (σ : Type) (handler : Handler σ) (world : σ),
        ((hart.resumeContext address frame).takeTrap cause tval address frame handler world).EndsAs
          info (handler info saved world)) ∧
      saved = frame.setRegister Register.zero 0 ∧
      (∀ i : Fin 560, saved.image[i] = if i.val < 8 then 0 else frame.image[i]) ∧
      info.FollowsSwitch frame := by
  have hready := ready_resumeContext hid address frame
  have hsaved := captureInto_resumeContext hart address frame
  refine ⟨(hart.resumeContext address frame).infoOfTrap cause tval,
    frame.setRegister Register.zero 0, ?_, rfl, ?_, followsSwitch_infoOfTrap ..⟩
  · intro σ handler world
    have hends := endsAs_takeTrap hready cause tval frame handler world
    rw [hsaved] at hends
    exact hends
  · intro i
    have hword : (i.val / 8 = Register.zero.val) = (i.val < 8) := by
      have hzero : Register.zero.val = 0 := rfl
      rw [hzero, eq_iff_iff]
      omega
    rw [Frame.getElem_image_setRegister, byteOf_zero]
    simp only [hword]

open KernelImage in
/-- A frame with junk in the slot of register 0 and in the mode field, where the two lowest bits are
the reserved pattern. All of it comes back but the first word, and the context runs in user mode. -/
theorem takeTrap_undoes_resumeContext_junk :
    let frame : Frame :=
      { Frame.zeroed with
        regs := (RegisterFile.zeroed.set Register.zero 9).set Register.t6 0x6666
        fregs := Vector.replicate 32 7
        pc := 0x4000
        mode := 0xff02 }
    let outcome := ((Hart.reset 3).resumeContext 0x80400000 frame).takeTrap Cause.callFromUser 0
      0x80400000 frame (.logged fun info frame => (info.epc + 4, frame)) []
    (Hart.reset 3).csr.mhartid.toNat < maxHarts ∧
      ∃ info saved,
        outcome.result = .ok info ∧ outcome.world = [(info, saved)] ∧
        saved.regs[Register.zero] = 0 ∧ saved.regs[Register.t6] = 0x6666 ∧
        saved.fregs = frame.fregs ∧ saved.mode = 0xff02 ∧
        info.epc = 0x4000 ∧ Mstatus.mpp? info.status = some .user := by
  intro frame outcome
  have hid : (Hart.reset 3).csr.mhartid.toNat < maxHarts := by decide
  obtain ⟨info, saved, hends, hsaved, -, hinfo⟩ :=
    takeTrap_undoes_resumeContext hid 0x80400000 frame Cause.callFromUser 0
  have hlogged := hends _ (.logged fun info frame => (info.epc + 4, frame)) []
  have hmode : (Privilege.ofBits? ((0xff02 : Word) % 4)).getD .user = .user := by decide
  subst hsaved
  exact ⟨hid, info, _, hlogged.result, hlogged.world, by decide, by decide, rfl, rfl, hinfo.epc,
    hinfo.mpp.trans (congrArg some hmode)⟩

end Hart

end HartKernel
