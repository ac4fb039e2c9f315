import HartKernel.Proofs.Hart.ContextSwitch
import HartKernel.Proofs.Hart.Routine
import HartKernel.Proofs.Hart.TrapContract

/-!
# Two ways back to a context

Once the handler of a trap has answered, its context can go on in two ways: the trap vector returns
to it, or a switch leaves for the frame that it was saved in. The vector takes the resume address
from the handler, the mode from the status word, the address space from the hart, and the
floating-point registers from wherever they are live. A switch takes all four from the frame.

So the two ways are the same exactly if the frame says of each what the vector would do, which is
`Frame.Describes`. `switch_agrees_with_return_iff` proves this from one equivalence for each of the
four, and says what happens to a context whose frame is not up to date.
-/

namespace HartKernel

/-- A frame that a handler has left tells all about its context: what the registers of the unit for
floating-point numbers hold, where the context goes on, in which mode, and in which address space.
-/
structure Frame.Describes (left : Frame) (interrupted : Hart) (resume : Word) : Prop where
  fregs : interrupted.csr.mstatus.floatStatus = .dirty ∨ left.fregs = interrupted.f
  pc : left.pc = resume
  mode : left.targetMode = interrupted.mode
  satp : left.satp = interrupted.csr.satp

namespace Hart

/-- Two harts agree on what the two ways back take from different places. -/
structure SameReturn (a b : Hart) : Prop where
  f : a.f = b.f
  pc : a.pc = b.pc
  mode : a.mode = b.mode
  satp : a.csr.satp = b.csr.satp

variable {before returned : Hart} {cause tval resume address : Word} {left : Frame}

/-! ### Where the ways agree in any case -/

/-- Both ways load the integer registers from the frame. -/
theorem read_resumeContext_of_resumesWith (h : before.ResumesWith cause tval resume left returned)
    (r : Register) : (returned.resumeContext address left).read r = returned.read r := by
  rw [read_resumeContext]
  by_cases hr : r = Register.zero
  · rw [if_pos hr, read, if_pos hr]
  · rw [if_neg hr, read, if_neg hr, h.regs r hr]

/-- The return leaves the hart ready for the next trap into the same frame, and so does the
switch. -/
theorem ready_of_resumesWith (h : before.ResumesWith cause tval resume left returned)
    (hready : before.Ready address) : returned.Ready address := by
  refine ⟨?_, ?_, ?_⟩ <;> rw [h.csr]
  · exact hready.vector
  · exact hready.scratch
  · exact hready.id

/-! ### Where the frame decides -/

theorem f_resumeContext_eq_iff (h : before.ResumesWith cause tval resume left returned) :
    (returned.resumeContext address left).f = returned.f ↔
      before.csr.mstatus.floatStatus = .dirty ∨ left.fregs = before.f := by
  have hswitched : (returned.resumeContext address left).f = left.fregs :=
    (runs_resumeContext returned address left).f
  rw [hswitched]
  by_cases hdirty : before.csr.mstatus.floatStatus = .dirty
  · -- The vector has just loaded the same registers.
    rw [h.dirty hdirty]
    exact ⟨fun _ => Or.inl hdirty, fun _ => rfl⟩
  · rw [h.live hdirty]
    constructor
    · intro heq
      exact Or.inr heq
    · rintro (hdirty' | heq)
      · exact absurd hdirty' hdirty
      · exact heq

theorem pc_resumeContext_eq_iff (h : before.ResumesWith cause tval resume left returned) :
    (returned.resumeContext address left).pc = returned.pc ↔ left.pc = resume := by
  have hswitched := (runs_resumeContext returned address left).pc
  rw [hswitched, h.pc]

theorem mode_resumeContext_eq_iff (h : before.ResumesWith cause tval resume left returned) :
    (returned.resumeContext address left).mode = returned.mode ↔
      left.targetMode = before.mode := by
  rw [mode_resumeContext, h.mode]

theorem satp_resumeContext_eq_iff (h : before.ResumesWith cause tval resume left returned) :
    (returned.resumeContext address left).csr.satp = returned.csr.satp ↔
      left.satp = before.csr.satp := by
  have hswitched := (runs_resumeContext returned address left).satp
  rw [hswitched, h.csr]

/-- The two ways back are one if the frame describes its context, and only then. -/
theorem sameReturn_iff (h : before.ResumesWith cause tval resume left returned) :
    (returned.resumeContext address left).SameReturn returned ↔ left.Describes before resume := by
  constructor
  · rintro ⟨hf, hpc, hmode, hsatp⟩
    exact ⟨(f_resumeContext_eq_iff h).mp hf, (pc_resumeContext_eq_iff h).mp hpc,
      (mode_resumeContext_eq_iff h).mp hmode, (satp_resumeContext_eq_iff h).mp hsatp⟩
  · rintro ⟨hf, hpc, hmode, hsatp⟩
    exact ⟨(f_resumeContext_eq_iff h).mpr hf, (pc_resumeContext_eq_iff h).mpr hpc,
      (mode_resumeContext_eq_iff h).mpr hmode, (satp_resumeContext_eq_iff h).mpr hsatp⟩

/-! ### A frame that is not up to date -/

/-- A handler that leaves the floating-point registers of the frame alone lets a switch bring back
those of an earlier save, if the unit was not dirty. -/
theorem stale_fregs_of_switch {frame saved : Frame} (hsaved : before.Captures frame saved)
    (hclean : before.csr.mstatus.floatStatus ≠ .dirty) (hleft : left.fregs = saved.fregs) :
    (returned.resumeContext address left).f = frame.fregs := by
  rw [(runs_resumeContext returned address left).f, hleft, hsaved.stale hclean]

/-- A handler that answers with an address and does not write it to the frame lets a switch repeat
the interrupted instruction. -/
theorem replay_of_switch {frame saved : Frame} (hsaved : before.Captures frame saved)
    (hleft : left.pc = saved.pc) : (returned.resumeContext address left).pc = before.pc := by
  rw [(runs_resumeContext returned address left).pc, hleft, hsaved.pc]

/-- **The two ways back to a context.** After a trap on a hart that is ready, take the hart as the
vector returns it, and the hart that a switch to the same frame makes of it. Both have the same
integer registers, the same vector and the same active frame. The rest is the same if and only if
the frame describes its context. If it does not, the switch may bring back old floating-point
registers and may repeat the interrupted instruction. -/
theorem switch_agrees_with_return_iff [KernelImage] {hart : Hart} {address : Word}
    (h : hart.Ready address)
    (cause tval : Word) (frame : Frame) (f : TrapInfo → Frame → Word × Frame)
    (calls : List (TrapInfo × Frame)) :
    ∃ info saved resume left returned,
      (resume, left) = f info saved ∧
      hart.takeTrap cause tval address frame (.logged f) calls =
        { result := .ok info, hart := returned, frame := left, world := calls ++ [(info, saved)] } ∧
      hart.Announces cause tval info ∧
      hart.Captures frame saved ∧
      let switched := returned.resumeContext address left
      (∀ r, switched.read r = returned.read r) ∧
      switched.csr.mscratch = returned.csr.mscratch ∧
      switched.csr.mtvec = returned.csr.mtvec ∧
      (switched.SameReturn returned ↔ left.Describes hart resume) ∧
      (hart.csr.mstatus.floatStatus ≠ .dirty → left.fregs = saved.fregs →
        switched.f = frame.fregs) ∧
      (left.pc = saved.pc → switched.pc = hart.pc ∧ returned.pc = resume) := by
  set info := hart.infoOfTrap cause tval
  set saved := hart.captureInto frame
  set returned := hart.resumeFrom cause tval (f info saved).1 (f info saved).2
  have hsaved : hart.Captures frame saved := captures_captureInto hart frame
  have hreturned : hart.ResumesWith cause tval (f info saved).1 (f info saved).2 returned :=
    resumesWith_resumeFrom ..
  have hready := ready_of_resumesWith hreturned h
  have hswitched := ready_resumeContext hready.id address (f info saved).2
  refine ⟨info, saved, (f info saved).1, (f info saved).2, returned, rfl, takeTrap_of_ready h ..,
    announces_infoOfTrap .., hsaved, read_resumeContext_of_resumesWith hreturned, ?_, ?_,
    sameReturn_iff hreturned, ?_, ?_⟩
  · rw [hswitched.scratch, hready.scratch]
  · rw [hswitched.vector, hready.vector]
  · intro hclean hleft
    exact stale_fregs_of_switch hsaved hclean hleft
  · intro hleft
    exact ⟨replay_of_switch hsaved hleft, hreturned.pc⟩

open KernelImage in
/-- A system call from user mode while the floating-point registers are not dirty. One handler
answers with the next address only, and the switch would repeat the call with zeroed floating-point
registers. The other one tells the frame as well, and the two ways agree. -/
theorem switch_agrees_with_return_iff_call :
    let hart : Hart :=
      { (Hart.reset 2).activate 0x80400000 with
        f := Vector.replicate 32 7
        mode := .user
        pc := 0x4000 }
    let silent : TrapInfo → Frame → Word × Frame := fun info frame => (info.epc + 4, frame)
    let telling : TrapInfo → Frame → Word × Frame := fun info frame =>
      (info.epc + 4, { frame with pc := info.epc + 4, fregs := hart.f })
    let trapped (f : TrapInfo → Frame → Word × Frame) :=
      hart.takeTrap Cause.callFromUser 0 0x80400000 .zeroed (.logged f) []
    let returned f := (trapped f).hart
    let switched f := (returned f).resumeContext 0x80400000 (trapped f).frame
    hart.Ready 0x80400000 ∧
      (switched silent).pc = 0x4000 ∧ (returned silent).pc = 0x4004 ∧
      (switched silent).f = .zeroed ∧ ¬(switched silent).SameReturn (returned silent) ∧
      (switched telling).SameReturn (returned telling) := by
  intro hart silent telling trapped returned switched
  have hready : hart.Ready 0x80400000 := ⟨rfl, rfl, by decide⟩
  obtain ⟨info, saved, resume, left, after, hreply, htrap, hinfo, hsaved, -, -, -, hsame, hstale,
    hreplay⟩ := switch_agrees_with_return_iff hready Cause.callFromUser 0 .zeroed silent []
  obtain ⟨info', saved', resume', left', after', hreply', htrap', -, hsaved', -, -, -, hsame', -⟩ :=
    switch_agrees_with_return_iff hready Cause.callFromUser 0 .zeroed telling []
  obtain ⟨rfl, rfl⟩ := Prod.mk.inj hreply
  obtain ⟨rfl, rfl⟩ := Prod.mk.inj hreply'
  simp only [switched, returned, trapped, htrap, htrap']
  obtain ⟨hswitched, hreturned⟩ := hreplay rfl
  have hnext : info.epc + 4 = 0x4004 := by
    rw [hinfo.epc]
    rfl
  refine ⟨hready, hswitched, hreturned.trans hnext, hstale (by decide) rfl, ?_, ?_⟩
  · intro h
    have hpc : left.pc = info.epc + 4 := (hsame.mp h).pc
    rw [hsaved.pc, hnext] at hpc
    exact absurd hpc (by decide)
  · rw [hsame']
    refine ⟨Or.inr rfl, rfl, ?_, hsaved'.satp⟩
    rw [Frame.targetMode, hsaved'.mode]
    rfl

end Hart

end HartKernel
