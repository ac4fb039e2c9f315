import HartKernel.Proofs.Hart.Observed
import HartKernel.Proofs.Hart.UserState
import Mathlib.Logic.Function.Basic

/-!
# The slot of register 0

Register files have a slot for register 0, so that slots and registers line up. Nothing ever looks
into it. `withZeroSlot` puts any value there, and every step of a hart carries the value along and
does what it does without it (`write_withZeroSlot`, `restore_withZeroSlot` and so on, up to
`bootOrFault_withZeroSlot`), so that the value is still there in the end (`x_zero_of_carries`). A
frame is saved with zero in the slot and restored without it (`saveInto_withZeroSlot`,
`restore_regs_withZeroSlot`).

A trap runs a handler in the middle, which may well look. `Handler.Respects` is what a handler owes
to a relation of worlds for the whole routine to respect it (`Outcome.Alike`, `alike_serveTrap`,
`Routine.alike_perform`). Every handler respects equality, and finds zero in the slot of its frame
(`Routine.zero_of_mem_calls_perform`).
-/

namespace HartKernel

/-- The file with another value in the slot of register 0. -/
abbrev RegisterFile.withZeroSlot (file : RegisterFile) (value : Word) : RegisterFile :=
  file.set Register.zero value

theorem RegisterFile.getElem_withZeroSlot (file : RegisterFile) (value : Word) {r : Register}
    (h : r ≠ Register.zero) : (file.withZeroSlot value)[r] = file[r] := by
  have hne : (Register.zero : Nat) ≠ r := fun e => h (Fin.ext e.symm)
  exact Vector.getElem_set_ne _ _ hne

def Hart.withZeroSlot (hart : Hart) (value : Word) : Hart :=
  { hart with x := hart.x.withZeroSlot value }

def Frame.withZeroSlot (frame : Frame) (value : Word) : Frame :=
  { frame with regs := frame.regs.withZeroSlot value }

/-- Two harts are equal but for the slot of register 0. -/
def Hart.SameButZero (a b : Hart) : Prop :=
  ∃ value, b = a.withZeroSlot value

/-- Two frames are equal but for the slot of register 0. -/
def Frame.SameButZero (a b : Frame) : Prop :=
  ∃ value, b = a.withZeroSlot value

theorem Frame.SameButZero.refl (frame : Frame) : frame.SameButZero frame := by
  refine ⟨frame.regs[Register.zero], ?_⟩
  have hregs : frame.regs.withZeroSlot frame.regs[Register.zero] = frame.regs :=
    Vector.set_getElem_self ..
  rw [withZeroSlot, hregs]

namespace Hart

variable (hart : Hart) (value : Word)

theorem withZeroSlot_self : hart.withZeroSlot hart.x[Register.zero] = hart := by
  have hx : hart.x.withZeroSlot hart.x[Register.zero] = hart.x := Vector.set_getElem_self ..
  rw [withZeroSlot, hx]

/-- A step that carries every value of the slot along leaves the value that is there. -/
theorem x_zero_of_carries {step : Hart → Hart}
    (h : ∀ value, step (hart.withZeroSlot value) = (step hart).withZeroSlot value) :
    (step hart).x[Register.zero] = hart.x[Register.zero] := by
  have hself := h hart.x[Register.zero]
  rw [withZeroSlot_self] at hself
  rw [hself]
  exact Vector.getElem_set_self _

@[simp] theorem csr_withZeroSlot : (hart.withZeroSlot value).csr = hart.csr := rfl

@[simp] theorem f_withZeroSlot : (hart.withZeroSlot value).f = hart.f := rfl

@[simp] theorem mode_withZeroSlot : (hart.withZeroSlot value).mode = hart.mode := rfl

@[simp] theorem pc_withZeroSlot : (hart.withZeroSlot value).pc = hart.pc := rfl

theorem x_withZeroSlot {r : Register} (h : r ≠ Register.zero) :
    (hart.withZeroSlot value).x[r] = hart.x[r] :=
  RegisterFile.getElem_withZeroSlot _ _ h

@[simp] theorem read_withZeroSlot (r : Register) :
    (hart.withZeroSlot value).read r = hart.read r := by
  unfold read
  split
  · rfl
  · next hr => exact x_withZeroSlot hart value hr

/-! ### What writes registers -/

@[simp] theorem write_withZeroSlot (r : Register) (word : Word) :
    (hart.withZeroSlot value).write r word = (hart.write r word).withZeroSlot value := by
  unfold write
  split
  · rfl
  · next hr =>
    have hne : (Register.zero : Nat) ≠ r := fun e => hr (Fin.ext e.symm)
    have hx : (hart.x.withZeroSlot value).set r word = (hart.x.set r word).withZeroSlot value :=
      Vector.set_comm _ _ hne
    simp only [withZeroSlot, hx]

@[simp] theorem restore_withZeroSlot (saved : RegisterFile) :
    (hart.withZeroSlot value).restore saved = (hart.restore saved).withZeroSlot value := by
  have hx : ((hart.withZeroSlot value).restore saved).x =
      (hart.restore saved).x.withZeroSlot value := by
    apply Vector.ext
    intro i hi
    by_cases hzero : i = 0
    · subst hzero
      simp [restore, withZeroSlot, RegisterFile.withZeroSlot, RegisterFile.set]
    · have hne : (⟨i, hi⟩ : Register) ≠ Register.zero := fun e => hzero (congrArg Fin.val e)
      simp [restore, hne, RegisterFile.withZeroSlot, RegisterFile.set,
        Vector.getElem_set_ne _ _ (Ne.symm hzero)]
  show { (hart.withZeroSlot value).restore saved with
    x := ((hart.withZeroSlot value).restore saved).x } = _
  rw [hx]
  rfl

/-- Register 0 is not restored. -/
@[simp] theorem restore_regs_withZeroSlot (saved : RegisterFile) :
    hart.restore (saved.withZeroSlot value) = hart.restore saved := by
  have hslot (r : Register) :
      (if r = Register.zero then hart.x[r] else (saved.withZeroSlot value)[r]) =
        if r = Register.zero then hart.x[r] else saved[r] := by
    split
    · rfl
    · next hr => exact saved.getElem_withZeroSlot value hr
  simp only [restore, hslot]

@[simp] theorem withUserState_withZeroSlot (user : UserState) :
    (hart.withZeroSlot value).withUserState user =
      (hart.withUserState user).withZeroSlot value := by
  simp only [withUserState, restore_withZeroSlot]
  rfl

/-! ### The vector -/

@[simp] theorem enterTrap_withZeroSlot (cause tval : Word) :
    (hart.withZeroSlot value).enterTrap cause tval =
      (hart.enterTrap cause tval).withZeroSlot value :=
  rfl

@[simp] theorem trapInfo_withZeroSlot : (hart.withZeroSlot value).trapInfo = hart.trapInfo :=
  rfl

@[simp] theorem machineReturn_withZeroSlot :
    (hart.withZeroSlot value).machineReturn = hart.machineReturn.withZeroSlot value :=
  rfl

@[simp] theorem swapScratch_withZeroSlot :
    (hart.withZeroSlot value).swapScratch = hart.swapScratch.withZeroSlot value := by
  have ht6 : (hart.withZeroSlot value).x[Register.t6] = hart.x[Register.t6] :=
    hart.x_withZeroSlot value (by decide)
  simp only [swapScratch, csr_withZeroSlot, write_withZeroSlot, ht6]
  rfl

@[simp] theorem recoverScratch_withZeroSlot :
    (hart.withZeroSlot value).recoverScratch = hart.recoverScratch.withZeroSlot value := by
  have ht6 : (hart.withZeroSlot value).x[Register.t6] = hart.x[Register.t6] :=
    hart.x_withZeroSlot value (by decide)
  simp only [recoverScratch, csr_withZeroSlot, write_withZeroSlot, ht6]
  rfl

/-- Register 0 is saved as zero, whatever was in the slot of the hart or of the frame. -/
@[simp] theorem saveInto_withZeroSlot (frame : Frame) (slot : Word) :
    (hart.withZeroSlot value).saveInto (frame.withZeroSlot slot) = hart.saveInto frame := by
  simp only [saveInto, csr_withZeroSlot, read_withZeroSlot, f_withZeroSlot]
  rfl

@[simp] theorem passArguments_withZeroSlot (info : TrapInfo) :
    (hart.withZeroSlot value).passArguments info =
      (hart.passArguments info).withZeroSlot value := by
  simp only [passArguments, csr_withZeroSlot, write_withZeroSlot]

@[simp] theorem moveToStack_withZeroSlot (stack : Word) :
    (hart.withZeroSlot value).moveToStack stack = (hart.moveToStack stack).withZeroSlot value := by
  simp only [moveToStack, write_withZeroSlot]
  rfl

@[simp] theorem leaveVector_withZeroSlot (resume : Word) (frame : Frame) (slot : Word) :
    (hart.withZeroSlot value).leaveVector resume (frame.withZeroSlot slot) =
      (hart.leaveVector resume frame).withZeroSlot value := by
  have hsteps (loaded : Hart) : loaded.restore (frame.withZeroSlot slot).regs =
      loaded.restore frame.regs := loaded.restore_regs_withZeroSlot slot frame.regs
  simp only [leaveVector, hsteps]
  rw [← machineReturn_withZeroSlot, ← restore_withZeroSlot]
  rfl

/-! ### The other routines -/

@[simp] theorem activate_withZeroSlot (address : Word) :
    (hart.withZeroSlot value).activate address = (hart.activate address).withZeroSlot value :=
  rfl

@[simp] theorem resumeContext_withZeroSlot (address : Word) (frame : Frame) (slot : Word) :
    (hart.withZeroSlot value).resumeContext address (frame.withZeroSlot slot) =
      (hart.resumeContext address frame).withZeroSlot value := by
  have hregs (staged : Hart) : staged.restore (frame.withZeroSlot slot).regs =
      staged.restore frame.regs := staged.restore_regs_withZeroSlot slot frame.regs
  simp only [resumeContext, hregs]
  rw [← machineReturn_withZeroSlot, ← restore_withZeroSlot]
  rfl

@[simp] theorem placeArguments_withZeroSlot (number : Word) (args : Vector Word 6) :
    (hart.withZeroSlot value).placeArguments number args =
      (hart.placeArguments number args).withZeroSlot value := by
  simp only [placeArguments, write_withZeroSlot]

@[simp] theorem shiftArguments_withZeroSlot :
    (hart.withZeroSlot value).shiftArguments = hart.shiftArguments.withZeroSlot value := by
  simp only [shiftArguments, copy, read_withZeroSlot, write_withZeroSlot]

@[simp] theorem returnToCaller_withZeroSlot :
    (hart.withZeroSlot value).returnToCaller = hart.returnToCaller.withZeroSlot value := by
  simp only [returnToCaller, read_withZeroSlot]
  rfl

@[simp] theorem openMemory_withZeroSlot (symbols : Boot.Symbols) :
    (hart.withZeroSlot value).openMemory symbols =
      (hart.openMemory symbols).withZeroSlot value := by
  simp only [openMemory, csr_withZeroSlot, write_withZeroSlot]
  rfl

@[simp] theorem followPlan_withZeroSlot (plan : Boot.Plan) :
    (hart.withZeroSlot value).followPlan plan = (hart.followPlan plan).withZeroSlot value := by
  simp only [followPlan, write_withZeroSlot]
  rw [← machineReturn_withZeroSlot]
  rfl

@[simp] theorem bootOrFault_withZeroSlot (symbols : Boot.Symbols) (bss : Array Word) :
    (hart.withZeroSlot value).bootOrFault symbols bss =
      ((hart.bootOrFault symbols bss).1, (hart.bootOrFault symbols bss).2.withZeroSlot value) := by
  simp only [bootOrFault, boot, openMemory_withZeroSlot, read_withZeroSlot]
  cases symbols.plan? ((hart.openMemory symbols).read Register.a0) with
  | error reason => rfl
  | ok plan? =>
    cases plan? with
    | none => rfl
    | some plan =>
      simp only [followPlan_withZeroSlot, mode_withZeroSlot, pc_withZeroSlot]
      rfl

theorem x_zero_bootOrFault (symbols : Boot.Symbols) (bss : Array Word) :
    (hart.bootOrFault symbols bss).2.x[Register.zero] = hart.x[Register.zero] := by
  apply hart.x_zero_of_carries
  intro value
  rw [bootOrFault_withZeroSlot]

theorem x_zero_withUserState (user : UserState) :
    (hart.withUserState user).x[Register.zero] = hart.x[Register.zero] := by
  apply hart.x_zero_of_carries
  intro value
  rw [withUserState_withZeroSlot]

end Hart

/-! ### Outcomes that are alike -/

variable {σ : Type}

/-- The handler cannot tell worlds apart that are alike: it resumes at the same address, and leaves
frames and worlds that are alike again. The frame it is called with it may look into as it likes. -/
def Handler.Respects (alike : σ → σ → Prop) (handler : Handler σ) : Prop :=
  ∀ info frame world world', alike world world' →
    (handler info frame world').resume = (handler info frame world).resume ∧
      (handler info frame world).frame.SameButZero (handler info frame world').frame ∧
      alike (handler info frame world).world (handler info frame world').world

/-- Worlds that are alike, with notes of the same calls. -/
def NotedAlike (alike : σ → σ → Prop) (noted noted' : σ × List Call) : Prop :=
  alike noted.1 noted'.1 ∧ noted'.2 = noted.2

theorem Handler.Respects.noting {alike : σ → σ → Prop} {handler : Handler σ}
    (h : handler.Respects alike) : handler.noting.Respects (NotedAlike alike) := by
  rintro info frame ⟨world, calls⟩ ⟨world', calls'⟩ ⟨hworld, rfl⟩
  obtain ⟨hresume, hframe, hafter⟩ := h info frame world world' hworld
  exact ⟨hresume, hframe, hafter, rfl⟩

/-- Every handler cannot tell a world from itself. -/
theorem Handler.respects_eq (handler : Handler σ) : handler.Respects Eq := by
  rintro info frame world _ rfl
  exact ⟨rfl, Frame.SameButZero.refl _, rfl⟩

/-- Two routines have ended alike, and a value in the slot of register 0 of the second hart has
stayed there. -/
structure Outcome.Alike {α : Type} (alike : σ → σ → Prop) (value : Word)
    (outcome outcome' : Outcome σ α) : Prop where
  result : outcome'.result = outcome.result
  hart : outcome'.hart = outcome.hart.withZeroSlot value
  frame : outcome.frame.SameButZero outcome'.frame
  world : alike outcome.world outcome'.world

namespace Hart

variable [KernelImage] {alike : σ → σ → Prop} {handler : Handler σ} {world world' : σ}
  {frame frame' : Frame}

theorem alike_serveTrap (hhandler : handler.Respects alike) (hworld : alike world world')
    (hframe : frame.SameButZero frame') (hart : Hart) (value address : Word) :
    (hart.serveTrap address frame handler world).Alike alike value
      ((hart.withZeroSlot value).serveTrap address frame' handler world') := by
  obtain ⟨slot, rfl⟩ := hframe
  unfold serveTrap
  simp only [csr_withZeroSlot, swapScratch_withZeroSlot, recoverScratch_withZeroSlot,
    saveInto_withZeroSlot, trapInfo_withZeroSlot, passArguments_withZeroSlot,
    moveToStack_withZeroSlot]
  set saved := hart.swapScratch.saveInto frame
  set recovered := hart.swapScratch.recoverScratch
  split
  · exact ⟨rfl, rfl, ⟨slot, rfl⟩, hworld⟩
  · cases Stack.trapTop recovered.trapInfo.hart with
    | error reason => exact ⟨rfl, rfl, .refl saved, hworld⟩
    | ok stack =>
      -- Both handlers are called with the same frame.
      obtain ⟨hresume, ⟨left, hleft⟩, hafter⟩ :=
        hhandler recovered.trapInfo saved world world' hworld
      simp only [hresume, hleft]
      cases (handler recovered.trapInfo saved world).resume with
      | error panic => exact ⟨rfl, rfl, ⟨left, rfl⟩, hafter⟩
      | ok resume =>
        exact ⟨rfl, leaveVector_withZeroSlot .., ⟨left, rfl⟩, hafter⟩

theorem alike_takeTrap (hhandler : handler.Respects alike) (hworld : alike world world')
    (hframe : frame.SameButZero frame') (hart : Hart) (value cause tval address : Word) :
    (hart.takeTrap cause tval address frame handler world).Alike alike value
      ((hart.withZeroSlot value).takeTrap cause tval address frame' handler world') := by
  by_cases hvector : hart.csr.mtvec = vectorAddress
  · have hvector' : (hart.withZeroSlot value).csr.mtvec = vectorAddress := hvector
    rw [takeTrap, takeTrap, acceptTrap_of_vector hvector, acceptTrap_of_vector hvector',
      enterTrap_withZeroSlot]
    exact alike_serveTrap hhandler hworld hframe (hart.enterTrap cause tval) value address
  · have hvector' : (hart.withZeroSlot value).csr.mtvec ≠ vectorAddress := hvector
    rw [takeTrap_of_noVector hvector, takeTrap_of_noVector hvector']
    exact ⟨rfl, rfl, hframe, hworld⟩

theorem alike_systemCall (hhandler : handler.Respects alike) (hworld : alike world world')
    (hframe : frame.SameButZero frame') (hart : Hart) (value number : Word) (args : Vector Word 6)
    (address : Word) :
    (hart.systemCall number args address frame handler world).Alike alike value
      ((hart.withZeroSlot value).systemCall number args address frame' handler world') := by
  simp only [systemCall, placeArguments_withZeroSlot, shiftArguments_withZeroSlot,
    mode_withZeroSlot]
  set prepared := (hart.placeArguments number args).shiftArguments
  obtain ⟨hresult, hhart, hframe', hworld'⟩ := alike_takeTrap hhandler hworld hframe prepared value
    (Cause.callFrom prepared.mode) 0 address
  simp only [hresult, hhart, read_withZeroSlot, returnToCaller_withZeroSlot]
  split
  · exact ⟨rfl, rfl, hframe', hworld'⟩
  · exact ⟨rfl, rfl, hframe', hworld'⟩

end Hart

namespace Routine

/-- Two routines were seen to do the same, up to what is alike. -/
structure Observed.Alike (alike : σ → σ → Prop) (value : Word) (observed observed' : Observed σ) :
    Prop where
  result : observed'.result = observed.result
  hart : observed'.hart = observed.hart.withZeroSlot value
  frame : observed.frame.SameButZero observed'.frame
  world : alike observed.world observed'.world
  calls : observed'.calls = observed.calls

/-- The handler of a routine, if it has one, cannot tell worlds apart that are alike. -/
def Respects (alike : σ → σ → Prop) : Routine σ → Prop
  | activate => True
  | switchTo => True
  | trap _ _ handler => handler.Respects alike
  | call _ _ handler => handler.Respects alike

theorem respects_eq (routine : Routine σ) : routine.Respects Eq := by
  cases routine with
  | activate => trivial
  | switchTo => trivial
  | trap _ _ handler => exact handler.respects_eq
  | call _ _ handler => exact handler.respects_eq

variable {alike : σ → σ → Prop} {world world' : σ} {frame frame' : Frame}

theorem alike_observe {α : Type} {answer : α → Answer} {value : Word}
    {outcome outcome' : Outcome (σ × List Call) α}
    (h : outcome.Alike (NotedAlike alike) value outcome') :
    (observe answer outcome).Alike alike value (observe answer outcome') :=
  ⟨congrArg (Except.map answer) h.result, h.hart, h.frame, h.world.1, h.world.2⟩

variable [KernelImage]

theorem alike_perform {routine : Routine σ} (hroutine : routine.Respects alike)
    (hworld : alike world world') (hframe : frame.SameButZero frame') (hart : Hart)
    (value address : Word) :
    (routine.perform hart address frame world).Alike alike value
      (routine.perform (hart.withZeroSlot value) address frame' world') := by
  have hnoted : NotedAlike alike (world, []) (world', []) := ⟨hworld, rfl⟩
  cases routine with
  | activate => exact ⟨rfl, hart.activate_withZeroSlot value address, hframe, hworld, rfl⟩
  | switchTo =>
    obtain ⟨slot, rfl⟩ := hframe
    exact ⟨rfl, hart.resumeContext_withZeroSlot .., ⟨slot, rfl⟩, hworld, rfl⟩
  | trap cause tval handler =>
    have hhandler : handler.noting.Respects (NotedAlike alike) := hroutine.noting
    exact alike_observe (Hart.alike_takeTrap hhandler hnoted hframe hart ..)
  | call number args handler =>
    have hhandler : handler.noting.Respects (NotedAlike alike) := hroutine.noting
    exact alike_observe (Hart.alike_systemCall hhandler hnoted hframe hart ..)

theorem alike_serve {handler : Handler σ} (hhandler : handler.Respects alike)
    (hworld : alike world world') (hframe : frame.SameButZero frame') (hart : Hart)
    (value address : Word) :
    (serve hart address frame handler world).Alike alike value
      (serve (hart.withZeroSlot value) address frame' handler world') := by
  have hnoted : NotedAlike alike (world, []) (world', []) := ⟨hworld, rfl⟩
  exact alike_observe (Hart.alike_serveTrap hhandler.noting hnoted hframe hart ..)

/-! ### What becomes of the slot -/

theorem x_zero_perform (routine : Routine σ) (hart : Hart) (address : Word) (frame : Frame)
    (world : σ) :
    (routine.perform hart address frame world).hart.x[Register.zero] = hart.x[Register.zero] := by
  apply hart.x_zero_of_carries
  intro value
  exact (alike_perform routine.respects_eq (Eq.refl world) (.refl frame) hart value address).hart

theorem x_zero_serve (hart : Hart) (address : Word) (frame : Frame) (handler : Handler σ)
    (world : σ) :
    (serve hart address frame handler world).hart.x[Register.zero] = hart.x[Register.zero] := by
  apply hart.x_zero_of_carries
  intro value
  exact (alike_serve handler.respects_eq (Eq.refl world) (.refl frame) hart value address).hart

/-- A frame that a handler is called with holds zero in the slot of register 0. -/
theorem zero_of_mem_calls_perform {routine : Routine σ} {hart : Hart} {address : Word} {call : Call}
    (h : call ∈ (routine.perform hart address frame world).calls) :
    call.frame.regs[Register.zero] = 0 := by
  cases routine with
  | activate => cases h
  | switchTo => cases h
  | trap cause tval handler =>
    rw [Hart.eq_of_mem_calls_takeTrap h]
    simp [Hart.captureInto, Hart.read]
  | call number args handler =>
    rw [Hart.eq_of_mem_calls_systemCall h]
    simp [Hart.captureInto, Hart.read]

theorem zero_of_mem_calls_serve {hart : Hart} {address : Word} {handler : Handler σ} {call : Call}
    (h : call ∈ (serve hart address frame handler world).calls) :
    call.frame.regs[Register.zero] = 0 := by
  rw [Hart.eq_of_mem_calls_serveTrap h, Hart.saveInto_swapScratch]
  simp [Hart.read]

end Routine

end HartKernel
