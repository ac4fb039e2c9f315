import HartKernel.Proofs.Hart.Machine
import HartKernel.Proofs.Hart.Routine

/-!
# Time sharing

Several contexts share one hart. While a context runs it does as it likes with its registers; a trap
whose handler only watches, followed by a switch, takes the hart from it and gives it to the next.
`run_refines_ideal`: this is as good as an ideal hart on which every context has registers of its
own, the one that runs changes its own only, and a preemption changes only who runs.

The saved context is complete because a switch marks the floating-point registers as dirty, so that
the next trap saves them: `Fit` is the invariant that says so. Under it one step of the machine is
one step of the ideal hart (`step_refines`), seen through `Shared.ideal`, which reads the context
that runs from the hart and all others from their frames.
-/

namespace HartKernel

/-- A handler that resumes at the interrupted instruction and leaves the frame alone. It may act on
the world as it likes. -/
def Handler.watching {σ : Type} (watch : TrapInfo → Frame → σ → σ) : Handler σ :=
  fun info frame world => { resume := .ok info.epc, frame, world := watch info frame world }

namespace TimeSharing

variable {ι σ : Type}

/-- What happens on a hart that contexts share. -/
inductive Step (ι σ : Type) where
  /-- The context that runs replaces what it sees of the hart. -/
  | run (next : UserState)
  /-- A trap takes the hart from the context that runs, and a switch gives it to `next`. -/
  | preempt (cause tval : Word) (watch : TrapInfo → Frame → σ → σ) (next : ι)

/-- A machine and the name of the context that runs on it. -/
structure Shared (ι σ : Type) extends Machine ι σ where
  current : ι

/-- An ideal hart, on which every context has registers of its own. -/
structure Ideal (ι : Type) where
  contexts : ι → UserState
  current : ι

section

variable [DecidableEq ι]

namespace Shared

variable [KernelImage]

/-- The machine once its hart has been given to a first context. -/
def start (address : ι → Word) (machine : Machine ι σ) (first : ι) : Shared ι σ :=
  { machine.switchTo address first with current := first }

/-- Makes a step. It fails if the trap does. -/
def step (address : ι → Word) (shared : Shared ι σ) : Step ι σ → Except Stop (Shared ι σ)
  | .run next => .ok { shared.runUser next with current := shared.current }
  | .preempt cause tval watch next => do
    let outcome := shared.trapInto address shared.current cause tval (.watching watch)
    let _ ← outcome.result
    return { (shared.keep shared.current outcome).switchTo address next with current := next }

/-- Makes steps one after another, up to the first that fails. -/
def run (address : ι → Word) (shared : Shared ι σ) (steps : List (Step ι σ)) :
    Except Stop (Shared ι σ) :=
  steps.foldlM (step address) shared

/-- The ideal hart that a shared one stands for. -/
def ideal (shared : Shared ι σ) : Ideal ι :=
  { contexts :=
      Function.update (fun i => (shared.frames i).userState) shared.current shared.hart.userState
    current := shared.current }

end Shared

namespace Ideal

/-- Every context as it is in its frame, and the first one running. -/
def start (frames : ι → Frame) (first : ι) : Ideal ι :=
  { contexts := fun i => (frames i).userState, current := first }

/-- Only the context that runs changes, and a preemption changes only who runs. -/
def step (ideal : Ideal ι) : Step ι σ → Ideal ι
  | .run next => { ideal with contexts := Function.update ideal.contexts ideal.current next }
  | .preempt _ _ _ next => { ideal with current := next }

def run (ideal : Ideal ι) (steps : List (Step ι σ)) : Ideal ι :=
  steps.foldl step ideal

end Ideal

end

/-- **The invariant.** The hart is ready to trap into the frame of the context that runs, and runs
it with the settings of that frame. Its status word is the one that a switch leaves, so that the
next trap will save the floating-point registers. No frame has other settings than it had at first.
-/
structure Fit (address : ι → Word) (first : ι → Frame) (shared : Shared ι σ) : Prop where
  ready : shared.hart.Ready (address shared.current)
  status : shared.hart.csr.mstatus = Mstatus.resumed
  interrupts : shared.hart.csr.mie = Mie.context
  mode : shared.hart.mode = (first shared.current).targetMode
  satp : shared.hart.csr.satp = (first shared.current).satp
  settings : ∀ i, (first i).SameSettings (shared.frames i)

/-- A shared hart that does for its contexts what an ideal one would: the context that runs finds
its own registers on the hart, and those of all others wait in their frames. -/
structure Represents (address : ι → Word) (first : ι → Frame) (shared : Shared ι σ)
    (ideal : Ideal ι) : Prop extends Fit address first shared where
  current : shared.current = ideal.current
  running : shared.hart.userState = ideal.contexts ideal.current
  waiting : ∀ i, i ≠ ideal.current → (shared.frames i).userState = ideal.contexts i

/-! ### One step -/

/-- A trap whose handler only watches saves the context that ran, and does nothing else to it. -/
theorem takeTrap_watching [KernelImage] {hart : Hart} {address : Word}
    (h : hart.Ready address) (cause tval : Word) (frame : Frame)
    (watch : TrapInfo → Frame → σ → σ) (world : σ) :
    hart.takeTrap cause tval address frame (.watching watch) world =
      { result := .ok (hart.infoOfTrap cause tval)
        hart := hart.resumeFrom cause tval hart.pc (hart.captureInto frame)
        frame := hart.captureInto frame
        world := watch (hart.infoOfTrap cause tval) (hart.captureInto frame) world } :=
  Hart.takeTrap_of_ready h ..

variable {address : ι → Word} {first : ι → Frame}

theorem Fit.dirty {shared : Shared ι σ} (h : Fit address first shared) :
    shared.hart.csr.mstatus.floatDirty = true := by
  rw [h.status]
  decide

/-- The machine once a trap whose handler only watches has saved the context that ran. -/
def Shared.save [KernelImage] [DecidableEq ι] (shared : Shared ι σ) (cause tval : Word)
    (watch : TrapInfo → Frame → σ → σ) : Machine ι σ :=
  let saved := shared.hart.captureInto (shared.frames shared.current)
  { hart := shared.hart.resumeFrom cause tval shared.hart.pc saved
    frames := Function.update shared.frames shared.current saved
    world := watch (shared.hart.infoOfTrap cause tval) saved shared.world }

/-- A hart that has just left for a context is fit, whatever it was before. -/
theorem fit_switchTo {machine : Machine ι σ} (hid : machine.hart.csr.mhartid.toNat < maxHarts)
    (hsettings : ∀ i, (first i).SameSettings (machine.frames i)) (next : ι) :
    Fit address first { machine.switchTo address next with current := next } := by
  have htarget : (machine.frames next).targetMode = (first next).targetMode := by
    rw [Frame.targetMode, Frame.targetMode, (hsettings next).mode]
  refine ⟨Hart.ready_resumeContext hid _ _, ?_, ?_, ?_, ?_, hsettings⟩
  · simp only [Machine.switchTo, Hart.csr_resumeContext]
  · simp only [Machine.switchTo, Hart.csr_resumeContext]
  · simp only [Machine.switchTo, Hart.mode_resumeContext, htarget]
  · simp only [Machine.switchTo, Hart.csr_resumeContext, (hsettings next).satp]

theorem fit_runUser {shared : Shared ι σ} (h : Fit address first shared) (user : UserState) :
    Fit address first { shared.runUser user with current := shared.current } := by
  refine ⟨h.ready.of_csr_eq (Hart.csr_withUserState ..), ?_, ?_, ?_, ?_, h.settings⟩
  · simpa only [Machine.runUser, Hart.csr_withUserState] using h.status
  · simpa only [Machine.runUser, Hart.csr_withUserState] using h.interrupts
  · simpa only [Machine.runUser, Hart.mode_withUserState] using h.mode
  · simpa only [Machine.runUser, Hart.csr_withUserState] using h.satp

variable [DecidableEq ι]

/-- Right after a switch, the hart and the frame of the context that runs hold the same. -/
theorem ideal_switchTo (machine : Machine ι σ) (next : ι) :
    Shared.ideal { machine.switchTo address next with current := next } =
      { contexts := fun i => (machine.frames i).userState, current := next } := by
  have hcontexts := Function.update_eq_self next fun i => (machine.frames i).userState
  simp only [Shared.ideal, Machine.switchTo, Hart.userState_resumeContext, hcontexts]

/-- The view of a fit machine is what it represents. -/
theorem represents_of_ideal {shared : Shared ι σ} {ideal : Ideal ι}
    (h : Fit address first shared) (hideal : shared.ideal = ideal) :
    Represents address first shared ideal := by
  subst hideal
  refine ⟨h, rfl, ?_, ?_⟩
  · simp only [Shared.ideal, Function.update_self]
  · intro i hi
    have hne : i ≠ shared.current := hi
    simp only [Shared.ideal, Function.update_of_ne hne]

section

variable [KernelImage]

theorem step_preempt {shared : Shared ι σ} (h : Fit address first shared) (cause tval : Word)
    (watch : TrapInfo → Frame → σ → σ) (next : ι) :
    shared.step address (.preempt cause tval watch next) =
      .ok { (shared.save cause tval watch).switchTo address next with current := next } := by
  simp only [Shared.step, Machine.trapInto, takeTrap_watching h.ready]
  rfl

theorem settings_save {shared : Shared ι σ} (h : Fit address first shared) (cause tval : Word)
    (watch : TrapInfo → Frame → σ → σ) (i : ι) :
    (first i).SameSettings ((shared.save cause tval watch).frames i) := by
  by_cases hi : i = shared.current
  · subst hi
    simp only [Shared.save, Function.update_self]
    exact (h.settings shared.current).trans (Hart.sameSettings_captureInto _ _)
  · simpa only [Shared.save, Function.update_of_ne hi] using h.settings i

/-- The frame of the context that ran catches up with it, and the other frames are not touched. -/
theorem userState_save {shared : Shared ι σ} (h : Fit address first shared) (cause tval : Word)
    (watch : TrapInfo → Frame → σ → σ) (i : ι) :
    ((shared.save cause tval watch).frames i).userState = shared.ideal.contexts i := by
  by_cases hi : i = shared.current
  · subst hi
    simp only [Shared.save, Shared.ideal, Function.update_self]
    exact Hart.userState_captureInto _ _ h.dirty
  · simp only [Shared.save, Shared.ideal, Function.update_of_ne hi]

/-- **One step.** No step fails, and seen from the contexts it is a step of the ideal hart. -/
theorem step_refines {shared : Shared ι σ} (h : Fit address first shared) (step : Step ι σ) :
    ∃ after, shared.step address step = .ok after ∧
      Fit address first after ∧ after.ideal = shared.ideal.step step := by
  cases step with
  | run next =>
    refine ⟨_, rfl, fit_runUser h next, ?_⟩
    simp only [Shared.ideal, Machine.runUser, Hart.userState_withUserState, Ideal.step,
      Function.update_idem]
  | preempt cause tval watch next =>
    -- The trap saves the context that ran, and the switch forgets the hart that took it.
    have hid : (shared.save cause tval watch).hart.csr.mhartid.toNat < maxHarts := by
      simpa only [Shared.save, Hart.resumeFrom] using h.ready.id
    have hcontexts : (fun i => ((shared.save cause tval watch).frames i).userState) =
        shared.ideal.contexts := funext (userState_save h cause tval watch)
    refine ⟨_, step_preempt h cause tval watch next,
      fit_switchTo hid (settings_save h cause tval watch) next, ?_⟩
    rw [ideal_switchTo, hcontexts]
    rfl

/-! ### Whole runs -/

theorem run_fit {shared : Shared ι σ} (h : Fit address first shared) (steps : List (Step ι σ)) :
    ∃ after, shared.run address steps = .ok after ∧
      Fit address first after ∧ after.ideal = shared.ideal.run steps := by
  induction steps generalizing shared with
  | nil => exact ⟨shared, rfl, h, rfl⟩
  | cons step rest ih =>
    obtain ⟨next, hstep, hnext, hideal⟩ := step_refines h step
    obtain ⟨after, hrun, hafter, hideal'⟩ := ih hnext
    refine ⟨after, ?_, hafter, ?_⟩
    · rw [Shared.run, List.foldlM_cons, hstep]
      exact hrun
    · rw [hideal', hideal]
      rfl

/-- **Time sharing is not seen.** A hart that the kernel runs, in any state, leaves for one of any
number of contexts. Then the contexts run and are preempted in any order. No trap fails, and after
every step each context has the registers that it would have on an ideal hart. -/
theorem run_refines_ideal (address : ι → Word) (machine : Machine ι σ)
    (hid : machine.hart.csr.mhartid.toNat < maxHarts) (first : ι) (steps : List (Step ι σ)) :
    ∃ after, (Shared.start address machine first).run address steps = .ok after ∧
      Represents address machine.frames after ((Ideal.start machine.frames first).run steps) := by
  have hstart : Fit address machine.frames (Shared.start address machine first) :=
    fit_switchTo hid (fun i => .refl (machine.frames i)) first
  obtain ⟨after, hrun, hafter, hideal⟩ := run_fit hstart steps
  have hfirst : (Shared.start address machine first).ideal = Ideal.start machine.frames first :=
    ideal_switchTo machine first
  rw [hfirst] at hideal
  exact ⟨after, hrun, represents_of_ideal hafter hideal⟩

end

open KernelImage in
/-- Two contexts take turns, and each finds on its return what it left. -/
theorem run_refines_ideal_two :
    let left : UserState := { x := Vector.replicate 31 1, f := .zeroed, pc := 0x4000 }
    let right : UserState :=
      { x := Vector.replicate 31 2, f := Vector.replicate 32 3, pc := 0x5000 }
    let machine : Machine Bool Unit :=
      { hart := Hart.reset 3
        frames := fun i => { Frame.zeroed with mode := if i then 0 else 3 }
        world := () }
    let address : Bool → Word := fun i => if i then 0x80400230 else 0x80400000
    let tick : Bool → Step Bool Unit :=
      .preempt (Cause.interruptFlag ||| Cause.machineTimer) 0 fun _ _ _ => ()
    machine.hart.csr.mhartid.toNat < maxHarts ∧
      ∃ after,
        (Shared.start address machine true).run address
          [.run left, tick false, .run right, tick true] = .ok after ∧
        after.hart.userState = left ∧ (after.frames false).userState = right ∧
        after.hart.mode = .user ∧ after.hart.csr.mscratch = 0x80400230 := by
  intro left right machine address tick
  have hid : machine.hart.csr.mhartid.toNat < maxHarts := by decide
  obtain ⟨after, hrun, h⟩ := run_refines_ideal address machine hid true
    [.run left, tick false, .run right, tick true]
  have hcurrent : after.current = true := h.current
  refine ⟨hid, after, hrun, h.running, h.waiting false Bool.false_ne_true, ?_, ?_⟩
  · rw [h.mode, hcurrent]
    decide
  · rw [h.ready.scratch, hcurrent]
    rfl

end TimeSharing

end HartKernel
