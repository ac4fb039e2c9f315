import HartKernel.Proofs.Hart.UserState
import HartKernel.Proofs.Kernel.Interrupts

/-!
# Interrupts are not seen

A context runs on a hart, one deterministic step after another, and now and then an interrupt comes
in between that the kernel's handler serves, whatever locks are held at that time and whatever the
clock reads. `interrupts_transparent` compares such a run with the run without its interrupts: the
context cannot tell them apart, and nothing else can beyond what interrupts are there to change.

What a trap leaves behind on its hart is forgotten by `Hart.forgetTrap`. The two runs have different
lengths, and `Unseen` relates them at every point: their harts are equal up to `forgetTrap`, which
an interrupt does not change (`forgetTrap_resumeFrom_captureInto`) and of which the context's step
is a function (`forgetTrap_withUserState`).
-/

namespace HartKernel

namespace Hart

/-- The hart without what its last trap left behind: the registers about the trap, the three bits of
the status word that a trap and its return rewrite, and the note of the handler's stack. -/
def forgetTrap (hart : Hart) : Hart :=
  { hart with
    csr :=
      { hart.csr with
        mstatus := hart.csr.mstatus.afterTrap
        mepc := 0
        mcause := 0
        mtval := 0 }
    handlerStack := none }

/-- Two harts that their contexts cannot tell apart. -/
structure SameView (a b : Hart) : Prop where
  read : ∀ r, b.read r = a.read r
  f : b.f = a.f
  pc : b.pc = a.pc
  mode : b.mode = a.mode
  satp : b.csr.satp = a.csr.satp
  mie : b.csr.mie = a.csr.mie
  mscratch : b.csr.mscratch = a.csr.mscratch
  /-- Interrupts are enabled on both or on neither. -/
  enabled : Flags.contains b.csr.mstatus Mstatus.mie = Flags.contains a.csr.mstatus Mstatus.mie
  floatStatus : b.csr.mstatus.floatStatus = a.csr.mstatus.floatStatus

variable {a b : Hart}

/-- What two harts with the same forgotten traps have in common of their control registers. -/
theorem csr_of_forgetTrap_eq (h : b.forgetTrap = a.forgetTrap) :
    b.csr.mstatus.afterTrap = a.csr.mstatus.afterTrap ∧ b.csr.mscratch = a.csr.mscratch ∧
      b.csr.mtvec = a.csr.mtvec ∧ b.csr.mie = a.csr.mie ∧ b.csr.satp = a.csr.satp ∧
      b.csr.mhartid = a.csr.mhartid := by
  have hcsr := congrArg Hart.csr h
  simp only [forgetTrap, ControlRegisters.mk.injEq] at hcsr
  obtain ⟨hstatus, -, -, -, hmscratch, hmtvec, hmie, hsatp, hid, -, -⟩ := hcsr
  exact ⟨hstatus, hmscratch, hmtvec, hmie, hsatp, hid⟩

theorem sameView_of_forgetTrap_eq (h : b.forgetTrap = a.forgetTrap) : a.SameView b := by
  obtain ⟨hstatus, hmscratch, -, hmie, hsatp, -⟩ := csr_of_forgetTrap_eq h
  have hx : b.x = a.x := by simpa only [forgetTrap] using congrArg Hart.x h
  -- MIE and FS are none of the bits that are forgotten.
  rw [Mstatus.afterTrap_eq_iff] at hstatus
  refine ⟨?_, ?_, ?_, ?_, hsatp, hmie, hmscratch, ?_, ?_⟩
  · intro r
    rw [Hart.read, Hart.read, hx]
  · simpa only [forgetTrap] using congrArg Hart.f h
  · simpa only [forgetTrap] using congrArg Hart.pc h
  · simpa only [forgetTrap] using congrArg Hart.mode h
  · rw [Mstatus.mie_eq_twoPow, Flags.contains_twoPow _ (by omega),
      Flags.contains_twoPow _ (by omega)]
    exact hstatus 3 (by omega) (by omega) (by omega)
  · apply Mstatus.floatStatus_congr
    · exact hstatus 13 (by omega) (by omega) (by omega)
    · exact hstatus 14 (by omega) (by omega) (by omega)

/-- A hart and the same hart after a trap can take the same traps. -/
theorem ready_of_forgetTrap_eq {address : Word} (h : b.forgetTrap = a.forgetTrap)
    (ha : a.Ready address) : b.Ready address := by
  obtain ⟨-, hmscratch, hmtvec, -, -, hid⟩ := csr_of_forgetTrap_eq h
  refine ⟨?_, ?_, ?_⟩
  · rw [hmtvec, ha.vector]
  · rw [hmscratch, ha.scratch]
  · rw [hid]
    exact ha.id

/-- The trap of a handler that only watches is forgotten completely. -/
theorem forgetTrap_resumeFrom_captureInto [KernelImage] (hart : Hart) (cause tval : Word)
    (frame : Frame) :
    (hart.resumeFrom cause tval hart.pc (hart.captureInto frame)).forgetTrap = hart.forgetTrap := by
  rw [resumeFrom_captureInto]
  simp only [forgetTrap, Mstatus.afterTrap_afterTrap]

theorem userState_forgetTrap (hart : Hart) : hart.forgetTrap.userState = hart.userState := by
  simp only [forgetTrap, userState]

/-- What the context does next does not depend on past traps. -/
theorem forgetTrap_withUserState (hart : Hart) (user : UserState) :
    (hart.withUserState user).forgetTrap = hart.forgetTrap.withUserState user := by
  simp only [forgetTrap, withUserState, restore]

end Hart

namespace Interruption

/-- A hart, the frame that it traps into, and the world that it shares. -/
structure State where
  hart : Hart
  frame : Frame
  world : World

/-- What happens while a context runs. -/
inductive Event where
  /-- The context takes its next step. -/
  | step
  /-- An interrupt arrives at the hart. -/
  | interrupt (interrupt : Kernel.Interrupt) (tval : Word)
  /-- Other harts take or release the locks of the diagnostics. -/
  | hold (last history : Bool)
  /-- Time passes. -/
  | clock (mtime : Word)

namespace Event

def isInterrupt : Event → Bool
  | interrupt _ _ => true
  | _ => false

end Event

section KernelImage

variable [KernelImage]

namespace State

/-- Lets an event happen. The step of the context is a function of what the context sees. -/
def apply (address : Word) (user : UserState → UserState) (state : State) :
    Event → Except Stop State
  | .step => .ok { state with hart := state.hart.withUserState (user state.hart.userState) }
  | .interrupt interrupt tval => do
    let outcome := state.hart.takeTrap interrupt.cause tval address state.frame Kernel.trapHandler
      state.world
    let _ ← outcome.result
    return { hart := outcome.hart, frame := outcome.frame, world := outcome.world }
  | .hold last history =>
    .ok { state with world.diagnostics := state.world.diagnostics.hold last history }
  | .clock mtime => .ok { state with world.mtime := mtime }

/-- Lets events happen one after another, up to the first that fails. -/
def run (address : Word) (user : UserState → UserState) (state : State) (events : List Event) :
    Except Stop State :=
  events.foldlM (apply address user) state

end State

/-- **The relation between the two runs.** The hart of the quiet run can take a trap, so that the
other hart can, and what is different between the runs is what interrupts leave behind. -/
structure Unseen (address id : Word) (quiet noisy : State) : Prop where
  ready : quiet.hart.Ready address
  hartId : quiet.hart.csr.mhartid = id
  hart : noisy.hart.forgetTrap = quiet.hart.forgetTrap
  frame : quiet.frame.SameSettings noisy.frame
  world : quiet.world.Served id noisy.world

variable {address id : Word} {quiet noisy : State}

/-! ### One event -/

/-- An interrupt succeeds, and what it changes is forgotten. -/
theorem apply_interrupt (h : Unseen address id quiet noisy) (user : UserState → UserState)
    (interrupt : Kernel.Interrupt) (tval : Word) :
    ∃ after, noisy.apply address user (.interrupt interrupt tval) = .ok after ∧
      Unseen address id quiet after := by
  have hready := Hart.ready_of_forgetTrap_eq h.hart h.ready
  have hid : noisy.hart.csr.mhartid = id := by
    obtain ⟨-, -, -, -, -, hid⟩ := Hart.csr_of_forgetTrap_eq h.hart
    rw [hid, h.hartId]
  -- What the handler is told carries the cause and the hart's own identifier.
  have hcause : (noisy.hart.infoOfTrap interrupt.cause tval).cause = interrupt.cause := rfl
  have hname : (noisy.hart.infoOfTrap interrupt.cause tval).hart = noisy.hart.csr.mhartid := rfl
  obtain ⟨world, hreply, hserved⟩ := Kernel.trapHandler_interrupt interrupt hcause
    (hname ▸ hready.id) (noisy.hart.captureInto noisy.frame) noisy.world
  rw [hname, hid] at hserved
  have htrap := Hart.takeTrap_of_ready hready interrupt.cause tval noisy.frame Kernel.trapHandler
    noisy.world
  rw [hreply] at htrap
  refine ⟨⟨noisy.hart.resumeFrom interrupt.cause tval noisy.hart.pc
    (noisy.hart.captureInto noisy.frame), noisy.hart.captureInto noisy.frame, world⟩, ?_, ?_⟩
  · simp only [State.apply, htrap]
    rfl
  · refine ⟨h.ready, h.hartId, ?_, ?_, h.world.trans hserved⟩
    · rw [Hart.forgetTrap_resumeFrom_captureInto, h.hart]
    · exact h.frame.trans (Hart.sameSettings_captureInto _ _)

/-- Any other event succeeds in both runs and has the same effect on them. -/
theorem apply_other (h : Unseen address id quiet noisy) (user : UserState → UserState)
    {event : Event} (hevent : event.isInterrupt = false) :
    ∃ quiet' noisy', quiet.apply address user event = .ok quiet' ∧
      noisy.apply address user event = .ok noisy' ∧ Unseen address id quiet' noisy' := by
  cases event with
  | interrupt interrupt tval => cases hevent
  | step =>
    -- Both contexts see the same, and so take the same step.
    have huser : noisy.hart.userState = quiet.hart.userState := by
      rw [← Hart.userState_forgetTrap, h.hart, Hart.userState_forgetTrap]
    refine ⟨_, _, rfl, rfl, h.ready.of_csr_eq (Hart.csr_withUserState ..), ?_, ?_, h.frame, h.world⟩
    · rw [Hart.csr_withUserState, h.hartId]
    · rw [Hart.forgetTrap_withUserState, Hart.forgetTrap_withUserState, h.hart, huser]
  | hold last history =>
    obtain ⟨hmtime, -, -, htable, honline, hcontrol, hstores⟩ := h.world
    exact ⟨_, _, rfl, rfl, h.ready, h.hartId, h.hart, h.frame,
      ⟨hmtime, rfl, rfl, htable, honline, hcontrol, hstores⟩⟩
  | clock mtime =>
    obtain ⟨-, hlast, hhistory, htable, honline, hcontrol, hstores⟩ := h.world
    exact ⟨_, _, rfl, rfl, h.ready, h.hartId, h.hart, h.frame,
      ⟨rfl, hlast, hhistory, htable, honline, hcontrol, hstores⟩⟩

/-! ### Whole runs -/

theorem run_cons (user : UserState → UserState) {state next : State} {event : Event}
    (h : state.apply address user event = .ok next) (rest : List Event) :
    state.run address user (event :: rest) = next.run address user rest := by
  rw [State.run, List.foldlM_cons, h]
  rfl

/-- The same events with the interrupts left out. -/
def withoutInterrupts (events : List Event) : List Event :=
  events.filter fun event => !event.isInterrupt

theorem run_unseen (h : Unseen address id quiet noisy) (user : UserState → UserState)
    (events : List Event) :
    ∃ quiet' noisy', quiet.run address user (withoutInterrupts events) = .ok quiet' ∧
      noisy.run address user events = .ok noisy' ∧ Unseen address id quiet' noisy' := by
  -- At an interrupt only one of the runs moves, so both are generalized.
  induction events generalizing quiet noisy with
  | nil => exact ⟨quiet, noisy, rfl, rfl, h⟩
  | cons event rest ih =>
    cases hevent : event.isInterrupt with
    | true =>
      cases event with
      | interrupt interrupt tval =>
        obtain ⟨after, hnoisy, hafter⟩ := apply_interrupt h user interrupt tval
        obtain ⟨quiet', noisy', hquiet', hnoisy', hlast⟩ := ih hafter
        exact ⟨quiet', noisy', hquiet', (run_cons user hnoisy rest).trans hnoisy', hlast⟩
      | step => cases hevent
      | hold last history => cases hevent
      | clock mtime => cases hevent
    | false =>
      obtain ⟨q, n, hquiet, hnoisy, hafter⟩ := apply_other h user hevent
      obtain ⟨quiet', noisy', hquiet', hnoisy', hlast⟩ := ih hafter
      have hkeep : withoutInterrupts (event :: rest) = event :: withoutInterrupts rest := by
        rw [withoutInterrupts, List.filter_cons_of_pos (by rw [hevent]; rfl), withoutInterrupts]
      refine ⟨quiet', noisy', ?_, (run_cons user hnoisy rest).trans hnoisy', hlast⟩
      rw [hkeep]
      exact (run_cons user hquiet _).trans hquiet'

/-- **Interrupts are not seen.** A run with interrupts and the same run without them both succeed,
and the context cannot tell the harts apart that they end on. The harts differ only in what a trap
leaves behind, the frames in the context that was saved, and the worlds in what is known about traps
and in stores that served the interrupts, none of which reached a register of another hart. -/
theorem interrupts_transparent {hart : Hart} {address : Word} (h : hart.Ready address)
    (user : UserState → UserState) (frame : Frame) (world : World) (events : List Event) :
    ∃ quiet noisy made,
      State.run address user { hart, frame, world } (withoutInterrupts events) = .ok quiet ∧
      State.run address user { hart, frame, world } events = .ok noisy ∧
      quiet.hart.SameView noisy.hart ∧
      noisy.hart.forgetTrap = quiet.hart.forgetTrap ∧
      quiet.frame.SameSettings noisy.frame ∧
      quiet.world.Served hart.csr.mhartid noisy.world ∧
      noisy.world.stores = quiet.world.stores ++ made ∧
      ∀ store ∈ made, Kernel.ServiceStore hart.csr.mhartid store ∧
        ∀ other : Word, other.toNat < Clint.hartLimit → other ≠ hart.csr.mhartid →
          ∀ byte, store.Touches byte → ¬Clint.Owns other byte := by
  have hstart : Unseen address hart.csr.mhartid ⟨hart, frame, world⟩ ⟨hart, frame, world⟩ :=
    ⟨h, rfl, rfl, .refl frame, .refl _ world⟩
  obtain ⟨quiet, noisy, hquiet, hnoisy, hend⟩ := run_unseen hstart user events
  obtain ⟨made, hstores, hservice⟩ := hend.world.stores
  refine ⟨quiet, noisy, made, hquiet, hnoisy, Hart.sameView_of_forgetTrap_eq hend.hart, hend.hart,
    hend.frame, hend.world, hstores, ?_⟩
  intro store hstore
  refine ⟨hservice store hstore, ?_⟩
  intro other hother hne byte hbyte
  exact (hservice store hstore).spares h.id hother hne hbyte

end KernelImage

open KernelImage in
/-- A context advances by one instruction at a time, although both interrupts arrive in between, the
second while the diagnostics are locked. -/
theorem interrupts_transparent_locked :
    let hart : Hart := { (Hart.reset 1).activate 0x80400000 with mode := .user, pc := 0x4000 }
    let user : UserState → UserState := fun seen => { seen with pc := seen.pc + 4 }
    let events : List Event :=
      [.step, .interrupt .soft 0, .hold true true, .interrupt .timer 0, .step]
    hart.Ready 0x80400000 ∧
      ∃ noisy, State.run 0x80400000 user ⟨hart, .zeroed, .fresh⟩ events = .ok noisy ∧
        noisy.hart.pc = 0x4008 ∧ noisy.hart.mode = .user := by
  intro hart user events
  have hready : hart.Ready 0x80400000 := ⟨rfl, rfl, by decide⟩
  obtain ⟨quiet, noisy, made, hquiet, hnoisy, hview, -⟩ :=
    interrupts_transparent hready user .zeroed .fresh events
  have hend : Except.ok (ε := Stop) quiet.hart =
      .ok ((hart.withUserState (user hart.userState)).withUserState
        (user (hart.withUserState (user hart.userState)).userState)) := by
    rw [← Except.map_ok, ← hquiet]
    rfl
  rw [Except.ok.injEq] at hend
  refine ⟨hready, noisy, hnoisy, ?_, ?_⟩
  · rw [hview.pc, hend]
    rfl
  · rw [hview.mode, hend]
    rfl

end Interruption

end HartKernel
