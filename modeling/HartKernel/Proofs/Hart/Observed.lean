import HartKernel.Hart.Boot
import HartKernel.Proofs.Hart.AnyState

/-!
# Routines and what is seen of them

Everything that a hart can be told to do with a frame, in one type, and everything that comes of it
in another: the result, what is left of the hart, of the frame and of the world, and the calls of
the handler. The calls are noted by the handler itself (`Handler.noting`), so that they are those of
the very run that leaves the rest.

Whatever state the hart is in and however the routine ends, a trap calls its handler with what
`infoOfTrap` and `captureInto` tell of the interrupted hart and with nothing else
(`eq_of_mem_calls_takeTrap`). The vector alone takes the trap as it finds it
(`eq_of_mem_calls_serveTrap`).
-/

namespace HartKernel

/-- A call of a trap handler. -/
structure Call where
  info : TrapInfo
  frame : Frame

/-- The handler that notes how it was called, in order, and does the same in all else. -/
def Handler.noting {σ : Type} (handler : Handler σ) : Handler (σ × List Call) :=
  fun info frame noted =>
    let reply := handler info frame noted.1
    { resume := reply.resume
      frame := reply.frame
      world := (reply.world, noted.2 ++ [{ info, frame }]) }

/-- What a hart can be told to do with a frame. -/
inductive Routine (σ : Type) where
  /-- Makes the frame the active one. -/
  | activate
  /-- Leaves for the context in the frame. -/
  | switchTo
  | trap (cause tval : Word) (handler : Handler σ)
  | call (number : Word) (args : Vector Word 6) (handler : Handler σ)

namespace Routine

/-- What a hart answers. -/
inductive Answer where
  | done
  | trapped (info : TrapInfo)
  | returned (value : Word)
  | booted (landing : Boot.Landing) (bss : Array Word)

/-- What comes of a routine. -/
structure Observed (σ : Type) where
  result : Except Stop Answer
  hart : Hart
  frame : Frame
  world : σ
  calls : List Call

variable [KernelImage] {σ : Type}

/-- What comes of a routine whose handler has noted its calls. -/
def observe {α : Type} (answer : α → Answer) (outcome : Outcome (σ × List Call) α) : Observed σ :=
  { result := outcome.result.map answer
    hart := outcome.hart
    frame := outcome.frame
    world := outcome.world.1
    calls := outcome.world.2 }

/-- Does a routine on a hart, with the frame that lies at an address. -/
def perform (routine : Routine σ) (hart : Hart) (address : Word) (frame : Frame) (world : σ) :
    Observed σ :=
  match routine with
  | activate =>
    { result := .ok .done, hart := hart.activate address, frame, world, calls := [] }
  | switchTo =>
    { result := .ok .done, hart := hart.resumeContext address frame, frame, world, calls := [] }
  | trap cause tval handler =>
    observe .trapped (hart.takeTrap cause tval address frame handler.noting (world, []))
  | call number args handler =>
    observe .returned (hart.systemCall number args address frame handler.noting (world, []))

/-- Runs the trap vector on a hart as it is, without an entry into a trap. -/
def serve (hart : Hart) (address : Word) (frame : Frame) (handler : Handler σ) (world : σ) :
    Observed σ :=
  observe .trapped (hart.serveTrap address frame handler.noting (world, []))

end Routine

/-- Boots a hart and tells what is left of it also if there is no plan to be computed: it has come
as far as the look-up then. -/
def Hart.bootOrFault (hart : Hart) (symbols : Boot.Symbols) (bss : Array Word) :
    Except Stop Routine.Answer × Hart :=
  match hart.boot symbols bss with
  | .ok result => (.ok (.booted result.landing result.bss), result.hart)
  | .error reason => (.error (.panicked (.fault reason)), hart.openMemory symbols)

namespace Hart

/-! ### The calls of a handler -/

variable [KernelImage] {σ : Type} {hart : Hart} {address : Word} {frame : Frame}
  {handler : Handler σ} {world : σ}
  {call : Call}

/-- The vector calls its handler once or not at all. -/
theorem eq_of_mem_calls_serveTrap
    (h : call ∈ (hart.serveTrap address frame handler.noting (world, [])).world.2) :
    call = { info := hart.trapInfo, frame := hart.swapScratch.saveInto frame } := by
  have hinfo (found : hart.csr.mscratch = address) :
      hart.swapScratch.recoverScratch.trapInfo = hart.trapInfo := by
    rw [recoverScratch_swapScratch, trapInfo, csr_write]
    rfl
  unfold serveTrap at h
  dsimp only at h
  split at h
  · cases h
  · next hfound =>
    rw [hinfo (Decidable.of_not_not hfound)] at h
    -- The world tells of a call only if the stack of the trap could be computed.
    split at h
    · cases h
    · split at h <;> exact List.mem_singleton.mp h

theorem eq_of_mem_calls_takeTrap {cause tval : Word}
    (h : call ∈ (hart.takeTrap cause tval address frame handler.noting (world, [])).world.2) :
    call = { info := hart.infoOfTrap cause tval, frame := hart.captureInto frame } := by
  by_cases hvector : hart.csr.mtvec = vectorAddress
  · rw [takeTrap, acceptTrap_of_vector hvector] at h
    rw [eq_of_mem_calls_serveTrap h, saveInto_swapScratch_enterTrap]
    rfl
  · rw [takeTrap_of_noVector hvector] at h
    cases h

theorem eq_of_mem_calls_systemCall {number : Word} {args : Vector Word 6}
    (h : call ∈ (hart.systemCall number args address frame handler.noting (world, [])).world.2) :
    let prepared := (hart.placeArguments number args).shiftArguments
    call =
      { info := prepared.infoOfTrap (Cause.callFrom prepared.mode) 0
        frame := prepared.captureInto frame } := by
  intro prepared
  rw [(systemCall_from_takeTrap ..).2] at h
  exact eq_of_mem_calls_takeTrap h

end Hart

end HartKernel
