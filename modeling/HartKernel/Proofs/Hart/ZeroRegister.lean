import HartKernel.Proofs.Hart.ZeroSlot
import Mathlib.Logic.Function.Basic

/-!
# Register 0 tells nothing

An `Ensemble` is any number of harts on any number of frames. Two ensembles that differ in the slots
of register 0 only are alike, and nothing that is done with them tells them apart: every operation
ends alike, calls the handlers alike and leaves ensembles that are alike (`alike_perform`), and so
does every run (`alike_run`). What is in a hart's slot stays there (`x_zero_perform`), and a handler
finds zero in the slot of the frame that it is called with (`zero_of_mem_calls_perform`).

Handlers may look at all frames, not only at the one they are called with, as long as they do not
tell frames apart by the slot (`Operation.Blind`).
-/

namespace HartKernel

variable {κ ι σ : Type}

/-- What handlers see beside the frame that they are called with. -/
structure FrameStore (ι σ : Type) where
  frames : ι → Frame
  world : σ

/-- The frames of two stores are equal but for the slots of register 0. -/
structure FrameStore.SameButZero (a b : FrameStore ι σ) : Prop where
  frames : ∀ i, (a.frames i).SameButZero (b.frames i)
  world : b.world = a.world

/-- Harts on the frames of one store. -/
structure Ensemble (κ ι σ : Type) where
  harts : κ → Hart
  store : FrameStore ι σ

namespace Ensemble

/-- Two ensembles are equal but for the slots of register 0. -/
structure SameButZero (a b : Ensemble κ ι σ) : Prop where
  harts : ∀ k, (a.harts k).SameButZero (b.harts k)
  store : a.store.SameButZero b.store

/-- What can be done with an ensemble. -/
inductive Operation (κ ι σ : Type) where
  | boot (hart : κ) (symbols : Boot.Symbols) (bss : Array Word)
  /-- The context on a hart replaces what it sees. -/
  | runUser (hart : κ) (user : UserState)
  | perform (hart : κ) (frame : ι) (routine : Routine (FrameStore ι σ))
  /-- Runs the trap vector alone. -/
  | serve (hart : κ) (frame : ι) (handler : Handler (FrameStore ι σ))

/-- The handler of an operation, if it has one, does not tell frames apart by the slot of
register 0. -/
def Operation.Blind : Operation κ ι σ → Prop
  | boot .. => True
  | runUser .. => True
  | perform _ _ routine => routine.Respects FrameStore.SameButZero
  | serve _ _ handler => handler.Respects FrameStore.SameButZero

/-- What is seen of an operation from outside. -/
structure Event where
  result : Except Stop Routine.Answer
  calls : List Call

variable [DecidableEq κ]

/-- Replaces a hart. -/
def withHart (ensemble : Ensemble κ ι σ) (k : κ) (hart : Hart) : Ensemble κ ι σ :=
  { ensemble with harts := Function.update ensemble.harts k hart }

variable [DecidableEq ι]

/-- The ensemble with what a routine has left of a hart and of a frame, and in the world. The frame
that a handler was called with is the one that it hands back. -/
def keep (ensemble : Ensemble κ ι σ) (k : κ) (i : ι)
    (observed : Routine.Observed (FrameStore ι σ)) : Event × Ensemble κ ι σ :=
  ({ result := observed.result, calls := observed.calls },
    { harts := Function.update ensemble.harts k observed.hart
      store :=
        { frames := Function.update observed.world.frames i observed.frame
          world := observed.world.world } })

variable {a b : Ensemble κ ι σ}

omit [DecidableEq ι] in
theorem sameButZero_withHart (h : a.SameButZero b) (k : κ) {hart hart' : Hart}
    (hhart : hart.SameButZero hart') : (a.withHart k hart).SameButZero (b.withHart k hart') := by
  refine ⟨?_, h.store⟩
  intro j
  by_cases hj : j = k
  · subst hj
    simpa [withHart] using hhart
  · simpa [withHart, hj] using h.harts j

theorem sameButZero_keep (h : a.SameButZero b) (k : κ) (i : ι) {value : Word}
    {observed observed' : Routine.Observed (FrameStore ι σ)}
    (hobserved : observed.Alike FrameStore.SameButZero value observed') :
    (b.keep k i observed').1 = (a.keep k i observed).1 ∧
      (a.keep k i observed).2.SameButZero (b.keep k i observed').2 := by
  obtain ⟨hresult, hhart, hframe, hworld, hcalls⟩ := hobserved
  refine ⟨?_, ?_, ?_, hworld.world⟩
  · simp only [keep, hresult, hcalls]
  · exact (sameButZero_withHart h k ⟨value, hhart⟩).harts
  · intro j
    by_cases hj : j = i
    · subst hj
      simpa [keep] using hframe
    · simpa [keep, hj] using hworld.frames j

section KernelImage

variable [KernelImage] {address : ι → Word}

/-- Does an operation. The address of every frame is fixed. -/
def perform (address : ι → Word) (ensemble : Ensemble κ ι σ) :
    Operation κ ι σ → Event × Ensemble κ ι σ
  | .boot k symbols bss =>
    let booted := (ensemble.harts k).bootOrFault symbols bss
    ({ result := booted.1, calls := [] }, ensemble.withHart k booted.2)
  | .runUser k user =>
    ({ result := .ok .done, calls := [] },
      ensemble.withHart k ((ensemble.harts k).withUserState user))
  | .perform k i routine =>
    ensemble.keep k i
      (routine.perform (ensemble.harts k) (address i) (ensemble.store.frames i) ensemble.store)
  | .serve k i handler =>
    ensemble.keep k i
      (Routine.serve (ensemble.harts k) (address i) (ensemble.store.frames i) handler
        ensemble.store)

/-- Does one operation after the other, also if some of them end in errors. -/
def run (address : ι → Word) : Ensemble κ ι σ → List (Operation κ ι σ) → List Event × Ensemble κ ι σ
  | ensemble, [] => ([], ensemble)
  | ensemble, operation :: rest =>
    let done := ensemble.perform address operation
    let after := run address done.2 rest
    (done.1 :: after.1, after.2)

/-! ### One operation -/

/-- **One operation.** -/
theorem alike_perform (address : ι → Word) (h : a.SameButZero b) {operation : Operation κ ι σ}
    (hblind : operation.Blind) :
    (b.perform address operation).1 = (a.perform address operation).1 ∧
      (a.perform address operation).2.SameButZero (b.perform address operation).2 := by
  cases operation with
  | boot k symbols bss =>
    obtain ⟨value, hvalue⟩ := h.harts k
    simp only [perform, hvalue, Hart.bootOrFault_withZeroSlot]
    exact ⟨trivial, sameButZero_withHart h k ⟨value, rfl⟩⟩
  | runUser k user =>
    obtain ⟨value, hvalue⟩ := h.harts k
    simp only [perform, hvalue, Hart.withUserState_withZeroSlot]
    exact ⟨trivial, sameButZero_withHart h k ⟨value, rfl⟩⟩
  | perform k i routine =>
    obtain ⟨value, hvalue⟩ := h.harts k
    simp only [perform, hvalue]
    exact sameButZero_keep h k i
      (Routine.alike_perform hblind h.store (h.store.frames i) (a.harts k) value (address i))
  | serve k i handler =>
    obtain ⟨value, hvalue⟩ := h.harts k
    simp only [perform, hvalue]
    exact sameButZero_keep h k i
      (Routine.alike_serve hblind h.store (h.store.frames i) (a.harts k) value (address i))

/-- What is in a hart's slot stays there, whatever the handlers do. -/
theorem x_zero_perform (ensemble : Ensemble κ ι σ) (operation : Operation κ ι σ) (j : κ) :
    ((ensemble.perform address operation).2.harts j).x[Register.zero] =
      (ensemble.harts j).x[Register.zero] := by
  -- An operation replaces one hart at most, by one with the same slot.
  have hupdate (k : κ) {hart : Hart}
      (h : hart.x[Register.zero] = (ensemble.harts k).x[Register.zero]) :
      (Function.update ensemble.harts k hart j).x[Register.zero] =
        (ensemble.harts j).x[Register.zero] := by
    by_cases hj : j = k
    · subst hj
      rw [Function.update_self, h]
    · rw [Function.update_of_ne hj]
  cases operation with
  | boot k symbols bss => exact hupdate k (Hart.x_zero_bootOrFault ..)
  | runUser k user => exact hupdate k (Hart.x_zero_withUserState ..)
  | perform k i routine => exact hupdate k (Routine.x_zero_perform ..)
  | serve k i handler => exact hupdate k (Routine.x_zero_serve ..)

/-- A handler finds zero in the slot of the frame that it is called with. -/
theorem zero_of_mem_calls_perform {ensemble : Ensemble κ ι σ} {operation : Operation κ ι σ}
    {call : Call} (h : call ∈ (ensemble.perform address operation).1.calls) :
    call.frame.regs[Register.zero] = 0 := by
  cases operation with
  | boot k symbols bss => cases h
  | runUser k user => cases h
  | perform k i routine => exact Routine.zero_of_mem_calls_perform h
  | serve k i handler => exact Routine.zero_of_mem_calls_serve h

/-! ### Runs -/

theorem alike_run (h : a.SameButZero b) {operations : List (Operation κ ι σ)}
    (hblind : ∀ operation ∈ operations, operation.Blind) :
    (b.run address operations).1 = (a.run address operations).1 ∧
      (a.run address operations).2.SameButZero (b.run address operations).2 := by
  induction operations generalizing a b with
  | nil => exact ⟨rfl, h⟩
  | cons operation rest ih =>
    obtain ⟨hfirst, hrest⟩ := List.forall_mem_cons.mp hblind
    obtain ⟨hevent, hnext⟩ := alike_perform address h hfirst
    obtain ⟨hevents, hafter⟩ := ih hnext hrest
    simp only [run, hevent, hevents]
    exact ⟨trivial, hafter⟩

theorem x_zero_run (ensemble : Ensemble κ ι σ) (operations : List (Operation κ ι σ)) (j : κ) :
    ((ensemble.run address operations).2.harts j).x[Register.zero] =
      (ensemble.harts j).x[Register.zero] := by
  induction operations generalizing ensemble with
  | nil => rfl
  | cons operation rest ih => exact (ih _).trans (x_zero_perform ensemble operation j)

theorem zero_of_mem_calls_run {ensemble : Ensemble κ ι σ} {operations : List (Operation κ ι σ)}
    {event : Event} (h : event ∈ (ensemble.run address operations).1) {call : Call}
    (hcall : call ∈ event.calls) : call.frame.regs[Register.zero] = 0 := by
  induction operations generalizing ensemble with
  | nil => cases h
  | cons operation rest ih =>
    rcases List.mem_cons.mp h with rfl | hrest
    · exact zero_of_mem_calls_perform hcall
    · exact ih hrest

/-- **Register 0 tells nothing.** Whatever is done with two ensembles that differ in the slots of
register 0 only, with handlers that do not look into the slots, ends with the same results and
errors and with the same calls of the handlers, and leaves two ensembles that differ in the slots
only. With any handlers, every call finds zero in the slot of its frame, and the slots of the harts
are as they were. Register 0 of a frame reads as zero in any case. -/
theorem zero_register_unobserved (address : ι → Word) :
    (∀ a b : Ensemble κ ι σ, a.SameButZero b → ∀ operations : List (Operation κ ι σ),
      (∀ operation ∈ operations, operation.Blind) →
        (b.run address operations).1 = (a.run address operations).1 ∧
          (a.run address operations).2.SameButZero (b.run address operations).2) ∧
    (∀ (ensemble : Ensemble κ ι σ) (operations : List (Operation κ ι σ)),
      (∀ event ∈ (ensemble.run address operations).1, ∀ call ∈ event.calls,
        call.frame.regs[Register.zero] = 0) ∧
      ∀ j, ((ensemble.run address operations).2.harts j).x[Register.zero] =
        (ensemble.harts j).x[Register.zero]) ∧
    ∀ frame : Frame, frame.read 0 = .ok 0 := by
  refine ⟨?_, ?_, fun _ => rfl⟩
  · intro a b h operations hblind
    exact alike_run h hblind
  · intro ensemble operations
    refine ⟨?_, x_zero_run ensemble operations⟩
    intro event hevent call hcall
    exact zero_of_mem_calls_run hevent hcall

end KernelImage

open KernelImage in
/-- Two harts with 7 in their slots, and frames with 9 in theirs, beside the same with zeros. The
handler answers with a register of the other frame. -/
theorem zero_register_unobserved_two :
    let address : Bool → Word := fun i => if i then 0x80400230 else 0x80400000
    let handler : Handler (FrameStore Bool Nat) := fun _ frame store =>
      { resume := .ok 0x4000
        frame := frame.setResult (store.frames true).regs[Register.a1]
        world := { store with world := store.world + 1 } }
    let a : Ensemble Bool Bool Nat :=
      { harts := fun k => (Hart.reset (if k then 1 else 0)).activate (address false)
        store := { frames := fun _ => .zeroed, world := 0 } }
    let b : Ensemble Bool Bool Nat :=
      { harts := fun k => (a.harts k).withZeroSlot 7
        store := { frames := fun _ => Frame.zeroed.withZeroSlot 9, world := 0 } }
    let operations : List (Operation Bool Bool Nat) :=
      [.perform false false (.trap 3 0 handler), .serve true false handler,
        .perform true true .switchTo]
    a.SameButZero b ∧ (∀ operation ∈ operations, operation.Blind) ∧
      (b.run address operations).1 = (a.run address operations).1 ∧
      (a.run address operations).2.SameButZero (b.run address operations).2 ∧
      ((b.run address operations).2.harts true).x[Register.zero] = 7 := by
  intro address handler a b operations
  have hsame : a.SameButZero b := ⟨fun k => ⟨7, rfl⟩, fun i => ⟨9, rfl⟩, rfl⟩
  have hhandler : handler.Respects FrameStore.SameButZero := by
    intro info frame store store' hstore
    obtain ⟨slot, hslot⟩ := hstore.frames true
    have hanswer :
        (store'.frames true).regs[Register.a1] = (store.frames true).regs[Register.a1] := by
      rw [hslot]
      exact RegisterFile.getElem_withZeroSlot _ _ (by decide)
    refine ⟨rfl, ?_, hstore.frames, ?_⟩
    · simp only [handler, hanswer]
      exact .refl _
    · simp only [handler, hstore.world]
  have hblind : ∀ operation ∈ operations, operation.Blind := by
    simp only [operations, List.forall_mem_cons]
    exact ⟨hhandler, hhandler, trivial, List.forall_mem_nil _⟩
  obtain ⟨hruns, hkeeps, -⟩ := zero_register_unobserved (κ := Bool) (σ := Nat) address
  obtain ⟨hevents, hafter⟩ := hruns a b hsame operations hblind
  obtain ⟨-, hslots⟩ := hkeeps b operations
  exact ⟨hsame, hblind, hevents, hafter, hslots true⟩

end Ensemble

end HartKernel
