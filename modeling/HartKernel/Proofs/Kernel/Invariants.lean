import HartKernel.Kernel.Startup
import HartKernel.Proofs.Device.Uart
import HartKernel.Proofs.Hart.AnyState

/-!
# Where code ends, and what it keeps

Kernel code may return, park, leave for a context, be refused or panic, at any of its steps, and its
effects hold in each case. `Code.Ends` says of code that starts in certain states where it may end,
with one condition for the values that it returns and another for its exits. `ends_bind` is the rule
of sequence, and every step of code that the kernel is made of has a lemma. `Code.Keeps` is the case
of a property that holds before the code and wherever it ends.

The trap handler is code of a kind as well. Whatever the trap, it records it and makes stores, and
it changes nothing else of the world (`world_trapHandler`).
-/

namespace HartKernel

/-! ### Stores and nothing else -/

theorem World.frameTable_log (world : World) (level : LogLevel) (target : String)
    (message : Pieces) : (world.log level target message).frameTable = world.frameTable := by
  rw [log_eq_print, print_eq_store]
  rfl

theorem World.controlWrites_log (world : World) (level : LogLevel) (target : String)
    (message : Pieces) :
    (world.log level target message).controlWrites = world.controlWrites := by
  rw [log_eq_print, print_eq_store]
  rfl

theorem World.store_of_tryStore {world after : World} {store : Except Fault Store}
    (h : world.tryStore store = .ok after) : ∃ made, after = world.store made := by
  cases store with
  | error reason => cases h
  | ok store =>
    cases h
    exact ⟨[store], rfl⟩

/-! ### Handlers that keep to themselves -/

/-- The handler changes the world, but neither the table of active frames nor the control registers
of its hart. This is so for every handler that is a function of what the vector hands it, the words
about the trap and the frame, since the table is not among them and control registers are the
vector's business (`Handler.confined_ofFunction`), and also for the kernel's own handler, which
records traps and makes stores besides (`Kernel.confined_trapHandler`). -/
structure Handler.Confined (handler : Handler World) : Prop where
  frameTable : ∀ info frame world, (handler info frame world).world.frameTable = world.frameTable
  controlWrites : ∀ info frame world,
    (handler info frame world).world.controlWrites = world.controlWrites

/-- The handler that is a function of what the vector hands it. -/
def Handler.ofFunction {σ : Type} (f : TrapInfo → Frame → Except Panic Word × Frame) :
    Handler σ := fun info frame world =>
  { resume := (f info frame).1, frame := (f info frame).2, world }

theorem Handler.confined_ofFunction (f : TrapInfo → Frame → Except Panic Word × Frame) :
    (Handler.ofFunction f).Confined where
  frameTable _ _ _ := rfl
  controlWrites _ _ _ := rfl

/-- A routine changes the world by its handler only, and what the handler keeps is kept. -/
theorem Handler.Confined.of_world {handler : Handler World} (h : handler.Confined)
    {before after : World}
    (hworld : after = before ∨ ∃ info saved, after = (handler info saved before).world) :
    after.frameTable = before.frameTable ∧ after.controlWrites = before.controlWrites := by
  rcases hworld with rfl | ⟨info, saved, rfl⟩
  · exact ⟨rfl, rfl⟩
  · exact ⟨h.frameTable info saved before, h.controlWrites info saved before⟩

namespace Kernel

/-! ### The trap handler -/

theorem world_served (info : TrapInfo) (frame : Option Frame) (world : World)
    {store : Except Fault Store} :
    ∃ made, (served info frame world (world.tryStore store)).world = world.store made := by
  cases hstore : world.tryStore store with
  | error reason => exact ⟨[], (World.store_nil world).symm⟩
  | ok after => exact World.store_of_tryStore hstore

theorem world_unhandled (info : TrapInfo) (frame : Option Frame) (world : World) :
    ∃ made, (unhandled info frame world).world = world.store made := by
  unfold unhandled printUnhandled
  cases frame with
  | none => exact ⟨_, World.print_eq_store ..⟩
  | some frame =>
    dsimp only
    rw [World.write_eq_print (info.spells_writeDump frame), World.print_print]
    exact ⟨_, World.print_eq_store ..⟩

/-- The handler records the trap and makes stores. -/
theorem world_trapHandler (info : TrapInfo) (frame : Frame) (world : World) :
    ∃ made, (trapHandler info frame world).world = (world.recordTrap info).store made := by
  -- All branches act on the world in which the trap is recorded and traced.
  have htraced : ∃ made, (world.recordTrap info).print (traceLine info) =
      (world.recordTrap info).store made := ⟨_, World.print_eq_store ..⟩
  obtain ⟨traced, htraced⟩ := htraced
  suffices h : ∃ made, (trapHandler info frame world).world =
      ((world.recordTrap info).store traced).store made by
    obtain ⟨made, hmade⟩ := h
    exact ⟨traced ++ made, by rw [hmade, World.store_store]⟩
  have hnone (w : World) : ∃ made, w = w.store made := ⟨[], w.store_nil.symm⟩
  simp only [trapHandler, handleTrap, htraced]
  split
  · -- An interrupt.
    unfold handleInterrupt
    split
    · exact world_served ..
    · split
      · exact world_served ..
      · exact world_unhandled ..
  · -- An exception is a system call or not handled.
    split
    · exact hnone _
    · exact world_unhandled ..

theorem confined_trapHandler : Handler.Confined trapHandler where
  frameTable info frame world := by
    obtain ⟨made, hmade⟩ := world_trapHandler info frame world
    rw [hmade]
    rfl
  controlWrites info frame world := by
    obtain ⟨made, hmade⟩ := world_trapHandler info frame world
    rw [hmade]
    rfl

/-! ### Where code ends -/

namespace Code

variable {α β : Type} {before keep : Context → Prop} {returns : α → Context → Prop}
  {exits : Exit → Context → Prop}

/-- Code that starts where `before` holds returns as `returns` says, or exits as `exits` says. -/
def Ends (before : Context → Prop) (code : Code α) (returns : α → Context → Prop)
    (exits : Exit → Context → Prop) : Prop :=
  ∀ context, before context →
    match EStateM.run code context with
    | .ok value after => returns value after
    | .error exit after => exits exit after

theorem ends_of_imp {code : Code α} {first : Context → Prop}
    (himp : ∀ context, first context → before context) (h : code.Ends before returns exits) :
    code.Ends first returns exits :=
  fun context hcontext => h context (himp context hcontext)

theorem ends_pure {value : α} (h : ∀ context, before context → returns value context) :
    Ends before (pure value) returns exits := by
  intro context hcontext
  exact h context hcontext

theorem ends_throw {exit : Exit} (h : ∀ context, before context → exits exit context) :
    Ends before (throw exit : Code α) returns exits := by
  intro context hcontext
  exact h context hcontext

/-- What comes after a step of code does so only if the step returns. -/
theorem ends_bind {code : Code α} {next : α → Code β} {final : β → Context → Prop}
    (h : code.Ends before returns exits)
    (hnext : ∀ value, (next value).Ends (returns value) final exits) :
    (code >>= next).Ends before final exits := by
  intro context hcontext
  have hfirst := h context hcontext
  rw [EStateM.run_bind]
  cases hrun : EStateM.run code context with
  | ok value after =>
    rw [hrun] at hfirst
    exact hnext value after hfirst
  | error exit after =>
    rw [hrun] at hfirst
    exact hfirst

/-- Code that does not return ends a sequence. -/
theorem ends_bind_of_exits {code : Code α} {next : α → Code β} {final : β → Context → Prop}
    (h : code.Ends before (fun _ _ => False) exits) : (code >>= next).Ends before final exits :=
  ends_bind h fun _ _ hnever => hnever.elim

theorem exists_exit_of_ends {code : Code α} (h : code.Ends before (fun _ _ => False) exits)
    {context : Context} (hcontext : before context) :
    ∃ exit after, EStateM.run code context = .error exit after ∧ exits exit after := by
  have hend := h context hcontext
  cases hrun : EStateM.run code context with
  | ok value after =>
    rw [hrun] at hend
    exact hend.elim
  | error exit after =>
    rw [hrun] at hend
    exact ⟨exit, after, rfl, hend⟩

/-- A loop goes through its list from the front, and `between` tells by what is done where it is. -/
theorem ends_forM {xs : List β} {code : β → Code Unit} {between : List β → Context → Prop}
    (h : ∀ done, ∀ x ∈ xs, (code x).Ends (between done) (fun _ => between (done ++ [x])) exits) :
    (xs.forM code).Ends (between []) (fun _ => between xs) exits := by
  -- The induction is on what is left to do, for any part that is done.
  suffices hrest : ∀ rest done : List β, (∀ x ∈ rest, x ∈ xs) →
      (rest.forM code).Ends (between done) (fun _ => between (done ++ rest)) exits from
    hrest xs [] fun _ hx => hx
  intro rest
  induction rest with
  | nil =>
    intro done _
    apply ends_pure
    intro context hcontext
    rw [List.append_nil]
    exact hcontext
  | cons x rest ih =>
    intro done hmem
    have hrest := ih (done ++ [x]) fun y hy => hmem y (List.mem_cons_of_mem x hy)
    rw [List.append_assoc] at hrest
    show (code x >>= fun _ => rest.forM code).Ends _ _ _
    exact ends_bind (h done x (hmem x List.mem_cons_self)) fun _ => hrest

theorem ends_loop {xs : List β} {code : β → Code Unit}
    (h : ∀ x ∈ xs, (code x).Ends before (fun _ => before) exits) :
    (xs.forM code).Ends before (fun _ => before) exits :=
  ends_forM fun _ x hx => h x hx

theorem ends_get :
    (get : Code Context).Ends before (fun value after => value = after ∧ before after) exits := by
  intro context hcontext
  exact ⟨rfl, hcontext⟩

theorem ends_onWorld {change : World → World} {after : Context → Prop}
    (h : ∀ context, before context → after { context with world := change context.world }) :
    (onWorld change).Ends before (fun _ => after) exits := by
  intro context hcontext
  exact h context hcontext

theorem ends_orPanic {result : Except Fault α} {value : α} (h : result = .ok value) :
    (orPanic result).Ends before (fun given after => given = value ∧ before after) exits := by
  subst h
  intro context hcontext
  exact ⟨rfl, hcontext⟩

/-- A change that faults is not made. -/
theorem run_tryOnWorld (change : World → Except Fault World) (context : Context) :
    EStateM.run (tryOnWorld change) context =
      match change context.world with
      | .ok next => .ok () { context with world := next }
      | .error reason => .error (.panicked (.fault reason)) context := by
  have hsteps : EStateM.run (tryOnWorld change) context =
      EStateM.run (orPanic (change context.world) >>= fun next =>
        set { context with world := next }) context := rfl
  rw [hsteps]
  cases change context.world with
  | ok next => rfl
  | error reason => rfl

theorem ends_tryOnWorld {change : World → Except Fault World} {after : Context → Prop}
    (h : ∀ context, before context →
      ∃ next, change context.world = .ok next ∧ after { context with world := next }) :
    (tryOnWorld change).Ends before (fun _ => after) exits := by
  intro context hcontext
  obtain ⟨next, hnext, hafter⟩ := h context hcontext
  rw [run_tryOnWorld, hnext]
  exact hafter

/-! ### What code keeps -/

/-- What code leaves behind, however it ends. -/
def left (code : Code α) (context : Context) : Context :=
  match EStateM.run code context with
  | .ok _ after => after
  | .error _ after => after

/-- A property that holds before the code holds where it ends. -/
def Keeps (keep : Context → Prop) (code : Code α) : Prop :=
  ∀ context, keep context → keep (code.left context)

theorem keeps_iff_ends {code : Code α} :
    code.Keeps keep ↔ code.Ends keep (fun _ => keep) (fun _ => keep) := by
  refine forall_congr' fun context => imp_congr_right fun _ => ?_
  unfold left
  cases EStateM.run code context <;> rfl

theorem keeps_pure (value : α) : Keeps keep (pure value : Code α) :=
  keeps_iff_ends.mpr (ends_pure fun _ h => h)

theorem keeps_throw (exit : Exit) : Keeps keep (throw exit : Code α) :=
  keeps_iff_ends.mpr (ends_throw fun _ h => h)

theorem left_bind (code : Code α) (next : α → Code β) (context : Context) :
    (code >>= next).left context =
      match EStateM.run code context with
      | .ok value after => (next value).left after
      | .error _ after => after := by
  unfold left
  rw [EStateM.run_bind]
  cases EStateM.run code context with
  | ok value after => rfl
  | error exit after => rfl

theorem keeps_bind {code : Code α} {next : α → Code β} (h : code.Keeps keep)
    (hnext : ∀ value, (next value).Keeps keep) : (code >>= next).Keeps keep :=
  keeps_iff_ends.mpr
    (ends_bind (keeps_iff_ends.mp h) fun value => keeps_iff_ends.mp (hnext value))

theorem keeps_forM {xs : List β} {code : β → Code Unit} (h : ∀ x ∈ xs, (code x).Keeps keep) :
    (xs.forM code).Keeps keep :=
  keeps_iff_ends.mpr (ends_loop fun x hx => keeps_iff_ends.mp (h x hx))

theorem keeps_get : Keeps keep (get : Code Context) := by
  intro context h
  exact h

theorem keeps_onWorld {change : World → World}
    (h : ∀ context, keep context → keep { context with world := change context.world }) :
    Keeps keep (onWorld change) := by
  intro context hcontext
  exact h context hcontext

theorem keeps_orPanic (value : Except Fault α) : Keeps keep (orPanic value) := by
  cases value with
  | ok value => exact keeps_pure value
  | error reason => exact keeps_throw _

theorem keeps_tryOnWorld {change : World → Except Fault World}
    (h : ∀ context after, change context.world = .ok after → keep context →
      keep { context with world := after }) : Keeps keep (tryOnWorld change) := by
  intro context hcontext
  unfold left
  rw [run_tryOnWorld]
  cases hchange : change context.world with
  | ok after => exact h context after hchange hcontext
  | error reason => exact hcontext

/-- What a routine of the hart left is kept, even if it panicked. -/
theorem run_keepOutcome (address : Word) (outcome : Outcome World α)
    (context : Context) :
    EStateM.run (keepOutcome address outcome) context =
      let kept : Context :=
        { hart := outcome.hart
          frames := context.frames.set address outcome.frame
          world := outcome.world }
      match outcome.result with
      | .ok value => .ok (.ok value) kept
      | .error (.refused error) => .ok (.error error) kept
      | .error (.panicked panic) => .error (.panicked panic) kept := by
  unfold keepOutcome
  cases outcome.result with
  | ok value => rfl
  | error stop => cases stop <;> rfl

theorem left_keepOutcome (address : Word) (outcome : Outcome World α)
    (context : Context) :
    (keepOutcome address outcome).left context =
      { hart := outcome.hart
        frames := context.frames.set address outcome.frame
        world := outcome.world } := by
  unfold left
  rw [run_keepOutcome]
  cases outcome.result with
  | ok value => rfl
  | error stop => cases stop <;> rfl

variable [KernelImage]

/-- A system call keeps what its routine on the hart left, and goes on if that returned. -/
theorem run_systemCall (number : Word) (args : Vector Word 6) (context : Context) :
    let address := context.frames.designated context.hart.csr.mscratch
    let outcome := context.hart.systemCall number args address (context.frames.get address)
      trapHandler context.world
    EStateM.run (systemCall number args) context =
      let kept : Context :=
        { hart := outcome.hart
          frames := context.frames.set address outcome.frame
          world := outcome.world }
      match outcome.result with
      | .ok value => .ok value kept
      | .error (.refused error) => .error (.refused error) kept
      | .error (.panicked panic) => .error (.panicked panic) kept := by
  intro address outcome
  unfold systemCall
  rw [EStateM.run_bind, EStateM.run_get]
  show EStateM.run (keepOutcome address outcome >>= _) context = _
  rw [EStateM.run_bind, run_keepOutcome]
  cases outcome.result with
  | ok value => rfl
  | error stop => cases stop <;> rfl

theorem left_systemCall (number : Word) (args : Vector Word 6) (context : Context) :
    let address := context.frames.designated context.hart.csr.mscratch
    let outcome := context.hart.systemCall number args address (context.frames.get address)
      trapHandler context.world
    (systemCall number args).left context =
      { hart := outcome.hart
        frames := context.frames.set address outcome.frame
        world := outcome.world } := by
  intro address outcome
  unfold left
  rw [run_systemCall]
  cases outcome.result with
  | ok value => rfl
  | error stop => cases stop <;> rfl

/-! ### The end of code -/

theorem close_eq_store (exit : Exit) (world : World) :
    ∃ printed, exit.close world = world.store printed := by
  cases exit with
  | panicked panic =>
    exact ⟨_, (World.reportPanic_eq_print ..).trans (World.print_eq_store ..)⟩
  | parked => exact ⟨[], world.store_nil.symm⟩
  | switched => exact ⟨[], world.store_nil.symm⟩
  | refused error => exact ⟨[], world.store_nil.symm⟩

/-- Once code has ended, its writes to control registers take effect and a panic is reported. -/
theorem finish_left (code : Code α) (context : Context) :
    let after := code.left context
    let made := after.world.controlWrites.drop context.world.controlWrites.length
    ∃ printed, (code.finish context).2 =
      { hart := { after.hart with csr := made.foldl ControlWrite.apply after.hart.csr }
        frames := after.frames
        world := after.world.store printed } := by
  unfold finish run left
  cases EStateM.run code context with
  | ok value after => exact ⟨[], by rw [World.store_nil]⟩
  | error exit after =>
    obtain ⟨printed, hprinted⟩ := close_eq_store exit after.world
    simp only [hprinted]
    exact ⟨printed, rfl⟩

end Code

end Kernel

end HartKernel
