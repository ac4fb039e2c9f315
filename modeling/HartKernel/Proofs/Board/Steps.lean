import HartKernel.Board.Run
import HartKernel.Proofs.Hart.BootPath

/-!
# Steps of a board

A command is carried out on a board that has forgotten what was stored before, and what it leaves
is reported (`Board.step_of_attempt`). Most kernel code does not return but exits, and then the
board is known from the exit and from what the code left: `Board.step_of_parks` for a task that
parks and `Board.bootHart_of_exit` for the code that a booted hart drops into.
-/

namespace HartKernel

open Kernel

/-! ### Nothing changed -/

theorem Hart.changes_self (hart : Hart) (position : Nat) : hart.changes hart position = [] := by
  simp [Hart.changes]

theorem Frame.changes_self (frame : Frame) (position : Nat) :
    frame.changes frame position = [] := by
  simp [Frame.changes]

theorem hartChanges_self {n : Nat} (harts : Vector Hart n) (isShown : Fin n → Bool) :
    hartChanges harts harts isShown = [] := by
  simp [hartChanges, Hart.changes_self]

theorem FrameMemory.changes_self (memory : FrameMemory) (count : Nat) :
    memory.changes memory count = [] := by
  simp [FrameMemory.changes, Frame.changes_self]

theorem replaceAt_self {α : Type} {n : Nat} (xs : Vector α n) (i : Fin n) :
    replaceAt xs i xs[i] = xs := by
  simp [replaceAt]

theorem getElem_replaceAt {α : Type} {n : Nat} (xs : Vector α n) (i j : Fin n) (value : α) :
    (replaceAt xs i value)[j] = if j = i then value else xs[j] := by
  simp [replaceAt, Vector.getElem_set, Fin.ext_iff, eq_comm]

namespace Board

variable {n : Nat} {board after : Board n} {i : Fin n} {answer : Answer}

/-! ### Steps of a board -/

/-- The report on a command that was answered. -/
def reportOn (board after : Board n) (answer : Answer) : Report :=
  { answer
    stores := after.world.stores
    controlWrites := after.world.controlWrites
    changes :=
      hartChanges board.harts after.harts (fun i => !after.isHalted i) ++
        board.frames.changes after.frames board.frameCount }

theorem reportOn_clearRecord (board : Board n) (answer : Answer) :
    board.reportOn board.clearRecord answer =
      { answer, stores := [], controlWrites := [], changes := [] } := by
  have hharts (isShown : Fin n → Bool) :
      hartChanges board.harts board.clearRecord.harts isShown = [] := hartChanges_self ..
  have hframes (count : Nat) : board.frames.changes board.clearRecord.frames count = [] :=
    FrameMemory.changes_self ..
  rw [reportOn, hharts, hframes]
  rfl

variable [KernelImage]

/-- A command is carried out on the board with no record, and reported with the record that it
leaves. -/
theorem step_of_attempt {command : Command n}
    (h : board.clearRecord.attempt command = .ok (answer, after)) :
    board.step command = .ok (board.reportOn after answer, after) := by
  unfold step
  dsimp only
  rw [h]
  rfl

theorem attempt_of_awake {command : Command n} (hhart : command.hart? = some i)
    (hawake : board.isHalted i = false) : board.attempt command = board.execute command := by
  rw [attempt, hhart]
  dsimp only
  rw [hawake]
  rfl

/-- Code that exits ends as its exit says, and its writes to control registers take effect. -/
theorem runOn_of_exit {code : Code Value} {exit : Exit} {last : Context}
    (h : EStateM.run code { hart := board.harts[i], frames := board.frames, world := board.world } =
      .error exit last) :
    let world := exit.close last.world
    let made := world.controlWrites.drop board.world.controlWrites.length
    board.runOn i code =
      (exit.ending,
        { board with
          harts := replaceAt board.harts i
            { last.hart with csr := made.foldl ControlWrite.apply last.hart.csr }
          halted := replaceAt board.halted i
            (board.halted[i] || decide ((exit.ending : Ending Value) = .panicked))
          frames := last.frames
          world }) := by
  unfold runOn Code.finish Code.run
  rw [h]

/-- The board once a hart has parked that left a context behind. -/
def settle (board : Board n) (i : Fin n) (last : Context) : Board n :=
  { board with
    harts := replaceAt board.harts i
      { last.hart with csr := last.world.controlWrites.foldl ControlWrite.apply last.hart.csr }
    frames := last.frames
    world := last.world }

/-- A task that parks halts no hart. -/
theorem step_of_parks {task : Task} {last : Context} (hawake : board.isHalted i = false)
    (h : EStateM.run (task.code board.symbols)
        { hart := board.harts[i], frames := board.frames, world := board.clearRecord.world } =
      .error .parked last) :
    board.step (.runTask i task) =
      .ok (board.reportOn (board.settle i last) (.ended .parked), board.settle i last) := by
  have hrun : board.clearRecord.runOn i (task.code board.symbols) =
      (.parked, board.settle i last) := by
    have hhalted : replaceAt board.halted i (board.halted[i] || false) = board.halted := by
      rw [Bool.or_false, replaceAt_self]
    rw [runOn_of_exit h]
    exact Prod.ext rfl (congrArg (fun halted => { board.settle i last with halted }) hhalted)
  have hattempt : board.clearRecord.attempt (.runTask i task) =
      board.clearRecord.execute (.runTask i task) := attempt_of_awake rfl hawake
  apply step_of_attempt
  rw [hattempt]
  show Except.ok (Answer.ended (board.clearRecord.runOn i (task.code board.symbols)).1,
    (board.clearRecord.runOn i (task.code board.symbols)).2) = _
  rw [hrun]

/-! ### Boots -/

theorem startCode_of_entry {hart : Hart} (h : hart.pc = board.symbols.bootEntry) :
    board.startCode hart = (do startBootHart board.symbols; return Value.none) := by
  unfold startCode
  rw [if_pos h]

/-- A hart with a plan is booted and runs the code that it drops into, which here exits. -/
theorem bootHart_of_exit {plan : Boot.Plan} {hart : Hart} {exit : Exit} {last : Context}
    (hplan : board.symbols.plan? board.harts[i].csr.mhartid = .ok (some plan))
    (hhart : board.harts[i].booted board.symbols.toSymbols plan = hart)
    (hrun : EStateM.run (board.startCode hart)
      { hart, frames := board.frames, world := board.world } = .error exit last)
    (bss : Array Word) :
    ∃ landing zeroed after,
      board.bootHart i bss = .ok (.booted landing zeroed (some exit.ending), after) ∧
        after.world = exit.close last.world := by
  have hplaced : (board.withHart i hart).harts[i] = hart :=
    (getElem_replaceAt ..).trans (if_pos rfl)
  have hstart : EStateM.run (board.startCode hart)
      { hart := (board.withHart i hart).harts[i]
        frames := (board.withHart i hart).frames
        world := (board.withHart i hart).world } = .error exit last := by
    rw [hplaced]
    exact hrun
  have hrunOn := runOn_of_exit hstart
  have hboot : board.bootHart i bss =
      .ok
        (.booted (.dropped hart.mode hart.pc (Hart.clearedBy plan bss))
          (if plan.hart = HartId.boot then Array.replicate bss.size 0 else bss)
          (some ((board.withHart i hart).runOn i (board.startCode hart)).1),
          ((board.withHart i hart).runOn i (board.startCode hart)).2) := by
    unfold bootHart
    rw [Hart.boot_eq_of_plan hplan bss, hhart]
    rfl
  dsimp only at hrunOn
  rw [hrunOn] at hboot
  exact ⟨_, _, _, hboot, rfl⟩

end Board

end HartKernel
