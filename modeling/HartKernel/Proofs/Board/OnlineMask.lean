import HartKernel.Proofs.Board.Steps
import HartKernel.Proofs.Kernel.Launch

/-!
# Who is online

Before hart 0 is booted, harts may start in any order, under any raw identifiers and any number of
times, while the clock reads whatever it likes. `Board.step_startHart` and
`Board.step_startHart_of_beyond` tell what one start does, and `Board.Waits` what a board is like
after any events: all harts are as they were but for their timers, and the mask has a bit for each
hart within the ceiling that has started. `Board.Waits.step_boot` goes on from there with the boot
of hart 0, which adds its own bit and logs the mask.

The addresses of a kernel come from the linker (`Boot.Symbols.Linked`). They let hart 0 get through
its start, which makes system calls at two of them.

Main statement: `Board.online_mask_exact`.
-/

namespace HartKernel

open Kernel

namespace Board

variable {n : Nat} {board : Board n} {i : Fin n}

/-! ### The start of a hart -/

/-- What the start of a hart within the ceiling does. Its report is on two boards, before and
after. -/
structure Starts [KernelImage] (board : Board n) (i : Fin n) (raw : Word) (report : Report)
    (after : Board n) : Prop where
  online : ∀ k, after.world.online.getLsbD k =
    (board.world.online.getLsbD k || decide (k = raw.toNat))
  slot : ∀ id : HartId, after.world.frameTable.current? id =
    if id.val = raw.toNat then some (kernelFrame id) else board.world.frameTable.current? id
  /-- The sum wraps around. -/
  stores : report.stores = [{
    width := .double
    address := 0x02004000 + raw * 8
    value := board.world.mtime + Clint.ticksPerSecond / 100 }]
  hart : after.harts[i] =
    { board.harts[i] with csr.mie := board.harts[i].csr.mie ||| Mie.mtie }
  others : ∀ j, j ≠ i → after.harts[j] = board.harts[j]
  rest : after =
    { board with
      harts := after.harts
      world :=
        { board.world with
          online := after.world.online
          frameTable := after.world.frameTable
          stores := report.stores
          controlWrites := report.controlWrites } }

theorem run_task_startHart [KernelImage] {raw : Word} {context last : Context}
    (symbols : LinkerSymbols)
    (h : EStateM.run (startHart raw) context = .error .parked last) :
    EStateM.run ((Task.startHart raw).code symbols) context = .error .parked last := by
  show EStateM.run (startHart raw >>= fun _ => pure Value.none) context = _
  rw [EStateM.run_bind, h]

theorem getLsbD_one_shiftLeft (id : HartId) (k : Nat) :
    ((1 : Word) <<< id.val).getLsbD k = decide (k = id.val) := by
  have hid := id.isLt
  have hone : (1 : Word) <<< id.val = BitVec.twoPow 64 id.val := rfl
  rw [hone, BitVec.getLsbD_twoPow]
  have hlt : id.val < 64 := by omega
  simp [hlt, eq_comm]

theorem step_startHart [KernelImage] {raw : Word} (hawake : board.isHalted i = false)
    (hraw : raw.toNat < maxHarts) :
    ∃ report after, board.step (.runTask i (.startHart raw)) = .ok (report, after) ∧
      report.answer = .ended .parked ∧ board.Starts i raw report after := by
  obtain ⟨id, rfl⟩ : ∃ id : HartId, raw = id.word :=
    (HartId.eq_word_or_beyond raw).resolve_right (Nat.not_le.mpr hraw)
  have hstep := step_of_parks hawake
    (run_task_startHart board.symbols (run_startHart id.ofRaw?_word _))
  refine ⟨_, _, hstep, rfl, ?_, ?_, rfl, ?_, ?_, rfl⟩
  · intro k
    rw [HartId.toNat_word, ← getLsbD_one_shiftLeft, ← BitVec.getLsbD_or]
    rfl
  · intro other
    refine (FrameTable.current?_activate board.world.frameTable id other (kernelFrame id)).trans ?_
    simp only [HartId.toNat_word, ← Fin.ext_iff]
    split
    · next h => rw [h]
    · rfl
  · exact (getElem_replaceAt ..).trans (if_pos rfl)
  · intro j hj
    exact (getElem_replaceAt ..).trans (if_neg hj)

/-- A start beyond the ceiling does nothing but park. -/
theorem step_startHart_of_beyond [KernelImage] {raw : Word}
    (hawake : board.isHalted i = false) (hraw : maxHarts ≤ raw.toNat) :
    board.step (.runTask i (.startHart raw)) =
      .ok
        ({ answer := .ended .parked, stores := [], controlWrites := [], changes := [] },
          board.clearRecord) := by
  have hstep := step_of_parks hawake
    (run_task_startHart board.symbols (run_startHart_of_beyond hraw _))
  have hsettle : board.settle i
      { hart := board.harts[i], frames := board.frames, world := board.clearRecord.world } =
        board.clearRecord :=
    congrArg (fun harts => { board.clearRecord with harts }) (replaceAt_self board.harts i)
  rw [hstep, hsettle, reportOn_clearRecord]

/-! ### What happens before hart 0 is booted -/

/-- What happens on a board. -/
inductive Event (n : Nat) where
  /-- The clock is read at some value from now on. -/
  | clock (mtime : Word)
  /-- A hart starts as the one with a raw identifier. -/
  | start (hart : Fin n) (raw : Word)
  deriving DecidableEq, Repr

/-- The command that makes an event happen. -/
def Event.command : Event n → Command n
  | clock mtime => .setClock mtime
  | start i raw => .runTask i (.startHart raw)

/-- The board after some events. -/
def runEvents [KernelImage] (board : Board n) (events : List (Event n)) : Except Fault (Board n) :=
  events.foldlM (fun board event => (·.2) <$> board.step event.command) board

/-- The hart of an index is one that the kernel runs, and it has started. -/
def Started (events : List (Event n)) (k : Nat) : Prop :=
  k < maxHarts ∧ ∃ i raw, Event.start i raw ∈ events ∧ raw.toNat = k

/-- A board on which some events have happened and no hart has been booted. -/
structure Waits (symbols : LinkerSymbols) (events : List (Event n)) (board : Board n) : Prop where
  symbols : board.symbols = symbols
  awake : ∀ i, board.isHalted i = false
  identifier : ∀ i : Fin n, board.harts[i].csr.mhartid = BitVec.ofNat 64 i.val
  whole : board.frames.whole = true
  online : ∀ k, board.world.online.getLsbD k = true ↔ Started events k

variable {symbols : LinkerSymbols} {events : List (Event n)}

theorem waits_fresh (n : Nat) (framesBase : Word) (frameCount : Nat) (symbols : LinkerSymbols) :
    Waits symbols [] (fresh n (.zeroed framesBase) frameCount symbols) := by
  refine ⟨rfl, ?_, ?_, rfl, ?_⟩
  · intro i
    simp [isHalted, fresh]
  · intro i
    simp [fresh, Hart.reset]
  · intro k
    simp [fresh, World.fresh, Started]

theorem started_append {later : List (Event n)} {k : Nat} :
    Started (events ++ later) k ↔ Started events k ∨ Started later k := by
  constructor
  · rintro ⟨hk, i, raw, hmem, rfl⟩
    rcases List.mem_append.mp hmem with hold | hnew
    · exact .inl ⟨hk, i, raw, hold, rfl⟩
    · exact .inr ⟨hk, i, raw, hnew, rfl⟩
  · rintro (⟨hk, i, raw, hmem, rfl⟩ | ⟨hk, i, raw, hmem, rfl⟩)
    · exact ⟨hk, i, raw, List.mem_append_left _ hmem, rfl⟩
    · exact ⟨hk, i, raw, List.mem_append_right _ hmem, rfl⟩

theorem not_started_clock (mtime : Word) (k : Nat) : ¬Started [(.clock mtime : Event n)] k := by
  simp [Started]

theorem started_start (i : Fin n) (raw : Word) (k : Nat) :
    Started [.start i raw] k ↔ k < maxHarts ∧ raw.toNat = k := by
  simp [Started]

/-- Every event can happen. -/
theorem Waits.step [KernelImage] (h : Waits symbols events board) (event : Event n) :
    ∃ report next, board.step event.command = .ok (report, next) ∧
      Waits symbols (events ++ [event]) next := by
  cases event with
  | clock mtime =>
    refine ⟨_, _, step_of_attempt rfl, h.symbols, h.awake, h.identifier, h.whole, ?_⟩
    intro k
    rw [started_append, or_iff_left (not_started_clock mtime k)]
    exact h.online k
  | start i raw =>
    rcases Nat.lt_or_ge raw.toNat maxHarts with hraw | hbeyond
    · obtain ⟨report, next, hstep, -, hstarts⟩ := step_startHart (h.awake i) hraw
      refine ⟨report, next, hstep, ?_, ?_, ?_, ?_, ?_⟩
      · rw [hstarts.rest]
        exact h.symbols
      · rw [hstarts.rest]
        exact h.awake
      · intro j
        by_cases hj : j = i
        · subst hj
          rw [hstarts.hart]
          exact h.identifier j
        · rw [hstarts.others j hj]
          exact h.identifier j
      · rw [hstarts.rest]
        exact h.whole
      · intro k
        rw [hstarts.online, started_append, started_start, ← h.online, Bool.or_eq_true,
          decide_eq_true_iff]
        refine or_congr_right ⟨?_, fun h => h.2.symm⟩
        rintro rfl
        exact ⟨hraw, rfl⟩
    · refine ⟨_, _, step_startHart_of_beyond (h.awake i) hbeyond, h.symbols, h.awake, h.identifier,
        h.whole, ?_⟩
      intro k
      rw [started_append, started_start, ← h.online]
      -- A hart beyond the ceiling has no bit, also where its lowest bits are those of one that has.
      refine (or_iff_left ?_).symm
      rintro ⟨hk, rfl⟩
      exact absurd hk (Nat.not_lt.mpr hbeyond)

/-- Any number of events can happen, and afterwards the mask has exactly the harts that have
started. -/
theorem Waits.runEvents [KernelImage] (h : Waits symbols events board) (later : List (Event n)) :
    ∃ next, board.runEvents later = .ok next ∧ Waits symbols (events ++ later) next := by
  induction later generalizing events board with
  | nil => exact ⟨board, rfl, by rwa [List.append_nil]⟩
  | cons event later ih =>
    obtain ⟨report, next, hstep, hnext⟩ := h.step event
    obtain ⟨last, hrun, hlast⟩ := ih hnext
    refine ⟨last, ?_, ?_⟩
    · rw [Board.runEvents, List.foldlM_cons, hstep]
      exact hrun
    · rwa [List.append_assoc] at hlast

/-! ### The boot of hart 0 -/

end Board

/-- The addresses are those of a kernel that has been linked. The vector is the kernel's own, and
the code that hart 0 enters and waits in is placed with room for a next instruction. -/
structure Boot.Symbols.Linked (symbols : Boot.Symbols) : Prop where
  trapVector : symbols.trapVector = vectorAddress
  bootEntry : symbols.bootEntry.toNat + 4 < 2 ^ 64
  park : symbols.park.toNat + 4 < 2 ^ 64

theorem Hart.getsThrough_booted {hart : Hart} {symbols : Boot.Symbols} {plan : Boot.Plan}
    (hlinked : symbols.Linked) (hid : hart.csr.mhartid = HartId.boot.word)
    (hplan : symbols.Plans HartId.boot plan) : (hart.booted symbols plan).GetsThrough := by
  obtain ⟨hvector, hentry, hpark⟩ := hlinked
  have hrest := hplan.rest
  rw [if_pos rfl] at hrest
  have hpc : (hart.booted symbols plan).pc = symbols.bootEntry := by
    show plan.entry = _
    rw [hrest]
    rfl
  have hra : (hart.booted symbols plan).read Register.ra = symbols.park := by
    rw [read_booted, if_pos rfl, hrest]
    rfl
  refine ⟨⟨⟨?_, rfl, ?_⟩, ?_⟩, ?_⟩
  · rw [csr_booted, hrest]
    exact hvector
  · rw [csr_booted, hid]
    decide
  · rw [hpc]
    omega
  · rw [hra]
    omega

namespace Board

variable [KernelImage] {n : Nat} {symbols : LinkerSymbols}

/-- **Hart 0 starts** on a board on which some events have happened. -/
theorem Waits.step_boot {board : Board (n + 1)} {events : List (Event (n + 1))}
    (h : Waits symbols events board) (hlinked : symbols.toSymbols.Linked)
    (hplans : ∀ raw fault, symbols.toSymbols.plan? raw ≠ .error fault) (bss : Array Word) :
    ∃ landing zeroed report after,
      board.step (.boot 0 bss) = .ok (report, after) ∧
      report.answer = .booted landing zeroed (some .parked) ∧
      after.world.online = board.world.online ||| 1 ∧
      report.deviceStores = [1, 2, 3].map wakeStore ∧
      ∃ earlier, report.stores =
        earlier ++ Uart.transmit Uart.base (Uart.encode (onlineText after.world.online)) := by
  have hplanned : ∀ raw, ∃ plan?, symbols.toSymbols.plan? raw = .ok plan? := by
    intro raw
    cases hplan : symbols.toSymbols.plan? raw with
    | error fault => exact absurd hplan (hplans raw fault)
    | ok plan? => exact ⟨plan?, rfl⟩
  obtain ⟨plan, hplan⟩ : ∃ plan, symbols.toSymbols.plan? HartId.boot.word = .ok (some plan) := by
    obtain ⟨plan?, hplan⟩ := hplanned HartId.boot.word
    cases plan? with
    | none => exact absurd (Boot.Symbols.plan?_eq_none.mp hplan) (by decide)
    | some plan => exact ⟨plan, hplan⟩
  rw [← h.symbols] at hplanned hplan hlinked
  have hid : board.harts[(0 : Fin (n + 1))].csr.mhartid = HartId.boot.word := h.identifier 0
  obtain ⟨hart, hhart⟩ : ∃ hart, board.harts[(0 : Fin (n + 1))].booted board.symbols.toSymbols plan
      = hart := ⟨_, rfl⟩
  have hpc : hart.pc = board.symbols.bootEntry := by
    rw [← hhart]
    exact Boot.Symbols.entry_of_plan hplan
  have hthrough : hart.GetsThrough := by
    rw [← hhart]
    exact Hart.getsThrough_booted hlinked hid (Boot.Symbols.plan?_word_eq_some_iff.mp hplan)
  -- The code that the hart drops into is run in the context that the boot leaves.
  have hends : (board.startCode hart).Ends (Launching (· = hart) board.world.online [])
      (fun _ _ => False) (Launched (board.world.online ||| 1)) := by
    rw [startCode_of_entry hpc]
    exact Code.ends_bind_of_exits (ends_startBootHart hplanned hthrough)
  have hstart : Launching (· = hart) board.world.online []
      { hart, frames := board.frames, world := board.clearRecord.world } :=
    ⟨rfl, h.whole, rfl, rfl⟩
  obtain ⟨exit, last, hrun, rfl, hmask, hwoken, earlier, hearlier⟩ :=
    Code.exists_exit_of_ends hends hstart
  have hplan' : board.clearRecord.symbols.plan?
      board.clearRecord.harts[(0 : Fin (n + 1))].csr.mhartid = .ok (some plan) :=
    (congrArg _ hid).trans hplan
  obtain ⟨landing, zeroed, after, hboot, hworld⟩ := bootHart_of_exit hplan' hhart hrun bss
  -- A hart that parks prints nothing more.
  have hkept : after.world = last.world := hworld
  have hattempt : board.clearRecord.attempt (.boot 0 bss) = board.clearRecord.bootHart 0 bss :=
    attempt_of_awake rfl (h.awake 0)
  refine ⟨landing, zeroed, _, after, step_of_attempt (hattempt.trans hboot), rfl, ?_, ?_,
    earlier, ?_⟩
  · rw [hkept, hmask]
  · exact (congrArg World.deviceStores hkept).trans hwoken
  · rw [hkept, hmask]
    exact (congrArg World.stores hkept).trans hearlier

/-- **The mask of harts online is exact.** The linker's symbols are any that a boot plan of every
hart can be computed from, and any events have happened on a fresh board.

A start within the ceiling adds its hart to the mask and to the table of active frames, sets the
deadline of no hart but this one and enables the timer; a start beyond it changes nothing. When hart
0 is booted after that, the mask has hart 0, the harts that have started and no others. This mask is
what hart 0 logs before it parks, and it has woken the three other harts by then, and not itself. -/
theorem online_mask_exact {n : Nat} (framesBase : Word) (frameCount : Nat)
    {symbols : LinkerSymbols} (hlinked : symbols.toSymbols.Linked)
    (hplans : ∀ raw fault, symbols.toSymbols.plan? raw ≠ .error fault)
    (events : List (Event (n + 1))) :
    ∃ board, (fresh (n + 1) (.zeroed framesBase) frameCount symbols).runEvents events =
        .ok board ∧
      (∀ i raw, raw.toNat < maxHarts →
        ∃ report after, board.step (Event.start i raw).command = .ok (report, after) ∧
          report.answer = .ended .parked ∧ board.Starts i raw report after) ∧
      (∀ i raw, maxHarts ≤ raw.toNat →
        board.step (Event.start i raw).command =
          .ok
            ({ answer := .ended .parked, stores := [], controlWrites := [], changes := [] },
              board.clearRecord)) ∧
      ∀ bss, ∃ landing zeroed report after,
        board.step (.boot 0 bss) = .ok (report, after) ∧
        report.answer = .booted landing zeroed (some .parked) ∧
        (∀ k, after.world.online.getLsbD k = true ↔ k = 0 ∨ Started events k) ∧
        report.deviceStores =
          [{ width := .word, address := 0x02000004, value := 1 },
            { width := .word, address := 0x02000008, value := 1 },
            { width := .word, address := 0x0200000c, value := 1 }] ∧
        ∃ earlier, report.stores =
          earlier ++ Uart.transmit Uart.base (Uart.encode (onlineText after.world.online)) := by
  obtain ⟨board, hrun, hboard⟩ :=
    (waits_fresh (n + 1) framesBase frameCount symbols).runEvents events
  rw [List.nil_append] at hboard
  refine ⟨board, hrun, fun i raw => step_startHart (hboard.awake i),
    fun i raw => step_startHart_of_beyond (hboard.awake i), ?_⟩
  intro bss
  obtain ⟨landing, zeroed, report, after, hstep, hanswer, honline, hdevices, hprinted⟩ :=
    hboard.step_boot hlinked hplans bss
  refine ⟨landing, zeroed, report, after, hstep, hanswer, ?_, hdevices, hprinted⟩
  intro k
  have hone : (1 : Word).getLsbD k = decide (k = 0) := getLsbD_one_shiftLeft HartId.boot k
  rw [honline, BitVec.getLsbD_or, Bool.or_eq_true, hboard.online, or_comm, hone,
    decide_eq_true_iff]

end Board

namespace Board

open KernelImage in
/-- Three harts on a board, two of which start before the first. One start is made twice, and one
is of a hart beyond the ceiling whose lowest bits are those of hart 1. -/
theorem online_mask_exact_three :
    let symbols : LinkerSymbols :=
      { globalPointer := 0x80008800
        bssStart := 0x80020000
        bssStop := 0x80020010
        stackBottom := 0x80100000
        stackTop := 0x80140000
        frames := 0x80008000
        bootEntry := 0x80001000
        hartEntry := 0x80002000
        trapVector := 0x80000100
        park := 0x80000080 }
    let events : List (Event 3) :=
      [.start 1 2, .clock (-1), .start 2 2, .start 1 0x100000001, .start 0 0]
    symbols.toSymbols.Linked ∧ (∀ raw fault, symbols.toSymbols.plan? raw ≠ .error fault) ∧
      ∃ board, (fresh 3 (.zeroed 0x80400000) 1 symbols).runEvents events = .ok board ∧
        (∃ report after, board.step (Event.start 2 3).command = .ok (report, after) ∧
          report.stores =
            [{ width := .double, address := 0x02004018, value := 99999 }]) ∧
        ∃ landing zeroed report after earlier,
          board.step (.boot 0 #[7]) = .ok (report, after) ∧
          report.answer = .booted landing zeroed (some .parked) ∧
          report.stores = earlier ++
            Uart.transmit Uart.base (Uart.encode "[INFO boot] online mask 0b101\n") := by
  intro symbols events
  have hlinked : symbols.toSymbols.Linked := ⟨rfl, by decide, by decide⟩
  have hplans := symbols.toSymbols.plan?_ne_error_of_fits (by decide) (by decide)
  obtain ⟨board, hrun, hstarts, -, hboots⟩ :=
    online_mask_exact 0x80400000 1 hlinked hplans events
  have hmtime : ((fresh 3 (.zeroed 0x80400000) 1 symbols).runEvents events).map (·.world.mtime) =
      .ok (-1) := rfl
  rw [hrun] at hmtime
  have hclock : board.world.mtime = -1 := Except.ok.inj hmtime
  refine ⟨hlinked, hplans, board, hrun, ?_, ?_⟩
  · obtain ⟨report, after, hstep, -, hstart⟩ := hstarts 2 3 (by decide)
    refine ⟨report, after, hstep, ?_⟩
    rw [hstart.stores, hclock]
    rfl
  · obtain ⟨landing, zeroed, report, after, hstep, hanswer, hmask, -, earlier, hearlier⟩ :=
      hboots #[7]
    have honline : after.world.online = 5 := by
      have hstarted (k : Nat) : Started events k ↔ k = 0 ∨ k = 2 := by
        have hmem : Started events k ↔ k < 4 ∧ (2 = k ∨ 0x100000001 = k ∨ 0 = k) := by
          simp [Started, events, or_and_right, exists_or]
        rw [hmem]
        omega
      have hbits : ∀ k < 64, (5 : Word).getLsbD k = true ↔ k = 0 ∨ k = 0 ∨ k = 2 := by decide
      apply BitVec.eq_of_getLsbD_eq
      intro k hk
      rw [Bool.eq_iff_iff, hmask, hstarted, hbits k hk]
    rw [honline] at hearlier
    exact ⟨landing, zeroed, report, after, earlier, hstep, hanswer, hearlier⟩

end Board

end HartKernel
