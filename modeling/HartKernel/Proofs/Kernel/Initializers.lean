import HartKernel.Board.Run
import HartKernel.Proofs.Hart.Routine
import HartKernel.Proofs.Kernel.Invariants

/-!
# What the initializers leave

A booted hart finds itself in one of two pieces of code, which record its kernel frame as the active
one and then do many other things: they log, make system calls, store to devices and write control
registers. `Starting` is what all of that keeps, however the code ends: the table as it stands after
the record, the vector and `mscratch` as they stand since the boot. So an initializer that has ended
leaves the table and `mscratch` in agreement (`finish_initializer`).
-/

namespace HartKernel

/-- Writes to `mie` change nothing else. -/
theorem ControlWrite.foldl_apply_of_mie {made : List ControlWrite}
    (h : ∀ write ∈ made, write.name = .mie) (registers : ControlRegisters) :
    ∃ mie, made.foldl ControlWrite.apply registers = { registers with mie := mie } := by
  induction made generalizing registers with
  | nil => exact ⟨registers.mie, rfl⟩
  | cons write rest ih =>
    have hfirst : ∃ mie, write.apply registers = { registers with mie := mie } := by
      have hname := h write List.mem_cons_self
      cases write with
      | setBits name bits =>
        obtain rfl : name = .mie := hname
        exact ⟨_, rfl⟩
      | replace name value =>
        obtain rfl : name = .mie := hname
        exact ⟨_, rfl⟩
    obtain ⟨first, hfirst⟩ := hfirst
    obtain ⟨last, hlast⟩ :=
      ih (fun write hwrite => h write (List.mem_cons_of_mem _ hwrite)) (write.apply registers)
    refine ⟨last, ?_⟩
    rw [List.foldl_cons, hlast, hfirst]

namespace Kernel

variable [KernelImage]

/-- A hart in its initializer, with the table of active frames that is in force from then on and the
writes to control registers that were made before. -/
structure Starting (id : HartId) (table : FrameTable) (writes : List ControlWrite)
    (context : Context) : Prop where
  whole : context.frames.whole = true
  ready : context.hart.Ready (kernelFrame id)
  identifier : context.hart.csr.mhartid = id.word
  frameTable : context.world.frameTable = table
  /-- Initializers write no control register but `mie`. -/
  controlWrites : ∃ made, context.world.controlWrites = writes ++ made ∧
    ∀ write ∈ made, write.name = .mie

variable {id : HartId} {table : FrameTable} {writes : List ControlWrite}

namespace Starting

theorem of_world {context : Context} (h : Starting id table writes context) {world : World}
    (htable : world.frameTable = context.world.frameTable)
    (hwrites : world.controlWrites = context.world.controlWrites) :
    Starting id table writes { context with world := world } := by
  refine ⟨h.whole, h.ready, h.identifier, htable.trans h.frameTable, ?_⟩
  rw [hwrites]
  exact h.controlWrites

/-! ### The steps of the initializers -/

theorem keeps_log (level : LogLevel) (target : String) (message : Pieces) :
    (log level target message).Keeps (Starting id table writes) := by
  apply Code.keeps_onWorld
  intro context h
  exact h.of_world (World.frameTable_log ..) (World.controlWrites_log ..)

theorem keeps_markOnline : (onWorld (·.markOnline id)).Keeps (Starting id table writes) := by
  apply Code.keeps_onWorld
  intro context h
  exact h.of_world rfl rfl

theorem keeps_tryStore (store : World → Except Fault Store) :
    (tryOnWorld fun world => world.tryStore (store world)).Keeps (Starting id table writes) := by
  apply Code.keeps_tryOnWorld
  intro context after hafter h
  obtain ⟨made, rfl⟩ := World.store_of_tryStore hafter
  exact h.of_world rfl rfl

theorem keeps_enableTimer : enableTimer.Keeps (Starting id table writes) := by
  apply Code.keeps_onWorld
  intro context h
  obtain ⟨made, hmade, hmie⟩ := h.controlWrites
  refine ⟨h.whole, h.ready, h.identifier, h.frameTable, made ++ [.setBits .mie Mie.mtie], ?_, ?_⟩
  · show context.world.controlWrites ++ [_] = _
    rw [hmade, List.append_assoc]
  · intro write hwrite
    rcases List.mem_append.mp hwrite with hold | hnew
    · exact hmie write hold
    · rw [List.mem_singleton.mp hnew]
      rfl

/-- A system call goes to the hart's own kernel frame, and its handler leaves the table alone. -/
theorem keeps_systemCall (number : Word) (args : Vector Word 6) :
    (systemCall number args).Keeps (Starting id table writes) := by
  intro context h
  rw [Code.left_systemCall]
  have haddress : context.frames.designated context.hart.csr.mscratch = kernelFrame id := by
    rw [FrameMemory.designated_of_whole h.whole, h.ready.scratch]
  rw [haddress]
  set frame := context.frames.get (kernelFrame id)
  obtain ⟨-, hready⟩ :=
    Hart.ready_systemCall h.ready number args frame trapHandler context.world
  obtain ⟨htable, hwrites⟩ := confined_trapHandler.of_world
    (Hart.world_systemCall context.hart number args (kernelFrame id) frame trapHandler
      context.world)
  refine ⟨h.whole, hready, ?_, htable.trans h.frameTable, ?_⟩
  · rw [Hart.mhartid_systemCall]
    exact h.identifier
  · rw [hwrites]
    exact h.controlWrites

theorem keeps_reportLayout (symbols : LinkerSymbols) :
    (reportLayout symbols).Keeps (Starting id table writes) := by
  unfold reportLayout
  cases symbols.layout? with
  | ok layout => exact keeps_log _ _ _
  | error refusal => exact keeps_log _ _ _

theorem keeps_reportPlan (symbols : LinkerSymbols) (raw : Word) :
    (reportPlan symbols raw).Keeps (Starting id table writes) := by
  unfold reportPlan
  refine Code.keeps_bind (Code.keeps_orPanic _) ?_
  intro plan?
  cases plan? with
  | none => exact Code.keeps_pure ()
  | some plan => exact keeps_log _ _ _

theorem keeps_wake (raw : Word) : (wake raw).Keeps (Starting id table writes) :=
  keeps_tryStore _

end Starting

/-! ### The initializers -/

/-- A hart that has just been booted, about to run its initializer. -/
structure Booted (id : HartId) (context : Context) : Prop where
  whole : context.frames.whole = true
  ready : context.hart.Ready (kernelFrame id)
  identifier : context.hart.csr.mhartid = id.word
  argument : context.hart.read Register.a0 = id.word

/-- The first thing that an initializer does is to record the kernel frame. -/
theorem Booted.starting {context : Context} (h : Booted id context) :
    Starting id (context.world.frameTable.activateKernel id) context.world.controlWrites
      { context with world := context.world.activateKernelFrame id } := by
  refine ⟨h.whole, h.ready, h.identifier, rfl, [], ?_, ?_⟩
  · exact (List.append_nil _).symm
  · intro write hwrite
    cases hwrite

theorem starting_startBootHart (symbols : LinkerSymbols) {context : Context}
    (h : Booted HartId.boot context) :
    Starting HartId.boot (context.world.frameTable.activateKernel HartId.boot)
      context.world.controlWrites ((startBootHart symbols).left context) := by
  unfold startBootHart
  rw [Code.left_bind]
  -- What follows the record is kept step by step.
  refine (?_ : Code.Keeps _ _) _ h.starting
  refine Code.keeps_bind Starting.keeps_markOnline fun _ => ?_
  refine Code.keeps_bind (Starting.keeps_log _ _ _) fun _ => ?_
  refine Code.keeps_bind (Starting.keeps_reportLayout symbols) fun _ => ?_
  refine Code.keeps_bind (Code.keeps_forM fun raw _ => Starting.keeps_reportPlan symbols raw)
    fun _ => ?_
  refine Code.keeps_bind (Starting.keeps_systemCall _ _) fun _ => ?_
  refine Code.keeps_bind (Starting.keeps_log _ _ _) fun _ => ?_
  refine Code.keeps_bind (Starting.keeps_systemCall _ _) fun _ => ?_
  refine Code.keeps_bind (Starting.keeps_log _ _ _) fun _ => ?_
  refine Code.keeps_bind (Code.keeps_forM fun raw _ => Starting.keeps_wake raw) fun _ => ?_
  refine Code.keeps_bind (Starting.keeps_systemCall _ _) fun _ => ?_
  refine Code.keeps_bind Code.keeps_get fun _ => ?_
  refine Code.keeps_bind (Starting.keeps_log _ _ _) fun _ => ?_
  exact Code.keeps_throw _

theorem starting_startHart {raw : Word} (hraw : HartId.ofRaw? raw = some id) {context : Context}
    (h : Booted id context) :
    Starting id (context.world.frameTable.activateKernel id) context.world.controlWrites
      ((startHart raw).left context) := by
  unfold startHart
  rw [hraw]
  dsimp only
  rw [Code.left_bind]
  refine (?_ : Code.Keeps _ _) _ h.starting
  refine Code.keeps_bind Starting.keeps_markOnline fun _ => ?_
  refine Code.keeps_bind (Starting.keeps_tryStore _) fun _ => ?_
  refine Code.keeps_bind Starting.keeps_enableTimer fun _ => ?_
  exact Code.keeps_throw _

/-- The code that a booted hart drops into. -/
def initializer (symbols : LinkerSymbols) (hart : Hart) : Code Unit :=
  if hart.csr.mhartid = HartId.boot.word then startBootHart symbols
  else startHart (hart.read Register.a0)

theorem starting_initializer (symbols : LinkerSymbols) {context : Context}
    (h : Booted id context) :
    Starting id (context.world.frameTable.activateKernel id) context.world.controlWrites
      ((initializer symbols context.hart).left context) := by
  unfold initializer
  rw [h.identifier, h.argument]
  by_cases hboot : id = HartId.boot
  · subst hboot
    rw [if_pos rfl]
    exact starting_startBootHart symbols h
  · rw [if_neg fun heq => hboot (HartId.word_injective heq)]
    exact starting_startHart (HartId.ofRaw?_word id) h

/-- **What an initializer leaves**, however it ends: the table gives the kernel frame of the hart
for the hart and is unchanged otherwise, and `mscratch` designates this frame still. -/
theorem finish_initializer (symbols : LinkerSymbols) {context : Context} (h : Booted id context) :
    let after := ((initializer symbols context.hart).finish context).2
    after.hart.Ready (kernelFrame id) ∧ after.hart.csr.mhartid = id.word ∧
      after.world.frameTable = context.world.frameTable.activateKernel id := by
  intro after
  have hleft := starting_initializer symbols h
  obtain ⟨printed, hfinish⟩ := Code.finish_left (initializer symbols context.hart) context
  obtain ⟨made, hmade, hmie⟩ := hleft.controlWrites
  rw [hmade, List.drop_left] at hfinish
  -- What takes effect at the end reaches neither `mtvec` nor `mscratch`.
  obtain ⟨mie, hcsr⟩ := ControlWrite.foldl_apply_of_mie hmie
    ((initializer symbols context.hart).left context).hart.csr
  rw [hcsr] at hfinish
  have hafter : after = _ := hfinish
  rw [hafter]
  exact ⟨⟨hleft.ready.vector, hleft.ready.scratch, hleft.ready.id⟩, hleft.identifier,
    hleft.frameTable⟩

/-! ### From the boot to the initializer -/

/-- If the linker places the kernel frames where the kernel looks for them, a boot programs the
kernel frame of the hart. -/
theorem ready_of_boot {symbols : Boot.Symbols} (hframes : symbols.frames = KernelImage.frames)
    (hvector : symbols.trapVector = vectorAddress) {hart : Hart} {bss : Array Word}
    {result : Boot.Result} (hid : hart.csr.mhartid = id.word)
    (h : hart.boot symbols bss = .ok result) : result.hart.Ready (kernelFrame id) := by
  have hlt : hart.csr.mhartid.toNat < maxHarts := by
    rw [hid, HartId.toNat_word]
    exact id.isLt
  obtain ⟨htvec, hscratch, hkept⟩ := Hart.boot_installs hlt h
  refine ⟨htvec.trans hvector, ?_, ?_⟩
  · apply BitVec.eq_of_toNat_eq
    rw [hscratch, hframes, hid, HartId.toNat_word, toNat_kernelFrame]
  · rw [hkept]
    exact hlt

theorem booted_of_boot {symbols : Boot.Symbols} (hframes : symbols.frames = KernelImage.frames)
    (hvector : symbols.trapVector = vectorAddress) {hart : Hart} {bss : Array Word}
    {result : Boot.Result} (hid : hart.csr.mhartid = id.word)
    (h : hart.boot symbols bss = .ok result) {frames : FrameMemory}
    (hwhole : frames.whole = true) (world : World) :
    Booted id { hart := result.hart, frames, world } := by
  obtain ⟨-, hread, -⟩ := Hart.boot_drops hid h
  exact ⟨hwhole, ready_of_boot hframes hvector hid h, (Hart.mhartid_boot h).trans hid, hread⟩

/-- A board finds the initializer of a booted hart by where the hart is, so that the two entries
must be told apart. -/
theorem startCode_eq_initializer {n : Nat} {board : Board n} {hart : Hart} {bss : Array Word}
    {result : Boot.Result} (hentries : board.symbols.bootEntry ≠ board.symbols.hartEntry)
    (hid : hart.csr.mhartid = id.word)
    (h : hart.boot board.symbols.toSymbols bss = .ok result) :
    board.startCode result.hart =
      (do initializer board.symbols result.hart; return Board.Value.none) := by
  obtain ⟨-, -, hpc⟩ := Hart.boot_drops hid h
  have hkept : result.hart.csr.mhartid = id.word := (Hart.mhartid_boot h).trans hid
  unfold Board.startCode initializer
  rw [hpc, hkept]
  by_cases hboot : id = HartId.boot
  · subst hboot
    rw [if_pos rfl, if_pos rfl, if_pos rfl]
  · rw [if_neg hboot, if_neg hentries.symm, if_neg fun heq => hboot (HartId.word_injective heq)]

end Kernel

end HartKernel
