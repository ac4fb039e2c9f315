import HartKernel.Proofs.Kernel.Cluster

/-!
# One operation and the active frame

The active frame of a hart is written down twice, in the table of the kernel and in `mscratch` of
the hart. A boot computes the one, the initializer records the other; a switch records first and
then programs; a trap takes `mscratch` apart and puts it back, and leaves the table alone.

`Effect` is what an operation may do to the two copies, and `effect_perform` shows that every
operation does this. No operation writes the slot of another hart (`current?_perform_of_ne`), and
one on a hart beyond the ceiling writes no slot at all (`perform_of_beyond`).
-/

namespace HartKernel

variable [KernelImage]

namespace Kernel

variable {α : Type}

/-! ### Switches and traps, once their code has ended -/

theorem finish_resumeContext_of_beyond {context : Context}
    (h : maxHarts ≤ context.hart.csr.mhartid.toNat) (address : Word) :
    (resumeContext address : Code α).finish context = (.parked, context) := by
  have hnone : HartId.ofRaw? context.hart.csr.mhartid = none := HartId.ofRaw?_eq_none_iff.mpr h
  have hrun : EStateM.run (resumeContext address : Code α) context = .error .parked context := by
    unfold resumeContext
    rw [EStateM.run_bind, EStateM.run_get]
    dsimp only
    rw [World.adoptRaw, hnone]
    rfl
  simp only [Code.finish, Code.run, hrun, Exit.ending, Exit.close, List.drop_length,
    List.foldl_nil]

theorem finish_resumeContext {context : Context} {id : HartId}
    (h : context.hart.csr.mhartid = id.word) (address : Word) :
    let after := ((resumeContext address : Code α).finish context).2
    after.hart = context.hart.resumeContext address (context.frames.get address) ∧
      after.world.frameTable = context.world.frameTable.activate id address := by
  intro after
  let switched := { context.world with frameTable := context.world.frameTable.activate id address }
  let left : Context :=
    { context with
      hart := context.hart.resumeContext address (context.frames.get address)
      world := switched.log .trace "switch" [id.text, " -> frame 0x", Numeral.hex address] }
  have hrun : EStateM.run (resumeContext address : Code α) context = .error .switched left := by
    unfold resumeContext
    rw [EStateM.run_bind, EStateM.run_get]
    dsimp only
    rw [World.adoptRaw, h, HartId.ofRaw?_word]
    rfl
  -- A log line is a store, so that no control register is left to be written.
  have hmade : left.world.controlWrites.drop context.world.controlWrites.length = [] := by
    rw [World.controlWrites_log, List.drop_length]
  have hafter : after = left := by
    simp only [after, Code.finish, Code.run, hrun, Exit.close, hmade, List.foldl_nil]
  rw [hafter]
  exact ⟨rfl, World.frameTable_log ..⟩

theorem finish_raiseTrapFor {handler : Handler World} (h : handler.Confined) (context : Context)
    (address cause tval : Word) :
    let outcome := context.hart.takeTrap cause tval address (context.frames.get address) handler
      context.world
    let after := ((raiseTrapFor handler address cause tval).finish context).2
    after.hart = outcome.hart ∧ after.world.frameTable = context.world.frameTable := by
  intro outcome after
  have hleft : (raiseTrapFor handler address cause tval).left context =
      { hart := outcome.hart
        frames := context.frames.set address outcome.frame
        world := outcome.world } := Code.left_keepOutcome address outcome context
  obtain ⟨htable, hwrites⟩ : outcome.world.frameTable = context.world.frameTable ∧
      outcome.world.controlWrites = context.world.controlWrites :=
    h.of_world (Hart.world_takeTrap ..)
  obtain ⟨printed, hfinish⟩ := Code.finish_left (raiseTrapFor handler address cause tval) context
  rw [hleft] at hfinish
  dsimp only at hfinish
  rw [hwrites, List.drop_length] at hfinish
  have hafter : after = _ := hfinish
  rw [hafter]
  exact ⟨rfl, htable⟩

end Kernel

namespace Cluster

open Kernel

variable {ι : Type} [DecidableEq ι] {symbols : LinkerSymbols} {cluster next : Cluster ι}
  {id : HartId}

theorem runOn_snd {α : Type} (cluster : Cluster ι) (i : ι) (code : Code α) :
    (cluster.runOn i code).2 = cluster.settle i (code.finish (cluster.contextOf i)).2 := rfl

/-! ### One operation -/

/-- What is left of the two copies after an operation on a hart that installed a frame or none. -/
inductive Effect (before : Cluster ι) (i : ι) (id : HartId) (after : Cluster ι) :
    Option Word → Prop where
  | installs {frame : Word} (ready : (after.harts i).Ready frame)
      (frameTable : after.world.frameTable = before.world.frameTable.activate id frame) :
      Effect before i id after (some frame)
  | keeps (ready : ∀ frame, (before.harts i).Ready frame → (after.harts i).Ready frame)
      (frameTable : after.world.frameTable = before.world.frameTable) :
      Effect before i id after none

/-- A start of a hart that the kernel runs is its boot and its initializer. -/
theorem start_eq_ok {i : ι} {bss : Array Word} (hid : cluster.identifier i = id.word)
    (h : cluster.start symbols i bss = .ok next) :
    ∃ result, (cluster.harts i).boot symbols.toSymbols bss = .ok result ∧
      next = ((cluster.withHart i result.hart).runOn i (initializer symbols result.hart)).2 := by
  obtain ⟨result, hboot, h⟩ := bind_eq_ok_iff.mp h
  refine ⟨result, hboot, ?_⟩
  obtain ⟨hlanding, -, -⟩ := Hart.boot_drops hid hboot
  cases hresult : result.landing with
  | parked => exact absurd hresult hlanding
  | dropped mode pc cleared =>
    rw [hresult] at h
    cases h
    rfl

/-- A start of any other hart changes nothing but this hart. -/
theorem start_of_beyond {i : ι} (hid : maxHarts ≤ (cluster.identifier i).toNat)
    (symbols : LinkerSymbols) (bss : Array Word) :
    ∃ parked : Hart, cluster.start symbols i bss = .ok (cluster.withHart i parked) ∧
      parked.csr.mhartid = cluster.identifier i := by
  have hboot := Hart.boot_parks hid symbols.toSymbols bss
  refine ⟨{ (cluster.harts i).openMemory symbols.toSymbols with pc := symbols.park }, ?_, ?_⟩
  · unfold start
    rw [hboot]
    rfl
  · show ((cluster.harts i).openMemory symbols.toSymbols).csr.mhartid = _
    rw [Hart.csr_openMemory]
    rfl

/-- A start of a hart that the kernel runs installs its kernel frame. -/
theorem effect_start (hframes : symbols.frames = KernelImage.frames)
    (hvector : symbols.trapVector = vectorAddress) {i : ι} {bss : Array Word}
    (hid : cluster.identifier i = id.word) (h : cluster.start symbols i bss = .ok next) :
    next.identifier i = cluster.identifier i ∧
      cluster.Effect i id next (some (kernelFrame id)) := by
  obtain ⟨result, hboot, rfl⟩ := start_eq_ok hid h
  -- The initializer finds the hart as the boot has left it.
  have hhart : ((cluster.withHart i result.hart).contextOf i).hart = result.hart :=
    hart_withHart ..
  have hbooted : Booted id ((cluster.withHart i result.hart).contextOf i) := by
    unfold contextOf
    rw [hart_withHart]
    exact booted_of_boot hframes hvector hid hboot rfl _
  obtain ⟨hready, hkept, htable⟩ := finish_initializer symbols hbooted
  rw [hhart] at hready hkept htable
  rw [runOn_snd]
  refine ⟨?_, .installs ?_ htable⟩
  · unfold identifier
    rw [hart_settle, hkept, ← hid]
    rfl
  · rw [hart_settle]
    exact hready

theorem effect_switchTo {i : ι} (hid : cluster.identifier i = id.word) (address : Word) :
    (cluster.switchTo i address).2.identifier i = cluster.identifier i ∧
      cluster.Effect i id (cluster.switchTo i address).2 (some address) := by
  have hcontext : (cluster.contextOf i).hart.csr.mhartid = id.word := hid
  obtain ⟨hhart, htable⟩ := finish_resumeContext (α := Unit) hcontext address
  have hlt : (cluster.identifier i).toNat < maxHarts := by
    rw [hid, HartId.toNat_word]
    exact id.isLt
  unfold switchTo
  rw [runOn_snd]
  refine ⟨?_, .installs ?_ htable⟩
  · unfold identifier
    rw [hart_settle, hhart, Hart.csr_resumeContext]
    rfl
  · rw [hart_settle, hhart]
    exact Hart.ready_resumeContext hlt ..

theorem switchTo_of_beyond {i : ι} (hid : maxHarts ≤ (cluster.identifier i).toNat)
    (address : Word) : cluster.switchTo i address = (.parked, cluster) := by
  unfold switchTo runOn
  dsimp only
  rw [finish_resumeContext_of_beyond hid]
  dsimp only
  rw [settle_contextOf]

/-- A trap keeps both copies, on whichever hart it is. -/
theorem effect_trap (i : ι) (cause tval : Word) {handler : Handler World}
    (hconfined : handler.Confined) :
    (cluster.trap i cause tval handler).2.identifier i = cluster.identifier i ∧
      cluster.Effect i id (cluster.trap i cause tval handler).2 none := by
  obtain ⟨hhart, htable⟩ := finish_raiseTrapFor hconfined (cluster.contextOf i)
    (cluster.harts i).csr.mscratch cause tval
  unfold trap
  rw [runOn_snd]
  refine ⟨?_, .keeps ?_ htable⟩
  · unfold identifier
    rw [hart_settle, hhart, Hart.mhartid_takeTrap]
    rfl
  · intro frame hready
    rw [hart_settle, hhart, hready.scratch]
    exact (Hart.ready_takeTrap hready ..).2

omit [KernelImage] in
/-- Whatever else happens to a hart, the two copies are kept if its control registers are. -/
theorem effect_withHart {i : ι} {hart : Hart} (hcsr : hart.csr = (cluster.harts i).csr) :
    (cluster.withHart i hart).identifier i = cluster.identifier i ∧
      cluster.Effect i id (cluster.withHart i hart) none := by
  refine ⟨?_, .keeps ?_ rfl⟩
  · unfold identifier
    rw [hart_withHart, hcsr]
  · intro frame hready
    rw [hart_withHart]
    exact hready.of_csr_eq hcsr

theorem effect_perform (hframes : symbols.frames = KernelImage.frames)
    (hvector : symbols.trapVector = vectorAddress) {operation : Operation ι}
    (hid : cluster.identifier operation.hart = id.word)
    (h : cluster.perform symbols operation = .ok next) :
    next.identifier operation.hart = cluster.identifier operation.hart ∧
      cluster.Effect operation.hart id next (operation.installs? id) := by
  cases operation with
  | start i bss => exact effect_start hframes hvector hid h
  | switchTo i address =>
    cases h
    exact effect_switchTo hid address
  | trap i cause tval handler =>
    cases h
    exact effect_trap i cause tval handler.property
  | runUser i user =>
    cases h
    exact effect_withHart (Hart.csr_withUserState ..)

/-- On a hart beyond the ceiling no operation records anything. -/
theorem perform_of_beyond {operation : Operation ι}
    (hid : maxHarts ≤ (cluster.identifier operation.hart).toNat)
    (h : cluster.perform symbols operation = .ok next) :
    next.identifier operation.hart = cluster.identifier operation.hart ∧
      next.world.frameTable = cluster.world.frameTable := by
  cases operation with
  | start i bss =>
    obtain ⟨parked, hparked, hkept⟩ := start_of_beyond hid symbols bss
    have hnext : next = cluster.withHart i parked := Except.ok.inj (h.symm.trans hparked)
    rw [hnext]
    refine ⟨?_, rfl⟩
    show ((cluster.withHart i parked).harts i).csr.mhartid = cluster.identifier i
    rw [hart_withHart]
    exact hkept
  | switchTo i address =>
    have hnext : next = (cluster.switchTo i address).2 := (Except.ok.inj h).symm
    have hparks : cluster.switchTo i address = (.parked, cluster) := switchTo_of_beyond hid address
    rw [hnext, hparks]
    exact ⟨rfl, rfl⟩
  | trap i cause tval handler =>
    cases h
    -- A trap installs no frame, so that any identifier will do.
    obtain ⟨hkept, heffect⟩ : _ ∧ cluster.Effect i HartId.boot _ none :=
      effect_trap i cause tval handler.property
    cases heffect with
    | keeps _ htable => exact ⟨hkept, htable⟩
  | runUser i user =>
    cases h
    obtain ⟨hkept, -⟩ : _ ∧ cluster.Effect i HartId.boot _ none :=
      effect_withHart (Hart.csr_withUserState (cluster.harts i) user)
    exact ⟨hkept, rfl⟩

/-! ### The other harts -/

/-- An operation changes no hart but its own. -/
theorem harts_perform_of_ne {operation : Operation ι}
    (h : cluster.perform symbols operation = .ok next) {j : ι} (hj : j ≠ operation.hart) :
    next.harts j = cluster.harts j := by
  cases operation with
  | start i bss =>
    obtain ⟨result, -, h⟩ := bind_eq_ok_iff.mp h
    cases hlanding : result.landing with
    | parked =>
      rw [hlanding] at h
      cases h
      exact harts_withHart_of_ne _ hj _
    | dropped mode pc cleared =>
      rw [hlanding] at h
      cases h
      exact (harts_settle_of_ne _ hj _).trans (harts_withHart_of_ne _ hj _)
  | switchTo i address =>
    cases h
    exact harts_settle_of_ne _ hj _
  | trap i cause tval handler =>
    cases h
    exact harts_settle_of_ne _ hj _
  | runUser i user =>
    cases h
    exact harts_withHart_of_ne _ hj _

section

variable (hframes : symbols.frames = KernelImage.frames)
  (hvector : symbols.trapVector = vectorAddress)

include hframes hvector

theorem identifier_perform {operation : Operation ι}
    (h : cluster.perform symbols operation = .ok next) : next.identifier = cluster.identifier := by
  funext j
  by_cases hj : j = operation.hart
  · subst hj
    rcases HartId.eq_word_or_beyond (cluster.identifier operation.hart) with ⟨id, hid⟩ | hbeyond
    · exact (effect_perform hframes hvector hid h).1
    · exact (perform_of_beyond hbeyond h).1
  · unfold identifier
    rw [harts_perform_of_ne h hj]

/-- The slot of a hart is written by the operations on that hart only. -/
theorem current?_perform_of_ne {operation : Operation ι}
    (hne : cluster.identifier operation.hart ≠ id.word)
    (h : cluster.perform symbols operation = .ok next) :
    next.world.frameTable.current? id = cluster.world.frameTable.current? id := by
  rcases HartId.eq_word_or_beyond (cluster.identifier operation.hart) with
    ⟨other, hother⟩ | hbeyond
  · have hslot : id ≠ other := by
      rintro rfl
      exact hne hother
    have heffect := (effect_perform hframes hvector hother h).2
    cases hinstalls : operation.installs? other with
    | none =>
      rw [hinstalls] at heffect
      cases heffect with
      | keeps _ htable => rw [htable]
    | some frame =>
      rw [hinstalls] at heffect
      cases heffect with
      | installs _ htable => rw [htable, FrameTable.current?_activate, if_neg hslot]
  · rw [(perform_of_beyond hbeyond h).2]

end

end Cluster

end HartKernel
