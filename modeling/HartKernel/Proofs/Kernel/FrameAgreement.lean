import HartKernel.Proofs.Kernel.FrameEffect

/-!
# The table of active frames and the hardware

The kernel's table and the registers `mscratch` of the harts are two accounts of the same thing,
kept by different code on several harts. `run_keeps` follows them over a run of operations, with the
frame that was installed last (`lastInstalled`) as the third account; `frame_table_agrees` concludes
that they never differ on a hart that has been started.
-/

namespace HartKernel

namespace Cluster

open Kernel

section KernelImage

variable [KernelImage]

variable {ι : Type} [DecidableEq ι] {symbols : LinkerSymbols} {cluster next : Cluster ι}
  {id : HartId}

/-! ### Runs -/

/-- The frame that was installed last on a hart, after an operation and given the one before it. -/
def Operation.newest (i : ι) (id : HartId) (last : Option Word) (operation : Operation ι) :
    Option Word :=
  if operation.hart = i then (operation.installs? id).or last else last

/-- The frame that was installed last on a hart by some operations. -/
def lastInstalled (i : ι) (id : HartId) (operations : List (Operation ι)) : Option Word :=
  operations.foldl (Operation.newest i id) none

/-- Both copies of the active frame of a hart designate a frame, and traps can go there. -/
structure Agrees (cluster : Cluster ι) (i : ι) (id : HartId) (frame : Word) : Prop where
  ready : (cluster.harts i).Ready frame
  recorded : cluster.world.frameTable.current? id = some frame

theorem isSome_foldl_newest {i : ι} {operations : List (Operation ι)} {last : Option Word}
    (h : last.isSome ∨ ∃ bss, .start i bss ∈ operations) :
    (operations.foldl (Operation.newest i id) last).isSome := by
  induction operations generalizing last with
  | nil =>
    rcases h with hlast | ⟨bss, hmem⟩
    · exact hlast
    · cases hmem
  | cons operation rest ih =>
    -- A frame that is installed is at most replaced by another one.
    apply ih
    rcases h with hlast | ⟨bss, hmem⟩
    · left
      unfold Operation.newest
      split
      · rw [Option.isSome_or, hlast, Bool.or_true]
      · exact hlast
    · rcases List.mem_cons.mp hmem with heq | hrest
      · left
        rw [← heq, Operation.newest, Operation.hart, if_pos rfl]
        rfl
      · exact Or.inr ⟨bss, hrest⟩

section

variable (hframes : symbols.frames = KernelImage.frames)
  (hvector : symbols.trapVector = vectorAddress)

include hframes hvector

theorem agrees_perform (hdistinct : Function.Injective cluster.identifier) {i : ι}
    (hid : cluster.identifier i = id.word) {last : Option Word}
    (hlast : ∀ frame ∈ last, cluster.Agrees i id frame) {operation : Operation ι}
    (h : cluster.perform symbols operation = .ok next) :
    ∀ frame ∈ operation.newest i id last, next.Agrees i id frame := by
  intro frame hframe
  by_cases hi : operation.hart = i
  · subst hi
    rw [Operation.newest, if_pos rfl] at hframe
    have heffect := (effect_perform hframes hvector hid h).2
    cases hinstalls : operation.installs? id with
    | none =>
      rw [hinstalls] at heffect hframe
      obtain ⟨hready, hrecorded⟩ := hlast frame hframe
      cases heffect with
      | keeps hkeeps htable =>
        refine ⟨hkeeps frame hready, ?_⟩
        rw [htable]
        exact hrecorded
    | some installed =>
      rw [hinstalls] at heffect hframe
      obtain rfl : installed = frame := Option.some.inj hframe
      cases heffect with
      | installs hready htable =>
        refine ⟨hready, ?_⟩
        rw [htable, FrameTable.current?_activate, if_pos rfl]
  · -- The other hart has another identifier, and so another slot.
    rw [Operation.newest, if_neg hi] at hframe
    obtain ⟨hready, hrecorded⟩ := hlast frame hframe
    have hne : cluster.identifier operation.hart ≠ id.word := by
      rw [← hid]
      exact fun heq => hi (hdistinct heq)
    refine ⟨?_, ?_⟩
    · rw [harts_perform_of_ne h (Ne.symm hi)]
      exact hready
    · rw [current?_perform_of_ne hframes hvector hne h]
      exact hrecorded

theorem run_keeps (hdistinct : Function.Injective cluster.identifier) {i : ι}
    (hid : cluster.identifier i = id.word) {operations : List (Operation ι)}
    {last : Option Word} (hlast : ∀ frame ∈ last, cluster.Agrees i id frame)
    {after : Cluster ι} (h : cluster.run symbols operations = .ok after) :
    ∀ frame ∈ operations.foldl (Operation.newest i id) last, after.Agrees i id frame := by
  induction operations generalizing cluster last with
  | nil =>
    cases h
    exact hlast
  | cons operation rest ih =>
    obtain ⟨next, hstep, hrest⟩ := bind_eq_ok_iff.mp h
    -- The identifiers stay as they are, and so stay different.
    have hkept := identifier_perform hframes hvector hstep
    refine ih ?_ ?_ (agrees_perform hframes hvector hdistinct hid hlast hstep) hrest
    · rw [hkept]
      exact hdistinct
    · rw [hkept]
      exact hid

theorem identifier_run {operations : List (Operation ι)} {after : Cluster ι}
    (h : cluster.run symbols operations = .ok after) : after.identifier = cluster.identifier := by
  induction operations generalizing cluster with
  | nil =>
    cases h
    rfl
  | cons operation rest ih =>
    obtain ⟨next, hstep, hrest⟩ := bind_eq_ok_iff.mp h
    exact (ih hrest).trans (identifier_perform hframes hvector hstep)

end

/-- With room for the boot stacks, no operation fails outside of kernel code. -/
theorem exists_perform (hframes : symbols.frames = KernelImage.frames)
    (hstack : 4 * Stack.bootSize.toNat ≤ symbols.stackTop.toNat) (cluster : Cluster ι)
    (operation : Operation ι) : ∃ next, cluster.perform symbols operation = .ok next := by
  cases operation with
  | start i bss =>
    rcases HartId.eq_word_or_beyond (cluster.identifier i) with ⟨id, hid⟩ | hbeyond
    · obtain ⟨plan, hplan⟩ := Boot.Symbols.exists_plan hframes hstack id
      rw [← hid] at hplan
      obtain ⟨result, hboot, -⟩ := Hart.boot_of_plan hplan bss
      show ∃ next, cluster.start symbols i bss = .ok next
      unfold start
      rw [hboot]
      dsimp only [bind, Except.bind]
      cases result.landing with
      | parked => exact ⟨_, rfl⟩
      | dropped mode pc cleared => exact ⟨_, rfl⟩
    · obtain ⟨parked, hparked, -⟩ := start_of_beyond hbeyond symbols bss
      exact ⟨_, hparked⟩
  | switchTo i address => exact ⟨_, rfl⟩
  | trap i cause tval handler => exact ⟨_, rfl⟩
  | runUser i user => exact ⟨_, rfl⟩

theorem exists_run (hframes : symbols.frames = KernelImage.frames)
    (hstack : 4 * Stack.bootSize.toNat ≤ symbols.stackTop.toNat) (cluster : Cluster ι)
    (operations : List (Operation ι)) : ∃ after, cluster.run symbols operations = .ok after := by
  induction operations generalizing cluster with
  | nil => exact ⟨cluster, rfl⟩
  | cons operation rest ih =>
    obtain ⟨next, hstep⟩ := exists_perform hframes hstack cluster operation
    obtain ⟨after, hrest⟩ := ih next
    exact ⟨after, bind_eq_ok_iff.mpr ⟨next, hstep, hrest⟩⟩

/-- **The table never disagrees with the hardware.** Harts with different identifiers are started,
switched and interrupted in any order. At every point of every run, the table gives for a hart that
has been started the frame that its `mscratch` designates, and this is the frame that was installed
last, the kernel frame first of all. An operation touches no other hart and no slot of another hart,
and a switch on a hart beyond the ceiling does nothing but park it. -/
theorem frame_table_agrees (hframes : symbols.frames = KernelImage.frames)
    (hvector : symbols.trapVector = vectorAddress)
    (hdistinct : Function.Injective cluster.identifier) :
    (∀ id : HartId, (kernelFrame id).toNat = symbols.frames.toNat + id.val * 560 ∧
      ∀ (hart : Hart) (bss : Array Word) (result : Boot.Result), hart.csr.mhartid = id.word →
        hart.boot symbols.toSymbols bss = .ok result →
        result.hart.csr.mscratch = kernelFrame id) ∧
    (4 * Stack.bootSize.toNat ≤ symbols.stackTop.toNat →
      ∀ operations, ∃ after, cluster.run symbols operations = .ok after) ∧
    ∀ operations after, cluster.run symbols operations = .ok after →
      after.identifier = cluster.identifier ∧
      (∀ i, ∀ id : HartId, cluster.identifier i = id.word →
        (∃ bss, .start i bss ∈ operations) →
        ∃ frame, lastInstalled i id operations = some frame ∧
          (after.harts i).csr.mscratch = frame ∧
          after.world.frameTable.current? id = some frame) ∧
      (∀ operation next, after.perform symbols operation = .ok next →
        ∀ j, j ≠ operation.hart →
          next.harts j = after.harts j ∧
          ∀ id : HartId, cluster.identifier j = id.word →
            next.world.frameTable.current? id = after.world.frameTable.current? id) ∧
      ∀ i address, maxHarts ≤ (cluster.identifier i).toNat →
        after.switchTo i address = (.parked, after) := by
  refine ⟨?_, fun hstack => exists_run hframes hstack cluster, ?_⟩
  · intro id
    refine ⟨?_, ?_⟩
    · rw [hframes]
      exact toNat_kernelFrame id
    · intro hart bss result hid hboot
      have hready : result.hart.Ready (kernelFrame id) :=
        ready_of_boot hframes hvector hid hboot
      exact hready.scratch
  intro operations after hrun
  have hkept := identifier_run hframes hvector hrun
  refine ⟨hkept, ?_, ?_, ?_⟩
  · intro i id hid hstarted
    have hsome : (lastInstalled i id operations).isSome := isSome_foldl_newest (Or.inr hstarted)
    obtain ⟨frame, hframe⟩ := Option.isSome_iff_exists.mp hsome
    -- Before the run nothing is installed, so that nothing has to agree.
    have hnone : ∀ frame ∈ (none : Option Word), cluster.Agrees i id frame := nofun
    obtain ⟨hready, hrecorded⟩ := run_keeps hframes hvector hdistinct hid hnone hrun frame hframe
    exact ⟨frame, hframe, hready.scratch, hrecorded⟩
  · intro operation next hstep j hj
    refine ⟨harts_perform_of_ne hstep hj, ?_⟩
    intro id hid
    refine current?_perform_of_ne hframes hvector ?_ hstep
    rw [hkept, ← hid]
    exact fun heq => hj (hdistinct heq).symm
  · intro i address hbeyond
    apply switchTo_of_beyond
    rw [hkept]
    exact hbeyond

end KernelImage

open KernelImage in
/-- Harts 0, 2 and 7 are started, hart 2 leaves for a context, and both of the harts that run take
traps. One goes to a handler that skips an instruction, the others to the kernel's handler, and the
last is a panic. -/
theorem frame_table_agrees_three :
    let symbols : LinkerSymbols :=
      { globalPointer := 0, bssStart := 0, bssStop := 0, stackTop := 0x80200000
        frames := 0x80008000, bootEntry := 0x80001000, hartEntry := 0x80003000
        trapVector := vectorAddress, park := 0x80004000, stackBottom := 0x801c0000 }
    let cluster : Cluster (Fin 3) :=
      { harts := fun i => .reset (if i = 0 then 0 else if i = 1 then 2 else 7)
        frames := fun _ => .zeroed
        world := .fresh }
    let handler : {handler : Handler World // handler.Confined} :=
      ⟨trapHandler, confined_trapHandler⟩
    let skipping : {handler : Handler World // handler.Confined} :=
      ⟨.ofFunction fun info frame => (.ok (info.epc + 4), frame), Handler.confined_ofFunction _⟩
    let operations : List (Operation (Fin 3)) :=
      [.start 0 #[1, 2], .start 1 #[], .start 2 #[], .trap 0 Cause.callFromSupervisor 0 handler,
        .switchTo 1 0x80400000, .trap 1 3 0 skipping, .trap 1 2 0 handler]
    symbols.frames = KernelImage.frames ∧ symbols.trapVector = vectorAddress ∧
      Function.Injective cluster.identifier ∧
      ∃ after, cluster.run symbols operations = .ok after ∧
        (after.harts 0).csr.mscratch = 0x80008000 ∧
        after.world.frameTable.current? 0 = some 0x80008000 ∧
        (after.harts 1).csr.mscratch = 0x80400000 ∧
        after.world.frameTable.current? 2 = some 0x80400000 ∧
        after.switchTo 2 0x80500000 = (.parked, after) := by
  intro symbols cluster handler skipping operations
  have hdistinct : Function.Injective cluster.identifier := by
    intro a b
    revert a b
    decide
  have hframes : symbols.frames = KernelImage.frames := rfl
  obtain ⟨-, hexists, hagrees⟩ := frame_table_agrees hframes rfl hdistinct
  obtain ⟨after, hrun⟩ := hexists (by decide) operations
  obtain ⟨-, hstarted, -, hparks⟩ := hagrees operations after hrun
  obtain ⟨first, hfirst, hscratch, htable⟩ := hstarted 0 0 rfl ⟨#[1, 2], .head _⟩
  obtain rfl : 0x80008000 = first := Option.some.inj hfirst
  obtain ⟨second, hsecond, hscratch', htable'⟩ := hstarted 1 2 rfl ⟨#[], .tail _ (.head _)⟩
  obtain rfl : 0x80400000 = second := Option.some.inj hsecond
  exact ⟨hframes, rfl, hdistinct, after, hrun, hscratch, htable, hscratch', htable',
    hparks 2 0x80500000 (by decide)⟩

end Cluster

end HartKernel
