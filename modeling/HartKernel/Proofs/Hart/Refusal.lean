import HartKernel.Proofs.Hart.CallContract
import HartKernel.Proofs.Hart.SaveRestore

/-!
# Refused traps are contained

The vector refuses a frame that is not the one in `mscratch`, and it finds out only after the
hardware has entered the trap and `t6` has been exchanged with `mscratch`. A refusal therefore
leaves traces. Here they are told cell by cell: `Exchanged` for the vector alone, `Halted` for a
trap and `PreparedOnly` for what a system call has done before it.

* `serveTrap_refused_iff` and `takeTrap_refused_iff` say when the vector and a trap are refused, and
  for which reason. A system call is refused where its trap is (`systemCall_error_iff`).
* `swapScratch_swapScratch`: two refusals of the vector in a row cancel out.
* `refusals_contained` puts all of it together, for every handler.
-/

namespace HartKernel

/-- The status word after the entry into a trap that interrupts a mode. -/
structure Mstatus.Entered (before : Mstatus) (mode : Privilege) (after : Mstatus) : Prop where
  mie : Flags.contains after Mstatus.mie = false
  mpie : Flags.contains after Mstatus.mpie = Flags.contains before Mstatus.mie
  mpp : Mstatus.mpp? after = some mode
  float : after.floatStatus = before.floatStatus
  rest : ∀ i, i ∉ [3, 7, 11, 12] → after.getLsbD i = before.getLsbD i

theorem Mstatus.entered_inTrap (status : Mstatus) (mode : Privilege) :
    Entered status mode (status.inTrap mode) := by
  refine ⟨?_, ?_, mpp?_inTrap status mode, floatStatus_inTrap status mode, ?_⟩
  · rw [mie_eq_twoPow, Flags.contains_twoPow _ (by omega), getLsbD_inTrap]
    rfl
  · rw [mpie_eq_twoPow, mie_eq_twoPow, Flags.contains_twoPow _ (by omega),
      Flags.contains_twoPow _ (by omega), getLsbD_inTrap]
    rfl
  · intro i hi
    simp only [List.mem_cons, List.not_mem_nil, or_false, not_or] at hi
    obtain ⟨h3, h7, h11, h12⟩ := hi
    rw [getLsbD_inTrap, getLsbD_setMpp, if_neg h3, if_neg h7, if_neg h11, if_neg h12]

/-- A routine into a frame was refused and left the frame and the world alone. Its handler, which
could have changed either, was not called. -/
structure Outcome.RefusedWith {σ α : Type} (outcome : Outcome σ α) (error : TrapError)
    (frame : Frame) (world : σ) : Prop where
  result : outcome.result = .error (.refused error)
  frame : outcome.frame = frame
  world : outcome.world = world

namespace Hart

/-- Two harts are equal but that `t6` and `mscratch` have changed places. -/
structure Exchanged (before after : Hart) : Prop where
  t6 : after.x[Register.t6] = before.csr.mscratch
  registers : ∀ r : Register, r ≠ Register.t6 → after.x[r] = before.x[r]
  f : after.f = before.f
  csr : after.csr = { before.csr with mscratch := before.x[Register.t6] }
  mode : after.mode = before.mode
  pc : after.pc = before.pc
  lastStatusWrite : after.lastStatusWrite = before.lastStatusWrite
  handlerStack : after.handlerStack = before.handlerStack

/-- The hart has entered a trap and has come as far as the exchange of `t6` with `mscratch`. -/
structure Halted (before : Hart) (cause tval : Word) (after : Hart) : Prop where
  t6 : after.x[Register.t6] = before.csr.mscratch
  registers : ∀ r : Register, r ≠ Register.t6 → after.x[r] = before.x[r]
  f : after.f = before.f
  status : Mstatus.Entered before.csr.mstatus before.mode after.csr.mstatus
  csr : after.csr =
    { before.csr with
      mstatus := after.csr.mstatus
      mepc := before.pc
      mcause := cause
      mtval := tval
      mscratch := before.x[Register.t6] }
  mode : after.mode = .machine
  pc : after.pc = vectorAddress
  lastStatusWrite : after.lastStatusWrite = before.lastStatusWrite
  handlerStack : after.handlerStack = before.handlerStack

/-- A hart on which a system call is about to trap, equal to its caller in all else. -/
structure PreparedOnly (caller : Hart) (number : Word) (args : Vector Word 6) (prepared : Hart) :
    Prop extends Prepared caller number args prepared where
  zero : prepared.x[Register.zero] = caller.x[Register.zero]
  lastStatusWrite : prepared.lastStatusWrite = caller.lastStatusWrite
  handlerStack : prepared.handlerStack = caller.handlerStack

theorem preparedOnly_shiftArguments (hart : Hart) (number : Word) (args : Vector Word 6) :
    hart.PreparedOnly number args (hart.placeArguments number args).shiftArguments := by
  refine ⟨prepared_shiftArguments hart number args, ?_, ?_, ?_⟩
  · show (hart.placeArguments number args).shiftArguments.x[0] = hart.x[0]
    simp only [placeArguments, shiftArguments, copy, x_zero_write]
  · simp only [placeArguments, shiftArguments, copy, lastStatusWrite_write]
  · simp only [placeArguments, shiftArguments, copy, handlerStack_write]

/-! ### The exchange -/

theorem exchanged_swapScratch (hart : Hart) : hart.Exchanged hart.swapScratch := by
  have hx : hart.swapScratch.x = hart.x.set 31 hart.csr.mscratch := rfl
  refine ⟨?_, ?_, rfl, rfl, rfl, rfl, rfl, rfl⟩
  · rw [hx]
    exact Vector.getElem_set_self ..
  · intro r hr
    have hne : 31 ≠ r.val := fun h => hr (Fin.ext h.symm)
    rw [hx]
    exact Vector.getElem_set_ne _ r.isLt hne

/-- What has changed places twice is back where it was. -/
theorem swapScratch_swapScratch (hart : Hart) : hart.swapScratch.swapScratch = hart := by
  have hsteps : hart.swapScratch.swapScratch =
      { hart with
        x := (hart.x.set 31 hart.csr.mscratch).set 31 hart.x[31]
        csr.mscratch := (hart.x.set 31 hart.csr.mscratch)[31] } := rfl
  have hscratch : (hart.x.set 31 hart.csr.mscratch)[31] = hart.csr.mscratch :=
    Vector.getElem_set_self ..
  have hx : (hart.x.set 31 hart.csr.mscratch).set 31 hart.x[31] = hart.x := by
    ext i hi
    simp only [Vector.getElem_set]
    split
    · next h => subst h; rfl
    · rfl
  rw [hsteps, hscratch, hx]

theorem halted_swapScratch (hart : Hart) (cause tval : Word) :
    hart.Halted cause tval (hart.enterTrap cause tval).swapScratch := by
  have hexchanged := exchanged_swapScratch (hart.enterTrap cause tval)
  refine ⟨hexchanged.t6, hexchanged.registers, hexchanged.f, ?_, rfl, hexchanged.mode,
    hexchanged.pc, hexchanged.lastStatusWrite, hexchanged.handlerStack⟩
  exact Mstatus.entered_inTrap hart.csr.mstatus hart.mode

/-! ### When a routine is refused -/

section

variable [KernelImage] {σ : Type} {hart : Hart} {address : Word}

theorem serveTrap_of_mismatch (h : hart.csr.mscratch ≠ address) (frame : Frame)
    (handler : Handler σ) (world : σ) :
    hart.serveTrap address frame handler world =
      { result := .error (.refused (.scratchMismatch address hart.csr.mscratch))
        hart := hart.swapScratch
        frame
        world } := by
  unfold serveTrap
  dsimp only
  rw [if_pos h]

/-- The vector refuses a frame because of its address and for no other reason. Neither the stack of
the trap nor the handler has a say. -/
theorem serveTrap_refused_iff {frame : Frame} {handler : Handler σ} {world : σ}
    {error : TrapError} :
    (hart.serveTrap address frame handler world).result = .error (.refused error) ↔
      hart.csr.mscratch ≠ address ∧ error = .scratchMismatch address hart.csr.mscratch := by
  by_cases hfound : hart.csr.mscratch ≠ address
  · rw [serveTrap_of_mismatch hfound]
    constructor
    · intro h
      cases h
      exact ⟨hfound, rfl⟩
    · rintro ⟨-, rfl⟩
      rfl
  · constructor
    · -- Past the comparison a result is an answer or a panic.
      unfold serveTrap
      dsimp only
      rw [if_neg hfound]
      split
      · intro h; cases h
      · split
        · intro h; cases h
        · intro h; cases h
    · rintro ⟨hne, -⟩
      exact absurd hne hfound

theorem takeTrap_of_mismatch (hvector : hart.csr.mtvec = vectorAddress)
    (hscratch : hart.csr.mscratch ≠ address) (cause tval : Word) (frame : Frame)
    (handler : Handler σ) (world : σ) :
    hart.takeTrap cause tval address frame handler world =
      { result := .error (.refused (.scratchMismatch address hart.csr.mscratch))
        hart := (hart.enterTrap cause tval).swapScratch
        frame
        world } := by
  have hfound : (hart.enterTrap cause tval).csr.mscratch ≠ address := hscratch
  rw [takeTrap, acceptTrap_of_vector hvector]
  exact serveTrap_of_mismatch hfound frame handler world

/-- A trap is refused for a missing vector, or else for the wrong frame. -/
theorem takeTrap_refused_iff {cause tval : Word} {frame : Frame} {handler : Handler σ} {world : σ}
    {error : TrapError} :
    (hart.takeTrap cause tval address frame handler world).result = .error (.refused error) ↔
      (hart.csr.mtvec ≠ vectorAddress ∧ error = .noVector hart.csr.mtvec) ∨
        (hart.csr.mtvec = vectorAddress ∧ hart.csr.mscratch ≠ address ∧
          error = .scratchMismatch address hart.csr.mscratch) := by
  by_cases hvector : hart.csr.mtvec = vectorAddress
  · have hentered : hart.takeTrap cause tval address frame handler world =
        (hart.enterTrap cause tval).serveTrap address frame handler world := by
      rw [takeTrap, acceptTrap_of_vector hvector]
    rw [hentered, serveTrap_refused_iff]
    constructor
    · rintro ⟨hscratch, herror⟩
      exact Or.inr ⟨hvector, hscratch, herror⟩
    · rintro (⟨hnone, -⟩ | ⟨-, hscratch, herror⟩)
      · exact absurd hvector hnone
      · exact ⟨hscratch, herror⟩
  · rw [takeTrap_of_noVector hvector]
    constructor
    · intro h
      cases h
      exact Or.inl ⟨hvector, rfl⟩
    · rintro (⟨-, rfl⟩ | ⟨hinstalled, -⟩)
      · rfl
      · exact absurd hinstalled hvector

theorem exists_takeTrap_refused_iff {cause tval : Word} {frame : Frame} {handler : Handler σ}
    {world : σ} :
    (∃ error, (hart.takeTrap cause tval address frame handler world).result =
        .error (.refused error)) ↔
      hart.csr.mtvec ≠ vectorAddress ∨ hart.csr.mscratch ≠ address := by
  simp only [takeTrap_refused_iff]
  constructor
  · rintro ⟨error, ⟨hvector, -⟩ | ⟨-, hscratch, -⟩⟩
    · exact Or.inl hvector
    · exact Or.inr hscratch
  · intro h
    by_cases hvector : hart.csr.mtvec = vectorAddress
    · have hscratch : hart.csr.mscratch ≠ address := h.resolve_left (not_not_intro hvector)
      exact ⟨_, Or.inr ⟨hvector, hscratch, rfl⟩⟩
    · exact ⟨_, Or.inl ⟨hvector, rfl⟩⟩

/-- A system call is stopped where its trap is, and has prepared the trap by then. -/
theorem systemCall_error_iff {number : Word} {args : Vector Word 6} {frame : Frame}
    {handler : Handler σ} {world : σ} {stop : Stop} :
    let prepared := (hart.placeArguments number args).shiftArguments
    let trapped := prepared.takeTrap (Cause.callFrom hart.mode) 0 address frame handler world
    (hart.systemCall number args address frame handler world).result = .error stop ↔
      trapped.result = .error stop := by
  intro prepared trapped
  have hmode : prepared.mode = hart.mode := (sameButArguments_prepareCall hart number args).mode
  rw [systemCall, hmode]
  split
  · next stop' htrapped =>
    rw [show trapped.result = .error stop' from htrapped]
    constructor
    · intro h; cases h; rfl
    · intro h; cases h; rfl
  · next info htrapped =>
    rw [show trapped.result = .ok info from htrapped]
    constructor
    · intro h; cases h
    · intro h; cases h

theorem systemCall_of_error {number : Word} {args : Vector Word 6} {frame : Frame}
    {handler : Handler σ} {world : σ} {stop : Stop} :
    let prepared := (hart.placeArguments number args).shiftArguments
    let trapped := prepared.takeTrap (Cause.callFrom hart.mode) 0 address frame handler world
    trapped.result = .error stop →
      hart.systemCall number args address frame handler world =
        { result := .error stop
          hart := trapped.hart
          frame := trapped.frame
          world := trapped.world } := by
  intro prepared trapped h
  have hmode : prepared.mode = hart.mode := (sameButArguments_prepareCall hart number args).mode
  have hprepared : (hart.placeArguments number args).shiftArguments = prepared := rfl
  have htrapped : prepared.takeTrap (Cause.callFrom hart.mode) 0 address frame handler world =
      trapped := rfl
  simp only [systemCall, hprepared, hmode, htrapped, h]

theorem exists_systemCall_refused_iff {number : Word} {args : Vector Word 6} {frame : Frame}
    {handler : Handler σ} {world : σ} :
    (∃ error, (hart.systemCall number args address frame handler world).result =
        .error (.refused error)) ↔
      hart.csr.mtvec ≠ vectorAddress ∨ hart.csr.mscratch ≠ address := by
  simp only [systemCall_error_iff]
  rw [exists_takeTrap_refused_iff, (sameButArguments_prepareCall hart number args).csr]

/-! ### What a refusal leaves -/

theorem refused_takeTrap_of_noVector (h : hart.csr.mtvec ≠ vectorAddress) (cause tval : Word)
    (frame : Frame) (handler : Handler σ) (world : σ) :
    let trapped := hart.takeTrap cause tval address frame handler world
    trapped.RefusedWith (.noVector hart.csr.mtvec) frame world ∧ trapped.hart = hart := by
  intro trapped
  simp only [trapped, takeTrap_of_noVector h]
  exact ⟨⟨rfl, rfl, rfl⟩, trivial⟩

theorem refused_takeTrap_of_mismatch (hvector : hart.csr.mtvec = vectorAddress)
    (hscratch : hart.csr.mscratch ≠ address) (cause tval : Word) (frame : Frame)
    (handler : Handler σ) (world : σ) :
    let trapped := hart.takeTrap cause tval address frame handler world
    trapped.RefusedWith (.scratchMismatch address hart.csr.mscratch) frame world ∧
      hart.Halted cause tval trapped.hart := by
  intro trapped
  simp only [trapped, takeTrap_of_mismatch hvector hscratch]
  exact ⟨⟨rfl, rfl, rfl⟩, halted_swapScratch hart cause tval⟩

/-- A refusal of the vector is an exchange, and the next one takes it back, whatever frame it is
given. -/
theorem refused_serveTrap {frame : Frame} {handler : Handler σ} {world : σ} {error : TrapError}
    (h : (hart.serveTrap address frame handler world).result = .error (.refused error)) :
    let served := hart.serveTrap address frame handler world
    served.RefusedWith (.scratchMismatch address hart.csr.mscratch) frame world ∧
      hart.Exchanged served.hart ∧
      ∀ (address' : Word) (frame' : Frame) (handler' : Handler σ) (world' : σ)
        (error' : TrapError),
        let again := served.hart.serveTrap address' frame' handler' world'
        again.result = .error (.refused error') → again.hart = hart := by
  intro served
  obtain ⟨hscratch, -⟩ := serveTrap_refused_iff.mp h
  simp only [served, serveTrap_of_mismatch hscratch]
  refine ⟨⟨rfl, rfl, rfl⟩, exchanged_swapScratch hart, ?_⟩
  intro address' frame' handler' world' error' hagain
  obtain ⟨hscratch', -⟩ := serveTrap_refused_iff.mp hagain
  rw [serveTrap_of_mismatch hscratch']
  exact swapScratch_swapScratch hart

theorem refused_systemCall_of_noVector (h : hart.csr.mtvec ≠ vectorAddress) (number : Word)
    (args : Vector Word 6) (frame : Frame) (handler : Handler σ) (world : σ) :
    let called := hart.systemCall number args address frame handler world
    called.RefusedWith (.noVector hart.csr.mtvec) frame world ∧
      hart.PreparedOnly number args called.hart := by
  intro called
  simp only [called, systemCall_of_noVector h]
  exact ⟨⟨rfl, rfl, rfl⟩, preparedOnly_shiftArguments hart number args⟩

theorem refused_systemCall_of_mismatch (hvector : hart.csr.mtvec = vectorAddress)
    (hscratch : hart.csr.mscratch ≠ address) (number : Word) (args : Vector Word 6)
    (frame : Frame) (handler : Handler σ) (world : σ) :
    let called := hart.systemCall number args address frame handler world
    called.RefusedWith (.scratchMismatch address hart.csr.mscratch) frame world ∧
      ∃ prepared, hart.PreparedOnly number args prepared ∧
        prepared.Halted (Cause.callFrom hart.mode) 0 called.hart := by
  intro called
  have hprepared := preparedOnly_shiftArguments hart number args
  set prepared := (hart.placeArguments number args).shiftArguments
  -- The arguments are moved in registers, and the trap looks at control registers first.
  have hvector' : prepared.csr.mtvec = vectorAddress := by rw [hprepared.csr, hvector]
  have hscratch' : prepared.csr.mscratch ≠ address := by rwa [hprepared.csr]
  obtain ⟨⟨hresult, hframe, hworld⟩, hhalted⟩ := refused_takeTrap_of_mismatch hvector' hscratch'
    (Cause.callFrom hart.mode) 0 frame handler world
  have hcalled := systemCall_of_error hresult
  rw [hprepared.csr] at hcalled
  simp only [called, hcalled]
  exact ⟨⟨rfl, hframe, hworld⟩, prepared, hprepared, hhalted⟩

/-- **Refused traps are contained.** On a hart that the kernel runs, a trap is refused iff the
vector is missing or the frame is not the one in `mscratch`, and otherwise its handler decides how
it ends. A refusal calls no handler and changes no frame. Without the vector it leaves the hart as
it is; with the wrong frame it leaves the entry into the trap and an exchange of `t6` with
`mscratch`. The vector alone leaves the exchange only, and two such refusals leave nothing. A system
call leaves its arguments where the handler would have looked for them, and does not go on to its
caller. -/
theorem refusals_contained {hart : Hart} (hid : hart.csr.mhartid.toNat < maxHarts) (address : Word)
    (frame : Frame) (handler : Handler σ) (world : σ) :
    (∀ cause tval,
      let trapped := hart.takeTrap cause tval address frame handler world
      ((∃ error, trapped.result = .error (.refused error)) ↔
        hart.csr.mtvec ≠ vectorAddress ∨ hart.csr.mscratch ≠ address) ∧
      (hart.csr.mtvec = vectorAddress → hart.csr.mscratch = address →
        ∃ info saved, trapped.EndsAs info (handler info saved world)) ∧
      (hart.csr.mtvec ≠ vectorAddress →
        trapped.RefusedWith (.noVector hart.csr.mtvec) frame world ∧ trapped.hart = hart) ∧
      (hart.csr.mtvec = vectorAddress → hart.csr.mscratch ≠ address →
        trapped.RefusedWith (.scratchMismatch address hart.csr.mscratch) frame world ∧
        hart.Halted cause tval trapped.hart)) ∧
    (∀ error,
      let served := hart.serveTrap address frame handler world
      served.result = .error (.refused error) →
        served.RefusedWith (.scratchMismatch address hart.csr.mscratch) frame world ∧
        hart.Exchanged served.hart ∧
        ∀ (address' : Word) (frame' : Frame) (handler' : Handler σ) (world' : σ)
          (error' : TrapError),
          let again := served.hart.serveTrap address' frame' handler' world'
          again.result = .error (.refused error') → again.hart = hart) ∧
    ∀ number args,
      let called := hart.systemCall number args address frame handler world
      ((∃ error, called.result = .error (.refused error)) ↔
        hart.csr.mtvec ≠ vectorAddress ∨ hart.csr.mscratch ≠ address) ∧
      (hart.csr.mtvec ≠ vectorAddress →
        called.RefusedWith (.noVector hart.csr.mtvec) frame world ∧
        hart.PreparedOnly number args called.hart) ∧
      (hart.csr.mtvec = vectorAddress → hart.csr.mscratch ≠ address →
        called.RefusedWith (.scratchMismatch address hart.csr.mscratch) frame world ∧
        ∃ prepared, hart.PreparedOnly number args prepared ∧
          prepared.Halted (Cause.callFrom hart.mode) 0 called.hart) := by
  refine ⟨?_, fun _ h => refused_serveTrap h, ?_⟩
  · intro cause tval
    refine ⟨exists_takeTrap_refused_iff, ?_, ?_, ?_⟩
    · intro hvector hscratch
      exact ⟨_, _, endsAs_takeTrap ⟨hvector, hscratch, hid⟩ cause tval frame handler world⟩
    · intro hvector
      exact refused_takeTrap_of_noVector hvector cause tval frame handler world
    · intro hvector hscratch
      exact refused_takeTrap_of_mismatch hvector hscratch cause tval frame handler world
  · intro number args
    refine ⟨exists_systemCall_refused_iff, ?_, ?_⟩
    · intro hvector
      exact refused_systemCall_of_noVector hvector number args frame handler world
    · intro hvector hscratch
      exact refused_systemCall_of_mismatch hvector hscratch number args frame handler world

end

open KernelImage in
/-- A hart in user mode whose `mscratch` designates another frame than the one at hand. The trap
stops with `t6` in `mscratch`, the vector run twice leaves the hart as it was, and a system call
stops with its number in `a7` and its caller's address in `ra` only. -/
theorem refusals_contained_foreign :
    let hart : Hart :=
      { (Hart.reset 1).activate 0x80400230 with
        x := (RegisterFile.zeroed.set Register.t6 0x6666).set Register.ra 0x80001234
        mode := .user
        pc := 0x4000 }
    let handler : Handler Nat := fun _ frame calls => { resume := .ok 0, frame, world := calls + 1 }
    let trapped := hart.takeTrap 13 0x10 0x80400000 .zeroed handler 0
    let served := hart.serveTrap 0x80400000 .zeroed handler 0
    let called := hart.systemCall 5 #v[10, 20, 30, 0, 0, 60] 0x80400000 .zeroed handler 0
    hart.csr.mhartid.toNat < maxHarts ∧
      trapped.RefusedWith (.scratchMismatch 0x80400000 0x80400230) .zeroed 0 ∧
      trapped.hart.x[Register.t6] = 0x80400230 ∧ trapped.hart.csr.mscratch = 0x6666 ∧
      trapped.hart.csr.mepc = 0x4000 ∧
      (served.hart.serveTrap 0x80400000 .zeroed handler 0).hart = hart ∧
      called.RefusedWith (.scratchMismatch 0x80400000 0x80400230) .zeroed 0 ∧
      called.hart.x[Register.a7] = 5 ∧ called.hart.pc = vectorAddress := by
  intro hart handler trapped served called
  have hid : hart.csr.mhartid.toNat < maxHarts := by decide
  have hscratch : hart.csr.mscratch ≠ 0x80400000 := by decide
  obtain ⟨htraps, hserves, hcalls⟩ := refusals_contained hid 0x80400000 .zeroed handler 0
  obtain ⟨-, -, -, htrap⟩ := htraps 13 0x10
  obtain ⟨htrapped, hhalted⟩ := htrap rfl hscratch
  have hserved : served.result = .error (.refused (.scratchMismatch 0x80400000 0x80400230)) := rfl
  obtain ⟨-, hexchanged, hagain⟩ := hserves _ hserved
  obtain ⟨-, -, hcall⟩ := hcalls 5 #v[10, 20, 30, 0, 0, 60]
  obtain ⟨hcalled, prepared, hprepared, hstopped⟩ := hcall rfl hscratch
  have hnumber : called.hart.x[Register.a7] = 5 := by
    rw [hstopped.registers Register.a7 (by decide)]
    exact hprepared.readNumber
  have hmscratch : trapped.hart.csr.mscratch = 0x6666 := by
    rw [hhalted.csr]
    decide
  have hmepc : trapped.hart.csr.mepc = 0x4000 := by rw [hhalted.csr]
  have hrestored := hagain 0x80400000 .zeroed handler 0 (.scratchMismatch 0x80400000 0x6666) rfl
  exact ⟨hid, htrapped, hhalted.t6, hmscratch, hmepc, hrestored, hcalled, hnumber, hstopped.pc⟩

end Hart

end HartKernel
