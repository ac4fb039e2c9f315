import HartKernel.Proofs.Hart.BootPath

/-!
# A boot installs its plan and forgets the past

The plan of a hart and the reset path are two accounts of one thing, and `Hart.Installs` is where
they meet. It tells every cell of the hart after a boot by the plan, by the linker's symbols or by
what the cell held before, and leaves none open (`Installs.unique`). It relates the hart that a boot
has left to that same hart as well (`Installs.again`), and this is why a second boot changes
nothing. Two harts of one identifier have one plan, so that nothing that a boot writes tells them
apart (`sameBoot_of_installs`).

Whether memory is cleared goes by the number of the hart and not by its plan. The two agree if the
memory is the one that the linker's symbols delimit (`clearsAsPlanned`).
-/

namespace HartKernel

namespace Mstatus

/-- The word after a return from machine mode, by what it keeps and what it moves. -/
structure Returned (before after : Mstatus) : Prop where
  mpp : after &&& Mstatus.mpp = 0
  mie : Flags.contains after Mstatus.mie = Flags.contains before Mstatus.mpie
  mpie : Flags.contains after Mstatus.mpie = true
  float : after.floatStatus = before.floatStatus
  rest : ∀ i, i ∉ [3, 7, 11, 12] → after.getLsbD i = before.getLsbD i

theorem returned_afterReturn (status : Mstatus) : Returned status status.afterReturn := by
  have hmpp : status.afterReturn &&& Mstatus.mpp = 0 := by
    apply BitVec.eq_of_getLsbD_eq
    intro i _
    have hzero : (0 : Mstatus).getLsbD i = false := BitVec.getLsbD_zero
    rw [BitVec.getLsbD_and, getLsbD_mpp, getLsbD_afterReturn, getLsbD_setMpp, hzero]
    by_cases h11 : i = 11
    · subst h11; rfl
    by_cases h12 : i = 12
    · subst h12; rfl
    rw [decide_eq_false (by omega), Bool.and_false]
  refine ⟨hmpp, ?_, ?_, ?_, ?_⟩
  · rw [mie_eq_twoPow, mpie_eq_twoPow, Flags.contains_twoPow _ (by omega),
      Flags.contains_twoPow _ (by omega), getLsbD_afterReturn, if_pos rfl]
  · rw [mpie_eq_twoPow, Flags.contains_twoPow _ (by omega), getLsbD_afterReturn]
    rfl
  · apply floatStatus_congr
    · rw [getLsbD_afterReturn, getLsbD_setMpp]
      rfl
    · rw [getLsbD_afterReturn, getLsbD_setMpp]
      rfl
  · intro i hi
    simp only [List.mem_cons, List.not_mem_nil, or_false, not_or] at hi
    obtain ⟨h3, h7, h11, h12⟩ := hi
    rw [getLsbD_afterReturn, getLsbD_setMpp, if_neg h3, if_neg h7, if_neg h11, if_neg h12]

theorem Returned.unique {before after after' : Mstatus} (h : Returned before after)
    (h' : Returned before after') : after = after' := by
  have hmie : after.getLsbD 3 = after'.getLsbD 3 := by
    have hcontains := h.mie.trans h'.mie.symm
    rwa [mie_eq_twoPow, Flags.contains_twoPow _ (by omega),
      Flags.contains_twoPow _ (by omega)] at hcontains
  have hmpie : after.getLsbD 7 = after'.getLsbD 7 := by
    have hcontains := h.mpie.trans h'.mpie.symm
    rwa [mpie_eq_twoPow, Flags.contains_twoPow _ (by omega),
      Flags.contains_twoPow _ (by omega)] at hcontains
  have hmpp : ∀ i, i = 11 ∨ i = 12 → after.getLsbD i = after'.getLsbD i := by
    intro i hi
    have hbit := congrArg (BitVec.getLsbD · i) (h.mpp.trans h'.mpp.symm)
    simpa only [BitVec.getLsbD_and, getLsbD_mpp, hi, decide_true, Bool.and_true] using hbit
  apply BitVec.eq_of_getLsbD_eq
  intro i _
  by_cases hi : i ∈ [3, 7, 11, 12]
  · simp only [List.mem_cons, List.not_mem_nil, or_false] at hi
    rcases hi with rfl | rfl | rfl | rfl
    · exact hmie
    · exact hmpie
    · exact hmpp 11 (Or.inl rfl)
    · exact hmpp 12 (Or.inr rfl)
  · rw [h.rest i hi, h'.rest i hi]

end Mstatus

namespace Protection

/-- A naturally aligned protection entry covers an address. Both count words of four bytes, and they
may differ in the trailing ones of the entry and in the zero above these. -/
def covers (entry address : Word) : Prop :=
  ((address >>> 2) ^^^ entry) &&& ~~~(entry ^^^ (entry + 1)) = 0

/-- The first protection entry lets every privilege read, write and execute at every physical
address. -/
structure OpensMemory (csr : ControlRegisters) : Prop where
  allows : csr.pmpcfg0 &&& 0b111 = 0b111
  aligned : (csr.pmpcfg0 >>> 3) &&& fieldMask = 3
  covers : ∀ address : Word, address.toNat < 2 ^ 56 → covers csr.pmpaddr0 address

theorem covers_pmpAddressAll {address : Word} (h : address.toNat < 2 ^ 56) :
    covers pmpAddressAll address := by
  have hmask : ∀ i : Fin 64,
      (~~~(pmpAddressAll ^^^ (pmpAddressAll + 1))).getLsbD i.val = decide (55 ≤ i.val) := by decide
  have hentry : ∀ i : Fin 64, 55 ≤ i.val → pmpAddressAll.getLsbD i.val = false := by decide
  apply BitVec.eq_of_getLsbD_eq
  intro i hi
  have hzero : (0 : Word).getLsbD i = false := BitVec.getLsbD_zero
  rw [BitVec.getLsbD_and, BitVec.getLsbD_xor, BitVec.getLsbD_ushiftRight, hmask ⟨i, hi⟩, hzero]
  by_cases hhigh : 55 ≤ i
  · -- Neither the address nor the entry reaches as far as the mask begins.
    have haddress : address.getLsbD (2 + i) = false := by
      have hpow : 2 ^ 56 ≤ 2 ^ (2 + i) := Nat.pow_le_pow_right (by omega) (by omega)
      exact Nat.testBit_lt_two_pow (by omega)
    rw [haddress, hentry ⟨i, hi⟩ hhigh]
    rfl
  · rw [decide_eq_false hhigh, Bool.and_false]

theorem opensMemory_of_eq {csr : ControlRegisters} (haddress : csr.pmpaddr0 = pmpAddressAll)
    (hconfig : csr.pmpcfg0 = pmpConfigAll) : OpensMemory csr := by
  refine ⟨?_, ?_, ?_⟩
  · rw [hconfig]
    decide
  · rw [hconfig]
    decide
  · intro address h
    rw [haddress]
    exact covers_pmpAddressAll h

end Protection

theorem Boot.Symbols.Plans.mpp?_mstatus {symbols : Boot.Symbols} {hart : HartId}
    {plan : Boot.Plan} (h : symbols.Plans hart plan) :
    ∃ mode, Mstatus.mpp? plan.mstatus = some mode := by
  rw [h.rest]
  split
  · have hboot : Mstatus.mpp? Mstatus.boot = some .supervisor := by decide
    exact ⟨_, hboot⟩
  · have hsecondary : Mstatus.mpp? Mstatus.secondary = some .machine := by decide
    exact ⟨_, hsecondary⟩

theorem Boot.Symbols.Plans.clearsBss_iff {symbols : Boot.Symbols} {hart : HartId}
    {plan : Boot.Plan} (h : symbols.Plans hart plan) :
    plan.clearsBss = true ↔
      hart = HartId.boot ∧ symbols.bssStart.toNat < symbols.bssStop.toNat := by
  rw [h.rest]
  by_cases hboot : hart = HartId.boot
  · rw [if_pos hboot]
    exact decide_eq_true_iff.trans (and_iff_right hboot).symm
  · rw [if_neg hboot]
    exact ⟨nofun, fun hc => absurd hc.1 hboot⟩

namespace Hart

/-- The registers that a boot writes. -/
def bootRegisters : List Register :=
  [Register.ra, Register.sp, Register.gp, Register.a0]

theorem mem_bootRegisters {r : Register} :
    r ∈ bootRegisters ↔
      r = Register.ra ∨ r = Register.sp ∨ r = Register.gp ∨ r = Register.a0 := by
  simp only [bootRegisters, List.mem_cons, List.not_mem_nil, or_false]

/-- What a boot makes of a hart that follows a plan, cell by cell. -/
structure Installs (symbols : Boot.Symbols) (plan : Boot.Plan) (before after : Hart) : Prop where
  ra : after.read Register.ra = plan.returnTo
  sp : after.read Register.sp = plan.stackTop
  gp : after.read Register.gp = symbols.globalPointer
  a0 : after.read Register.a0 = before.csr.mhartid
  registers : ∀ r : Register, r ∉ bootRegisters → after.x[r] = before.x[r]
  f : after.f = before.f
  pc : after.pc = plan.entry
  mode : Mstatus.mpp? plan.mstatus = some after.mode
  status : Mstatus.Returned plan.mstatus after.csr.mstatus
  opens : Protection.OpensMemory after.csr
  csr : after.csr =
    { before.csr with
      mstatus := after.csr.mstatus
      mepc := plan.entry
      mscratch := plan.kernelFrame
      mtvec := plan.trapVector
      mie := plan.mie
      satp := 0
      pmpaddr0 := pmpAddressAll
      pmpcfg0 := pmpConfigAll }
  lastStatusWrite : after.lastStatusWrite = some plan.mstatus
  handlerStack : after.handlerStack = before.handlerStack

/-- Two harts agree on everything that a boot writes, and on their identifier. -/
structure SameBoot (one other : Hart) : Prop where
  registers : ∀ r ∈ bootRegisters, one.read r = other.read r
  pc : one.pc = other.pc
  mode : one.mode = other.mode
  csr : one.csr = { other.csr with mcause := one.csr.mcause, mtval := one.csr.mtval }
  lastStatusWrite : one.lastStatusWrite = other.lastStatusWrite

/-- What a boot has cleared of a memory is what the plan says of it. -/
structure ClearsAsPlanned (plan : Boot.Plan) (bss left : Array Word) (cleared : Nat) : Prop where
  iff : cleared ≠ 0 ↔ plan.clearsBss = true
  all : plan.clearsBss = true → cleared = bss.size ∧ left = Array.replicate bss.size 0
  untouched : plan.clearsBss = false → left = bss

variable {hart : Hart} {symbols : Boot.Symbols} {plan : Boot.Plan}

theorem x_write_of_ne (hart : Hart) {r s : Register} (h : s ≠ r) (value : Word) :
    (hart.write r value).x[s] = hart.x[s] := by
  unfold write
  split
  · rfl
  · exact Vector.getElem_set_ne r.isLt s.isLt fun e => h (Fin.ext e.symm)

theorem x_booted (hart : Hart) (symbols : Boot.Symbols) (plan : Boot.Plan) :
    (hart.booted symbols plan).x =
      ((((hart.write Register.gp symbols.globalPointer).write Register.a0 hart.csr.mhartid).write
        Register.sp plan.stackTop).write Register.ra plan.returnTo).x := rfl

/-- A hart with a plan is booted as the plan says. -/
theorem installs_booted (h : symbols.plan? hart.csr.mhartid = .ok (some plan)) :
    Installs symbols plan hart (hart.booted symbols plan) := by
  obtain ⟨id, -, hplan⟩ := Boot.Symbols.exists_plans_of_plan? h
  obtain ⟨mode, hmode⟩ := hplan.mpp?_mstatus
  have hx : ∀ r : Register, r ∉ bootRegisters →
      (hart.booted symbols plan).x[r] = hart.x[r] := by
    intro r hr
    simp only [mem_bootRegisters, not_or] at hr
    obtain ⟨hra, hsp, hgp, ha0⟩ := hr
    rw [x_booted, x_write_of_ne _ hra, x_write_of_ne _ hsp, x_write_of_ne _ ha0,
      x_write_of_ne _ hgp]
  have hdropped : (hart.booted symbols plan).mode = mode := by
    show (Mstatus.mpp? plan.mstatus).getD .user = mode
    rw [hmode]
    rfl
  have hopens : Protection.OpensMemory (hart.booted symbols plan).csr := by
    rw [csr_booted]
    exact Protection.opensMemory_of_eq rfl rfl
  exact
    { ra := read_booted hart symbols plan Register.ra
      sp := read_booted hart symbols plan Register.sp
      gp := read_booted hart symbols plan Register.gp
      a0 := read_booted hart symbols plan Register.a0
      registers := hx
      f := rfl
      pc := rfl
      mode := by rw [hmode, hdropped]
      status := by rw [csr_booted]; exact Mstatus.returned_afterReturn plan.mstatus
      opens := hopens
      csr := csr_booted hart symbols plan
      lastStatusWrite := rfl
      handlerStack := rfl }

theorem sameBoot_of_installs {before before' after after' : Hart}
    (hid : before'.csr.mhartid = before.csr.mhartid) (h : Installs symbols plan before after)
    (h' : Installs symbols plan before' after') : SameBoot after' after := by
  have hregisters : ∀ r ∈ bootRegisters, after'.read r = after.read r := by
    intro r hr
    rcases mem_bootRegisters.mp hr with rfl | rfl | rfl | rfl
    · rw [h.ra, h'.ra]
    · rw [h.sp, h'.sp]
    · rw [h.gp, h'.gp]
    · rw [h.a0, h'.a0, hid]
  have hcsr : after'.csr =
      { after.csr with mcause := after'.csr.mcause, mtval := after'.csr.mtval } := by
    rw [h.csr, h'.csr, h.status.unique h'.status]
    simp only [hid]
  exact
    { registers := hregisters
      pc := h'.pc.trans h.pc.symm
      mode := Option.some.inj (h'.mode.symm.trans h.mode)
      csr := hcsr
      lastStatusWrite := h'.lastStatusWrite.trans h.lastStatusWrite.symm }

/-- The contract of a boot leaves no cell of the hart open. -/
theorem Installs.unique {before after after' : Hart} (h : Installs symbols plan before after)
    (h' : Installs symbols plan before after') : after' = after := by
  have hsame : SameBoot after' after := sameBoot_of_installs rfl h h'
  have hx : after'.x = after.x := by
    apply Vector.ext
    intro i hi
    by_cases hr : (⟨i, hi⟩ : Register) ∈ bootRegisters
    · -- None of the written registers is register 0, so what is read is what is stored.
      have hslot : ∀ hart : Hart, hart.read ⟨i, hi⟩ = hart.x[i] := by
        intro hart
        have hzero : (⟨i, hi⟩ : Register) ≠ Register.zero := by
          intro heq
          rw [heq] at hr
          exact absurd hr (by decide)
        rw [read, if_neg hzero]
        rfl
      rw [← hslot after, ← hslot after']
      exact hsame.registers _ hr
    · exact (h'.registers ⟨i, hi⟩ hr).trans (h.registers ⟨i, hi⟩ hr).symm
  have hcsr : after'.csr = after.csr := by rw [h.csr, h'.csr, h.status.unique h'.status]
  have hf : after'.f = after.f := h'.f.trans h.f.symm
  have hstack : after'.handlerStack = after.handlerStack :=
    h'.handlerStack.trans h.handlerStack.symm
  obtain ⟨-, hpc, hmode, -, hnote⟩ := hsame
  cases after
  cases after'
  congr

/-- The contract with what came before holds of the hart that the boot has left as well. -/
theorem Installs.again {before after : Hart} (h : Installs symbols plan before after) :
    Installs symbols plan after after := by
  have hid : before.csr.mhartid = after.csr.mhartid := by rw [h.csr]
  exact
    { h with
      a0 := h.a0.trans hid
      registers := fun _ _ => rfl
      f := rfl
      csr := by
        have hcsr := h.csr
        rw [hcsr]
      handlerStack := rfl }

theorem clearsAsPlanned (h : symbols.plan? hart.csr.mhartid = .ok (some plan)) {bss : Array Word}
    (hbss : 8 * bss.size = symbols.bssStop.toNat - symbols.bssStart.toNat) :
    ClearsAsPlanned plan bss
      (if plan.hart = HartId.boot then Array.replicate bss.size 0 else bss)
      (clearedBy plan bss) := by
  obtain ⟨id, -, hplan⟩ := Boot.Symbols.exists_plans_of_plan? h
  have hclears := hplan.clearsBss_iff
  rw [← hplan.hart_eq] at hclears
  by_cases hboot : plan.hart = HartId.boot
  · -- The first hart clears whatever there is, so the plan is right about an empty memory.
    have hsize : bss.size ≠ 0 ↔ plan.clearsBss = true := by
      rw [hclears, and_iff_right hboot]
      omega
    rw [clearedBy, if_pos hboot, if_pos hboot]
    refine ⟨hsize, fun _ => ⟨rfl, rfl⟩, fun hnot => ?_⟩
    have hempty : bss.size = 0 := by
      rw [hnot] at hsize
      exact Decidable.of_not_not (mt hsize.mp Bool.false_ne_true)
    rw [hempty, Array.eq_empty_of_size_eq_zero hempty]
    rfl
  · have hnot : ¬plan.clearsBss = true := fun hc => hboot (hclears.mp hc).1
    rw [clearedBy, if_neg hboot, if_neg hboot]
    exact ⟨⟨fun hne => absurd rfl hne, fun hc => absurd hc hnot⟩, fun hc => absurd hc hnot,
      fun _ => rfl⟩

/-- **A boot installs its plan and forgets the past.** Whatever state a hart with a plan is in, it
drops to where the plan says and every cell of it is as the plan, the symbols or the past say. A
second boot leaves the hart as it is, and any other hart of the same identifier comes out of its
boot with the same values in all that a boot writes. Where the memory at hand is the one that the
symbols delimit, it is cleared iff the plan says so. -/
theorem boot_installs_plan (h : symbols.plan? hart.csr.mhartid = .ok (some plan))
    (bss : Array Word) :
    ∃ after cleared left,
      hart.boot symbols bss =
        .ok { landing := .dropped after.mode after.pc cleared, hart := after, bss := left } ∧
      Installs symbols plan hart after ∧
      (∀ memory, ∃ result, after.boot symbols memory = .ok result ∧ result.hart = after) ∧
      (∀ (other : Hart) memory, other.csr.mhartid = hart.csr.mhartid →
        ∃ result, other.boot symbols memory = .ok result ∧ SameBoot result.hart after) ∧
      (8 * bss.size = symbols.bssStop.toNat - symbols.bssStart.toNat →
        ClearsAsPlanned plan bss left cleared) := by
  have hinstalls := installs_booted h
  refine ⟨hart.booted symbols plan, clearedBy plan bss, _, boot_eq_of_plan h bss, hinstalls, ?_,
    ?_, clearsAsPlanned h⟩
  · intro memory
    have hplan : symbols.plan? (hart.booted symbols plan).csr.mhartid = .ok (some plan) := by
      rw [csr_booted]
      exact h
    obtain ⟨result, hresult, hagain⟩ := boot_of_plan hplan memory
    refine ⟨result, hresult, ?_⟩
    rw [hagain]
    exact hinstalls.again.unique (installs_booted hplan)
  · intro other memory hid
    have hplan : symbols.plan? other.csr.mhartid = .ok (some plan) := by rw [hid, h]
    obtain ⟨result, hresult, hother⟩ := boot_of_plan hplan memory
    refine ⟨result, hresult, ?_⟩
    rw [hother]
    exact sameBoot_of_installs hid hinstalls (installs_booted hplan)

/-- The first hart, with a past in user mode, drops to supervisor mode and clears both words of its
memory. What it has in a register that no boot writes stays. -/
theorem boot_installs_plan_first :
    let symbols : Boot.Symbols :=
      { globalPointer := 0x80200800
        bssStart := 0x80300000
        bssStop := 0x80300010
        stackTop := 0x80380000
        frames := 0x80310000
        bootEntry := 0x80000400
        hartEntry := 0x80000600
        trapVector := vectorAddress
        park := 0x80000040 }
    let plan := symbols.bootPlan 0x80380000 0x80310000
    let hart : Hart :=
      { Hart.reset 0 with
        x := Vector.replicate 32 7
        csr.mstatus := BitVec.allOnes 64
        mode := .user }
    symbols.plan? hart.csr.mhartid = .ok (some plan) ∧
      ∃ after : Hart,
        hart.boot symbols #[5, 6] =
          .ok { landing := .dropped .supervisor 0x80000400 2, hart := after, bss := #[0, 0] } ∧
        after.read Register.sp = 0x80380000 ∧ after.read Register.t6 = 7 ∧
        ∃ result, after.boot symbols #[8] = .ok result ∧ result.hart = after := by
  intro symbols plan hart
  have h : symbols.plan? HartId.boot.word = .ok (some plan) :=
    Boot.Symbols.plan?_word_eq_some_iff.mpr ⟨by decide, by decide, by decide, rfl⟩
  obtain ⟨after, cleared, left, hboot, hinstalls, hagain, -, hclears⟩ :=
    @boot_installs_plan hart symbols plan h #[5, 6]
  obtain ⟨-, hall, -⟩ := hclears (by decide)
  obtain ⟨rfl, rfl⟩ := hall (by decide)
  have hmode : after.mode = .supervisor := by
    have hmpp : Mstatus.mpp? plan.mstatus = some .supervisor := by decide
    exact Option.some.inj (hinstalls.mode.symm.trans hmpp)
  have hread : after.read Register.t6 = 7 := by
    rw [read, if_neg (by decide), hinstalls.registers Register.t6 (by decide)]
    decide
  rw [hmode, hinstalls.pc] at hboot
  exact ⟨h, after, hboot, hinstalls.sp, hread, hagain #[8]⟩

end Hart

end HartKernel
