import HartKernel.Hart.Boot
import HartKernel.Proofs.Boot.Zeroing
import HartKernel.Proofs.Hart.ResumePath
import Mathlib.Algebra.Group.Nat.Defs

/-!
# What a boot installs

A hart that the kernel runs follows its plan. `Boot.Symbols.plan?_word_eq_some_iff` says which plan
that is, with its addresses over the natural numbers, and `boot_eq_of_plan` what a boot makes of the
hart then and of the memory: the plan is there for every hart if there is room for all stacks and
frames (`Boot.Symbols.exists_plan_of_fits`). A hart beyond the ceiling has no plan and parks with
the vector that it had (`boot_parks`).

The rest is read off a boot that has succeeded: which vector and which frame are installed
(`boot_installs`), and where the hart continues and what its first argument register tells it there
(`boot_drops`).
-/

namespace HartKernel

namespace HartId

theorem toNat_word (hart : HartId) : hart.word.toNat = hart.val := by
  have hlt := hart.isLt
  rw [word, BitVec.toNat_ofNat, Nat.mod_eq_of_lt (by omega)]

theorem ofRaw?_eq_none_iff {raw : Word} : ofRaw? raw = none ↔ maxHarts ≤ raw.toNat := by
  unfold ofRaw?
  split
  · next h =>
    constructor
    · intro hc; cases hc
    · intro hle
      exact absurd h (Nat.not_lt.mpr hle)
  · next h => simpa using h

theorem ofRaw?_word (hart : HartId) : ofRaw? hart.word = some hart :=
  ofRaw?_eq_some_iff.mpr hart.toNat_word

/-- A raw identifier is that of a hart that the kernel runs, or beyond the ceiling. -/
theorem eq_word_or_beyond (raw : Word) :
    (∃ hart : HartId, raw = hart.word) ∨ maxHarts ≤ raw.toNat := by
  cases hraw : ofRaw? raw with
  | none => exact Or.inr (ofRaw?_eq_none_iff.mp hraw)
  | some hart =>
    refine Or.inl ⟨hart, BitVec.eq_of_toNat_eq ?_⟩
    rw [toNat_word]
    exact ofRaw?_eq_some_iff.mp hraw

theorem toNat_word_mul (hart : HartId) {size : Word} (h : 4 * size.toNat ≤ 2 ^ 64) :
    (hart.word * size).toNat = hart.val * size.toNat := by
  have hle : hart.val * size.toNat ≤ 3 * size.toNat :=
    Nat.mul_le_mul_right _ (Nat.le_of_lt_succ hart.isLt)
  rw [BitVec.toNat_mul, toNat_word, Nat.mod_eq_of_lt (by omega)]

theorem word_injective : Function.Injective word := by
  intro a b h
  have hsome : some a = some b := by rw [← ofRaw?_word, h, ofRaw?_word]
  exact Option.some.inj hsome

end HartId

theorem toNat_kernelFrame [KernelImage] (hart : HartId) :
    (kernelFrame hart).toNat = KernelImage.frames.toNat + hart.val * 560 := by
  have hlt := hart.isLt
  have hfit := KernelImage.frames_fit
  have hoffset : (hart.word * frameStride).toNat = hart.val * 560 :=
    hart.toNat_word_mul (by decide)
  rw [kernelFrame, BitVec.toNat_add, hoffset, Nat.mod_eq_of_lt (by omega)]

namespace Stack

/-- The boot stack of a hart, over the natural numbers. -/
theorem bootRange_eq_ok_iff {top : Word} {hart : HartId} {range : AddressRange} :
    bootRange top hart = .ok range ↔
      range.stop.toNat + hart.val * 0x10000 = top.toNat ∧
        range.start.toNat + 0x10000 = range.stop.toNat := by
  have hoffset : (hart.word * bootSize).toNat = hart.val * 0x10000 :=
    hart.toNat_word_mul (by decide)
  constructor
  · intro h
    obtain ⟨stop, hstop, h⟩ := bind_eq_ok_iff.mp h
    obtain ⟨start, hstart, h⟩ := bind_eq_ok_iff.mp h
    cases h
    rw [checkedSub_eq_ok_iff] at hstop hstart
    rw [hoffset] at hstop
    exact ⟨hstop, hstart⟩
  · rintro ⟨hstop, hstart⟩
    have hstop' : checkedSub top (hart.word * bootSize) = .ok range.stop := by
      rw [checkedSub_eq_ok_iff, hoffset]
      exact hstop
    have hstart' : checkedSub range.stop bootSize = .ok range.start :=
      checkedSub_eq_ok_iff.mpr hstart
    exact bind_eq_ok_iff.mpr ⟨_, hstop', bind_eq_ok_iff.mpr ⟨_, hstart', rfl⟩⟩

end Stack

namespace Boot

/-- The plan of a hart that the kernel runs. The hart has the stack and the frame of its number, and
the rest goes by whether it is the first. -/
structure Symbols.Plans (symbols : Symbols) (hart : HartId) (plan : Plan) : Prop where
  frame : symbols.frames.toNat + hart.val * 560 = plan.kernelFrame.toNat
  stack : plan.stackTop.toNat + hart.val * 0x10000 = symbols.stackTop.toNat
  /-- The whole stack lies in the address space, although only its end is programmed. -/
  room : 0x10000 ≤ plan.stackTop.toNat
  rest : plan =
    if hart = HartId.boot then symbols.bootPlan plan.stackTop plan.kernelFrame
    else symbols.secondaryPlan hart plan.stackTop plan.kernelFrame

theorem Symbols.plan?_word_eq_some_iff {symbols : Symbols} {hart : HartId} {plan : Plan} :
    symbols.plan? hart.word = .ok (some plan) ↔ symbols.Plans hart plan := by
  have hoffset : (hart.word * frameStride).toNat = hart.val * 560 := hart.toNat_word_mul (by decide)
  have hisBoot : hart.isBoot = true ↔ hart = HartId.boot := beq_iff_eq
  rw [plan?, HartId.ofRaw?_word]
  dsimp only
  constructor
  · intro h
    obtain ⟨kernelFrame, hframe, h⟩ := bind_eq_ok_iff.mp h
    obtain ⟨range, hrange, h⟩ := bind_eq_ok_iff.mp h
    rw [checkedAdd_eq_ok_iff, hoffset] at hframe
    obtain ⟨hstop, hstart⟩ := Stack.bootRange_eq_ok_iff.mp hrange
    have hroom : 0x10000 ≤ range.stop.toNat := by omega
    by_cases hboot : hart = HartId.boot
    · rw [if_pos (hisBoot.mpr hboot)] at h
      cases h
      exact ⟨hframe, hstop, hroom, (if_pos hboot).symm⟩
    · rw [if_neg (mt hisBoot.mp hboot)] at h
      cases h
      exact ⟨hframe, hstop, hroom, (if_neg hboot).symm⟩
  · rintro ⟨hframe, hstack, hroom, hrest⟩
    have hframe' : checkedAdd symbols.frames (hart.word * frameStride) = .ok plan.kernelFrame := by
      rw [checkedAdd_eq_ok_iff, hoffset]
      exact hframe
    have hstart : (plan.stackTop - Stack.bootSize).toNat + 0x10000 = plan.stackTop.toNat := by
      have hsize : Stack.bootSize.toNat = 0x10000 := rfl
      rw [BitVec.toNat_sub_of_le (by rwa [BitVec.le_def, hsize]), hsize]
      omega
    have hrange : Stack.bootRange symbols.stackTop hart =
        .ok { start := plan.stackTop - Stack.bootSize, stop := plan.stackTop } :=
      Stack.bootRange_eq_ok_iff.mpr ⟨hstack, hstart⟩
    refine bind_eq_ok_iff.mpr ⟨_, hframe', bind_eq_ok_iff.mpr ⟨_, hrange, ?_⟩⟩
    by_cases hboot : hart = HartId.boot
    · rw [if_pos (hisBoot.mpr hboot)]
      rw [if_pos hboot] at hrest
      exact congrArg (fun plan => Except.ok (some plan)) hrest.symm
    · rw [if_neg (mt hisBoot.mp hboot)]
      rw [if_neg hboot] at hrest
      exact congrArg (fun plan => Except.ok (some plan)) hrest.symm

/-- A plan belongs to a hart that the kernel runs. -/
theorem Symbols.exists_plans_of_plan? {symbols : Symbols} {raw : Word} {plan : Plan}
    (h : symbols.plan? raw = .ok (some plan)) :
    ∃ hart : HartId, raw = hart.word ∧ symbols.Plans hart plan := by
  rcases HartId.eq_word_or_beyond raw with ⟨hart, rfl⟩ | hbeyond
  · exact ⟨hart, rfl, plan?_word_eq_some_iff.mp h⟩
  · rw [plan?, HartId.ofRaw?_eq_none_iff.mpr hbeyond] at h
    cases h

theorem Symbols.Plans.hart_eq {symbols : Symbols} {hart : HartId} {plan : Plan}
    (h : symbols.Plans hart plan) : plan.hart = hart := by
  rw [h.rest]
  split
  · next hboot => exact hboot.symm
  · rfl

/-- Every plan names the linker's trap vector and the frame of its hart. -/
theorem Symbols.plan?_eq_some {symbols : Symbols} {raw : Word} {plan : Plan}
    (h : symbols.plan? raw = .ok (some plan)) :
    plan.trapVector = symbols.trapVector ∧
      symbols.frames.toNat + raw.toNat * 560 = plan.kernelFrame.toNat := by
  obtain ⟨hart, rfl, hplan⟩ := exists_plans_of_plan? h
  rw [HartId.toNat_word]
  refine ⟨?_, hplan.frame⟩
  rw [hplan.rest]
  split <;> rfl

/-- Exactly the harts beyond the ceiling have no plan. -/
theorem Symbols.plan?_eq_none {symbols : Symbols} {raw : Word} :
    symbols.plan? raw = .ok none ↔ maxHarts ≤ raw.toNat := by
  rw [← HartId.ofRaw?_eq_none_iff, plan?]
  cases HartId.ofRaw? raw with
  | none => exact ⟨fun _ => rfl, fun _ => rfl⟩
  | some hart =>
    constructor
    · intro h
      obtain ⟨kernelFrame, -, h⟩ := bind_eq_ok_iff.mp h
      obtain ⟨stack, -, h⟩ := bind_eq_ok_iff.mp h
      by_cases hboot : hart.isBoot = true
      · rw [if_pos hboot] at h
        cases h
      · rw [if_neg hboot] at h
        cases h
    · intro h
      cases h

/-- Symbols with room for the stack and for the address of the frame of a hart give it a plan. -/
theorem Symbols.exists_plan_of_room {symbols : Symbols} {hart : HartId}
    (hstack : hart.val * 0x10000 + 0x10000 ≤ symbols.stackTop.toNat)
    (hframe : symbols.frames.toNat + hart.val * 560 < 2 ^ 64) :
    ∃ plan, symbols.plan? hart.word = .ok (some plan) := by
  let stackTop : Word := BitVec.ofNat 64 (symbols.stackTop.toNat - hart.val * 0x10000)
  let kernelFrame : Word := BitVec.ofNat 64 (symbols.frames.toNat + hart.val * 560)
  have hstackTop : stackTop.toNat = symbols.stackTop.toNat - hart.val * 0x10000 := by
    have := symbols.stackTop.isLt
    rw [BitVec.toNat_ofNat, Nat.mod_eq_of_lt (by omega)]
  have hkernelFrame : kernelFrame.toNat = symbols.frames.toNat + hart.val * 560 := by
    rw [BitVec.toNat_ofNat, Nat.mod_eq_of_lt (by omega)]
  by_cases hboot : hart = HartId.boot
  · refine ⟨symbols.bootPlan stackTop kernelFrame, plan?_word_eq_some_iff.mpr ?_⟩
    exact ⟨hkernelFrame.symm, by show stackTop.toNat + _ = _; omega,
      by show _ ≤ stackTop.toNat; omega, (if_pos hboot).symm⟩
  · refine ⟨symbols.secondaryPlan hart stackTop kernelFrame, plan?_word_eq_some_iff.mpr ?_⟩
    exact ⟨hkernelFrame.symm, by show stackTop.toNat + _ = _; omega,
      by show _ ≤ stackTop.toNat; omega, (if_neg hboot).symm⟩

/-- Symbols with room for all stacks and all frames give every hart a plan. -/
theorem Symbols.exists_plan_of_fits {symbols : Symbols}
    (hstack : 4 * 0x10000 ≤ symbols.stackTop.toNat)
    (hframes : symbols.frames.toNat + 4 * 560 ≤ 2 ^ 64) (hart : HartId) :
    ∃ plan, symbols.plan? hart.word = .ok (some plan) := by
  have hlt := hart.isLt
  exact exists_plan_of_room (by omega) (by omega)

theorem Symbols.plan?_ne_error_of_fits {symbols : Symbols}
    (hstack : 4 * 0x10000 ≤ symbols.stackTop.toNat)
    (hframes : symbols.frames.toNat + 4 * 560 ≤ 2 ^ 64) (raw : Word) (fault : Fault) :
    symbols.plan? raw ≠ .error fault := by
  rcases HartId.eq_word_or_beyond raw with ⟨hart, rfl⟩ | hbeyond
  · obtain ⟨plan, hplan⟩ := exists_plan_of_fits hstack hframes hart
    rw [hplan]
    nofun
  · rw [plan?_eq_none.mpr hbeyond]
    nofun

theorem Symbols.exists_plan [KernelImage] {symbols : Symbols}
    (hframes : symbols.frames = KernelImage.frames)
    (hstack : 4 * Stack.bootSize.toNat ≤ symbols.stackTop.toNat) (hart : HartId) :
    ∃ plan, symbols.plan? hart.word = .ok (some plan) := by
  refine exists_plan_of_fits hstack ?_ hart
  rw [hframes]
  exact KernelImage.frames_fit

theorem Symbols.entry_of_plan {symbols : Symbols} {plan : Plan} {hart : HartId}
    (h : symbols.plan? hart.word = .ok (some plan)) :
    plan.entry = if hart = HartId.boot then symbols.bootEntry else symbols.hartEntry := by
  rw [(plan?_word_eq_some_iff.mp h).rest]
  split <;> rfl

end Boot

namespace Hart

variable {hart : Hart} {symbols : Boot.Symbols} {bss : Array Word}

theorem read_openMemory (hart : Hart) (symbols : Boot.Symbols) (r : Register) :
    (hart.openMemory symbols).read r =
      if r = Register.a0 then hart.csr.mhartid
      else if r = Register.gp then symbols.globalPointer
      else hart.read r := by
  have hread : (hart.openMemory symbols).read r =
      ((hart.write Register.gp symbols.globalPointer).write Register.a0 hart.csr.mhartid).read r :=
    rfl
  have ha0 : Register.a0 ≠ Register.zero := by decide
  have hgp : Register.gp ≠ Register.zero := by decide
  simp only [hread, read_write, ha0, hgp, ne_eq, not_false_eq_true, and_true, @eq_comm _ _ r]

/-- The plan is looked up by the register that holds the identifier. -/
theorem read_a0_openMemory (hart : Hart) (symbols : Boot.Symbols) :
    (hart.openMemory symbols).read Register.a0 = hart.csr.mhartid := by
  rw [read_openMemory, if_pos rfl]

theorem csr_openMemory (hart : Hart) (symbols : Boot.Symbols) :
    (hart.openMemory symbols).csr =
      { hart.csr with
        mscratch := 0
        satp := 0
        pmpaddr0 := pmpAddressAll
        pmpcfg0 := pmpConfigAll } := by
  simp only [openMemory, csr_write]

theorem read_followPlan (hart : Hart) (plan : Boot.Plan) (r : Register) :
    (hart.followPlan plan).read r =
      if r = Register.ra then plan.returnTo
      else if r = Register.sp then plan.stackTop
      else hart.read r := by
  have hread : (hart.followPlan plan).read r =
      ((hart.write Register.sp plan.stackTop).write Register.ra plan.returnTo).read r := rfl
  have hra : Register.ra ≠ Register.zero := by decide
  have hsp : Register.sp ≠ Register.zero := by decide
  simp only [hread, read_write, hra, hsp, ne_eq, not_false_eq_true, and_true, @eq_comm _ _ r]

theorem csr_followPlan (hart : Hart) (plan : Boot.Plan) :
    (hart.followPlan plan).csr =
      { hart.csr with
        mstatus := plan.mstatus.afterReturn
        mepc := plan.entry
        mscratch := plan.kernelFrame
        mtvec := plan.trapVector
        mie := plan.mie } := by
  simp only [followPlan, machineReturn_eq, writeStatus, csr_write]

/-- The hart once it has followed its plan from reset to the drop. -/
def booted (hart : Hart) (symbols : Boot.Symbols) (plan : Boot.Plan) : Hart :=
  (hart.openMemory symbols).followPlan plan

theorem read_booted (hart : Hart) (symbols : Boot.Symbols) (plan : Boot.Plan) (r : Register) :
    (hart.booted symbols plan).read r =
      if r = Register.ra then plan.returnTo
      else if r = Register.sp then plan.stackTop
      else if r = Register.a0 then hart.csr.mhartid
      else if r = Register.gp then symbols.globalPointer
      else hart.read r := by
  rw [booted, read_followPlan, read_openMemory]

theorem csr_booted (hart : Hart) (symbols : Boot.Symbols) (plan : Boot.Plan) :
    (hart.booted symbols plan).csr =
      { hart.csr with
        mstatus := plan.mstatus.afterReturn
        mepc := plan.entry
        mscratch := plan.kernelFrame
        mtvec := plan.trapVector
        mie := plan.mie
        satp := 0
        pmpaddr0 := pmpAddressAll
        pmpcfg0 := pmpConfigAll } := by
  rw [booted, csr_followPlan, csr_openMemory]

/-- The words that a boot clears of a memory. The hart decides, and not what the plan says of the
range that the linker knows. -/
def clearedBy (plan : Boot.Plan) (bss : Array Word) : Nat :=
  if plan.hart = HartId.boot then bss.size else 0

/-- A hart with a plan drops to where the plan says, and the memory is all zero after the boot of
the first hart. -/
theorem boot_eq_of_plan {plan : Boot.Plan} (h : symbols.plan? hart.csr.mhartid = .ok (some plan))
    (bss : Array Word) :
    hart.boot symbols bss =
      .ok
        { landing :=
            .dropped (hart.booted symbols plan).mode (hart.booted symbols plan).pc
              (clearedBy plan bss)
          hart := hart.booted symbols plan
          bss := if plan.hart = HartId.boot then Array.replicate bss.size 0 else bss } := by
  have hsteps : hart.boot symbols bss =
      .ok
        { landing :=
            .dropped (hart.booted symbols plan).mode (hart.booted symbols plan).pc
              (if plan.hart.isBoot then zeroRange bss 0 bss.size else (bss, 0)).2
          hart := hart.booted symbols plan
          bss := (if plan.hart.isBoot then zeroRange bss 0 bss.size else (bss, 0)).1 } := by
    simp only [boot, read_a0_openMemory, h]
    rfl
  have hisBoot : plan.hart.isBoot = true ↔ plan.hart = HartId.boot := beq_iff_eq
  have hzeroed : (if plan.hart.isBoot then zeroRange bss 0 bss.size else (bss, 0)) =
      (if plan.hart = HartId.boot then Array.replicate bss.size 0 else bss,
        clearedBy plan bss) := by
    by_cases hboot : plan.hart = HartId.boot
    · rw [if_pos (hisBoot.mpr hboot), zeroRange_all, clearedBy, if_pos hboot, if_pos hboot]
    · rw [if_neg (mt hisBoot.mp hboot), clearedBy, if_neg hboot, if_neg hboot]
  rw [hsteps, hzeroed]

theorem boot_of_plan {plan : Boot.Plan} (h : symbols.plan? hart.csr.mhartid = .ok (some plan))
    (bss : Array Word) : ∃ result, hart.boot symbols bss = .ok result ∧
      result.hart = hart.booted symbols plan :=
  ⟨_, boot_eq_of_plan h bss, rfl⟩

/-- A hart beyond the ceiling parks. -/
theorem boot_parks (hid : maxHarts ≤ hart.csr.mhartid.toNat) (symbols : Boot.Symbols)
    (bss : Array Word) :
    hart.boot symbols bss =
      .ok
        { landing := .parked
          hart := { hart.openMemory symbols with pc := symbols.park }
          bss } := by
  simp only [boot, read_a0_openMemory, Boot.Symbols.plan?_eq_none.mpr hid]
  rfl

/-- A boot that succeeds on a hart that the kernel runs has followed a plan. -/
theorem exists_plan_of_boot {result : Boot.Result} (hid : hart.csr.mhartid.toNat < maxHarts)
    (h : hart.boot symbols bss = .ok result) :
    ∃ plan, symbols.plan? hart.csr.mhartid = .ok (some plan) ∧ result.landing ≠ .parked ∧
      result.hart = hart.booted symbols plan := by
  cases hplan : symbols.plan? hart.csr.mhartid with
  | error fault =>
    simp only [boot, read_a0_openMemory, hplan] at h
    cases h
  | ok plan? =>
    cases plan? with
    | none => exact absurd hid (Nat.not_lt.mpr (Boot.Symbols.plan?_eq_none.mp hplan))
    | some plan =>
      rw [boot_eq_of_plan hplan] at h
      cases h
      exact ⟨plan, rfl, nofun, rfl⟩

/-- A boot that succeeds on a hart that the kernel runs installs the vector and the frame of the
plan. -/
theorem boot_installs {result : Boot.Result} (hid : hart.csr.mhartid.toNat < maxHarts)
    (h : hart.boot symbols bss = .ok result) :
    result.hart.csr.mtvec = symbols.trapVector ∧
      result.hart.csr.mscratch.toNat = symbols.frames.toNat + hart.csr.mhartid.toNat * 560 ∧
      result.hart.csr.mhartid = hart.csr.mhartid := by
  obtain ⟨plan, hplan, -, hhart⟩ := exists_plan_of_boot hid h
  obtain ⟨hvector, hframe⟩ := Boot.Symbols.plan?_eq_some hplan
  rw [hhart, csr_booted]
  exact ⟨hvector, hframe.symm, rfl⟩

/-- A boot that succeeds leaves the hart at the entry of its initializer, with its identifier in the
first argument register. -/
theorem boot_drops {id : HartId} {result : Boot.Result} (hid : hart.csr.mhartid = id.word)
    (h : hart.boot symbols bss = .ok result) :
    result.landing ≠ .parked ∧ result.hart.read Register.a0 = id.word ∧
      result.hart.pc = if id = HartId.boot then symbols.bootEntry else symbols.hartEntry := by
  have hlt : hart.csr.mhartid.toNat < maxHarts := by
    rw [hid, HartId.toNat_word]
    exact id.isLt
  obtain ⟨plan, hplan, hlanding, hhart⟩ := exists_plan_of_boot hlt h
  rw [hid] at hplan
  refine ⟨hlanding, ?_, ?_⟩
  · rw [hhart, ← hid]
    exact read_booted hart symbols plan Register.a0
  · rw [hhart]
    exact Boot.Symbols.entry_of_plan hplan

end Hart

end HartKernel
