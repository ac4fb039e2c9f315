import HartKernel.Proofs.Hart.BootContract
import Mathlib.Order.CompletePartialOrder
import Mathlib.Order.Interval.Set.Disjoint

/-!
# Booting many harts over one memory

All harts run the reset path, in an order that nothing fixes, and they share the memory that the
first hart clears. What a hart reports of its boot is known before any of them has run
(`Hart.report`): it depends on the hart, on the linker's symbols and on how long the memory is, and
not on what the memory holds. One boot therefore leaves the reports of all others as they are
(`boot_eq_report`), and a whole run is that step again and again (`bootAll_eq_ok`).

The stacks and the frames of two harts lie apart because their plans place them by number
(`Symbols.Plans.disjoint_stack`, `Symbols.Plans.disjoint_frame`).
-/

namespace HartKernel

namespace Boot

/-- What one of many harts reports of its boot. -/
structure Report where
  landing : Landing
  hart : Hart

/-- What the boots of many harts leave. -/
structure Session where
  reports : List Report
  bss : Array Word

/-- Boots harts one after another over the same memory. -/
def bootAll (symbols : Symbols) : List Hart → Array Word → Except Fault Session
  | [], bss => return { reports := [], bss }
  | hart :: rest, bss => do
    let result ← hart.boot symbols bss
    let session ← bootAll symbols rest result.bss
    pure
      { reports := { landing := result.landing, hart := result.hart } :: session.reports
        bss := session.bss }

/-- The memory after the boot of harts: all zero if the first hart is among them. -/
def memoryAfter (harts : List Hart) (bss : Array Word) : Array Word :=
  if ∃ hart ∈ harts, hart.csr.mhartid = 0 then Array.replicate bss.size 0 else bss

theorem memoryAfter_cons (hart : Hart) (rest : List Hart) (bss : Array Word) :
    memoryAfter (hart :: rest) bss =
      memoryAfter rest (if hart.csr.mhartid = 0 then Array.replicate bss.size 0 else bss) := by
  unfold memoryAfter
  by_cases hfirst : hart.csr.mhartid = 0
  · -- A memory that is zero already stays so, whoever else is among the rest.
    have hmem : ∃ h ∈ hart :: rest, h.csr.mhartid = 0 := ⟨hart, List.mem_cons_self, hfirst⟩
    rw [if_pos hmem, if_pos hfirst, Array.size_replicate]
    split <;> rfl
  · have hrest :
        (∃ h ∈ hart :: rest, h.csr.mhartid = 0) ↔ ∃ h ∈ rest, h.csr.mhartid = 0 := by
      simp only [List.mem_cons, or_and_right, exists_or, exists_eq_left]
      exact or_iff_right hfirst
    rw [if_neg hfirst]
    simp only [hrest]

theorem memoryAfter_perm {harts order : List Hart} (h : order.Perm harts) (bss : Array Word) :
    memoryAfter order bss = memoryAfter harts bss := by
  have hmem :
      (∃ hart ∈ order, hart.csr.mhartid = 0) ↔ ∃ hart ∈ harts, hart.csr.mhartid = 0 := by
    simp only [h.mem_iff]
  unfold memoryAfter
  simp only [hmem]

namespace Symbols.Plans

variable {symbols : Symbols} {one other : HartId} {plan plan' : Plan}

theorem disjoint_stack (h : symbols.Plans one plan) (h' : symbols.Plans other plan')
    (hne : one ≠ other) :
    Disjoint (Set.Ico (plan.stackTop.toNat - 0x10000) plan.stackTop.toNat)
      (Set.Ico (plan'.stackTop.toNat - 0x10000) plan'.stackTop.toNat) := by
  have hval : one.val ≠ other.val := fun heq => hne (Fin.ext heq)
  have hstack := h.stack
  have hstack' := h'.stack
  rw [Set.Ico_disjoint_Ico]
  omega

theorem disjoint_frame (h : symbols.Plans one plan) (h' : symbols.Plans other plan')
    (hne : one ≠ other) :
    Disjoint (Set.Ico plan.kernelFrame.toNat (plan.kernelFrame.toNat + 560))
      (Set.Ico plan'.kernelFrame.toNat (plan'.kernelFrame.toNat + 560)) := by
  have hval : one.val ≠ other.val := fun heq => hne (Fin.ext heq)
  have hframe := h.frame
  have hframe' := h'.frame
  rw [Set.Ico_disjoint_Ico]
  omega

end Symbols.Plans

end Boot

namespace Hart

/-- The addresses of a boot stack that ends where the stack pointer is. -/
def bootStack (hart : Hart) : Set Nat :=
  Set.Ico ((hart.read Register.sp).toNat - 0x10000) (hart.read Register.sp).toNat

/-- The addresses of the frame that `mscratch` designates. -/
def frameBytes (hart : Hart) : Set Nat :=
  Set.Ico hart.csr.mscratch.toNat (hart.csr.mscratch.toNat + 560)

/-- What a hart reports of its boot over a memory of so many words. -/
def report (hart : Hart) (symbols : Boot.Symbols) (words : Nat) : Boot.Report :=
  match symbols.plan? hart.csr.mhartid with
  | .ok (some plan) =>
    let booted := hart.booted symbols plan
    { landing := .dropped booted.mode booted.pc (if hart.csr.mhartid = 0 then words else 0)
      hart := booted }
  | _ => { landing := .parked, hart := { hart.openMemory symbols with pc := symbols.park } }

/-- A hart that the kernel runs has dropped, and its stack and its frame lie in the address space.
-/
structure Starts (before : Hart) (words : Nat) (report : Boot.Report) : Prop where
  landing : report.landing =
    .dropped report.hart.mode report.hart.pc (if before.csr.mhartid = 0 then words else 0)
  stack : 0x10000 ≤ (report.hart.read Register.sp).toNat
  frame : report.hart.csr.mscratch.toNat + 560 ≤ 2 ^ 64

/-- A hart beyond the ceiling waits for good, and can take no trap into the kernel. -/
structure Parks (symbols : Boot.Symbols) (before : Hart) (report : Boot.Report) : Prop where
  landing : report.landing = .parked
  pc : report.hart.pc = symbols.park
  csr : report.hart.csr =
    { before.csr with
      mscratch := 0
      satp := 0
      pmpaddr0 := pmpAddressAll
      pmpcfg0 := pmpConfigAll }
  sp : report.hart.read Register.sp = before.read Register.sp

theorem report_of_beyond {hart : Hart} (hbeyond : maxHarts ≤ hart.csr.mhartid.toNat)
    (symbols : Boot.Symbols) (words : Nat) :
    hart.report symbols words =
      { landing := .parked, hart := { hart.openMemory symbols with pc := symbols.park } } := by
  rw [report, Boot.Symbols.plan?_eq_none.mpr hbeyond]

theorem parks_report {hart : Hart} (hbeyond : maxHarts ≤ hart.csr.mhartid.toNat)
    (symbols : Boot.Symbols) (words : Nat) : Parks symbols hart (hart.report symbols words) := by
  rw [report_of_beyond hbeyond]
  exact ⟨rfl, rfl, csr_openMemory hart symbols, read_openMemory hart symbols Register.sp⟩

section

variable {symbols : Boot.Symbols} (hstack : 4 * 0x10000 ≤ symbols.stackTop.toNat)
  (hframes : symbols.frames.toNat + 4 * 560 ≤ 2 ^ 64)

include hstack hframes

/-- Every hart that the kernel runs has a plan, and reports what the plan makes of it. -/
theorem report_of_lt {hart : Hart} (hid : hart.csr.mhartid.toNat < maxHarts) (words : Nat) :
    ∃ id plan, hart.csr.mhartid = HartId.word id ∧ symbols.Plans id plan ∧
      hart.report symbols words =
        { landing :=
            .dropped (hart.booted symbols plan).mode (hart.booted symbols plan).pc
              (if hart.csr.mhartid = 0 then words else 0)
          hart := hart.booted symbols plan } := by
  rcases HartId.eq_word_or_beyond hart.csr.mhartid with ⟨id, hword⟩ | hbeyond
  · obtain ⟨plan, hplan⟩ := Boot.Symbols.exists_plan_of_fits hstack hframes id
    refine ⟨id, plan, hword, Boot.Symbols.plan?_word_eq_some_iff.mp hplan, ?_⟩
    rw [← hword] at hplan
    rw [report, hplan]
  · omega

theorem starts_report {hart : Hart} (hid : hart.csr.mhartid.toNat < maxHarts) (words : Nat) :
    Starts hart words (hart.report symbols words) := by
  obtain ⟨id, plan, -, hplan, hreport⟩ := report_of_lt hstack hframes hid words
  have hlt := id.isLt
  have hsp : (hart.booted symbols plan).read Register.sp = plan.stackTop :=
    read_booted hart symbols plan Register.sp
  have hscratch : (hart.booted symbols plan).csr.mscratch = plan.kernelFrame := by
    rw [csr_booted]
  have hframe := hplan.frame
  rw [hreport]
  refine ⟨rfl, ?_, ?_⟩
  · rw [hsp]
    exact hplan.room
  · rw [hscratch]
    omega

theorem disjoint_report {one other : Hart} (hone : one.csr.mhartid.toNat < maxHarts)
    (hother : other.csr.mhartid.toNat < maxHarts) (hne : one.csr.mhartid ≠ other.csr.mhartid)
    (words : Nat) :
    Disjoint (one.report symbols words).hart.bootStack
        (other.report symbols words).hart.bootStack ∧
      Disjoint (one.report symbols words).hart.frameBytes
        (other.report symbols words).hart.frameBytes := by
  obtain ⟨id, plan, hword, hplan, hreport⟩ := report_of_lt hstack hframes hone words
  obtain ⟨id', plan', hword', hplan', hreport'⟩ := report_of_lt hstack hframes hother words
  have hids : id ≠ id' := by
    rintro rfl
    exact hne (hword.trans hword'.symm)
  have hsp : ∀ (hart : Hart) (plan : Boot.Plan),
      (hart.booted symbols plan).read Register.sp = plan.stackTop :=
    fun hart plan => read_booted hart symbols plan Register.sp
  rw [hreport, hreport']
  simp only [bootStack, frameBytes, hsp, csr_booted]
  exact ⟨hplan.disjoint_stack hplan' hids, hplan.disjoint_frame hplan' hids⟩

/-- One boot ends as its report says, whatever the memory holds, and clears it if the hart is the
first. -/
theorem boot_eq_report (hart : Hart) (bss : Array Word) :
    hart.boot symbols bss =
      .ok
        { landing := (hart.report symbols bss.size).landing
          hart := (hart.report symbols bss.size).hart
          bss := if hart.csr.mhartid = 0 then Array.replicate bss.size 0 else bss } := by
  rcases Nat.lt_or_ge hart.csr.mhartid.toNat maxHarts with hid | hbeyond
  · obtain ⟨id, plan, hword, hplan, hreport⟩ := report_of_lt hstack hframes hid bss.size
    have hplan? : symbols.plan? hart.csr.mhartid = .ok (some plan) := by
      rw [hword]
      exact Boot.Symbols.plan?_word_eq_some_iff.mpr hplan
    have hfirst : hart.csr.mhartid = 0 ↔ plan.hart = HartId.boot := by
      have hzero : (0 : Word) = HartId.boot.word := rfl
      rw [hplan.hart_eq, hword, hzero, HartId.word_injective.eq_iff]
    rw [boot_eq_of_plan hplan?, hreport, clearedBy]
    simp only [hfirst]
  · have hne : hart.csr.mhartid ≠ 0 := by
      intro hzero
      rw [hzero] at hbeyond
      exact absurd hbeyond (by decide)
    rw [boot_parks hbeyond, report_of_beyond hbeyond, if_neg hne]

/-- A run of boots is one report for each hart, in the order of the boots. -/
theorem bootAll_eq_ok (harts : List Hart) (bss : Array Word) :
    Boot.bootAll symbols harts bss =
      .ok
        { reports := harts.map (·.report symbols bss.size)
          bss := Boot.memoryAfter harts bss } := by
  induction harts generalizing bss with
  | nil => rfl
  | cons hart rest ih =>
    have hsize : (if hart.csr.mhartid = 0 then Array.replicate bss.size 0 else bss).size =
        bss.size := by
      split
      · exact Array.size_replicate
      · rfl
    rw [Boot.bootAll, boot_eq_report hstack hframes hart bss]
    show (Boot.bootAll symbols rest _ >>= fun session => pure _) = _
    rw [ih, hsize, Boot.memoryAfter_cons]
    rfl

end

end Hart

/-- **Harts boot in any order.** With room for all stacks and all frames, every list of harts boots
over every memory without a fault. Each hart reports the same wherever it stands in the list, and
the memory is all zero afterwards if the first hart is in it and untouched otherwise. A hart that
the kernel runs drops, and only the first one clears; any other parks. Two harts of different
numbers share no byte of their stacks and none of their frames. -/
theorem Boot.bootAll_any_order {symbols : Boot.Symbols}
    (hstack : 4 * 0x10000 ≤ symbols.stackTop.toNat)
    (hframes : symbols.frames.toNat + 4 * 560 ≤ 2 ^ 64) (bss : Array Word) :
    ∃ report : Hart → Boot.Report,
      (∀ harts order : List Hart, order.Perm harts →
        Boot.bootAll symbols order bss =
          .ok
            { reports := order.map report
              bss :=
                if ∃ hart ∈ harts, hart.csr.mhartid = 0 then Array.replicate bss.size 0
                else bss }) ∧
      (∀ hart : Hart, hart.csr.mhartid.toNat < maxHarts →
        Hart.Starts hart bss.size (report hart)) ∧
      (∀ hart : Hart, maxHarts ≤ hart.csr.mhartid.toNat →
        Hart.Parks symbols hart (report hart)) ∧
      ∀ one other : Hart, one.csr.mhartid.toNat < maxHarts →
        other.csr.mhartid.toNat < maxHarts → one.csr.mhartid ≠ other.csr.mhartid →
        Disjoint (report one).hart.bootStack (report other).hart.bootStack ∧
          Disjoint (report one).hart.frameBytes (report other).hart.frameBytes := by
  refine ⟨(·.report symbols bss.size), ?_, ?_, ?_, ?_⟩
  · intro harts order hperm
    rw [Hart.bootAll_eq_ok hstack hframes order bss, Boot.memoryAfter_perm hperm]
    rfl
  · intro hart hid
    exact Hart.starts_report hstack hframes hid bss.size
  · intro hart hbeyond
    exact Hart.parks_report hbeyond symbols bss.size
  · intro one other hone hother hne
    exact Hart.disjoint_report hstack hframes hone hother hne bss.size

/-- Stacks that begin at address zero and frames that end with the address space are room enough.
Three harts report the same in two orders, and without the first one the memory stays. -/
theorem Boot.bootAll_any_order_tight :
    let symbols : Symbols :=
      { globalPointer := 0x80200800
        bssStart := 0x80300000
        bssStop := 0x80300018
        stackTop := 0x40000
        frames := 0xfffffffffffff740
        bootEntry := 0x80000400
        hartEntry := 0x80000600
        trapVector := vectorAddress
        park := 0x80000040 }
    4 * 0x10000 ≤ symbols.stackTop.toNat ∧ symbols.frames.toNat + 4 * 560 ≤ 2 ^ 64 ∧
      ∃ first last beyond : Report,
        bootAll symbols [.reset 0, .reset 3, .reset 9] #[1, 2, 3] =
          .ok { reports := [first, last, beyond], bss := #[0, 0, 0] } ∧
        bootAll symbols [.reset 9, .reset 0, .reset 3] #[1, 2, 3] =
          .ok { reports := [beyond, first, last], bss := #[0, 0, 0] } ∧
        bootAll symbols [.reset 3, .reset 9] #[1, 2, 3] =
          .ok { reports := [last, beyond], bss := #[1, 2, 3] } ∧
        last.landing = .dropped last.hart.mode last.hart.pc 0 ∧ beyond.landing = .parked ∧
        Disjoint first.hart.bootStack last.hart.bootStack := by
  intro symbols
  have hstack : 4 * 0x10000 ≤ symbols.stackTop.toNat := by decide
  have hframes : symbols.frames.toNat + 4 * 560 ≤ 2 ^ 64 := by decide
  obtain ⟨report, hruns, hstarts, hparks, hdisjoint⟩ :=
    bootAll_any_order hstack hframes #[1, 2, 3]
  have hperm : List.Perm ([Hart.reset 9] ++ [.reset 0, .reset 3])
      ([.reset 0, .reset 3] ++ [.reset 9]) :=
    List.perm_append_comm
  refine ⟨hstack, hframes, report (.reset 0), report (.reset 3), report (.reset 9),
    hruns _ _ (List.Perm.refl _), hruns _ _ hperm, hruns _ _ (List.Perm.refl _), ?_, ?_, ?_⟩
  · exact (hstarts (.reset 3) (by decide)).landing
  · exact (hparks (.reset 9) (by decide)).landing
  · exact (hdisjoint (.reset 0) (.reset 3) (by decide) (by decide) (by decide)).1

end HartKernel
