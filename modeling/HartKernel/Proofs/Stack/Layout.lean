import HartKernel.Proofs.Hart.BootPath
import HartKernel.Stack.Layout
import Mathlib.Order.CompletePartialOrder
import Mathlib.Order.Interval.Set.Disjoint

/-!
# A layout is a promise about stacks

A region is checked in one place and carved into stacks in two others, by the layout itself and by
the boot plans. All three compute with words, and the region may be inverted or end with the address
space. Over the natural numbers they come to this:

* a region is accepted iff it holds the stacks of its harts (`check?_eq_ok_iff`), and refused for
  the first reason that applies to it (`check?_eq_error_iff`);
* the product in between is taken only where it fits into a word (`checkOrFault_eq_ok`);
* every hart of an accepted layout has a stack in the region (`stack?_of_holds`,
  `carves_of_stack?`), apart from all others (`disjoint_of_stack?`) and the same that its boot plan
  gives it (`exists_plan_of_stack?`).
-/

namespace HartKernel

/-- The addresses in a range. -/
def AddressRange.addresses (range : AddressRange) : Set Nat :=
  Set.Ico range.start.toNat range.stop.toNat

namespace Stack.Layout

/-- A region with an aligned top that is large enough for the stacks of its harts. -/
structure Holds (layout : Layout) : Prop where
  some : 1 ≤ layout.harts.toNat
  ceiling : layout.harts.toNat ≤ maxHarts
  aligned : 16 ∣ layout.top.toNat
  room : layout.bottom.toNat + layout.harts.toNat * 0x10000 ≤ layout.top.toNat

/-- What is wrong with a region. Of several reasons only the first counts. -/
inductive Objects (bottom top harts : Word) : Refusal → Prop where
  | noHarts (hnone : harts.toNat = 0) : Objects bottom top harts .noHarts
  | tooManyHarts (hmany : maxHarts < harts.toNat) : Objects bottom top harts (.tooManyHarts harts)
  | misaligned (hsome : 1 ≤ harts.toNat) (hceiling : harts.toNat ≤ maxHarts)
      (hcrooked : ¬16 ∣ top.toNat) : Objects bottom top harts (.misaligned top)
  | regionTooSmall {needed available : Word} (hsome : 1 ≤ harts.toNat)
      (hceiling : harts.toNat ≤ maxHarts) (haligned : 16 ∣ top.toNat)
      (hsmall : top.toNat < bottom.toNat + harts.toNat * 0x10000)
      (hneeded : needed.toNat = harts.toNat * 0x10000)
      (havailable : available.toNat = top.toNat - bottom.toNat) :
      Objects bottom top harts (.regionTooSmall needed available)

/-- The check with its product under the overflow check, and not taken before it is needed. -/
def checkOrFault (bottom top harts : Word) : Except Fault (Except Refusal Layout) :=
  if harts = 0 then return .error .noHarts
  else if maxHarts < harts.toNat then return .error (.tooManyHarts harts)
  else if top % alignment ≠ 0 then return .error (.misaligned top)
  else do
    let needed ← checkedMul harts bootSize
    let available := saturatingSub top bottom
    if available.toNat < needed.toNat then return .error (.regionTooSmall needed available)
    else return .ok { bottom, top, harts }

/-- A stack of the fixed size in a region, with an end that can be a stack pointer. -/
structure Carves (layout : Layout) (range : AddressRange) : Prop where
  inside : range.addresses ⊆ Set.Ico layout.bottom.toNat layout.top.toNat
  size : range.start.toNat + 0x10000 = range.stop.toNat
  aligned : 16 ∣ range.stop.toNat

variable {bottom top harts : Word}

/-! ### The check -/

theorem eq_zero_iff : harts = 0 ↔ harts.toNat = 0 :=
  ⟨fun h => h ▸ rfl, fun h => BitVec.eq_of_toNat_eq h⟩

theorem mod_alignment_eq_zero_iff : top % alignment = 0 ↔ 16 ∣ top.toNat := by
  rw [eq_zero_iff, BitVec.toNat_umod, Nat.dvd_iff_mod_eq_zero]
  rfl

theorem toNat_needed (h : harts.toNat ≤ maxHarts) :
    (harts * bootSize).toNat = harts.toNat * 0x10000 := by
  have hsize : bootSize.toNat = 0x10000 := rfl
  have hceiling : harts.toNat ≤ 4 := h
  rw [BitVec.toNat_mul, hsize]
  omega

/-- Neither account of the check goes wrong where the other does not. -/
theorem checkOrFault_eq_ok (bottom top harts : Word) :
    checkOrFault bottom top harts = .ok (check? bottom top harts) := by
  unfold checkOrFault check?
  by_cases hnone : harts = 0
  · rw [if_pos hnone, if_pos hnone]; rfl
  by_cases hmany : maxHarts < harts.toNat
  · rw [if_neg hnone, if_neg hnone, if_pos hmany, if_pos hmany]; rfl
  by_cases hcrooked : top % alignment ≠ 0
  · rw [if_neg hnone, if_neg hnone, if_neg hmany, if_neg hmany, if_pos hcrooked, if_pos hcrooked]
    rfl
  -- Past the second test there are four harts at most, and the product is small.
  have hneeded : checkedMul harts bootSize = pure (harts * bootSize) := by
    show _ = Except.ok (harts * bootSize)
    rw [checkedMul_eq_ok_iff, toNat_needed (Nat.not_lt.mp hmany)]
    rfl
  rw [if_neg hnone, if_neg hnone, if_neg hmany, if_neg hmany, if_neg hcrooked, if_neg hcrooked,
    hneeded, pure_bind]
  exact (apply_ite Except.ok _ _ _).symm

theorem check?_of_holds (h : Holds { bottom, top, harts }) :
    check? bottom top harts = .ok { bottom, top, harts } := by
  obtain ⟨hsome, hceiling, haligned, hroom⟩ := h
  dsimp only at hsome hceiling haligned hroom
  have hlarge : ¬(saturatingSub top bottom).toNat < (harts * bootSize).toNat := by
    rw [toNat_saturatingSub, toNat_needed hceiling]
    omega
  rw [check?, if_neg (by rw [eq_zero_iff]; omega), if_neg (Nat.not_lt.mpr hceiling),
    if_neg (not_not_intro (mod_alignment_eq_zero_iff.mpr haligned)), if_neg hlarge]

theorem check?_of_objects {refusal : Refusal} (h : Objects bottom top harts refusal) :
    check? bottom top harts = .error refusal := by
  cases h with
  | noHarts hnone => rw [check?, if_pos (eq_zero_iff.mpr hnone)]
  | tooManyHarts hmany =>
    rw [check?, if_neg (by rw [eq_zero_iff]; omega), if_pos hmany]
  | misaligned hsome hceiling hcrooked =>
    rw [check?, if_neg (by rw [eq_zero_iff]; omega), if_neg (Nat.not_lt.mpr hceiling),
      if_pos (mt mod_alignment_eq_zero_iff.mp hcrooked)]
  | @regionTooSmall needed available hsome hceiling haligned hsmall hneeded havailable =>
    have hneeded' : harts * bootSize = needed := by
      apply BitVec.eq_of_toNat_eq
      rw [toNat_needed hceiling, hneeded]
    have havailable' : saturatingSub top bottom = available := by
      apply BitVec.eq_of_toNat_eq
      rw [toNat_saturatingSub, havailable]
    rw [check?, if_neg (by rw [eq_zero_iff]; omega), if_neg (Nat.not_lt.mpr hceiling),
      if_neg (not_not_intro (mod_alignment_eq_zero_iff.mpr haligned)), hneeded', havailable',
      if_pos (by omega)]

/-- Nothing is left open: a region holds its stacks, or there is a reason against it. -/
theorem holds_or_objects (bottom top harts : Word) :
    Holds { bottom, top, harts } ∨ ∃ refusal, Objects bottom top harts refusal := by
  rcases Nat.eq_zero_or_pos harts.toNat with hnone | hsome
  · exact Or.inr ⟨_, .noHarts hnone⟩
  rcases Nat.lt_or_ge maxHarts harts.toNat with hmany | hceiling
  · exact Or.inr ⟨_, .tooManyHarts hmany⟩
  by_cases haligned : 16 ∣ top.toNat
  · rcases Nat.lt_or_ge top.toNat (bottom.toNat + harts.toNat * 0x10000) with hsmall | hroom
    · exact Or.inr ⟨_, .regionTooSmall hsome hceiling haligned hsmall (toNat_needed hceiling)
        (toNat_saturatingSub top bottom)⟩
    · exact Or.inl ⟨hsome, hceiling, haligned, hroom⟩
  · exact Or.inr ⟨_, .misaligned hsome hceiling haligned⟩

theorem check?_eq_ok_iff {layout : Layout} :
    check? bottom top harts = .ok layout ↔ layout = { bottom, top, harts } ∧ layout.Holds := by
  constructor
  · intro h
    rcases holds_or_objects bottom top harts with hholds | ⟨refusal, hobjects⟩
    · rw [check?_of_holds hholds] at h
      cases h
      exact ⟨rfl, hholds⟩
    · rw [check?_of_objects hobjects] at h
      cases h
  · rintro ⟨rfl, hholds⟩
    exact check?_of_holds hholds

theorem check?_eq_error_iff {refusal : Refusal} :
    check? bottom top harts = .error refusal ↔ Objects bottom top harts refusal := by
  constructor
  · intro h
    rcases holds_or_objects bottom top harts with hholds | ⟨refusal', hobjects⟩
    · rw [check?_of_holds hholds] at h
      cases h
    · rw [check?_of_objects hobjects] at h
      cases h
      exact hobjects
  · exact check?_of_objects

/-! ### The stacks -/

variable {layout : Layout} {hart : HartId} {range : AddressRange}

theorem stack?_eq_none_iff : layout.stack? hart = .ok none ↔ layout.harts.toNat ≤ hart.val := by
  unfold stack?
  by_cases houtside : layout.harts.toNat ≤ hart.val
  · rw [if_pos houtside]
    exact ⟨fun _ => houtside, fun _ => rfl⟩
  · rw [if_neg houtside]
    constructor
    · intro h
      -- A hart of the layout gets a stack or a fault.
      obtain ⟨range, -, h⟩ := bind_eq_ok_iff.mp h
      cases h
    · intro h
      exact absurd h houtside

theorem stack?_eq_some_iff :
    layout.stack? hart = .ok (some range) ↔
      hart.val < layout.harts.toNat ∧ bootRange layout.top hart = .ok range := by
  unfold stack?
  by_cases houtside : layout.harts.toNat ≤ hart.val
  · rw [if_pos houtside]
    constructor
    · intro h; cases h
    · rintro ⟨hinside, -⟩
      omega
  · rw [if_neg houtside]
    constructor
    · intro h
      obtain ⟨range', hrange, h⟩ := bind_eq_ok_iff.mp h
      cases h
      exact ⟨Nat.not_le.mp houtside, hrange⟩
    · rintro ⟨-, hrange⟩
      exact bind_eq_ok_iff.mpr ⟨range, hrange, rfl⟩

/-- The room that was checked for is enough for the arithmetic of every stack. -/
theorem stack?_of_holds (h : layout.Holds) (hinside : hart.val < layout.harts.toNat) :
    ∃ range, layout.stack? hart = .ok (some range) := by
  have hroom := h.room
  have hlt := layout.top.isLt
  let start : Word := BitVec.ofNat 64 (layout.top.toNat - hart.val * 0x10000 - 0x10000)
  let stop : Word := BitVec.ofNat 64 (layout.top.toNat - hart.val * 0x10000)
  have hstart : start.toNat = layout.top.toNat - hart.val * 0x10000 - 0x10000 := by
    rw [BitVec.toNat_ofNat, Nat.mod_eq_of_lt (by omega)]
  have hstop : stop.toNat = layout.top.toNat - hart.val * 0x10000 := by
    rw [BitVec.toNat_ofNat, Nat.mod_eq_of_lt (by omega)]
  refine ⟨{ start, stop }, stack?_eq_some_iff.mpr ⟨hinside, bootRange_eq_ok_iff.mpr ?_⟩⟩
  show stop.toNat + _ = _ ∧ start.toNat + _ = stop.toNat
  omega

theorem carves_of_stack? (h : layout.Holds) (hstack : layout.stack? hart = .ok (some range)) :
    layout.Carves range := by
  obtain ⟨hinside, hrange⟩ := stack?_eq_some_iff.mp hstack
  obtain ⟨hstop, hstart⟩ := bootRange_eq_ok_iff.mp hrange
  have hroom := h.room
  have haligned := h.aligned
  refine ⟨?_, hstart, by omega⟩
  rw [AddressRange.addresses]
  apply Set.Ico_subset_Ico <;> omega

/-- Two harts have their stacks apart, be they of the layout or not. -/
theorem disjoint_of_stack? {other : HartId} {range' : AddressRange} (hne : other ≠ hart)
    (hstack : layout.stack? hart = .ok (some range))
    (hstack' : layout.stack? other = .ok (some range')) :
    Disjoint range.addresses range'.addresses := by
  obtain ⟨-, hrange⟩ := stack?_eq_some_iff.mp hstack
  obtain ⟨-, hrange'⟩ := stack?_eq_some_iff.mp hstack'
  obtain ⟨hstop, hstart⟩ := bootRange_eq_ok_iff.mp hrange
  obtain ⟨hstop', hstart'⟩ := bootRange_eq_ok_iff.mp hrange'
  have hval : other.val ≠ hart.val := fun heq => hne (Fin.ext heq)
  rw [AddressRange.addresses, AddressRange.addresses, Set.Ico_disjoint_Ico]
  omega

/-- The boot plan of a hart gives it the stack that the layout has promised. -/
theorem exists_plan_of_stack? (hstack : layout.stack? hart = .ok (some range))
    {symbols : Boot.Symbols} (htop : symbols.stackTop = layout.top)
    (hframe : symbols.frames.toNat + hart.val * 560 < 2 ^ 64) :
    ∃ plan, symbols.plan? hart.word = .ok (some plan) ∧ plan.stackTop = range.stop := by
  obtain ⟨-, hrange⟩ := stack?_eq_some_iff.mp hstack
  obtain ⟨hstop, hstart⟩ := bootRange_eq_ok_iff.mp hrange
  rw [← htop] at hstop
  obtain ⟨plan, hplan⟩ := Boot.Symbols.exists_plan_of_room (by omega) hframe
  refine ⟨plan, hplan, BitVec.eq_of_toNat_eq ?_⟩
  have hplanned := (Boot.Symbols.plan?_word_eq_some_iff.mp hplan).stack
  omega

/-- **Layouts and plans agree on safe stacks.** A region is accepted iff it holds the stacks of its
harts, refused for the first reason against it otherwise, and never is an overflow on the way. Once
it is accepted, exactly its harts have stacks: of full size, in the region, with aligned ends, each
apart from all others, and each where the boot plan of its hart puts the stack pointer. -/
theorem agrees_with_plans (bottom top harts : Word) :
    (∀ layout, check? bottom top harts = .ok layout ↔
      layout = { bottom, top, harts } ∧ layout.Holds) ∧
    (∀ refusal, check? bottom top harts = .error refusal ↔ Objects bottom top harts refusal) ∧
    checkOrFault bottom top harts = .ok (check? bottom top harts) ∧
    ∀ layout, check? bottom top harts = .ok layout → ∀ hart : HartId,
      (layout.stack? hart = .ok none ↔ harts.toNat ≤ hart.val) ∧
      (hart.val < harts.toNat → ∃ range, layout.stack? hart = .ok (some range) ∧
        layout.Carves range ∧
        (∀ other range', other ≠ hart → layout.stack? other = .ok (some range') →
          Disjoint range.addresses range'.addresses) ∧
        ∀ symbols : Boot.Symbols, symbols.stackTop = top →
          symbols.frames.toNat + hart.val * 560 < 2 ^ 64 →
          ∃ plan, symbols.plan? hart.word = .ok (some plan) ∧ plan.stackTop = range.stop) := by
  refine ⟨fun _ => check?_eq_ok_iff, fun _ => check?_eq_error_iff, checkOrFault_eq_ok .., ?_⟩
  intro layout hlayout hart
  obtain ⟨rfl, hholds⟩ := check?_eq_ok_iff.mp hlayout
  refine ⟨stack?_eq_none_iff, ?_⟩
  intro hinside
  obtain ⟨range, hstack⟩ := stack?_of_holds hholds hinside
  refine ⟨range, hstack, carves_of_stack? hholds hstack, ?_, ?_⟩
  · intro other range' hne hstack'
    exact disjoint_of_stack? hne hstack hstack'
  · intro symbols htop hframe
    exact exists_plan_of_stack? hstack htop hframe

/-- Two stacks that fill a region to its last byte, below the end of the address space. The second
one begins where the region does, and is where the boot plan of the second hart ends it. -/
theorem agrees_with_plans_tight :
    let bottom : Word := 0xfffffffffffdfff0
    let top : Word := 0xfffffffffffffff0
    let symbols : Boot.Symbols :=
      { globalPointer := 0, bssStart := 0, bssStop := 0, stackTop := top, frames := 0x80310000
        bootEntry := 0, hartEntry := 0, trapVector := vectorAddress, park := 0 }
    ∃ layout range plan,
      check? bottom top 2 = .ok layout ∧ layout.stack? 1 = .ok (some range) ∧
      range.addresses ⊆ Set.Ico bottom.toNat top.toNat ∧ layout.stack? 2 = .ok none ∧
      symbols.plan? 1 = .ok (some plan) ∧ plan.stackTop = range.stop ∧
      check? (bottom + 1) top 2 = .error (.regionTooSmall 0x20000 0x1ffff) := by
  intro bottom top symbols
  obtain ⟨haccepts, -, -, hstacks⟩ := agrees_with_plans bottom top 2
  obtain ⟨-, hrefuses, -⟩ := agrees_with_plans (bottom + 1) top 2
  have hlayout : check? bottom top 2 = .ok { bottom, top, harts := 2 } :=
    (haccepts _).mpr ⟨rfl, by decide, by decide, by decide, by decide⟩
  have hrefusal : check? (bottom + 1) top 2 = .error (.regionTooSmall 0x20000 0x1ffff) := by
    rw [hrefuses]
    constructor <;> decide
  obtain ⟨range, hstack, hcarves, -, hplans⟩ := (hstacks _ hlayout 1).2 (by decide)
  obtain ⟨plan, hplan, hstop⟩ := hplans symbols rfl (by decide)
  exact ⟨_, range, plan, hlayout, hstack, hcarves.inside, (hstacks _ hlayout 2).1.mpr (by decide),
    hplan, hstop, hrefusal⟩

end Stack.Layout

end HartKernel
