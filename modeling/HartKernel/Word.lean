import HartKernel.Position

/-!
# Machine words and checked arithmetic

Registers, addresses and status words are 64 bits wide. Address arithmetic is *checked*: a sum,
difference or product that leaves the range of a word is a `Fault`, never a wrapped result. Main
statements: `checkedAdd_eq_ok_iff`, `checkedSub_eq_ok_iff` and `checkedMul_eq_ok_iff` say exactly
when each operation has a result, and that the result is then the one over the natural numbers.
-/

namespace HartKernel

/-- A 64-bit register, address or status word. -/
abbrev Word := BitVec 64

/-- Why a computation was abandoned. -/
inductive Fault where
  /-- A sum left the range of a word. -/
  | addOverflow
  /-- A difference went below zero. -/
  | subOverflow
  /-- A product left the range of a word. -/
  | mulOverflow
  /-- A position beyond the end of a register file. -/
  | indexOutOfBounds (length index : Nat)
  deriving DecidableEq, Repr

/-- The text under which a fault is reported. -/
def Fault.message : Fault → String
  | .addOverflow => "attempt to add with overflow"
  | .subOverflow => "attempt to subtract with overflow"
  | .mulOverflow => "attempt to multiply with overflow"
  | .indexOutOfBounds length index =>
    "index out of bounds: the len is " ++ length.repr ++ " but the index is " ++ index.repr

/-- The sum of two words, unless it is `2 ^ 64` or more. -/
def checkedAdd (a b : Word) : Except Fault Word :=
  if a.uaddOverflow b then .error .addOverflow else .ok (a + b)

/-- The difference of two words, unless it is negative. -/
def checkedSub (a b : Word) : Except Fault Word :=
  if b.toNat ≤ a.toNat then .ok (a - b) else .error .subOverflow

/-- The product of two words, unless it is `2 ^ 64` or more. -/
def checkedMul (a b : Word) : Except Fault Word :=
  if a.umulOverflow b then .error .mulOverflow else .ok (a * b)

/-- The difference of two words, or zero if it is negative. -/
def saturatingSub (a b : Word) : Word :=
  if b.toNat ≤ a.toNat then a - b else 0

/-- A sequence of computations has a result iff each of them has one. -/
theorem bind_eq_ok_iff {ε α β : Type} {first : Except ε α} {next : α → Except ε β} {b : β} :
    (first >>= next) = .ok b ↔ ∃ a, first = .ok a ∧ next a = .ok b := by
  cases first with
  | error reason =>
    constructor
    · intro h; cases h
    · rintro ⟨a, h, -⟩; cases h
  | ok a =>
    constructor
    · intro h; exact ⟨a, rfl, h⟩
    · rintro ⟨b, h, hb⟩
      cases h
      exact hb

theorem map_eq_ok_iff {ε α β : Type} {result : Except ε α} {f : α → β} {b : β} :
    result.map f = .ok b ↔ ∃ a, result = .ok a ∧ f a = b := by
  cases result with
  | error reason =>
    constructor
    · intro h; cases h
    · rintro ⟨a, ha, -⟩; cases ha
  | ok a =>
    constructor
    · intro h; cases h; exact ⟨a, rfl, rfl⟩
    · rintro ⟨a', ha, rfl⟩; cases ha; rfl

theorem checkedAdd_eq_ok_iff {a b c : Word} :
    checkedAdd a b = .ok c ↔ a.toNat + b.toNat = c.toNat := by
  unfold checkedAdd
  split
  · next h =>
    have hlarge : a.toNat + b.toNat ≥ 2 ^ 64 := of_decide_eq_true h
    have := c.isLt
    constructor
    · intro hc; cases hc
    · omega
  · next h =>
    have hsmall : a.toNat + b.toNat < 2 ^ 64 :=
      Nat.not_le.mp (of_decide_eq_false (Bool.not_eq_true _ ▸ h))
    rw [Except.ok.injEq, BitVec.toNat_eq, BitVec.toNat_add, Nat.mod_eq_of_lt hsmall]

theorem checkedSub_eq_ok_iff {a b c : Word} :
    checkedSub a b = .ok c ↔ c.toNat + b.toNat = a.toNat := by
  unfold checkedSub
  split
  · next h =>
    simp only [Except.ok.injEq, BitVec.toNat_eq, BitVec.toNat_sub_of_le (BitVec.le_def.mpr h)]
    omega
  · next h =>
    constructor
    · intro hc; cases hc
    · omega

theorem checkedMul_eq_ok_iff {a b c : Word} :
    checkedMul a b = .ok c ↔ a.toNat * b.toNat = c.toNat := by
  unfold checkedMul
  split
  · next h =>
    have hlarge : a.toNat * b.toNat ≥ 2 ^ 64 := of_decide_eq_true h
    have := c.isLt
    constructor
    · intro hc; cases hc
    · omega
  · next h =>
    have hsmall : a.toNat * b.toNat < 2 ^ 64 :=
      Nat.not_le.mp (of_decide_eq_false (Bool.not_eq_true _ ▸ h))
    rw [Except.ok.injEq, BitVec.toNat_eq, BitVec.toNat_mul, Nat.mod_eq_of_lt hsmall]

/-- A saturating difference is the truncated difference of natural numbers. -/
theorem toNat_saturatingSub (a b : Word) : (saturatingSub a b).toNat = a.toNat - b.toNat := by
  unfold saturatingSub
  split
  · next h => exact BitVec.toNat_sub_of_le (BitVec.le_def.mpr h)
  · next h =>
    have : (0 : Word).toNat = 0 := rfl
    omega

end HartKernel
