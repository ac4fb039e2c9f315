import HartKernel.Proofs.Status.Bits
import HartKernel.Trap.Cause
import Mathlib.Algebra.Group.Nat.Defs
import Mathlib.Logic.ExistsUnique

/-!
# What a cause word says

A cause word is decoded into its top bit and the bits below it, and nothing is lost by that
(`word_ofWord`). So what is decided on the decoded cause is decided on the word as a whole:
`eq_interruptFlag_or` for an interrupt and `isCall_ofWord_iff` for the system calls. The same small
code means one thing with the top bit and another thing without it.

A cause has room for more than a word can carry. In the word the top bit of the code and the mark of
an interrupt fall together (`getLsbD_word`), so that a cause comes back from its word iff its code
ends below that bit (`ofWord_word_eq_iff`). Whether it is a system call can be told from the word in
any case (`isCall_iff`). `round_trips` has both directions.
-/

namespace HartKernel.Cause

variable {mcause : Word}

theorem interruptFlag_eq_twoPow : interruptFlag = BitVec.twoPow 64 63 := rfl

theorem interrupt_ofWord (mcause : Word) : (ofWord mcause).interrupt = mcause.getLsbD 63 := by
  rw [ofWord, interruptFlag_eq_twoPow, BitVec.and_twoPow]
  cases mcause.getLsbD 63 <;> rfl

/-- The code has every bit of the word but the top one. -/
theorem getLsbD_code_ofWord (mcause : Word) (i : Nat) :
    (ofWord mcause).code.getLsbD i = if i = 63 then false else mcause.getLsbD i := by
  have hcode : (ofWord mcause).code = Flags.set mcause (BitVec.twoPow 64 63) false := rfl
  rw [hcode, Flags.getLsbD_set_twoPow]
  simp

/-- The code is the remainder of the word by its top bit. -/
theorem toNat_code_ofWord (mcause : Word) :
    (ofWord mcause).code.toNat = mcause.toNat % 2 ^ 63 := by
  apply Nat.eq_of_testBit_eq
  intro i
  rw [BitVec.testBit_toNat, getLsbD_code_ofWord, Nat.testBit_mod_two_pow, BitVec.testBit_toNat]
  by_cases hlow : i < 63
  · rw [if_neg (by omega), decide_eq_true hlow, Bool.true_and]
  -- From there on the remainder has no bits, and the code has none either.
  rw [decide_eq_false hlow, Bool.false_and]
  by_cases htop : i = 63
  · rw [if_pos htop]
  · rw [if_neg htop, BitVec.getLsbD_of_ge _ _ (by omega)]

/-- The top bit of a word is set for an interrupt, or else it is the top bit of the code. -/
theorem getLsbD_word (cause : Cause) (i : Nat) :
    cause.word.getLsbD i =
      if i = 63 then cause.interrupt || cause.code.getLsbD 63 else cause.code.getLsbD i := by
  rw [word]
  cases cause.interrupt with
  | true =>
    show (Flags.set cause.code (BitVec.twoPow 64 63) true).getLsbD i = _
    rw [Flags.getLsbD_set_twoPow, Bool.true_or]
    simp
  | false =>
    rw [if_neg (by simp), Bool.false_or]
    by_cases hi : i = 63
    · rw [if_pos hi, hi]
    · rw [if_neg hi]

/-! ### From a word and back -/

theorem word_ofWord (mcause : Word) : (ofWord mcause).word = mcause := by
  apply BitVec.eq_of_getLsbD_eq
  intro i _
  -- The top bit is taken out of the code and put back.
  rw [getLsbD_word, interrupt_ofWord, getLsbD_code_ofWord, getLsbD_code_ofWord, if_pos rfl,
    Bool.or_false]
  by_cases hi : i = 63
  · rw [if_pos hi, hi]
  · rw [if_neg hi, if_neg hi]

theorem eq_interruptFlag_or (h : (ofWord mcause).interrupt = true) :
    mcause = interruptFlag ||| (ofWord mcause).code := by
  calc mcause = (ofWord mcause).word := (word_ofWord mcause).symm
    _ = (ofWord mcause).code ||| interruptFlag := by rw [word, h, if_pos rfl]
    _ = interruptFlag ||| (ofWord mcause).code := BitVec.or_comm ..

/-! ### Into a word and back -/

theorem interrupt_ofWord_word (cause : Cause) :
    (ofWord cause.word).interrupt = (cause.interrupt || cause.code.getLsbD 63) := by
  rw [interrupt_ofWord, getLsbD_word, if_pos rfl]

theorem code_ofWord_word (cause : Cause) :
    (ofWord cause.word).code = (ofWord cause.code).code := by
  apply BitVec.eq_of_getLsbD_eq
  intro i _
  rw [getLsbD_code_ofWord, getLsbD_code_ofWord, getLsbD_word]
  by_cases hi : i = 63
  · rw [if_pos hi, if_pos hi]
  · rw [if_neg hi, if_neg hi, if_neg hi]

theorem toNat_code_ofWord_word (cause : Cause) :
    (ofWord cause.word).code.toNat = cause.code.toNat % 2 ^ 63 := by
  rw [code_ofWord_word, toNat_code_ofWord]

/-- A cause comes back from its word iff the word has room for the code. -/
theorem ofWord_word_eq_iff {cause : Cause} :
    ofWord cause.word = cause ↔ cause.code.toNat < 2 ^ 63 := by
  constructor
  · intro h
    have hcode := toNat_code_ofWord_word cause
    rw [h] at hcode
    omega
  · intro h
    have htop : cause.code.getLsbD 63 = false := Nat.testBit_lt_two_pow h
    have hinterrupt : (ofWord cause.word).interrupt = cause.interrupt := by
      rw [interrupt_ofWord_word, htop, Bool.or_false]
    have hcode : (ofWord cause.word).code = cause.code := by
      apply BitVec.eq_of_toNat_eq
      rw [toNat_code_ofWord_word, Nat.mod_eq_of_lt h]
    show Cause.mk (ofWord cause.word).interrupt (ofWord cause.word).code = cause
    rw [hinterrupt, hcode]

/-! ### System calls -/

/-- The cause words of the system calls. -/
def calls : List Word :=
  [callFromUser, callFromSupervisor, callFromMachine]

theorem mem_calls_iff {w : Word} : w ∈ calls ↔ ∃ mode, w = callFrom mode := by
  simp only [calls, List.mem_cons, List.not_mem_nil, or_false]
  constructor
  · intro h
    rcases h with rfl | rfl | rfl
    · exact ⟨.user, rfl⟩
    · exact ⟨.supervisor, rfl⟩
    · exact ⟨.machine, rfl⟩
  · rintro ⟨mode, rfl⟩
    cases mode with
    | user => exact Or.inl rfl
    | supervisor => exact Or.inr (Or.inl rfl)
    | machine => exact Or.inr (Or.inr rfl)

theorem callFrom_injective : Function.Injective callFrom := by
  intro mode other h
  cases mode <;> cases other <;> revert h <;> decide

theorem existsUnique_callFrom_iff {w : Word} :
    (∃! mode, w = callFrom mode) ↔ ∃ mode, w = callFrom mode := by
  constructor
  · exact ExistsUnique.exists
  · rintro ⟨mode, hmode⟩
    refine ⟨mode, hmode, ?_⟩
    intro other hother
    exact callFrom_injective (hother.symm.trans hmode)

theorem getLsbD_of_mem_calls {w : Word} (h : w ∈ calls) : w.getLsbD 63 = false := by
  obtain ⟨mode, rfl⟩ := mem_calls_iff.mp h
  cases mode <;> rfl

/-- A system call is one of three words, and no code that is too large for a word comes to one. -/
theorem isCall_iff {cause : Cause} : cause.isCall = true ↔ cause.word ∈ calls := by
  cases hinterrupt : cause.interrupt with
  | true =>
    -- The word of an interrupt has the top bit, and that of a call does not.
    have htop : cause.word.getLsbD 63 = true := by
      rw [getLsbD_word, if_pos rfl, hinterrupt, Bool.true_or]
    have hword : cause.word ∉ calls := by
      intro h
      rw [getLsbD_of_mem_calls h] at htop
      cases htop
    rw [isCall, hinterrupt]
    simpa using hword
  | false =>
    rw [isCall, word, hinterrupt, if_neg (by simp)]
    simp [calls, or_assoc]

/-- A system call is one of three words, none of which has the top bit. -/
theorem isCall_ofWord_iff : (ofWord mcause).isCall = true ↔ mcause ∈ calls := by
  rw [isCall_iff, word_ofWord]

/-- **Cause words and causes.** Every word comes back from the cause that it decodes to. A cause
comes back from its word with the top bit of its code joined to the mark of an interrupt, so that it
is the same iff that bit is not set. And whatever the code, a cause is a system call iff its word is
that of a call from some mode, and from one mode only. -/
theorem round_trips :
    (∀ mcause : Word, (ofWord mcause).word = mcause) ∧
    ∀ cause : Cause,
      (ofWord cause.word).interrupt = (cause.interrupt || cause.code.getLsbD 63) ∧
      (ofWord cause.word).code.toNat = cause.code.toNat % 2 ^ 63 ∧
      (ofWord cause.word = cause ↔ cause.code.toNat < 2 ^ 63) ∧
      (cause.isCall = true ↔ ∃ mode, cause.word = callFrom mode) ∧
      (cause.isCall = true ↔ ∃! mode, cause.word = callFrom mode) := by
  refine ⟨word_ofWord, ?_⟩
  intro cause
  have hcall : cause.isCall = true ↔ ∃ mode, cause.word = callFrom mode :=
    isCall_iff.trans mem_calls_iff
  exact ⟨interrupt_ofWord_word cause, toNat_code_ofWord_word cause, ofWord_word_eq_iff, hcall,
    hcall.trans existsUnique_callFrom_iff.symm⟩

/-- The code of a system call beyond the bits of a word comes back as an interrupt. -/
example : ofWord (word ⟨false, interruptFlag ||| callFromUser⟩) = ⟨true, callFromUser⟩ := by
  decide

end HartKernel.Cause
