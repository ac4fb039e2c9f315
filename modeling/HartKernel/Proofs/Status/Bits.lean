import HartKernel.Status.Mstatus

/-!
# The bits of a machine-status word

Taking a trap and returning from it rewrite the same few bits of `mstatus` in turn: two single
bits and a field of two. Here every one of these updates is told bit by bit, so that what a
sequence of them does to a word, named bits and others alike, is read off position by position.

* `inTrap` is the word during a trap and `afterReturn` the word after a return, each with its
  bits (`getLsbD_inTrap`, `getLsbD_afterReturn`).
* `afterReturn_inTrap`: a trap and its return together set MPIE, clear MPP and keep every other
  bit, whatever the interrupted mode was.
* `getLsbD_replaceField`: a field of two bits is replaced and no other bit is touched. MPP and FS
  are such fields.
* `mpp?_inTrap` and `mpp?_contextWord`: the mode that a return finds, after a trap and after a
  context switch.
-/

namespace HartKernel

namespace Flags

/-- A single flag is contained in a word iff its bit is set. -/
theorem contains_twoPow (a : Word) {k : Nat} (hk : k < 64) :
    contains a (BitVec.twoPow 64 k) = a.getLsbD k := by
  have hne : (0 : Word) ≠ BitVec.twoPow 64 k := by
    intro h
    have := congrArg (BitVec.getLsbD · k) h
    simp [hk] at this
  unfold contains
  rw [BitVec.and_twoPow]
  cases a.getLsbD k
  · simpa using hne
  · simp

/-- Putting a single flag in or taking it out changes its bit only. -/
theorem getLsbD_set_twoPow (a : Word) (k : Nat) (present : Bool) (i : Nat) :
    (set a (BitVec.twoPow 64 k) present).getLsbD i =
      if i = k ∧ k < 64 then present else a.getLsbD i := by
  by_cases hi : i < 64
  · by_cases hik : k = i
    · subst hik
      cases present <;> simp [set, union, difference, hi]
    · have hki : i ≠ k := fun h => hik h.symm
      cases present <;> simp [set, union, difference, hi, hki]
  · -- Beyond the word neither side has a bit.
    have hik : ¬(i = k ∧ k < 64) := by omega
    rw [if_neg hik, BitVec.getLsbD_of_ge _ _ (by omega), BitVec.getLsbD_of_ge _ _ (by omega)]

theorem union_twoPow (a : Word) (k : Nat) :
    union a (BitVec.twoPow 64 k) = set a (BitVec.twoPow 64 k) true := rfl

theorem difference_twoPow (a : Word) (k : Nat) :
    difference a (BitVec.twoPow 64 k) = set a (BitVec.twoPow 64 k) false := rfl

end Flags

/-! ### Two-bit fields -/

theorem getLsbD_fieldMask (i : Nat) : fieldMask.getLsbD i = decide (i < 2) := by
  by_cases hi : i < 64
  · exact (by decide : ∀ i : Fin 64, fieldMask.getLsbD i = decide (i.val < 2)) ⟨i, hi⟩
  · rw [BitVec.getLsbD_of_ge _ _ (by omega), decide_eq_false (by omega)]

theorem getLsbD_field (w : Word) (shift i : Nat) :
    ((w >>> shift) &&& fieldMask).getLsbD i = (decide (i < 2) && w.getLsbD (shift + i)) := by
  rw [BitVec.getLsbD_and, BitVec.getLsbD_ushiftRight, getLsbD_fieldMask, Bool.and_comm]

/-- Two fields are equal iff both of their bits are. -/
theorem field_eq_iff (v w : Word) (s t : Nat) :
    (v >>> s) &&& fieldMask = (w >>> t) &&& fieldMask ↔
      v.getLsbD s = w.getLsbD t ∧ v.getLsbD (s + 1) = w.getLsbD (t + 1) := by
  constructor
  · intro h
    have h0 : ((v >>> s) &&& fieldMask).getLsbD 0 = ((w >>> t) &&& fieldMask).getLsbD 0 := by rw [h]
    have h1 : ((v >>> s) &&& fieldMask).getLsbD 1 = ((w >>> t) &&& fieldMask).getLsbD 1 := by rw [h]
    rw [getLsbD_field, getLsbD_field] at h0 h1
    exact ⟨h0, h1⟩
  · rintro ⟨h0, h1⟩
    apply BitVec.eq_of_getLsbD_eq
    intro i _
    rw [getLsbD_field, getLsbD_field]
    match i with
    | 0 => rw [Nat.add_zero, Nat.add_zero, h0]
    | 1 => rw [h1]
    | i + 2 => rw [decide_eq_false (by omega), Bool.false_and, Bool.false_and]

theorem and_fieldMask_cases (w : Word) :
    w &&& fieldMask = 0 ∨ w &&& fieldMask = 1 ∨ w &&& fieldMask = 2 ∨ w &&& fieldMask = 3 := by
  have hle : (w &&& fieldMask).toNat ≤ 3 := by
    rw [BitVec.toNat_and]
    exact Nat.and_le_right
  simp only [BitVec.toNat_eq, BitVec.ofNat_eq_ofNat, BitVec.reduceToNat] at hle ⊢
  omega

/-- The mask of a two-bit field takes the remainder by four. -/
theorem toNat_and_fieldMask (w : Word) : (w &&& fieldMask).toNat = w.toNat % 4 := by
  have hmask : fieldMask.toNat = 2 ^ 2 - 1 := rfl
  rw [BitVec.toNat_and, hmask, Nat.and_two_pow_sub_one_eq_mod]

theorem getLsbD_fieldMask_shiftLeft {shift : Nat} (h : shift + 2 ≤ 64) (i : Nat) :
    (fieldMask <<< shift).getLsbD i = decide (i = shift ∨ i = shift + 1) := by
  rw [BitVec.getLsbD_shiftLeft, getLsbD_fieldMask, ← decide_not, ← Bool.decide_and,
    ← Bool.decide_and, decide_eq_decide]
  omega

/-- A value of two bits in place of a field: these bits are new, and all others are kept. -/
theorem getLsbD_replaceField (w : Word) {value : Word} (hvalue : value &&& fieldMask = value)
    {shift : Nat} (h : shift + 2 ≤ 64) (i : Nat) :
    ((w &&& ~~~(fieldMask <<< shift)) ||| (value <<< shift)).getLsbD i =
      if i = shift then value.getLsbD 0
      else if i = shift + 1 then value.getLsbD 1
      else w.getLsbD i := by
  have hhigh (k : Nat) (hk : 2 ≤ k) : value.getLsbD k = false := by
    rw [← hvalue, BitVec.getLsbD_and, getLsbD_fieldMask, decide_eq_false (by omega), Bool.and_false]
  rw [BitVec.getLsbD_or, BitVec.getLsbD_and, BitVec.getLsbD_not, getLsbD_fieldMask_shiftLeft h,
    BitVec.getLsbD_shiftLeft]
  by_cases hfirst : i = shift
  · subst hfirst
    simp [show i < 64 by omega]
  by_cases hsecond : i = shift + 1
  · subst hsecond
    simp [show shift + 1 < 64 by omega]
  -- Outside the field nothing of the value arrives.
  have hshifted :
      (decide (i < 64) && !decide (i < shift) && value.getLsbD (i - shift)) = false := by
    by_cases hlt : i < shift
    · rw [decide_eq_true hlt, Bool.not_true, Bool.and_false, Bool.false_and]
    · rw [hhigh (i - shift) (by omega), Bool.and_false]
  rw [hshifted, if_neg hfirst, if_neg hsecond, decide_eq_false (not_or.mpr ⟨hfirst, hsecond⟩),
    Bool.not_false, Bool.and_true, Bool.or_false]
  by_cases hi : i < 64
  · rw [decide_eq_true hi, Bool.and_true]
  · rw [BitVec.getLsbD_of_ge _ _ (by omega), Bool.false_and]

namespace Mstatus

theorem mie_eq_twoPow : mie = BitVec.twoPow 64 3 := rfl

theorem mpie_eq_twoPow : mpie = BitVec.twoPow 64 7 := rfl

theorem getLsbD_mpp (i : Nat) : mpp.getLsbD i = decide (i = 11 ∨ i = 12) :=
  getLsbD_fieldMask_shiftLeft (by decide) i

theorem getLsbD_setMpp (status : Mstatus) (mode : Privilege) (i : Nat) :
    (status.setMpp mode).getLsbD i =
      if i = 11 then mode.bits.getLsbD 0
      else if i = 12 then mode.bits.getLsbD 1
      else status.getLsbD i :=
  getLsbD_replaceField status (by cases mode <;> rfl) (by decide) i

theorem getLsbD_setFs (status : Mstatus) (state : FloatStatus) (i : Nat) :
    (status.setFs state).getLsbD i =
      if i = 13 then state.bits.getLsbD 0
      else if i = 14 then state.bits.getLsbD 1
      else status.getLsbD i :=
  getLsbD_replaceField status (by cases state <;> rfl) (by decide) i

/-! ### What is read from a word -/

/-- The test made before the floating-point registers are moved finds the dirty state and no
other. -/
theorem floatDirty_iff (status : Mstatus) :
    status.floatDirty = true ↔ status.floatStatus = .dirty := by
  unfold floatDirty floatStatus FloatStatus.ofBits
  rw [beq_iff_eq]
  rcases and_fieldMask_cases (status >>> fsShift) with h | h | h | h <;> rw [h] <;> decide

theorem floatStatus_congr {v w : Mstatus} (h13 : v.getLsbD 13 = w.getLsbD 13)
    (h14 : v.getLsbD 14 = w.getLsbD 14) : v.floatStatus = w.floatStatus := by
  have hfield := (field_eq_iff v w 13 13).mpr ⟨h13, h14⟩
  unfold floatStatus FloatStatus.ofBits
  rw [hfield]

/-- The mode that is written to MPP is the mode that is read from it. -/
theorem mpp?_eq_some {status : Mstatus} {mode : Privilege}
    (h11 : status.getLsbD 11 = mode.bits.getLsbD 0)
    (h12 : status.getLsbD 12 = mode.bits.getLsbD 1) : mpp? status = some mode := by
  have hfield := (field_eq_iff status mode.bits 11 0).mpr ⟨h11, h12⟩
  have hbits : (mode.bits >>> 0) &&& fieldMask = mode.bits := by cases mode <;> rfl
  rw [mpp?, hfield, hbits, Privilege.ofBits?_bits]

/-! ### Into a trap and out of it -/

/-- The word during a trap that interrupts a mode. The mode goes to MPP and MIE to MPIE, and
machine interrupts are off. -/
def inTrap (status : Mstatus) (mode : Privilege) : Mstatus :=
  Flags.difference (Flags.set (status.setMpp mode) mpie (Flags.contains status mie)) mie

/-- The word after a return from machine mode: MPIE goes back to MIE and is set, and MPP is zero. -/
def afterReturn (status : Mstatus) : Mstatus :=
  Flags.union (Flags.set (status.setMpp .user) mie (Flags.contains status mpie)) mpie

/-- The word after a trap and its return: MPIE is set, MPP is zero, and every other bit is as before
the trap. -/
def afterTrap (status : Mstatus) : Mstatus :=
  Flags.union (status.setMpp .user) mpie

theorem getLsbD_inTrap (status : Mstatus) (mode : Privilege) (i : Nat) :
    (status.inTrap mode).getLsbD i =
      if i = 3 then false
      else if i = 7 then status.getLsbD 3
      else (status.setMpp mode).getLsbD i := by
  rw [inTrap, mie_eq_twoPow, mpie_eq_twoPow, Flags.contains_twoPow _ (by omega),
    Flags.difference_twoPow, Flags.getLsbD_set_twoPow, Flags.getLsbD_set_twoPow]
  simp

theorem getLsbD_afterReturn (status : Mstatus) (i : Nat) :
    status.afterReturn.getLsbD i =
      if i = 3 then status.getLsbD 7
      else if i = 7 then true
      else (status.setMpp .user).getLsbD i := by
  rw [afterReturn, mie_eq_twoPow, mpie_eq_twoPow, Flags.contains_twoPow _ (by omega),
    Flags.union_twoPow, Flags.getLsbD_set_twoPow, Flags.getLsbD_set_twoPow]
  by_cases h3 : i = 3
  · simp [h3]
  · simp [h3]

theorem getLsbD_afterTrap (status : Mstatus) (i : Nat) :
    status.afterTrap.getLsbD i =
      if i = 7 then true else (status.setMpp .user).getLsbD i := by
  rw [afterTrap, mpie_eq_twoPow, Flags.union_twoPow, Flags.getLsbD_set_twoPow]
  simp

/-- What a return undoes of a trap does not depend on the interrupted mode. -/
theorem afterReturn_inTrap (status : Mstatus) (mode : Privilege) :
    (status.inTrap mode).afterReturn = status.afterTrap := by
  apply BitVec.eq_of_getLsbD_eq
  intro i _
  simp only [getLsbD_afterReturn, getLsbD_afterTrap, getLsbD_setMpp, getLsbD_inTrap]
  by_cases h3 : i = 3
  · simp [h3]
  by_cases h7 : i = 7
  · simp [h7]
  by_cases h11 : i = 11
  · simp [h11]
  by_cases h12 : i = 12
  · simp [h12]
  simp [h3, h7, h11, h12]

/-- A trap and its return rewrite three bits, and no two words are told apart by any of these
afterwards. -/
theorem afterTrap_eq_iff {v w : Mstatus} :
    v.afterTrap = w.afterTrap ↔
      ∀ i, i ≠ 7 → i ≠ 11 → i ≠ 12 → v.getLsbD i = w.getLsbD i := by
  constructor
  · intro h i h7 h11 h12
    have hi : v.afterTrap.getLsbD i = w.afterTrap.getLsbD i := by rw [h]
    simpa only [getLsbD_afterTrap, getLsbD_setMpp, h7, h11, h12, if_false] using hi
  · intro h
    apply BitVec.eq_of_getLsbD_eq
    intro i _
    rw [getLsbD_afterTrap, getLsbD_afterTrap, getLsbD_setMpp, getLsbD_setMpp]
    by_cases h7 : i = 7
    · rw [if_pos h7, if_pos h7]
    by_cases h11 : i = 11
    · simp [h11]
    by_cases h12 : i = 12
    · simp [h12]
    simp only [h7, h11, h12, if_false, h i h7 h11 h12]

theorem afterTrap_afterTrap (status : Mstatus) : status.afterTrap.afterTrap = status.afterTrap := by
  rw [afterTrap_eq_iff]
  intro i h7 h11 h12
  rw [getLsbD_afterTrap, getLsbD_setMpp, if_neg h7, if_neg h11, if_neg h12]

theorem mpp?_inTrap (status : Mstatus) (mode : Privilege) :
    mpp? (status.inTrap mode) = some mode := by
  apply mpp?_eq_some
  · rw [getLsbD_inTrap, getLsbD_setMpp]; rfl
  · rw [getLsbD_inTrap, getLsbD_setMpp]; rfl

theorem floatStatus_inTrap (status : Mstatus) (mode : Privilege) :
    (status.inTrap mode).floatStatus = status.floatStatus := by
  apply floatStatus_congr
  · rw [getLsbD_inTrap, getLsbD_setMpp]; rfl
  · rw [getLsbD_inTrap, getLsbD_setMpp]; rfl

theorem floatDirty_inTrap (status : Mstatus) (mode : Privilege) :
    (status.inTrap mode).floatDirty = status.floatDirty := by
  rw [Bool.eq_iff_iff, floatDirty_iff, floatDirty_iff, floatStatus_inTrap]

/-! ### Into a context -/

/-- The word of every context that has just been switched in: interrupts are on, and the
floating-point registers are in use. -/
def resumed : Mstatus :=
  mie ||| mpie ||| spie ||| fs

theorem getLsbD_contextWord (modeField : Word) (i : Nat) :
    (contextWord modeField).getLsbD i =
      if i = 11 then modeField.getLsbD 0
      else if i = 12 then modeField.getLsbD 1
      else context.getLsbD i := by
  rw [contextWord, BitVec.getLsbD_or, BitVec.getLsbD_shiftLeft, BitVec.getLsbD_and,
    getLsbD_fieldMask]
  by_cases h11 : i = 11
  · subst h11
    rw [show context.getLsbD 11 = false by decide, if_pos rfl]
    exact Bool.and_true _
  by_cases h12 : i = 12
  · subst h12
    rw [show context.getLsbD 12 = false by decide, if_neg h11, if_pos rfl]
    exact Bool.and_true _
  -- Outside the field the shift or the mask leaves nothing of the mode field.
  have hout : i < 11 ∨ ¬i - 11 < 2 := by omega
  rcases hout with h | h <;> simp [h, h11, h12]

/-- A return into a context lands in the mode that the two lowest bits of its mode field encode. -/
theorem mpp?_contextWord (modeField : Word) :
    mpp? (contextWord modeField) = Privilege.ofBits? (modeField &&& fieldMask) := by
  have hfield : (contextWord modeField >>> 11) &&& fieldMask = (modeField >>> 0) &&& fieldMask := by
    rw [field_eq_iff, getLsbD_contextWord, getLsbD_contextWord]
    exact ⟨rfl, rfl⟩
  rw [BitVec.ushiftRight_zero] at hfield
  rw [mpp?, hfield]

/-- No bit of the mode field outlives the return into a context. -/
theorem afterReturn_contextWord (modeField : Word) :
    (contextWord modeField).afterReturn = resumed := by
  apply BitVec.eq_of_getLsbD_eq
  intro i hi
  -- The word without any mode is a closed term, and every other differs from it in MPP only.
  have hcontext : (context.afterReturn).getLsbD i = resumed.getLsbD i := by
    rw [show context.afterReturn = resumed by decide]
  rw [← hcontext, getLsbD_afterReturn, getLsbD_afterReturn, getLsbD_setMpp, getLsbD_setMpp,
    getLsbD_contextWord, getLsbD_contextWord]
  by_cases h11 : i = 11
  · simp [h11]
  by_cases h12 : i = 12
  · simp [h12]
  simp [h11, h12]

end Mstatus

end HartKernel
