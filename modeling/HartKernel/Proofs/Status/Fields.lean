import HartKernel.Proofs.Script.LastWrite
import HartKernel.Proofs.Status.Bits

/-!
# The two fields of a status word

MPP and FS are neighbours, of two bits each, and every word of 64 bits has both. An update rewrites
one of them by a mask. Updates are writes to two places (`Update.writes`), so that after any number
of them a field holds what the last update of this field has put there, and no bit beyond the fields
has ever moved (`getLsbD_updateAll`).

What is read from a field is decided by its two bits alone: of the four patterns MPP gives a meaning
to three (`mpp?_eq_none_iff`, `mpp?_eq_some_iff`) and FS to all (`floatStatus_eq_iff`).
-/

namespace HartKernel.Mstatus

/-- A field of a status word. -/
inductive Field where
  /-- The privilege before a machine trap. -/
  | mpp
  /-- The floating-point state. -/
  | fs
  deriving DecidableEq, Repr

namespace Field

/-- The position of the lowest bit of a field. -/
def shift : Field → Nat
  | mpp => mppShift
  | fs => fsShift

/-- The two bits of a field. -/
def read (field : Field) (status : Mstatus) : Word :=
  (status >>> field.shift) &&& fieldMask

theorem shift_bounds (field : Field) : 11 ≤ field.shift ∧ field.shift + 1 ≤ 14 := by
  cases field <;> decide

/-- The fields have no bit in common. -/
theorem shift_apart {first second : Field} (h : first ≠ second) :
    first.shift + 2 ≤ second.shift ∨ second.shift + 2 ≤ first.shift := by
  cases first <;> cases second
  · exact absurd rfl h
  · exact Or.inl (by decide)
  · exact Or.inr (by decide)
  · exact absurd rfl h

end Field

/-- An update of one of the fields. -/
inductive Update where
  | setMpp (mode : Privilege)
  | setFs (state : FloatStatus)
  deriving DecidableEq, Repr

namespace Update

/-- The field that is updated. -/
def field : Update → Field
  | setMpp _ => .mpp
  | setFs _ => .fs

/-- The two bits that are put there. -/
def bits : Update → Word
  | setMpp mode => mode.bits
  | setFs state => state.bits

end Update

/-- The word after an update. -/
def update (status : Mstatus) : Update → Mstatus
  | .setMpp mode => status.setMpp mode
  | .setFs state => status.setFs state

/-- The word after some updates, one after another. -/
def updateAll (status : Mstatus) (updates : List Update) : Mstatus :=
  updates.foldl update status

/-! ### One update -/

theorem Update.bits_and_fieldMask (change : Update) : change.bits &&& fieldMask = change.bits := by
  cases change with
  | setMpp mode => cases mode <;> rfl
  | setFs state => cases state <;> rfl

theorem getLsbD_update (status : Mstatus) (change : Update) (i : Nat) :
    (status.update change).getLsbD i =
      if i = change.field.shift then change.bits.getLsbD 0
      else if i = change.field.shift + 1 then change.bits.getLsbD 1
      else status.getLsbD i := by
  cases change with
  | setMpp mode => exact getLsbD_setMpp status mode i
  | setFs state => exact getLsbD_setFs status state i

/-- A field holds what has just been put there, or what it held before. -/
theorem Field.read_update (status : Mstatus) (change : Update) (field : Field) :
    field.read (status.update change) =
      if change.field = field then change.bits else field.read status := by
  split
  · next h =>
    subst h
    have hbits : change.bits = (change.bits >>> 0) &&& fieldMask := by
      rw [BitVec.ushiftRight_zero, change.bits_and_fieldMask]
    rw [hbits, read, field_eq_iff, getLsbD_update, getLsbD_update, if_pos rfl,
      if_neg (Nat.succ_ne_self _), if_pos rfl]
    exact ⟨rfl, rfl⟩
  · next h =>
    have hapart := shift_apart h
    rw [read, read, field_eq_iff, getLsbD_update, getLsbD_update, if_neg (by omega),
      if_neg (by omega), if_neg (by omega), if_neg (by omega)]
    exact ⟨rfl, rfl⟩

/-- Updates of different fields may be exchanged. -/
theorem update_update (status : Mstatus) {first second : Update} (h : first.field ≠ second.field) :
    (status.update first).update second = (status.update second).update first := by
  apply BitVec.eq_of_getLsbD_eq
  intro i _
  have hapart := Field.shift_apart h
  simp only [getLsbD_update]
  grind

/-! ### A sequence of updates -/

/-- Updates, as writes to two places. -/
def Update.writes : Writes Mstatus Update Field Word where
  apply := update
  read status field := field.read status
  reaches change field := change.field = field
  value change _ := change.bits
  read_apply status change field := by
    rw [Field.read_update]
    simp only [decide_eq_true_eq]

/-- The bits beyond the fields are what they were. -/
theorem getLsbD_updateAll (status : Mstatus) (updates : List Update) {i : Nat}
    (hi : i < 11 ∨ 14 < i) : (status.updateAll updates).getLsbD i = status.getLsbD i := by
  induction updates generalizing status with
  | nil => rfl
  | cons change rest ih =>
    have hrest : status.updateAll (change :: rest) = (status.update change).updateAll rest := rfl
    obtain ⟨hlow, hhigh⟩ := change.field.shift_bounds
    rw [hrest, ih, getLsbD_update, if_neg (by omega), if_neg (by omega)]

/-! ### What is read from a field -/

theorem mpp?_eq_ofBits?_read (status : Mstatus) :
    mpp? status = Privilege.ofBits? (Field.mpp.read status) := rfl

/-- MPP holds no mode iff it holds the reserved pattern. -/
theorem mpp?_eq_none_iff {status : Mstatus} : mpp? status = none ↔ Field.mpp.read status = 2 := by
  rw [mpp?_eq_ofBits?_read, Field.read]
  rcases and_fieldMask_cases (status >>> Field.mpp.shift) with h | h | h | h <;> rw [h] <;> decide

theorem mpp?_eq_some_iff {status : Mstatus} {mode : Privilege} :
    mpp? status = some mode ↔ Field.mpp.read status = mode.bits := by
  rw [mpp?_eq_ofBits?_read]
  constructor
  · intro h
    exact (Privilege.bits_of_ofBits? h).symm
  · intro h
    rw [h, Privilege.ofBits?_bits]

theorem floatStatus_eq_iff {status : Mstatus} {state : FloatStatus} :
    status.floatStatus = state ↔ Field.fs.read status = state.bits := by
  have hread : status >>> fsShift &&& fieldMask = Field.fs.read status := rfl
  rw [floatStatus, FloatStatus.ofBits, hread, Field.read]
  rcases and_fieldMask_cases (status >>> Field.fs.shift) with h | h | h | h <;> rw [h] <;>
    cases state <;> decide

theorem floatStatus_setFs (status : Mstatus) (state : FloatStatus) :
    (status.setFs state).floatStatus = state := by
  rw [floatStatus_eq_iff]
  exact Field.read_update status (.setFs state) .fs

theorem floatDirty_iff_bits {status : Mstatus} :
    status.floatDirty = true ↔ status.getLsbD 13 = true ∧ status.getLsbD 14 = true := by
  have hbits : FloatStatus.dirty.bits = (FloatStatus.dirty.bits >>> 0) &&& fieldMask := rfl
  rw [floatDirty_iff, floatStatus_eq_iff, hbits, Field.read, field_eq_iff]
  exact Iff.rfl

/-! ### The word of a context -/

theorem Field.read_contextWord (modeField : Word) :
    Field.mpp.read (contextWord modeField) = modeField &&& fieldMask := by
  have hfield : Field.mpp.read (contextWord modeField) = (modeField >>> 0) &&& fieldMask := by
    rw [Field.read, field_eq_iff, getLsbD_contextWord, getLsbD_contextWord]
    exact ⟨rfl, rfl⟩
  rw [hfield, BitVec.ushiftRight_zero]

theorem contextWord_eq_contextAt {modeField : Word} {mode : Privilege}
    (h : mode.bits.toNat = modeField.toNat % 4) : contextWord modeField = contextAt mode := by
  have hmode : mode.bits = modeField &&& fieldMask := by
    apply BitVec.eq_of_toNat_eq
    rw [h, toNat_and_fieldMask]
  rw [contextAt, contextWord, contextWord, hmode, BitVec.and_assoc, BitVec.and_self]

/-- **The laws of the two fields**, for every word of 64 bits. After any sequence of updates each
field holds what was last put there, and all other bits are those of the word; updates of different
fields may be exchanged. A mode is read unless the field holds the reserved pattern, a
floating-point state always, and both are read as they were written. The word of a context is the
common one but for its mode, of which the two lowest bits count. -/
theorem field_laws (status : Mstatus) :
    (∀ updates : List Update,
      (∀ field : Field, field.read (status.updateAll updates) =
        ((updates.filter fun change => change.field = field).getLast?.map Update.bits).getD
          (field.read status)) ∧
      ∀ i, i < 11 ∨ 14 < i → (status.updateAll updates).getLsbD i = status.getLsbD i) ∧
    (∀ first second : Update, first.field ≠ second.field →
      (status.update first).update second = (status.update second).update first) ∧
    (mpp? status = none ↔ Field.mpp.read status = 2) ∧
    (∀ mode, mpp? status = some mode ↔ Field.mpp.read status = mode.bits) ∧
    (∀ state, status.floatStatus = state ↔ Field.fs.read status = state.bits) ∧
    (∀ state, (status.setFs state).floatStatus = state) ∧
    (status.floatDirty = true ↔ status.floatStatus = .dirty) ∧
    (status.floatDirty = true ↔ status.getLsbD 13 = true ∧ status.getLsbD 14 = true) ∧
    ∀ modeField : Word,
      (∀ i, i ≠ 11 → i ≠ 12 → (contextWord modeField).getLsbD i = context.getLsbD i) ∧
      (Field.mpp.read (contextWord modeField)).toNat = modeField.toNat % 4 ∧
      ∀ mode : Privilege, mode.bits.toNat = modeField.toNat % 4 →
        contextWord modeField = contextAt mode := by
  refine ⟨?_, fun _ _ => update_update status, mpp?_eq_none_iff, fun _ => mpp?_eq_some_iff,
    fun _ => floatStatus_eq_iff, floatStatus_setFs status, floatDirty_iff status,
    floatDirty_iff_bits, ?_⟩
  · intro updates
    refine ⟨?_, fun i => getLsbD_updateAll status updates⟩
    intro field
    exact Update.writes.read_run status updates field
  · intro modeField
    refine ⟨?_, ?_, fun _ => contextWord_eq_contextAt⟩
    · intro i h11 h12
      rw [getLsbD_contextWord, if_neg h11, if_neg h12]
    · rw [Field.read_contextWord, toNat_and_fieldMask]

end HartKernel.Mstatus
