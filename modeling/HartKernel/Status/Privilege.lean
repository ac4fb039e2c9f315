import HartKernel.Word

/-!
# Privilege modes and floating-point states

The two-bit encodings that a machine-status word carries: the privilege mode, in which the pattern 2
is reserved, and the state of the floating-point unit, in which every pattern has a meaning. Main
statements: `Privilege.ofBits?_bits` and `Privilege.bits_of_ofBits?` make the first pair of
functions inverse to each other where the decoder answers, `FloatStatus.ofBits_bits` makes the
second decoder a left inverse of its encoder.
-/

namespace HartKernel

/-- The mask of a two-bit field. -/
abbrev fieldMask : Word := 0b11

/-- The privilege level that a context runs at. -/
inductive Privilege where
  | user
  | supervisor
  | machine
  deriving DecidableEq, Repr

namespace Privilege

/-- The encoding of a mode. -/
def bits : Privilege → Word
  | user => 0
  | supervisor => 1
  | machine => 3

/-- The mode that a word encodes; the reserved pattern 2 and all words above 3 encode none. -/
def ofBits? (w : Word) : Option Privilege :=
  if w = 0 then some user
  else if w = 1 then some supervisor
  else if w = 3 then some machine
  else none

/-- Modes are ordered by how much they may do. -/
instance : Ord Privilege where
  compare a b := compare a.bits.toNat b.bits.toNat

@[simp] theorem ofBits?_bits (mode : Privilege) : ofBits? mode.bits = some mode := by
  cases mode <;> rfl

theorem bits_of_ofBits? {w : Word} {mode : Privilege} (h : ofBits? w = some mode) :
    mode.bits = w := by
  unfold ofBits? at h
  split at h
  · next hw => cases h; exact hw.symm
  · split at h
    · next hw => cases h; exact hw.symm
    · split at h
      · next hw => cases h; exact hw.symm
      · cases h

end Privilege

/-- The state of the floating-point unit. -/
inductive FloatStatus where
  /-- The unit may not be used. -/
  | off
  /-- The registers hold their initial values. -/
  | initial
  /-- The registers agree with the last save. -/
  | clean
  /-- The registers have been written since the last save. -/
  | dirty
  deriving DecidableEq, Repr

namespace FloatStatus

/-- The encoding of a state. -/
def bits : FloatStatus → Word
  | off => 0
  | initial => 1
  | clean => 2
  | dirty => 3

/-- The state that the two lowest bits of a word encode. -/
def ofBits (w : Word) : FloatStatus :=
  if w &&& fieldMask = 0 then off
  else if w &&& fieldMask = 1 then initial
  else if w &&& fieldMask = 2 then clean
  else dirty

@[simp] theorem ofBits_bits (state : FloatStatus) : ofBits state.bits = state := by
  cases state <;> rfl

end FloatStatus

end HartKernel
