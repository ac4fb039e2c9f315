import HartKernel.Word

/-!
# Stores to devices

Devices are driven by stores to their registers. A store has a width, an address and a value.
-/

namespace HartKernel

/-- How many bytes a store writes. -/
inductive StoreWidth where
  /-- One byte. -/
  | byte
  /-- Four bytes. -/
  | word
  /-- Eight bytes. -/
  | double
  deriving DecidableEq, Repr

/-- One store to a device register. -/
structure Store where
  width : StoreWidth
  address : Word
  value : Word
  deriving DecidableEq, Repr

end HartKernel
