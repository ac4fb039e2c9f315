import HartKernel.Word

/-!
# Zeroing memory

The reset path zeroes a range of memory a word at a time. A range whose stop is not after its start
is empty.
-/

namespace HartKernel

/-- Zeroes the words from `cursor` up to `stop`, adding to the number of words written so far. -/
def zeroFrom (memory : Array Word) (cursor stop written : Nat) : Array Word × Nat :=
  if cursor < stop then zeroFrom (memory.setIfInBounds cursor 0) (cursor + 1) stop (written + 1)
  else (memory, written)
termination_by stop - cursor

/-- Zeroes the words of memory from `start` up to `stop`, and counts them. -/
def zeroRange (memory : Array Word) (start stop : Nat) : Array Word × Nat :=
  zeroFrom memory start stop 0

end HartKernel
