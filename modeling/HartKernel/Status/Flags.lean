import HartKernel.Word

/-!
# Sets of flag bits

A word of flags is a set of bit positions. Bits outside the *declared* ones are kept by every
operation here except where its comment says otherwise.
-/

namespace HartKernel.Flags

/-- All bits of `b` are in `a`. -/
def contains (a b : Word) : Bool :=
  a &&& b == b

/-- Some bit of `b` is in `a`. -/
def intersects (a b : Word) : Bool :=
  a &&& b != 0

/-- The word without any bit. -/
def isEmpty (a : Word) : Bool :=
  a == 0

/-- All declared bits are in `a`, whatever else is. -/
def isAll (declared a : Word) : Bool :=
  a ||| declared == a

/-- `a` itself, if it has declared bits only. -/
def ofBits? (declared a : Word) : Option Word :=
  if a &&& ~~~declared = 0 then some a else none

/-- The declared bits of `a`. -/
def truncate (declared a : Word) : Word :=
  a &&& declared

/-- The bits in `a` or in `b`. -/
def union (a b : Word) : Word :=
  a ||| b

/-- The bits in both `a` and `b`. -/
def intersection (a b : Word) : Word :=
  a &&& b

/-- The bits in `a` that are not in `b`. -/
def difference (a b : Word) : Word :=
  a &&& ~~~b

/-- The bits in exactly one of `a` and `b`. -/
def symmetricDifference (a b : Word) : Word :=
  a ^^^ b

/-- The declared bits that are not in `a`. -/
def complement (declared a : Word) : Word :=
  ~~~a &&& declared

/-- `a` with the bits of `b` put in or taken out. -/
def set (a b : Word) (present : Bool) : Word :=
  if present then union a b else difference a b

end HartKernel.Flags
