import HartKernel.Word

/-!
# Numerals

The spellings of a word in printed text. Hexadecimal digits are lower case, and no numeral here
carries a leading `0x`: the texts that want one write it themselves.
-/

namespace HartKernel.Numeral

/-- The digits of `n` in `base`, most significant first and without leading zeros; zero is one
digit. -/
def inBase (base n : Nat) : String :=
  String.ofList (Nat.toDigits base n)

/-- A word in hexadecimal, without leading zeros. -/
def hex (w : Word) : String :=
  inBase 16 w.toNat

/-- A word in decimal. -/
def decimal (w : Word) : String :=
  inBase 10 w.toNat

/-- A word in binary, without leading zeros. -/
def binary (w : Word) : String :=
  inBase 2 w.toNat

/-- A word read as a two's complement number, in decimal. -/
def signed (w : Word) : String :=
  if w.msb then "-" ++ decimal (-w) else decimal w

/-- The hexadecimal digit of `n` that stands `place` digits from the right. -/
def hexDigit (n place : Nat) : Char :=
  Nat.digitChar ((n >>> (4 * place)) % 16)

/-- The last `width` hexadecimal digits of `n`, leading zeros included. -/
def hexPadded (width n : Nat) : String :=
  String.ofList (List.ofFn fun i : Fin width => hexDigit n (width - 1 - i))

/-- A word as sixteen hexadecimal digits. -/
def hex16 (w : Word) : String :=
  hexPadded 16 w.toNat

/-- A byte as two hexadecimal digits. -/
def hexByte (b : BitVec 8) : String :=
  hexPadded 2 b.toNat

end HartKernel.Numeral
