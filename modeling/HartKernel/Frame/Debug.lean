import HartKernel.Frame.Basic
import HartKernel.Numeral

/-!
# The debug text of a frame

Fifteen of a frame's words under their names, on one line or with a line for each field. The
argument registers are one field, a list that stays on its line, and its numerals carry no `0x`.
-/

namespace HartKernel.Frame

/-- The argument registers, the number register included. -/
def argumentSlots : List Register :=
  [Register.a0, Register.a1, Register.a2, Register.a3, Register.a4, Register.a5, Register.a6,
    Register.a7]

/-- A bracketed list of the argument registers in the given spelling. -/
def argumentList (frame : Frame) (spell : Word → String) : String :=
  "[" ++ ", ".intercalate (argumentSlots.map fun r => spell frame.regs[r]) ++ "]"

/-- The fields of the debug text with their values spelled out. -/
def debugFields (frame : Frame) : List (String × String) :=
  [("pc", "0x" ++ Numeral.hex frame.pc),
   ("satp", "0x" ++ Numeral.hex frame.satp),
   ("mode", Numeral.decimal frame.mode),
   ("ra", "0x" ++ Numeral.hex frame.regs[Register.ra]),
   ("sp", "0x" ++ Numeral.hex frame.regs[Register.sp]),
   ("gp", "0x" ++ Numeral.hex frame.regs[Register.gp]),
   ("tp", "0x" ++ Numeral.hex frame.regs[Register.tp]),
   ("a0..a7", frame.argumentList Numeral.hex)]

/-- The debug text on one line. -/
def debugText (frame : Frame) : String :=
  "TrapFrame \x7b " ++
    ", ".intercalate (frame.debugFields.map fun field => field.1 ++ ": " ++ field.2) ++ " \x7d"

/-- The debug text with a line for each field. -/
def debugLines (frame : Frame) : String :=
  "TrapFrame \x7b\n" ++
    String.join
      (frame.debugFields.map fun field => "    " ++ field.1 ++ ": " ++ field.2 ++ ",\n") ++ "\x7d"

end HartKernel.Frame
