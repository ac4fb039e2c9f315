import HartKernel.Frame.Debug
import HartKernel.Trap.Diagnostics
import HartKernel.Writing

/-!
# Reports about traps

The report of a panic, which tells what happened and then the trap history as far as it can be read
without waiting, and the dump of one trap with the registers it was taken with. Both are text
routines, which end with the first string that is refused.
-/

namespace HartKernel

open Numeral

namespace TrapInfo

/-- The line of a report about the last trap. -/
def lastLine (info : TrapInfo) : Pieces :=
  ["PANIC: last trap hart=", decimal info.hart, " mepc=0x", hex info.epc, " mcause=0x",
    hex info.cause, " (", info.causeName, ") mtval=0x", hex info.tval, "\n"]

/-- The line of a report about one trap of the history. -/
def historyLine (info : TrapInfo) : Pieces :=
  ["  hart", decimal info.hart, " mepc=0x", hex info.epc, " ", info.causeName, "\n"]

open Writing in
/-- Writes the dump of a trap, line by line: what is known about it, and the return address, stack
pointer and argument registers of its frame. -/
def writeDump {σ : Type} [Outlet σ] (info : TrapInfo) (frame : Frame) : Writing σ Unit := do
  putAll [" hart=", decimal info.hart, " mepc=0x", hex16 info.epc, "\n"]
  putAll [" mcause=0x", hex16 info.cause, " (", info.causeName, ")\n"]
  putAll [" mtval=0x", hex16 info.tval, " mstatus=0x", hex16 info.status, "\n"]
  putAll [" ra=0x", hex16 frame.regs[Register.ra], " sp=0x", hex16 frame.regs[Register.sp], "\n"]
  putAll [" a0..a7 = ", frame.argumentList hex16, "\n"]

end TrapInfo

namespace Diagnostics

open Writing

variable {σ : Type} [Outlet σ]

/-- Writes the location of a panic if it is known. -/
def writePlace : Option (String × Nat) → Writing σ Unit
  | some (file, line) => putAll [" at ", file, ":", line.repr]
  | none => pure ()

/-- Writes the line about the last trap, if it can be read and there was one. -/
def writeLast (diagnostics : Diagnostics) : Writing σ Unit :=
  match diagnostics.lastIfFree with
  | some info => putAll info.lastLine
  | none => pure ()

/-- Writes a line for each of the recent traps, oldest first, or that they cannot be read. -/
def writeHistory (diagnostics : Diagnostics) : Writing σ Unit :=
  match diagnostics.recentIfFree with
  | some slots => (slots.toList.filterMap id).forM fun info => putAll info.historyLine
  | none => put "  trap ring busy\n"

/-- Writes how many traps were not stored, if there were any. -/
def writeDropped (diagnostics : Diagnostics) : Writing σ Unit :=
  if diagnostics.dropped = 0 then pure ()
  else putAll ["  ", decimal diagnostics.dropped, " traps not recorded\n"]

/-- Writes the report of a panic. -/
def writeReport (diagnostics : Diagnostics) (location : Option (String × Nat))
    (message : String) : Writing σ Unit := do
  put "\nPANIC"
  writePlace location
  putAll [": ", message, "\n"]
  diagnostics.writeLast
  diagnostics.writeHistory
  diagnostics.writeDropped

end Diagnostics

end HartKernel
