import HartKernel.Log
import HartKernel.Proofs.Text.Writing
import HartKernel.Trap.Report

/-!
# Reports, dumps and log lines that are cut off

The routines that write a report, a dump and a log line go through sections that may be empty and
through a loop over the recent traps, with a place to fail after every character. For each of them
there are the pieces of the text that it writes where nothing is refused (`Diagnostics.report`,
`TrapInfo.dump`, `logLine`). It spells them (`spells_writeReport`, `spells_writeDump`,
`spells_writeLogLine`), section by section, and so what is left of the text when it is cut off is
its beginning (`Writing.output_truncates`).
-/

namespace HartKernel

open Numeral Writing

variable {σ : Type} [Outlet σ]

/-! ### The report of a panic -/

namespace Diagnostics

/-- The pieces that tell where a panic was raised, if that is known. -/
def placePieces : Option (String × Nat) → Pieces
  | some (file, line) => [" at ", file, ":", line.repr]
  | none => []

/-- The first line of a report: the location of the panic if it is known, and the message. -/
def headline (location : Option (String × Nat)) (message : String) : Pieces :=
  ["\nPANIC"] ++ (placePieces location ++ [": ", message, "\n"])

variable (diagnostics : Diagnostics)

/-- The part of a report about the last trap, empty if it cannot be read or there was none. -/
def lastPart : Pieces :=
  match diagnostics.lastIfFree with
  | some info => info.lastLine
  | none => []

/-- The part of a report about the recent traps, oldest first. -/
def historyPart : Pieces :=
  match diagnostics.recentIfFree with
  | some slots => (slots.toList.filterMap id).flatMap TrapInfo.historyLine
  | none => ["  trap ring busy\n"]

/-- The part of a report about traps that were not stored, empty if there were none. -/
def droppedPart : Pieces :=
  if diagnostics.dropped = 0 then []
  else ["  ", decimal diagnostics.dropped, " traps not recorded\n"]

/-- The report of a panic. -/
def report (location : Option (String × Nat)) (message : String) : Pieces :=
  headline location message ++ diagnostics.lastPart ++ diagnostics.historyPart ++
    diagnostics.droppedPart

theorem spells_writePlace (location : Option (String × Nat)) :
    Spells (writePlace location : Writing σ Unit) (placePieces location) := by
  rcases location with _ | ⟨file, line⟩
  · exact spells_pure
  · exact spells_putAll _

theorem spells_writeLast :
    Spells (diagnostics.writeLast : Writing σ Unit) diagnostics.lastPart := by
  unfold writeLast lastPart
  cases diagnostics.lastIfFree with
  | none => exact spells_pure
  | some info => exact spells_putAll _

theorem spells_writeHistory :
    Spells (diagnostics.writeHistory : Writing σ Unit) diagnostics.historyPart := by
  unfold writeHistory historyPart
  cases diagnostics.recentIfFree with
  | none => exact spells_put _
  | some slots => exact spells_forM (fun info => spells_putAll (TrapInfo.historyLine info)) _

theorem spells_writeDropped :
    Spells (diagnostics.writeDropped : Writing σ Unit) diagnostics.droppedPart := by
  unfold writeDropped droppedPart
  split
  · exact spells_pure
  · exact spells_putAll _

theorem spells_writeReport (location : Option (String × Nat)) (message : String) :
    Spells (diagnostics.writeReport location message : Writing σ Unit)
      (diagnostics.report location message) := by
  have hsections : diagnostics.report location message =
      ["\nPANIC"] ++ (placePieces location ++ ([": ", message, "\n"] ++ (diagnostics.lastPart ++
        (diagnostics.historyPart ++ diagnostics.droppedPart)))) := by
    simp only [report, headline, List.append_assoc]
  rw [hsections]
  exact (spells_put _).bind <| (spells_writePlace location).bind <| (spells_putAll _).bind <|
    diagnostics.spells_writeLast.bind <| diagnostics.spells_writeHistory.bind
      diagnostics.spells_writeDropped

end Diagnostics

/-! ### Dumps and log lines -/

/-- The dump of a trap: what is known about it, and the return address, stack pointer and argument
registers of its frame. -/
def TrapInfo.dump (info : TrapInfo) (frame : Frame) : Pieces :=
  [" hart=", decimal info.hart, " mepc=0x", hex16 info.epc, "\n",
    " mcause=0x", hex16 info.cause, " (", info.causeName, ")\n",
    " mtval=0x", hex16 info.tval, " mstatus=0x", hex16 info.status, "\n",
    " ra=0x", hex16 frame.regs[Register.ra], " sp=0x", hex16 frame.regs[Register.sp], "\n",
    " a0..a7 = ", frame.argumentList hex16, "\n"]

/-- A log line with its line end. -/
def logLine (level : LogLevel) (target : String) (message : Pieces) : Pieces :=
  ["[", level.tag, " ", target, "] "] ++ message ++ ["\n"]

theorem TrapInfo.spells_writeDump (info : TrapInfo) (frame : Frame) :
    Spells (info.writeDump frame : Writing σ Unit) (info.dump frame) :=
  (spells_putAll _).bind <| (spells_putAll _).bind <| (spells_putAll _).bind <|
    (spells_putAll _).bind (spells_putAll _)

theorem spells_writeLogLine (level : LogLevel) (target : String) (message : Pieces) :
    Spells (writeLogLine level target message : Writing σ Unit) (logLine level target message) := by
  rw [logLine, List.append_assoc]
  exact (spells_putAll _).bind ((spells_putAll message).bind (spells_put "\n"))

/-- **Truncated output is an exact prefix.** The report of a panic, the dump of a trap and a log
line, whatever they are about, are cut off after exactly as many characters as there is room for,
and they succeed iff all of the text has room. Where they are not cut off they are the texts that
go over the serial line. -/
theorem Writing.output_truncates :
    (∀ (diagnostics : Diagnostics) (location : Option (String × Nat)) (message : String),
      Truncates (fun _ _ => diagnostics.writeReport location message)
        (diagnostics.report location message).text) ∧
    (∀ (info : TrapInfo) (frame : Frame),
      Truncates (fun _ _ => info.writeDump frame) (info.dump frame).text) ∧
    ∀ (level : LogLevel) (target : String) (message : Pieces),
      Truncates (fun _ _ => writeLogLine level target message)
        (logLine level target message).text := by
  refine ⟨?_, ?_, ?_⟩
  · intro diagnostics location message
    exact truncates_of_spells fun _ _ => diagnostics.spells_writeReport location message
  · intro info frame
    exact truncates_of_spells fun _ _ => info.spells_writeDump frame
  · intro level target message
    exact truncates_of_spells fun _ _ => spells_writeLogLine level target message

end HartKernel
