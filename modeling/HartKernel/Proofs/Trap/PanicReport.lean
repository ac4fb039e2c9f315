import HartKernel.Proofs.Device.Uart
import HartKernel.Proofs.Trap.History

/-!
# What the report of a panic tells

A report has a headline and up to three parts, each of which asks for its own lock or for none. The
pieces that the routine spells are put together to texts, for diagnostics in any state
(`Diagnostics.text_report` and the lemmas before it), and then for the states that recordings and
locks lead to: `reportLines` says which lines there are after a sequence of events, out of the
recorded traps and the locks alone.

`Diagnostics.report_tells_history` is what the routine does with an outlet that refuses nothing, and
with the serial line of the kernel.
-/

namespace HartKernel

open Numeral

/-! ### Lines -/

namespace TrapInfo

/-- The text of the line about the last trap. -/
def lastText (info : TrapInfo) : String :=
  "PANIC: last trap hart=" ++ decimal info.hart ++ " mepc=0x" ++ hex info.epc ++
    " mcause=0x" ++ hex info.cause ++ " (" ++ HartKernel.causeName info.cause ++
    ") mtval=0x" ++ hex info.tval ++ "\n"

/-- The text of the line about one trap of the history. -/
def historyText (info : TrapInfo) : String :=
  "  hart" ++ decimal info.hart ++ " mepc=0x" ++ hex info.epc ++ " " ++
    HartKernel.causeName info.cause ++ "\n"

theorem text_lastLine (info : TrapInfo) : info.lastLine.text = info.lastText := by
  unfold lastLine lastText
  simp only [Pieces.text_cons, Pieces.text_nil, String.append_empty, String.append_assoc, causeName]

theorem text_historyLine (info : TrapInfo) : info.historyLine.text = info.historyText := by
  unfold historyLine historyText
  simp only [Pieces.text_cons, Pieces.text_nil, String.append_empty, String.append_assoc, causeName]

theorem isLine_lastText (info : TrapInfo) : IsLine info.lastText :=
  ⟨_, rfl, by simp⟩

theorem isLine_historyText (info : TrapInfo) : IsLine info.historyText :=
  ⟨_, rfl, by simp⟩

end TrapInfo

namespace Diagnostics

/-- What a report says about a history that is locked. -/
def busyText : String :=
  "  trap ring busy\n"

/-- The text of the line that counts the traps that were not stored. -/
def droppedText (count : Nat) : String :=
  "  " ++ count.repr ++ " traps not recorded" ++ "\n"

/-- What the headline of a report says about a location. -/
def placeText : Option (String × Nat) → String
  | some (file, line) => " at " ++ file ++ ":" ++ line.repr
  | none => ""

/-- The text of the headline of a report. -/
def headlineText (location : Option (String × Nat)) (message : String) : String :=
  "\nPANIC" ++ placeText location ++ ": " ++ message ++ "\n"

theorem isLine_busyText : IsLine busyText :=
  ⟨"  trap ring busy", rfl, by decide⟩

theorem isLine_droppedText (count : Nat) : IsLine (droppedText count) :=
  ⟨_, rfl, by simp⟩

/-! ### The parts of a report -/

variable (diagnostics : Diagnostics)

theorem text_headline (location : Option (String × Nat)) (message : String) :
    (headline location message).text = headlineText location message := by
  unfold headlineText
  rcases location with _ | ⟨file, line⟩ <;>
    simp only [headline, placePieces, placeText, Pieces.text_append, Pieces.text_cons,
      Pieces.text_nil, String.append_empty, String.empty_append, String.append_assoc]

theorem text_lastPart :
    diagnostics.lastPart.text = ((diagnostics.lastIfFree.map TrapInfo.lastText).getD "") := by
  rw [lastPart]
  cases diagnostics.lastIfFree with
  | none => rfl
  | some info => exact info.text_lastLine

theorem text_historyPart_of_held (h : diagnostics.historyHeld = true) :
    diagnostics.historyPart.text = busyText := by
  rw [historyPart, recentIfFree, if_pos h]
  rfl

theorem text_historyPart_of_free (h : diagnostics.historyHeld = false) :
    diagnostics.historyPart.text =
      String.join ((diagnostics.recent.toList.filterMap id).map TrapInfo.historyText) := by
  rw [historyPart, recentIfFree, if_neg (by simp [h])]
  dsimp only
  rw [Pieces.text_flatMap]
  simp only [TrapInfo.text_historyLine]

theorem text_droppedPart :
    diagnostics.droppedPart.text =
      if diagnostics.dropped.toNat = 0 then "" else droppedText diagnostics.dropped.toNat := by
  have hzero : diagnostics.dropped = 0 ↔ diagnostics.dropped.toNat = 0 := BitVec.toNat_inj.symm
  have hend : " traps not recorded" ++ "\n" = " traps not recorded\n" := rfl
  rw [droppedPart, droppedText, String.append_assoc, hend]
  simp only [hzero]
  split
  · rfl
  · simp only [Pieces.text_cons, Pieces.text_nil, String.append_empty, String.append_assoc]
    rfl

theorem text_report (location : Option (String × Nat)) (message : String) :
    (diagnostics.report location message).text =
      headlineText location message ++ (diagnostics.lastPart.text ++
        diagnostics.historyPart.text ++ diagnostics.droppedPart.text) := by
  rw [report, Pieces.text_append, Pieces.text_append, Pieces.text_append, text_headline,
    String.append_assoc, String.append_assoc, String.append_assoc]

/-! ### The report after a sequence of events -/

/-- The line about the last trap that was stored, if there is one and its place is free. -/
def lastLines (events : List Event) : List String :=
  if (heldAfter events).last then []
  else ((asLast events).getLast?.map TrapInfo.lastText).toList

/-- A line for each of the last sixteen traps that were stored in the ring, or for all of them if
there are fewer, oldest first. -/
def historyLines (events : List Event) : List String :=
  if (heldAfter events).history then [busyText]
  else ((inHistory events).drop
    ((inHistory events).length - min 16 (inHistory events).length)).map TrapInfo.historyText

/-- The line with the count of the traps that were not stored everywhere, if it is not zero. -/
def droppedLines (events : List Event) : List String :=
  let count := (missed events).length % 2 ^ 64
  if count = 0 then [] else [droppedText count]

/-- The lines of a report after its headline, as the recorded traps and the locks have them. -/
def reportLines (events : List Event) : List String :=
  lastLines events ++ historyLines events ++ droppedLines events

section Parts

variable {events : List Event} {line : String}

theorem isLine_of_mem_lastLines (h : line ∈ lastLines events) : IsLine line := by
  unfold lastLines at h
  split at h
  · cases h
  · obtain ⟨info, -, rfl⟩ := Option.map_eq_some_iff.mp (Option.mem_toList.mp h)
    exact info.isLine_lastText

theorem isLine_of_mem_historyLines (h : line ∈ historyLines events) : IsLine line := by
  unfold historyLines at h
  split at h
  · rw [List.mem_singleton.mp h]
    exact isLine_busyText
  · obtain ⟨info, -, rfl⟩ := List.mem_map.mp h
    exact info.isLine_historyText

theorem isLine_of_mem_droppedLines (h : line ∈ droppedLines events) : IsLine line := by
  unfold droppedLines at h
  dsimp only at h
  split at h
  · cases h
  · rw [List.mem_singleton.mp h]
    exact isLine_droppedText _

theorem isLine_of_mem_reportLines (h : line ∈ reportLines events) : IsLine line := by
  rcases List.mem_append.mp h with h | h
  · rcases List.mem_append.mp h with h | h
    · exact isLine_of_mem_lastLines h
    · exact isLine_of_mem_historyLines h
  · exact isLine_of_mem_droppedLines h

/-! Each part of the report is the part of the lines that asks for the same lock. -/

variable (events)

theorem text_lastPart_run : (run events).lastPart.text = String.join (lastLines events) := by
  have hheld : (run events).lastHeld = (heldAfter events).last := by
    rw [← locks_run]
    rfl
  have hlast : (run events).last = (asLast events).getLast? := (accounts_run events).last
  rw [text_lastPart, lastIfFree, hheld, hlast, lastLines]
  split
  · rfl
  · cases (asLast events).getLast? with
    | none => rfl
    | some info => exact (Pieces.text_singleton _).symm

theorem text_historyPart_run :
    (run events).historyPart.text = String.join (historyLines events) := by
  have hheld : (run events).historyHeld = (heldAfter events).history := by
    rw [← locks_run]
    rfl
  have hhistory : (run events).history = .ofList (inHistory events) := (accounts_run events).history
  rw [historyLines, ← hheld]
  cases hlock : (run events).historyHeld with
  | true =>
    rw [text_historyPart_of_held _ hlock]
    exact (Pieces.text_singleton _).symm
  | false =>
    -- The empty slots of the ring are passed over.
    rw [text_historyPart_of_free _ hlock, recent, hhistory,
      TrapHistory.toList_oldestFirst_ofList, List.filterMap_append, List.filterMap_map]
    simp

theorem text_droppedPart_run :
    (run events).droppedPart.text = String.join (droppedLines events) := by
  have hdropped : (run events).dropped.toNat = (missed events).length % 2 ^ 64 := by
    rw [(accounts_run events).dropped, BitVec.toNat_ofNat]
    rfl
  rw [text_droppedPart, hdropped, droppedLines]
  split
  · rfl
  · exact (Pieces.text_singleton _).symm

end Parts

/-- The text of the report of a panic after a sequence of events. -/
def reportText (events : List Event) (location : Option (String × Nat)) (message : String) :
    String :=
  headlineText location message ++ String.join (reportLines events)

theorem text_report_run (events : List Event) (location : Option (String × Nat))
    (message : String) :
    ((run events).report location message).text = reportText events location message := by
  rw [text_report, reportText, reportLines, String.join_append, String.join_append,
    text_lastPart_run, text_historyPart_run, text_droppedPart_run]

/-- **The report tells the history.** After every sequence of recordings, while locks are taken and
released at any time, the routine that reports a panic writes its headline and the lines that the
recorded traps and the locks call for, no more and no less, and comes to its end. The panic handler
sends just this over the serial line, wherever the panic was raised, and changes nothing else. -/
theorem report_tells_history (events : List Event) :
    (∀ location message,
      ((run events).writeReport location message : Writing Sink Unit).outcome (.empty none) =
        (true, { accepted := reportText events location message, room := none })) ∧
    (∀ line ∈ reportLines events, IsLine line) ∧
    ∀ (world : World) (location : Option (String × Nat)) (panic : Panic),
      World.reportPanic { world with diagnostics := run events } location panic =
        { world with
          diagnostics := run events
          stores := world.stores ++ Uart.transmit Uart.base (Uart.encode
            (reportText events location panic.message)) } := by
  refine ⟨?_, fun line => isLine_of_mem_reportLines, ?_⟩
  · intro location message
    rw [spells_writeReport, Outlet.acceptAll_sink, Sink.writeAll_empty_none, text_report_run]
  · intro world location panic
    rw [World.reportPanic_eq_print, World.print_eq_store, text_report_run]
    rfl

end Diagnostics

end HartKernel
