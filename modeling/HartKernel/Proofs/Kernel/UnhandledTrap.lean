import HartKernel.Proofs.Kernel.Dispatch
import HartKernel.Proofs.Trap.PanicReport

/-!
# The trap that is reported is the trap that was not handled

A trap that the kernel has no answer to is recorded before the panic, so that the report of the
panic can be about this trap and not about an older one. What the report says depends on the locks:
a place that is free shows the trap as its newest entry, and a place that is locked is made up for
by the count (`Diagnostics.Blames`). Nothing is assumed of the diagnostics; they may be in any
state.

`Kernel.unhandled_trap_is_reported` puts trace, dump and report together into what goes over the
serial line.
-/

namespace HartKernel

open Numeral

namespace Diagnostics

/-- The texts of the three parts of a report, if a trap has been recorded right before it. -/
structure Blames (before : Diagnostics) (info : TrapInfo) (last history dropped : String) :
    Prop where
  lastFree : before.lastHeld = false → last = info.lastText
  lastHeld : before.lastHeld = true → last = ""
  /-- The oldest of sixteen traps gives way to this one, which comes last. -/
  historyFree : before.historyHeld = false →
    history = String.join ((before.recent.toList.tail.filterMap id).map TrapInfo.historyText) ++
      info.historyText
  historyHeld : before.historyHeld = true → history = busyText
  /-- The trap is counted if it was not stored everywhere. -/
  counted : before.lastHeld = true ∨ before.historyHeld = true →
    before.dropped.toNat < 2 ^ 64 - 1 → dropped = droppedText (before.dropped.toNat + 1)
  stored : before.lastHeld = false → before.historyHeld = false →
    dropped = if before.dropped.toNat = 0 then "" else droppedText before.dropped.toNat

theorem blames_record (diagnostics : Diagnostics) (info : TrapInfo) :
    Blames diagnostics info (diagnostics.record info).lastPart.text
      (diagnostics.record info).historyPart.text (diagnostics.record info).droppedPart.text := by
  obtain ⟨hlast, -, hrecent, -, -, hcounted, hstored, -⟩ := diagnostics.records_record info
  refine ⟨?_, ?_, ?_, ?_, ?_, ?_⟩
  · intro h
    have hfree : (diagnostics.record info).lastHeld = false := h
    rw [text_lastPart, lastIfFree, hfree, hlast h]
    rfl
  · intro h
    have hheld : (diagnostics.record info).lastHeld = true := h
    rw [text_lastPart, lastIfFree, hheld]
    rfl
  · intro h
    rw [text_historyPart_of_free (diagnostics.record info) h, hrecent h, List.filterMap_append,
      List.map_append, String.join_append]
    exact congrArg _ (Pieces.text_singleton _)
  · intro h
    exact text_historyPart_of_held (diagnostics.record info) h
  · intro h hroom
    have hcount : (diagnostics.record info).dropped.toNat = diagnostics.dropped.toNat + 1 := by
      rw [hcounted h]
      omega
    rw [text_droppedPart, hcount, if_neg (Nat.succ_ne_zero _)]
  · intro hlastFree hhistoryFree
    rw [text_droppedPart, hstored hlastFree hhistoryFree]

end Diagnostics

namespace Kernel

/-! ### What goes over the line -/

/-- Trace, dump and report are one text. -/
theorem reportPanic_unhandled (info : TrapInfo) (frame : Frame) (world : World)
    (location : Option (String × Nat)) (panic : Panic) :
    (printUnhandled info (some frame) (world.traced info)).reportPanic location panic =
      (world.recordTrap info).print (traceLine info ++ (unhandledLine info ++ info.dump frame) ++
        (world.diagnostics.record info).report location panic.message) := by
  -- The trap is in the diagnostics by the time that they are read.
  have hdiagnostics : (printUnhandled info (some frame) (world.traced info)).diagnostics =
      world.diagnostics.record info := by
    rw [printUnhandled_eq_print, World.print_eq_store, World.traced_eq_store]
    rfl
  rw [World.reportPanic_eq_print, hdiagnostics, printUnhandled_eq_print, World.traced,
    World.print_print, World.print_print, List.append_assoc (traceLine info)]

/-- **An unhandled trap is the one reported.** The handler panics, and what it and the panic handler
send over the serial line is the trace of this trap, its dump with this frame, and a report whose
message and newest entries are about this trap. This holds wherever in the source the panic is
raised, and whether that is known or not. -/
theorem unhandled_trap_is_reported {info : TrapInfo} (h : info.cause ∉ handledCauses)
    (frame : Frame) (world : World) (location : Option (String × Nat)) :
    let panic := Panic.unhandledTrap info.cause info.hart
    panic.message = "unhandled trap " ++ causeName info.cause ++ " on hart" ++ decimal info.hart ∧
      ∃ after last history dropped,
        handleTrap info (some frame) world =
          { resume := .error panic, frame := some frame, world := after } ∧
        (after.reportPanic location panic).stores =
          world.stores ++ Uart.transmit Uart.base (Uart.encode
            (traceText info ++ unhandledText info frame ++
              Diagnostics.headlineText location panic.message ++ last ++ history ++ dropped)) ∧
        world.diagnostics.Blames info last history dropped := by
  intro panic
  refine ⟨rfl, _, _, _, _, handleTrap_unhandled h _ _, ?_, world.diagnostics.blames_record info⟩
  rw [reportPanic_unhandled, World.print_eq_store, Pieces.text_append, Pieces.text_append,
    text_traceLine, text_unhandled, Diagnostics.text_report]
  simp only [String.append_assoc]
  rfl

/-- A breakpoint while another hart reads the ring, after forty-one traps that were not stored. -/
theorem breakpoint_is_reported :
    let info : TrapInfo := { epc := 0x80001000, tval := 0, cause := 3, hart := 1, status := 0 }
    let panic := Panic.unhandledTrap info.cause info.hart
    let world : World :=
      { World.fresh with
        diagnostics := Diagnostics.hold { Diagnostics.empty with dropped := 41 } false true }
    let location := some ("mina-boot/src/main.rs", 179)
    info.cause ∉ handledCauses ∧
      ∃ after, handleTrap info (some .zeroed) world =
          { resume := .error panic, frame := some .zeroed, world := after } ∧
        (after.reportPanic location panic).stores = Uart.transmit Uart.base (Uart.encode
          (traceText info ++ unhandledText info .zeroed ++
            Diagnostics.headlineText location panic.message ++
            info.lastText ++ Diagnostics.busyText ++ Diagnostics.droppedText 42)) := by
  intro info panic world location
  have hcause : info.cause ∉ handledCauses := by decide
  obtain ⟨-, after, last, history, dropped, hreply, hstores, hblames⟩ :=
    unhandled_trap_is_reported hcause .zeroed world location
  have hlast : last = info.lastText := hblames.lastFree rfl
  have hhistory : history = Diagnostics.busyText := hblames.historyHeld rfl
  have hdropped : dropped = Diagnostics.droppedText 42 := hblames.counted (Or.inr rfl) (by decide)
  have hquiet : world.stores = [] := rfl
  rw [hlast, hhistory, hdropped, hquiet, List.nil_append] at hstores
  exact ⟨hcause, after, hreply, hstores⟩

end Kernel

end HartKernel
