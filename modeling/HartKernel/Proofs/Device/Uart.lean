import HartKernel.Kernel.World
import HartKernel.Proofs.Trap.Truncation
import Mathlib.Algebra.Group.Nat.Defs

/-!
# Stores and prints, piece by piece

Stores that are made in turn are made as one list (`World.store_store`). On a line that is idle
whenever it is asked, and whose registers have addresses, nothing can go wrong, and the loop makes
the stores that `encode` gives at once (`Line.send_of_clear`). The line of the kernel is such a
line. So a text routine that writes to it is not stopped, and makes the stores of the one text that
it spells, however that is split (`World.write_eq_store`, `World.print_print`).
-/

namespace HartKernel

namespace Uart

theorem encode_append (s t : String) : encode (s ++ t) = encode s ++ encode t := by
  have hbytes : (s ++ t).toUTF8.data.toList = s.toUTF8.data.toList ++ t.toUTF8.data.toList := by
    rw [String.toUTF8_eq_toByteArray, String.toByteArray_append, ByteArray.data_append,
      Array.toList_append]
    rfl
  rw [encode, hbytes, encodeBytes_append]
  rfl

theorem transmit_append (address : Word) (first second : List UInt8) :
    transmit address (first ++ second) = transmit address first ++ transmit address second :=
  List.map_append

namespace Line

variable {line : Line}

/-- The registers of the line have addresses, and the line is idle. -/
structure Clear (line : Line) : Prop where
  room : line.address.toNat ≤ 2 ^ 64 - 6
  idle : line.status &&& idleBit ≠ 0

theorem sendByte_of_clear (h : line.Clear) (byte : UInt8) :
    line.sendByte byte =
      .ok { width := .byte, address := line.address, value := byte.toBitVec.setWidth 64 } := by
  have hroom := h.room
  have htransmit : checkedAdd line.address transmitOffset = .ok line.address := by
    rw [checkedAdd_eq_ok_iff]
    rfl
  have hstatus : checkedAdd line.address statusOffset = .ok (line.address + statusOffset) := by
    have hoffset : statusOffset.toNat = 5 := rfl
    rw [checkedAdd_eq_ok_iff, BitVec.toNat_add, hoffset]
    omega
  simp only [sendByte, if_neg h.idle, htransmit, hstatus]
  rfl

theorem sendBytes_of_clear (h : line.Clear) (bytes : List UInt8) :
    line.sendBytes bytes = .ok (transmit line.address (encodeBytes bytes)) := by
  induction bytes with
  | nil => rfl
  | cons byte rest ih =>
    have hcons : encodeBytes (byte :: rest) = encodeBytes [byte] ++ encodeBytes rest :=
      encodeBytes_append [byte] rest
    rw [hcons, transmit_append, sendBytes, ih]
    by_cases hfeed : byte = 0x0a
    · subst hfeed
      rw [if_pos rfl, sendByte_of_clear h, sendByte_of_clear h]
      rfl
    · have hsingle : encodeBytes [byte] = [byte] := by simp [encodeBytes, hfeed]
      rw [if_neg hfeed, sendByte_of_clear h, hsingle]
      rfl

/-- **The closed form of the loop** on a line that nothing is in the way of. -/
theorem send_of_clear (h : line.Clear) (text : String) :
    line.send text = .ok (transmit line.address (encode text)) :=
  sendBytes_of_clear h _

theorem clear_rawLine : rawLine.Clear :=
  ⟨by decide, by decide⟩

end Line

end Uart

namespace World

theorem store_nil (world : World) : world.store [] = world := by
  simp only [store, List.append_nil]

theorem store_store (world : World) (first second : List Store) :
    (world.store first).store second = world.store (first ++ second) := by
  simp only [store, List.append_assoc]

/-! ### Text routines on a line -/

theorem acceptAll_console {line : Uart.Line} (h : line.Clear) (world : World) (pieces : Pieces) :
    Outlet.acceptAll ({ world } : Console line) pieces =
      (true,
        { world := world.store (Uart.transmit line.address (Uart.encode pieces.text)) }) := by
  induction pieces generalizing world with
  | nil =>
    have hnone : Uart.transmit line.address (Uart.encode (Pieces.text [])) = [] := rfl
    rw [hnone, store_nil]
    rfl
  | cons piece rest ih =>
    have haccept : Outlet.accept ({ world } : Console line) piece =
        (true, { world := world.store (Uart.transmit line.address (Uart.encode piece)) }) := by
      simp only [Outlet.accept, Uart.Line.send_of_clear h]
    rw [Outlet.acceptAll, haccept]
    dsimp only
    rw [ih, store_store, ← Uart.transmit_append, ← Uart.encode_append, ← Pieces.text_cons]

/-- A text routine makes the stores of its text. -/
theorem write_eq_store {line : Uart.Line} (h : line.Clear)
    {routine : Writing (Console line) Unit} {pieces : Pieces}
    (hspells : Writing.Spells routine pieces) (world : World) :
    world.write line routine =
      world.store (Uart.transmit line.address (Uart.encode pieces.text)) := by
  rw [write, hspells, acceptAll_console h]

theorem print_eq_store (world : World) (pieces : Pieces) :
    world.print pieces = world.store (Uart.transmit Uart.base (Uart.encode pieces.text)) :=
  write_eq_store Uart.Line.clear_rawLine (Writing.spells_putAll pieces) world

/-- A routine that spells some pieces prints them. -/
theorem write_eq_print {routine : Writing (Console Uart.rawLine) Unit} {pieces : Pieces}
    (hspells : Writing.Spells routine pieces) (world : World) :
    world.write Uart.rawLine routine = world.print pieces := by
  rw [print_eq_store, write_eq_store Uart.Line.clear_rawLine hspells]
  rfl

theorem log_eq_print (world : World) (level : LogLevel) (target : String) (message : Pieces) :
    world.log level target message = world.print (logLine level target message) :=
  write_eq_print (spells_writeLogLine level target message) world

theorem reportPanic_eq_print (world : World) (location : Option (String × Nat)) (panic : Panic) :
    world.reportPanic location panic =
      world.print (world.diagnostics.report location panic.message) :=
  write_eq_print (world.diagnostics.spells_writeReport location panic.message) world

theorem print_print (world : World) (first second : Pieces) :
    (world.print first).print second = world.print (first ++ second) := by
  simp only [print_eq_store, store_store, Pieces.text_append, Uart.encode_append,
    Uart.transmit_append]

end World

end HartKernel
