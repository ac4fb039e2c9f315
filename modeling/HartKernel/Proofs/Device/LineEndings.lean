import HartKernel.Proofs.Device.Uart
import Mathlib.Algebra.Group.Nat.Defs

/-!
# What arrives over a serial line

A line is written to byte by byte, and each byte waits for the line to be idle. On a clear line the
loop comes to what `encode` gives at once, and so what holds of lists of bytes holds of the line:
texts may be split anywhere, and whoever deletes the carriage returns before line feeds has the text
back, even where it has carriage returns of its own. The line of the kernel, which everything is
printed on, is such a line at one address (`Line.foldlM_send_base`).
-/

namespace HartKernel.Uart

/-- The bytes that stores carry. -/
def payload (stores : List Store) : List UInt8 :=
  stores.map fun store => UInt8.ofNat store.value.toNat

theorem payload_transmit (address : Word) (bytes : List UInt8) :
    payload (transmit address bytes) = bytes := by
  have hbyte (byte : UInt8) : UInt8.ofNat (byte.toBitVec.setWidth 64).toNat = byte := by
    rw [BitVec.toNat_setWidth_of_le (by decide), UInt8.toNat_toBitVec, UInt8.ofNat_toNat]
  simp only [payload, transmit, List.map_map, Function.comp_def, hbyte, List.map_id']

/-- A text is read back from what arrives by deleting a carriage return before each line feed. -/
theorem decodeBytes_encode (text : String) :
    decodeBytes (encode text) = text.toUTF8.data.toList :=
  decodeBytes_encodeBytes _

theorem encode_text (pieces : Pieces) : encode pieces.text = pieces.flatMap encode := by
  induction pieces with
  | nil => rfl
  | cons piece rest ih => rw [Pieces.text_cons, encode_append, ih, List.flatMap_cons]

theorem encode_injective : Function.Injective encode := by
  intro s t h
  have hbytes : s.toUTF8.data.toList = t.toUTF8.data.toList := by
    rw [← decodeBytes_encode, h, decodeBytes_encode]
  rw [← Utf8.decode_toUTF8 s, hbytes, Utf8.decode_toUTF8]

namespace Line

variable {line : Line}

/-- To send pieces in turn over the line of the kernel is to print them. -/
theorem foldlM_send_base (h : line.Clear) (hbase : line.address = base) (pieces : Pieces)
    (world : World) :
    pieces.foldlM (fun (world : World) piece => (line.send piece).map world.store) world =
      .ok (world.print pieces) := by
  induction pieces generalizing world with
  | nil =>
    have hnone : world.print [] = world.store [] := World.print_eq_store world []
    rw [hnone, World.store_nil]
    rfl
  | cons piece rest ih =>
    have hfirst : (line.send piece).map world.store = .ok (world.print [piece]) := by
      rw [send_of_clear h, hbase, World.print_eq_store, Pieces.text_singleton]
      rfl
    have hcons : world.print (piece :: rest) = (world.print [piece]).print rest :=
      (World.print_print world [piece] rest).symm
    rw [List.foldlM_cons, hfirst, hcons, ← ih]
    rfl

/-- The bytes that a text is sent as over a line, if it is sent. -/
def carried (line : Line) (text : String) : List UInt8 :=
  match line.send text with
  | .ok stores => payload stores
  | .error _ => []

theorem carried_eq_encode (h : line.Clear) (text : String) : line.carried text = encode text := by
  rw [carried, send_of_clear h]
  exact payload_transmit line.address (encode text)

/-- **Line endings.** Over an idle line at any address that leaves room for its registers every text
is sent, all of it through the transmit register: its bytes, with a carriage return before each line
feed. It does not matter how the text is split, what is sent tells texts apart, and the bytes are
had back by deleting one carriage return before each line feed. At the address of the kernel's line
this is what is printed there. -/
theorem line_endings {line : Line} (hroom : line.address.toNat ≤ 2 ^ 64 - 6)
    (hidle : line.status &&& idleBit ≠ 0) :
    (∀ text, ∃ stores, line.send text = .ok stores ∧
      ∀ store ∈ stores, store.width = .byte ∧ store.address = line.address) ∧
    (∀ text, line.carried text = text.toUTF8.data.toList.flatMap fun byte =>
      if byte = 0x0a then [0x0d, 0x0a] else [byte]) ∧
    (∀ s t, line.carried (s ++ t) = line.carried s ++ line.carried t) ∧
    (∀ pieces : Pieces, line.carried pieces.text = pieces.flatMap line.carried) ∧
    Function.Injective line.carried ∧
    (∀ text, decodeBytes (line.carried text) = text.toUTF8.data.toList) ∧
    (line.address = base → ∀ (pieces : Pieces) (world : World),
      (world.print pieces).stores =
        world.stores ++ transmit base (line.carried pieces.text) ∧
      pieces.foldlM (fun (world : World) piece => (line.send piece).map world.store) world =
        .ok (world.print pieces)) := by
  have h : line.Clear := ⟨hroom, hidle⟩
  have hcarried : line.carried = encode := funext (carried_eq_encode h)
  rw [hcarried]
  refine ⟨?_, ?_, encode_append, encode_text, encode_injective, decodeBytes_encode, ?_⟩
  · intro text
    refine ⟨_, send_of_clear h text, ?_⟩
    intro store hstore
    obtain ⟨byte, -, rfl⟩ := List.mem_map.mp hstore
    exact ⟨rfl, rfl⟩
  · intro text
    rw [encode, encodeBytes]
    congr 1
    funext byte
    split
    · next hfeed => rw [hfeed]
    · rfl
  · intro hbase pieces world
    exact ⟨congrArg World.stores (world.print_eq_store pieces),
      foldlM_send_base h hbase pieces world⟩

/-- The last address that leaves room for both registers, and a text that ends with a line end of
its own and an empty line. -/
theorem line_endings_last :
    let line : Line := { address := -6, status := 0x60 }
    line.address.toNat ≤ 2 ^ 64 - 6 ∧ line.status &&& idleBit ≠ 0 ∧
      line.carried "a\r\n\n" = [0x61, 0x0d, 0x0d, 0x0a, 0x0d, 0x0a] ∧
      decodeBytes [0x61, 0x0d, 0x0d, 0x0a, 0x0d, 0x0a] = [0x61, 0x0d, 0x0a, 0x0a] := by
  intro line
  have hroom : line.address.toNat ≤ 2 ^ 64 - 6 := by decide
  have hidle : line.status &&& idleBit ≠ 0 := by decide
  obtain ⟨-, hbytes, -, -, -, hback, -⟩ := line_endings hroom hidle
  have hcarried : line.carried "a\r\n\n" = [0x61, 0x0d, 0x0d, 0x0a, 0x0d, 0x0a] := by
    rw [hbytes]
    decide
  refine ⟨hroom, hidle, hcarried, ?_⟩
  rw [← hcarried, hback]
  decide

end Line

end HartKernel.Uart
