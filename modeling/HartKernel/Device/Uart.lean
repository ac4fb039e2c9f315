import HartKernel.Device.Store
import HartKernel.Utf8

/-!
# The serial line

Text goes out as UTF-8 bytes, a carriage return before every line feed. Before each byte the sender
reads the status register, five addresses above the transmit register, until the line is idle.
`Line.send` goes through a text byte by byte, and `encode` is what arrives at the other end. The
kernel has one line, which it writes to in two ways: `kernelLine` is under a lock and for the log,
`rawLine` is for code that cannot wait for the lock. Main statements: `encodeBytes_append`, what is
sent does not depend on how a text is split, and `decodeBytes_encodeBytes`, the bytes of the text
can be recovered.
-/

namespace HartKernel.Uart

/-- The address of the transmit register. -/
abbrev base : Word := 0x10000000

/-- The distance of the transmit register from the address of a line. -/
abbrev transmitOffset : Word := 0

/-- The distance of the status register from the transmit register. -/
abbrev statusOffset : Word := 5

/-- The bit of the status register that is set while the line takes a byte. -/
abbrev idleBit : UInt8 := 0x20

/-- A serial line. -/
structure Line where
  /-- Where the registers of the line are. -/
  address : Word
  /-- What the status register reads. -/
  status : UInt8
  deriving DecidableEq, Repr

/-- Why a text is not sent. -/
inductive Obstacle where
  | fault (reason : Fault)
  /-- The line is never idle, and the sender waits for good. -/
  | busy
  deriving DecidableEq, Repr

/-- The store that sends a byte through a line. -/
def Line.sendByte (line : Line) (byte : UInt8) : Except Obstacle Store := do
  let register ← (checkedAdd line.address transmitOffset).mapError .fault
  let _ ← (checkedAdd line.address statusOffset).mapError .fault
  if line.status &&& idleBit = 0 then .error .busy
  else .ok { width := .byte, address := register, value := byte.toBitVec.setWidth 64 }

/-- The stores that send bytes through a line one after another. A line feed goes out after a
carriage return. -/
def Line.sendBytes (line : Line) : List UInt8 → Except Obstacle (List Store)
  | [] => return []
  | byte :: rest => do
    let lead ← if byte = 0x0a then List.singleton <$> line.sendByte 0x0d else pure []
    let store ← line.sendByte byte
    return lead ++ store :: (← line.sendBytes rest)

/-- The stores that send a text through a line. -/
def Line.send (line : Line) (text : String) : Except Obstacle (List Store) :=
  line.sendBytes text.toUTF8.data.toList

/-- A line under a lock, which is idle whenever it is asked. -/
def kernelLine (address : Word) : Line :=
  { address, status := idleBit }

/-- The kernel's own line without its lock, for code that may have interrupted the holder. -/
def rawLine : Line :=
  { address := base, status := idleBit }

/-- Puts a carriage return before every line feed. -/
def encodeBytes (bytes : List UInt8) : List UInt8 :=
  bytes.flatMap fun byte => if byte = 0x0a then [0x0d, byte] else [byte]

/-- Deletes the one carriage return directly before each line feed. -/
def decodeBytes : List UInt8 → List UInt8
  | [] => []
  | [byte] => [byte]
  | first :: second :: rest =>
    if first = 0x0d ∧ second = 0x0a then second :: decodeBytes rest
    else first :: decodeBytes (second :: rest)

/-- The bytes that a text is sent as. -/
def encode (text : String) : List UInt8 :=
  encodeBytes text.toUTF8.data.toList

/-- The stores that send bytes through the transmit register at an address. -/
def transmit (address : Word) (bytes : List UInt8) : List Store :=
  bytes.map fun byte => { width := .byte, address, value := byte.toBitVec.setWidth 64 }

/-- The byte that a store sends through the kernel's line. A store of any width to the transmit
register sends the lowest byte of its value. -/
def sent (store : Store) : Option UInt8 :=
  if store.address = base then some (UInt8.ofNat store.value.toNat) else none

/-- The text that some stores send through the kernel's line. -/
def sentText (stores : List Store) : String :=
  Utf8.decode (stores.filterMap sent)

/-- Trap and panic code writes to the line that the log is on. -/
theorem rawLine_eq_kernelLine : rawLine = kernelLine base := rfl

theorem encodeBytes_append (s t : List UInt8) :
    encodeBytes (s ++ t) = encodeBytes s ++ encodeBytes t := by
  simp [encodeBytes]

theorem decodeBytes_encodeBytes (bytes : List UInt8) : decodeBytes (encodeBytes bytes) = bytes := by
  induction bytes with
  | nil => rfl
  | cons byte rest ih =>
    by_cases h : byte = 0x0a
    · subst h
      have : encodeBytes (0x0a :: rest) = 0x0d :: 0x0a :: encodeBytes rest := rfl
      rw [this, decodeBytes, if_pos ⟨rfl, rfl⟩, ih]
    · have hcons : encodeBytes (byte :: rest) = byte :: encodeBytes rest := by
        simp [encodeBytes, h]
      cases rest with
      | nil => rw [hcons]; rfl
      | cons next rest =>
        by_cases hn : next = 0x0a
        · subst hn
          have hnext : encodeBytes (0x0a :: rest) = 0x0d :: 0x0a :: encodeBytes rest := rfl
          rw [hcons, hnext, decodeBytes, if_neg (by simp), ← hnext, ih]
        · have hnext : encodeBytes (next :: rest) = next :: encodeBytes rest := by
            simp [encodeBytes, hn]
          rw [hcons, hnext, decodeBytes, if_neg (by simp [hn]), ← hnext, ih]

end HartKernel.Uart
