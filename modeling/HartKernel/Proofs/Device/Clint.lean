import HartKernel.Device.Clint
import HartKernel.Device.Uart
import HartKernel.HartId

/-!
# Whose registers a store reaches

The interrupt controller keeps a software-interrupt word of four bytes and a deadline of eight for
each hart. `Owns` says which bytes are whose. No byte has two owners as long as the deadlines stay
below the clock of the controller (`eq_of_owns`), and the transmit register has none
(`not_owns_uart`).
-/

namespace HartKernel

/-- The number of bytes that a store of a width writes. -/
def StoreWidth.size : StoreWidth → Nat
  | byte => 1
  | word => 4
  | double => 8

/-- The store writes the byte at an address. -/
def Store.Touches (store : Store) (byte : Nat) : Prop :=
  store.address.toNat ≤ byte ∧ byte < store.address.toNat + store.width.size

namespace Clint

/-- The byte at an address belongs to the software-interrupt word or to the deadline of a hart. -/
def Owns (raw : Word) (byte : Nat) : Prop :=
  (∃ address, softwareInterruptAddress raw = .ok address ∧
    address.toNat ≤ byte ∧ byte < address.toNat + 4) ∨
  ∃ address, deadlineAddress raw = .ok address ∧
    address.toNat ≤ byte ∧ byte < address.toNat + 8

/-- The number of harts whose deadlines fit below the clock of the controller. -/
abbrev hartLimit : Nat := 4095

theorem lt_hartLimit {raw : Word} (h : raw.toNat < maxHarts) : raw.toNat < hartLimit :=
  Nat.lt_of_lt_of_le h (by decide)

/-- The registers of one kind lie at equal distances from a first one. -/
theorem register_eq_ok_iff {first raw address distance : Word} (hsmall : distance.toNat ≤ 8)
    (h : raw.toNat < hartLimit) :
    (do let offset ← checkedMul raw distance; checkedAdd first offset) = Except.ok address ↔
      address.toNat = first.toNat + raw.toNat * distance.toNat := by
  have hbound : raw.toNat * distance.toNat ≤ 4094 * 8 :=
    Nat.mul_le_mul (Nat.le_of_lt_succ h) hsmall
  have hoffset : (raw * distance).toNat = raw.toNat * distance.toNat := by
    rw [BitVec.toNat_mul, Nat.mod_eq_of_lt (by omega)]
  have hmul : checkedMul raw distance = .ok (raw * distance) := by
    rw [checkedMul_eq_ok_iff, hoffset]
  rw [hmul]
  show checkedAdd first (raw * distance) = .ok address ↔ _
  rw [checkedAdd_eq_ok_iff, hoffset]
  exact eq_comm

theorem softwareInterruptAddress_eq_ok_iff {raw address : Word} (h : raw.toNat < hartLimit) :
    softwareInterruptAddress raw = .ok address ↔ address.toNat = 0x02000000 + raw.toNat * 4 :=
  register_eq_ok_iff (by decide) h

theorem deadlineAddress_eq_ok_iff {raw address : Word} (h : raw.toNat < hartLimit) :
    deadlineAddress raw = .ok address ↔ address.toNat = 0x02004000 + raw.toNat * 8 :=
  register_eq_ok_iff (by decide) h

theorem owns_bounds {raw : Word} {byte : Nat} (h : raw.toNat < hartLimit) (ho : Owns raw byte) :
    (0x02000000 + raw.toNat * 4 ≤ byte ∧ byte < 0x02000000 + raw.toNat * 4 + 4) ∨
      (0x02004000 + raw.toNat * 8 ≤ byte ∧ byte < 0x02004000 + raw.toNat * 8 + 8) := by
  rcases ho with ⟨address, haddress, hbyte⟩ | ⟨address, haddress, hbyte⟩
  · rw [softwareInterruptAddress_eq_ok_iff h] at haddress
    rw [haddress] at hbyte
    exact Or.inl hbyte
  · rw [deadlineAddress_eq_ok_iff h] at haddress
    rw [haddress] at hbyte
    exact Or.inr hbyte

/-- No byte belongs to two harts. -/
theorem eq_of_owns {raw other : Word} {byte : Nat} (hraw : raw.toNat < hartLimit)
    (hother : other.toNat < hartLimit) (h : Owns raw byte) (h' : Owns other byte) :
    raw = other := by
  have hbounds := owns_bounds hraw h
  have hbounds' := owns_bounds hother h'
  -- The last software-interrupt word ends before the first deadline begins.
  have hlimit : hartLimit = 4095 := rfl
  apply BitVec.eq_of_toNat_eq
  omega

/-- The controller ends below the serial line. -/
theorem not_owns_uart {raw : Word} (h : raw.toNat < hartLimit) : ¬Owns raw Uart.base.toNat := by
  intro ho
  have hbounds := owns_bounds h ho
  have hlimit : hartLimit = 4095 := rfl
  have hbase : Uart.base.toNat = 0x10000000 := rfl
  omega

/-- A byte for the serial line is no part of the controller. -/
theorem not_owns_of_serial {raw value : Word} {byte : Nat} (h : raw.toNat < hartLimit)
    (hbyte : Store.Touches { width := .byte, address := Uart.base, value } byte) :
    ¬Owns raw byte := by
  obtain ⟨hlow, hhigh⟩ := hbyte
  have hsingle : byte = Uart.base.toNat := Nat.le_antisymm (Nat.le_of_lt_succ hhigh) hlow
  rw [hsingle]
  exact not_owns_uart h

theorem not_owns_of_mem_transmit {raw : Word} {bytes : List UInt8} {store : Store} {byte : Nat}
    (h : raw.toNat < hartLimit) (hstore : store ∈ Uart.transmit Uart.base bytes)
    (hbyte : store.Touches byte) : ¬Owns raw byte := by
  obtain ⟨value, -, rfl⟩ := List.mem_map.mp hstore
  exact not_owns_of_serial h hbyte

/-! ### The stores of a hart -/

theorem softwareInterruptAddress_of_lt {raw : Word} (h : raw.toNat < maxHarts) :
    softwareInterruptAddress raw = .ok (base + raw * 4) := by
  have hraw : raw.toNat < 4 := h
  rw [softwareInterruptAddress_eq_ok_iff (lt_hartLimit h), BitVec.toNat_add, BitVec.toNat_mul,
    show base.toNat = 0x02000000 from rfl, show (4 : Word).toNat = 4 from rfl]
  omega

/-- A software interrupt can be raised on a hart that the kernel runs. -/
theorem raise_of_lt {raw : Word} (h : raw.toNat < maxHarts) :
    raise raw = .ok { width := .word, address := base + raw * 4, value := 1 } := by
  rw [raise, softwareInterruptAddress_of_lt h]
  rfl

/-- A hart that the kernel runs can acknowledge a software interrupt. -/
theorem acknowledge_of_lt {raw : Word} (h : raw.toNat < maxHarts) :
    acknowledge raw = .ok { width := .word, address := base + raw * 4, value := 0 } := by
  rw [acknowledge, softwareInterruptAddress_of_lt h]
  rfl

/-- A hart that the kernel runs can set its deadline. -/
theorem setDeadline_of_lt {raw : Word} (h : raw.toNat < maxHarts) (deadline : Word) :
    setDeadline raw deadline =
      .ok { width := .double, address := base + deadlineOffset + raw * 8, value := deadline } := by
  have haddress : deadlineAddress raw = .ok (base + deadlineOffset + raw * 8) := by
    have hraw : raw.toNat < 4 := h
    rw [deadlineAddress_eq_ok_iff (lt_hartLimit h), BitVec.toNat_add, BitVec.toNat_mul,
      show (base + deadlineOffset).toNat = 0x02004000 from rfl, show (8 : Word).toNat = 8 from rfl]
    omega
  rw [setDeadline, haddress]
  rfl

theorem owns_of_acknowledge {raw : Word} {store : Store} {byte : Nat}
    (h : acknowledge raw = .ok store) (hbyte : store.Touches byte) : Owns raw byte := by
  cases haddress : softwareInterruptAddress raw with
  | error reason =>
    rw [acknowledge, haddress] at h
    cases h
  | ok address =>
    rw [acknowledge, haddress] at h
    cases h
    exact Or.inl ⟨address, haddress, hbyte⟩

theorem owns_of_setDeadline {raw deadline : Word} {store : Store} {byte : Nat}
    (h : setDeadline raw deadline = .ok store) (hbyte : store.Touches byte) : Owns raw byte := by
  cases haddress : deadlineAddress raw with
  | error reason =>
    rw [setDeadline, haddress] at h
    cases h
  | ok address =>
    rw [setDeadline, haddress] at h
    cases h
    exact Or.inr ⟨address, haddress, hbyte⟩

end Clint

end HartKernel
