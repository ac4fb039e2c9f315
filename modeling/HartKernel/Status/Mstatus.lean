import HartKernel.Status.Flags
import HartKernel.Status.Privilege

/-!
# The machine-status word

Two interrupt-enable pairs, the previous-privilege field MPP and the floating-point field FS of
`mstatus`, and the words that are written to it: at the boot of the first hart, at the boot of any
other hart, and when a context is switched in. Bits without a name here are kept by all field
updates.
-/

namespace HartKernel

/-- A machine-status word; all 64 bits are kept, named or not. -/
abbrev Mstatus := Word

namespace Mstatus

/-- The position of the lowest bit of MPP. -/
abbrev mppShift : Nat := 11

/-- The position of the lowest bit of FS. -/
abbrev fsShift : Nat := 13

/-- Supervisor interrupts are enabled. -/
abbrev sie : Mstatus := 1 <<< 1

/-- Machine interrupts are enabled. -/
abbrev mie : Mstatus := 1 <<< 3

/-- Supervisor interrupts were enabled before the trap. -/
abbrev spie : Mstatus := 1 <<< 5

/-- Machine interrupts were enabled before the trap. -/
abbrev mpie : Mstatus := 1 <<< 7

/-- The privilege before a supervisor trap. -/
abbrev spp : Mstatus := 1 <<< 8

/-- The two bits of the privilege before a machine trap. -/
abbrev mpp : Mstatus := fieldMask <<< mppShift

/-- The two bits of the floating-point state. -/
abbrev fs : Mstatus := fieldMask <<< fsShift

/-- Memory is accessed at the previous privilege. -/
abbrev mprv : Mstatus := 1 <<< 17

/-- All bits that have a name. -/
def declared : Mstatus :=
  sie ||| mie ||| spie ||| mpie ||| spp ||| mpp ||| fs ||| mprv

/-- The word with its MPP field set to a mode. -/
def setMpp (status : Mstatus) (mode : Privilege) : Mstatus :=
  (status &&& ~~~mpp) ||| (mode.bits <<< mppShift)

/-- The word with its FS field set to a state. -/
def setFs (status : Mstatus) (state : FloatStatus) : Mstatus :=
  (status &&& ~~~fs) ||| (state.bits <<< fsShift)

/-- The mode in the MPP field; none if the field holds the reserved pattern. -/
def mpp? (status : Mstatus) : Option Privilege :=
  Privilege.ofBits? ((status >>> mppShift) &&& fieldMask)

/-- The state in the FS field. -/
def floatStatus (status : Mstatus) : FloatStatus :=
  FloatStatus.ofBits (status >>> fsShift)

/-- Both bits of FS are set. This is the test made before the floating-point registers are saved or
restored. -/
def floatDirty (status : Mstatus) : Bool :=
  (status >>> fsShift) &&& fieldMask == FloatStatus.dirty.bits

/-- The first hart drops to supervisor mode with interrupts off and a usable floating-point unit. -/
def boot : Mstatus :=
  setFs (setMpp 0 .supervisor) .initial

/-- Every other hart stays in machine mode and takes interrupts from its first return on. -/
def secondary : Mstatus :=
  setFs (setMpp mpie .machine) .initial

/-- What every switched-in context gets besides its mode: interrupts after the return,
floating-point registers in use. -/
def context : Mstatus :=
  setFs (mpie ||| spie) .dirty

/-- The word for a context whose mode field is given: only the two lowest bits of the field count.
-/
def contextWord (modeField : Word) : Mstatus :=
  context ||| ((modeField &&& fieldMask) <<< mppShift)

/-- The word for a context that runs at the given mode. -/
def contextAt (mode : Privilege) : Mstatus :=
  contextWord mode.bits

end Mstatus

/-- An interrupt-enable word; all 64 bits are kept. -/
abbrev Mie := Word

namespace Mie

/-- Supervisor software interrupts. -/
abbrev ssie : Mie := 1 <<< 1

/-- Machine software interrupts, by which harts wake each other. -/
abbrev msie : Mie := 1 <<< 3

/-- Supervisor timer interrupts. -/
abbrev stie : Mie := 1 <<< 5

/-- Machine timer interrupts. -/
abbrev mtie : Mie := 1 <<< 7

/-- Supervisor external interrupts. -/
abbrev seie : Mie := 1 <<< 9

/-- Machine external interrupts. -/
abbrev meie : Mie := 1 <<< 11

/-- All interrupt sources. -/
def declared : Mie :=
  ssie ||| msie ||| stie ||| mtie ||| seie ||| meie

/-- A hart other than the first listens for software interrupts only. -/
def secondary : Mie :=
  msie

/-- A switched-in context takes interrupts from every source. -/
def context : Mie :=
  declared

end Mie

end HartKernel
