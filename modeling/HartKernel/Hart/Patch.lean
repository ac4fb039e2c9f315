import HartKernel.Hart.Basic

/-!
# Control registers by name, and raw writes to a hart

A patch names the parts of a hart to overwrite, the slot of register 0 included, and leaves what it
does not name.
-/

namespace HartKernel

/-- The names of the control and status registers. -/
inductive ControlRegister where
  | mstatus
  | mepc
  | mcause
  | mtval
  | mscratch
  | mtvec
  | mie
  | satp
  | mhartid
  | pmpaddr0
  | pmpcfg0
  deriving DecidableEq, Repr

namespace ControlRegister

/-- All control and status registers. -/
def all : List ControlRegister :=
  [mstatus, mepc, mcause, mtval, mscratch, mtvec, mie, satp, mhartid, pmpaddr0, pmpcfg0]

/-- The printed name of a register. -/
def text : ControlRegister → String
  | mstatus => "mstatus"
  | mepc => "mepc"
  | mcause => "mcause"
  | mtval => "mtval"
  | mscratch => "mscratch"
  | mtvec => "mtvec"
  | mie => "mie"
  | satp => "satp"
  | mhartid => "mhartid"
  | pmpaddr0 => "pmpaddr0"
  | pmpcfg0 => "pmpcfg0"

end ControlRegister

namespace ControlRegisters

/-- The value of a register. -/
def read (csrs : ControlRegisters) : ControlRegister → Word
  | .mstatus => csrs.mstatus
  | .mepc => csrs.mepc
  | .mcause => csrs.mcause
  | .mtval => csrs.mtval
  | .mscratch => csrs.mscratch
  | .mtvec => csrs.mtvec
  | .mie => csrs.mie
  | .satp => csrs.satp
  | .mhartid => csrs.mhartid
  | .pmpaddr0 => csrs.pmpaddr0
  | .pmpcfg0 => csrs.pmpcfg0

/-- Overwrites a register. -/
def write (csrs : ControlRegisters) (name : ControlRegister) (value : Word) : ControlRegisters :=
  match name with
  | .mstatus => { csrs with mstatus := value }
  | .mepc => { csrs with mepc := value }
  | .mcause => { csrs with mcause := value }
  | .mtval => { csrs with mtval := value }
  | .mscratch => { csrs with mscratch := value }
  | .mtvec => { csrs with mtvec := value }
  | .mie => { csrs with mie := value }
  | .satp => { csrs with satp := value }
  | .mhartid => { csrs with mhartid := value }
  | .pmpaddr0 => { csrs with pmpaddr0 := value }
  | .pmpcfg0 => { csrs with pmpcfg0 := value }

end ControlRegisters

namespace Hart

/-- Parts of a hart to overwrite. -/
structure Patch where
  x : List (Register × Word) := []
  f : List (Register × Word) := []
  csrs : List (ControlRegister × Word) := []
  pc : Option Word := none
  mode : Option Privilege := none
  deriving Repr

/-- Writes the parts that a patch names. -/
def patch (hart : Hart) (writes : Patch) : Hart :=
  { hart with
    x := patchVector hart.x writes.x
    f := patchVector hart.f writes.f
    csr := writes.csrs.foldl (fun csrs write => csrs.write write.1 write.2) hart.csr
    pc := writes.pc.getD hart.pc
    mode := writes.mode.getD hart.mode }

end Hart

end HartKernel
