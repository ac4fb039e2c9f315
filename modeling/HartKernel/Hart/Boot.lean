import HartKernel.Boot.Plan
import HartKernel.Boot.Zero
import HartKernel.Hart.Basic

/-!
# Booting a hart

The reset path: it opens all memory to lower privileges, follows the hart's boot plan and lowers the
privilege with a return. A hart without a plan parks.
-/

namespace HartKernel

/-- The protection address that covers the whole address space. -/
def pmpAddressAll : Word :=
  BitVec.allOnes 64 >>> 10

/-- The protection entry that allows reading, writing and execution in the covered range. -/
def pmpConfigAll : Word :=
  0x1f

namespace Boot

/-- Where a boot ends. -/
inductive Landing where
  /-- The hart runs at an address in a mode, and this many words of memory were cleared. -/
  | dropped (mode : Privilege) (pc : Word) (cleared : Nat)
  /-- The hart waits for good. -/
  | parked
  deriving DecidableEq, Repr

/-- What a boot leaves of the hart and of the memory that hart 0 clears. -/
structure Result where
  landing : Landing
  hart : Hart
  bss : Array Word

end Boot

namespace Hart

/-- The part of the reset path that comes before the plan and is common to all harts. -/
def openMemory (hart : Hart) (symbols : Boot.Symbols) : Hart :=
  let named := (hart.write Register.gp symbols.globalPointer).write Register.a0 hart.csr.mhartid
  { named with
    mode := .machine
    csr.mscratch := 0
    csr.satp := 0
    csr.pmpaddr0 := pmpAddressAll
    csr.pmpcfg0 := pmpConfigAll }

/-- Programs what a plan says and drops. -/
def followPlan (hart : Hart) (plan : Boot.Plan) : Hart :=
  let placed := (hart.write Register.sp plan.stackTop).write Register.ra plan.returnTo
  let staged := placed.writeStatus plan.mstatus
  let installed :=
    { staged with
      csr.mie := plan.mie
      csr.mscratch := plan.kernelFrame
      csr.mepc := plan.entry
      csr.mtvec := plan.trapVector }
  installed.machineReturn

/-- Runs the reset path. Hart 0 clears all of the given memory, and a hart without a plan goes to
the parking address. -/
def boot (hart : Hart) (symbols : Boot.Symbols) (bss : Array Word) : Except Fault Boot.Result := do
  let opened := hart.openMemory symbols
  match ← symbols.plan? (opened.read Register.a0) with
  | none => return { landing := .parked, hart := { opened with pc := symbols.park }, bss }
  | some plan =>
    let zeroed := if plan.hart.isBoot then zeroRange bss 0 bss.size else (bss, 0)
    let dropped := opened.followPlan plan
    return {
      landing := .dropped dropped.mode dropped.pc zeroed.2
      hart := dropped
      bss := zeroed.1 }

end Hart

end HartKernel
