import HartKernel.Proofs.Hart.UserState
import HartKernel.Proofs.Kernel.Initializers
import Mathlib.Logic.Function.Basic

/-!
# Harts side by side

A `Cluster` is a family of harts on one memory and in one world. Each of its operations runs code on
one hart: a start boots the hart and runs its initializer, a switch makes a frame the active one and
leaves for the context in it, and a trap goes to the frame that `mscratch` designates, for any
handler. What an operation leaves goes back into the cluster hart by hart (`hart_settle`,
`harts_settle_of_ne`).
-/

namespace HartKernel

/-- Harts on one memory and in one world. -/
structure Cluster (ι : Type) where
  harts : ι → Hart
  /-- The frame at every address; those that are used do not overlap. -/
  frames : Word → Frame
  world : World

namespace Cluster

open Kernel

variable {ι : Type} [DecidableEq ι]

/-- The raw identifier of a hart. -/
def identifier (cluster : Cluster ι) (i : ι) : Word :=
  (cluster.harts i).csr.mhartid

/-- Replaces a hart. -/
def withHart (cluster : Cluster ι) (i : ι) (hart : Hart) : Cluster ι :=
  { cluster with harts := Function.update cluster.harts i hart }

/-- What code on a hart finds. No frame is known by a position. -/
def contextOf (cluster : Cluster ι) (i : ι) : Context :=
  { hart := cluster.harts i
    frames := { base := 0, get := cluster.frames, whole := true }
    world := cluster.world }

/-- The cluster once code on a hart has ended. -/
def settle (cluster : Cluster ι) (i : ι) (after : Context) : Cluster ι :=
  { harts := Function.update cluster.harts i after.hart
    frames := after.frames.get
    world := after.world }

theorem hart_withHart (cluster : Cluster ι) (i : ι) (hart : Hart) :
    (cluster.withHart i hart).harts i = hart := by
  simp [withHart]

theorem harts_withHart_of_ne (cluster : Cluster ι) {i j : ι} (h : j ≠ i) (hart : Hart) :
    (cluster.withHart i hart).harts j = cluster.harts j := by
  simp [withHart, h]

theorem hart_settle (cluster : Cluster ι) (i : ι) (after : Context) :
    (cluster.settle i after).harts i = after.hart := by
  simp [settle]

theorem harts_settle_of_ne (cluster : Cluster ι) {i j : ι} (h : j ≠ i) (after : Context) :
    (cluster.settle i after).harts j = cluster.harts j := by
  simp [settle, h]

theorem settle_contextOf (cluster : Cluster ι) (i : ι) :
    cluster.settle i (cluster.contextOf i) = cluster := by
  simp [settle, contextOf]

variable [KernelImage]

/-- Runs code on a hart to its end. -/
def runOn {α : Type} (cluster : Cluster ι) (i : ι) (code : Code α) : Ending α × Cluster ι :=
  let (ending, after) := code.finish (cluster.contextOf i)
  (ending, cluster.settle i after)

/-! ### The operations -/

/-- Boots a hart, which then runs its initializer unless it has parked. -/
def start (symbols : LinkerSymbols) (cluster : Cluster ι) (i : ι) (bss : Array Word) :
    Except Fault (Cluster ι) := do
  let result ← (cluster.harts i).boot symbols.toSymbols bss
  let booted := cluster.withHart i result.hart
  match result.landing with
  | .parked => return booted
  | .dropped .. => return (booted.runOn i (initializer symbols result.hart)).2

/-- Makes the frame at an address the active one of a hart, which leaves for the context in it. -/
def switchTo (cluster : Cluster ι) (i : ι) (address : Word) : Ending Unit × Cluster ι :=
  cluster.runOn i (resumeContext address)

/-- Raises a trap on a hart. It goes to the frame that `mscratch` designates. -/
def trap (cluster : Cluster ι) (i : ι) (cause tval : Word) (handler : Handler World) :
    Ending (Except TrapError TrapInfo) × Cluster ι :=
  cluster.runOn i (raiseTrapFor handler (cluster.harts i).csr.mscratch cause tval)

/-- What can be done on a hart of a cluster. -/
inductive Operation (ι : Type) where
  | start (i : ι) (bss : Array Word)
  | switchTo (i : ι) (address : Word)
  | trap (i : ι) (cause tval : Word) (handler : {handler : Handler World // handler.Confined})
  /-- The context on the hart replaces what it sees. -/
  | runUser (i : ι) (user : UserState)

namespace Operation

/-- The hart of an operation. -/
def hart : Operation ι → ι
  | start i _ => i
  | switchTo i _ => i
  | trap i _ _ _ => i
  | runUser i _ => i

/-- The address of the frame that an operation makes the active one of the hart it is on. -/
def installs? (id : HartId) : Operation ι → Option Word
  | start _ _ => some (kernelFrame id)
  | switchTo _ address => some address
  | _ => none

end Operation

/-- Does an operation. Only a boot can fail outside of kernel code. -/
def perform (symbols : LinkerSymbols) (cluster : Cluster ι) :
    Operation ι → Except Fault (Cluster ι)
  | .start i bss => cluster.start symbols i bss
  | .switchTo i address => .ok (cluster.switchTo i address).2
  | .trap i cause tval handler => .ok (cluster.trap i cause tval handler.val).2
  | .runUser i user => .ok (cluster.withHart i ((cluster.harts i).withUserState user))

/-- Does one operation after the other. -/
def run (symbols : LinkerSymbols) (cluster : Cluster ι) (operations : List (Operation ι)) :
    Except Fault (Cluster ι) :=
  operations.foldlM (perform symbols) cluster

end Cluster

end HartKernel
