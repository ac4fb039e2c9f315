import HartKernel.Boot.Plan
import HartKernel.Kernel.Code
import HartKernel.Stack.Layout

/-!
# Starting the kernel

The two pieces of code that booted harts drop into. Hart 0 reports the stacks and the boot plans,
tries the system calls, wakes the other harts and reports who is online; every other hart goes
online and starts its timer. All of them park in the end.

This is the code of a debug build with the features `boot_banner`, `trap_trace` and `timer_irq`.
Without `boot_banner` hart 0 does not log that it is up, without `timer_irq` the other harts start
no timer, and a release build logs no line of the levels `debug` and `trace`; these builds are not
modelled.
-/

namespace HartKernel

/-- All addresses that come from the linker. -/
structure LinkerSymbols extends Boot.Symbols where
  /-- The bottom of the region that the boot stacks are carved from. -/
  stackBottom : Word
  deriving DecidableEq, Repr

/-- The layout of the boot stack region for as many harts as the kernel runs. -/
def LinkerSymbols.layout? (symbols : LinkerSymbols) : Except Stack.Refusal Stack.Layout :=
  Stack.Layout.check? symbols.stackBottom symbols.stackTop (BitVec.ofNat 64 maxHarts)

namespace Kernel

open Numeral

/-- Logs the layout of the boot stacks, or what is wrong with it. -/
def reportLayout (symbols : LinkerSymbols) : Code Unit :=
  match symbols.layout? with
  | .ok layout =>
    log .info "boot"
      ["stacks 0x", hex layout.bottom, "..0x", hex layout.top, " for ", decimal layout.harts,
        " harts"]
  | .error refusal => log .error "boot" ["stack layout: ", refusal.message]

/-- Logs the boot plan of a hart, if it has one. -/
def reportPlan (symbols : LinkerSymbols) (raw : Word) : Code Unit := do
  match ← orPanic (symbols.plan? raw) with
  | none => return
  | some plan =>
    log .debug "boot"
      [plan.hart.text, ": sp=0x", hex plan.stackTop, " entry=0x", hex plan.entry, " frame=0x",
        hex plan.kernelFrame]

/-- Raises a software interrupt on a hart. -/
def wake (raw : Word) : Code Unit :=
  tryOnWorld (·.tryStore (Clint.raise raw))

variable [KernelImage]

/-- What hart 0 does after its boot. -/
def startBootHart (symbols : LinkerSymbols) : Code Unit := do
  onWorld (·.activateKernelFrame HartId.boot)
  onWorld (·.markOnline HartId.boot)
  log .info "boot" ["mina: ", HartId.boot.text, " up in S-mode"]
  reportLayout symbols
  [0, 1, 2, 3].forM (reportPlan symbols)
  let id ← systemCall hartIdCall (Vector.replicate 6 0)
  log .info "boot" ["SYS_HART_ID -> ", decimal id]
  let unknown ← systemCall 0x7ff #v[1, 2, 3, 4, 5, 6]
  log .debug "boot" ["unknown syscall -> ", signed unknown]
  [1, 2, 3].forM wake
  let _ ← systemCall yieldCall (Vector.replicate 6 0)
  log .info "boot" ["online mask 0b", binary (← get).world.online]
  park

/-- What the hart with a raw identifier does after its boot, for all harts but hart 0. -/
def startHart (raw : Word) : Code Unit := do
  match HartId.ofRaw? raw with
  | none => park
  | some hart =>
    onWorld (·.activateKernelFrame hart)
    onWorld (·.markOnline hart)
    tryOnWorld (·.setNextTick hart.word)
    enableTimer
    park

end Kernel

end HartKernel
