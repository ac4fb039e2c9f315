import HartKernel.Frame.Basic
import HartKernel.Numeral
import HartKernel.Trap.Info

/-!
# Trap handlers and the ways to stop

The trap vector calls a handler with what is known about the trap and with the frame it saved. A
handler acts on a *world* that it shares with whatever runs beside it: diagnostics, devices, the
script of a test. It answers with the address to resume at, or it panics; what it did to frame and
world holds either way.
-/

namespace HartKernel

/-- Why the vector refuses to run. -/
inductive TrapError where
  /-- The hart's `mtvec` does not point at the trap vector. -/
  | noVector (mtvec : Word)
  /-- The frame at hand is not the one that `mscratch` designates. -/
  | scratchMismatch (expected found : Word)
  deriving DecidableEq, Repr

/-- The printed form of a refusal. -/
def TrapError.message : TrapError → String
  | .noVector mtvec => "mtvec 0x" ++ Numeral.hex mtvec ++ " is not the trap vector"
  | .scratchMismatch expected found =>
    "mscratch 0x" ++ Numeral.hex found ++ " but frame at 0x" ++ Numeral.hex expected

/-- Why running code gave up. -/
inductive Panic where
  /-- A computation faulted. -/
  | fault (reason : Fault)
  /-- A trap arrived that nothing handles. -/
  | unhandledTrap (cause hart : Word)
  deriving DecidableEq, Repr

/-- The message of a panic. -/
def Panic.message : Panic → String
  | .fault reason => reason.message
  | .unhandledTrap cause hart =>
    "unhandled trap " ++ causeName cause ++ " on hart" ++ Numeral.decimal hart

/-- Why a routine of a hart did not reach its end. -/
inductive Stop where
  /-- The trap vector did not run. -/
  | refused (error : TrapError)
  /-- The vector or the handler panicked. -/
  | panicked (panic : Panic)
  deriving DecidableEq, Repr

/-- What a trap handler leaves behind. -/
structure Reply (φ σ : Type) where
  /-- The address to resume at, unless the handler panicked. -/
  resume : Except Panic Word
  /-- The frame as the handler leaves it. -/
  frame : φ
  /-- The world as the handler leaves it. -/
  world : σ

/-- A trap handler over a world. -/
abbrev Handler (σ : Type) := TrapInfo → Frame → σ → Reply Frame σ

end HartKernel
