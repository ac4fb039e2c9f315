import HartKernel.Stack.Region

/-!
# Layouts of the boot stack region

A layout is a region of memory that is known to hold the boot stacks of a number of harts.
`Layout.check?` accepts a region, or gives the first reason against it in a fixed order.
-/

namespace HartKernel.Stack

/-- Why a region cannot hold the boot stacks of the configured harts. -/
inductive Refusal where
  /-- There is no hart to lay out. -/
  | noHarts
  /-- There are more harts than the kernel runs. -/
  | tooManyHarts (harts : Word)
  /-- The top of the region is not aligned as a stack top has to be. -/
  | misaligned (top : Word)
  /-- The region is smaller than the stacks together. -/
  | regionTooSmall (needed available : Word)
  deriving DecidableEq, Repr

/-- The printed form of a layout error. -/
def Refusal.message : Refusal → String
  | .noHarts => "no harts configured"
  | .tooManyHarts harts => Numeral.decimal harts ++ " harts requested, at most 4 supported"
  | .misaligned top => "stack top 0x" ++ Numeral.hex top ++ " not 16-byte aligned"
  | .regionTooSmall needed available =>
    "stack region 0x" ++ Numeral.hex available ++ " bytes, need 0x" ++ Numeral.hex needed

/-- A region that holds the boot stacks of some harts. -/
structure Layout where
  bottom : Word
  top : Word
  harts : Word
  deriving DecidableEq, Repr

namespace Layout

/-- Accepts a region for a number of harts, or says what is wrong with it. -/
def check? (bottom top harts : Word) : Except Refusal Layout :=
  let needed := harts * bootSize
  let available := saturatingSub top bottom
  if harts = 0 then .error .noHarts
  else if maxHarts < harts.toNat then .error (.tooManyHarts harts)
  else if top % alignment ≠ 0 then .error (.misaligned top)
  else if available.toNat < needed.toNat then .error (.regionTooSmall needed available)
  else .ok { bottom, top, harts }

/-- The boot stack of a hart; none if the hart is not part of the layout. -/
def stack? (layout : Layout) (hart : HartId) : Except Fault (Option AddressRange) :=
  if layout.harts.toNat ≤ hart.val then .ok none
  else do return some (← bootRange layout.top hart)

end Layout

end HartKernel.Stack
