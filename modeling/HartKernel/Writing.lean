import HartKernel.Text

/-!
# Text routines

A text routine writes strings to an outlet, one after another. An outlet may refuse a string,
whatever it has made of it by then, and a routine ends with the first string that is refused. A
`Sink` is an outlet that refuses a string for want of room, after it has accepted as many of its
characters as it has room for.
-/

namespace HartKernel

/-- A consumer of strings. It says whether it accepts a string as a whole, and may change either
way. -/
class Outlet (σ : Type) where
  accept : σ → String → Bool × σ

instance sinkOutlet : Outlet Sink where
  accept sink text := sink.write text.toList

/-- An outlet has refused a string. -/
inductive Refusal where
  | refused
  deriving DecidableEq, Repr

/-- A routine that writes to an outlet, up to the first string that is refused. -/
abbrev Writing (σ : Type) := EStateM Refusal σ

namespace Writing

variable {σ : Type}

/-- Runs a routine, and says whether it came to its end. -/
def outcome (routine : Writing σ Unit) (outlet : σ) : Bool × σ :=
  match EStateM.run routine outlet with
  | .ok () after => (true, after)
  | .error .refused after => (false, after)

variable [Outlet σ]

/-- Writes one string. -/
def put (text : String) : Writing σ Unit := fun outlet =>
  match Outlet.accept outlet text with
  | (true, next) => .ok () next
  | (false, left) => .error .refused left

/-- Writes the pieces of a text in turn. -/
def putAll (pieces : Pieces) : Writing σ Unit :=
  pieces.forM put

end Writing

end HartKernel
