import HartKernel.Trap.Info

/-!
# Trap diagnostics

The last trap, the sixteen most recent traps, and a count of the traps that could not be stored. The
two places are under a lock each. Recording never waits: a trap that finds a place locked leaves it
alone and is counted.
-/

namespace HartKernel

/-- The sixteen most recent traps, in a ring in which a new trap overwrites the oldest. -/
structure TrapHistory where
  slots : Vector (Option TrapInfo) 16
  /-- The slot that the next trap goes to, which is the oldest. -/
  next : Fin 16
  deriving DecidableEq, Repr

namespace TrapHistory

/-- The number of slots. -/
abbrev length : Nat := 16

/-- The history without any trap. -/
def empty : TrapHistory :=
  { slots := Vector.replicate 16 none, next := 0 }

/-- Stores a trap in the place of the oldest. -/
def push (history : TrapHistory) (info : TrapInfo) : TrapHistory :=
  { slots := history.slots.set history.next (some info), next := history.next + 1 }

/-- The slots from the oldest to the newest. -/
def oldestFirst (history : TrapHistory) : Vector (Option TrapInfo) 16 :=
  Vector.ofFn fun i => history.slots[history.next + i]

end TrapHistory

/-- What is known about past traps, and which parts of it are locked. -/
structure Diagnostics where
  last : Option TrapInfo
  history : TrapHistory
  /-- How many traps were not stored everywhere, modulo `2 ^ 64`. -/
  dropped : Word
  lastHeld : Bool
  historyHeld : Bool
  deriving DecidableEq, Repr

namespace Diagnostics

/-- No trap has been recorded and nothing is locked. -/
def empty : Diagnostics :=
  { last := none, history := .empty, dropped := 0, lastHeld := false, historyHeld := false }

/-- Records a trap in the places that are not locked, and counts it if one is. -/
def record (diagnostics : Diagnostics) (info : TrapInfo) : Diagnostics :=
  { diagnostics with
    last := if diagnostics.lastHeld then diagnostics.last else some info
    history :=
      if diagnostics.historyHeld then diagnostics.history else diagnostics.history.push info
    dropped :=
      if diagnostics.lastHeld || diagnostics.historyHeld then diagnostics.dropped + 1
      else diagnostics.dropped }

/-- Holds exactly the given locks from now on. -/
def hold (diagnostics : Diagnostics) (last history : Bool) : Diagnostics :=
  { diagnostics with lastHeld := last, historyHeld := history }

/-- Holds no lock from now on. -/
def release (diagnostics : Diagnostics) : Diagnostics :=
  diagnostics.hold false false

/-- The last trap, unless its place is locked. -/
def lastIfFree (diagnostics : Diagnostics) : Option TrapInfo :=
  if diagnostics.lastHeld then none else diagnostics.last

/-- The slots of the history from the oldest to the newest. -/
def recent (diagnostics : Diagnostics) : Vector (Option TrapInfo) 16 :=
  diagnostics.history.oldestFirst

/-- The slots of the history from the oldest to the newest, unless the history is locked. -/
def recentIfFree (diagnostics : Diagnostics) : Option (Vector (Option TrapInfo) 16) :=
  if diagnostics.historyHeld then none else some diagnostics.recent

end Diagnostics

end HartKernel
