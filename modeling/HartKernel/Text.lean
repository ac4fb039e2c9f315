/-!
# Text and limited sinks

A text routine produces *pieces*, the strings it writes in the order in which it writes them. A
`Sink` takes characters one at a time and may have room for a limited number only; writing stops at
the first character that is refused, and what was accepted before stays. Main statement:
`Sink.writeAll_eq_write`, how a text is split into pieces makes no difference to what a sink accepts
of it.
-/

namespace HartKernel

/-- The parts of a text in the order in which they are written. -/
abbrev Pieces := List String

/-- The text that the pieces spell. -/
def Pieces.text (pieces : Pieces) : String :=
  String.join pieces

/-- A consumer of characters. -/
structure Sink where
  /-- What has been accepted so far. -/
  accepted : String
  /-- How many more characters will be accepted; `none` if there is no limit. -/
  room : Option Nat
  deriving DecidableEq, Repr

namespace Sink

/-- A sink with the given room that has accepted nothing. -/
def empty (room : Option Nat) : Sink :=
  { accepted := "", room := room }

/-- Takes one character, or refuses it for want of room. -/
def put? (sink : Sink) (c : Char) : Option Sink :=
  match sink.room with
  | none => some { sink with accepted := sink.accepted.push c }
  | some 0 => none
  | some (n + 1) => some { accepted := sink.accepted.push c, room := some n }

/-- Writes characters up to the first that is refused, and says whether all were accepted. -/
def write (sink : Sink) : List Char → Bool × Sink
  | [] => (true, sink)
  | c :: rest =>
    match sink.put? c with
    | some next => next.write rest
    | none => (false, sink)

/-- Writes the pieces in turn; after a refusal nothing more is written. -/
def writeAll (sink : Sink) : Pieces → Bool × Sink
  | [] => (true, sink)
  | piece :: rest =>
    match sink.write piece.toList with
    | (true, next) => next.writeAll rest
    | (false, stopped) => (false, stopped)

theorem write_append (sink : Sink) (cs ds : List Char) :
    sink.write (cs ++ ds) =
      if (sink.write cs).1 then (sink.write cs).2.write ds else (false, (sink.write cs).2) := by
  induction cs generalizing sink with
  | nil => rfl
  | cons c rest ih =>
    simp only [List.cons_append, write]
    rcases Option.eq_none_or_eq_some (sink.put? c) with h | ⟨next, h⟩
    · simp [h]
    · simp [h, ih]

/-- Writing pieces in turn is writing the text that they spell. -/
theorem writeAll_eq_write (sink : Sink) (pieces : Pieces) :
    sink.writeAll pieces = sink.write pieces.text.toList := by
  induction pieces generalizing sink with
  | nil => simp [writeAll, write, Pieces.text]
  | cons piece rest ih =>
    have hcons :
        (Pieces.text (piece :: rest)).toList = piece.toList ++ (Pieces.text rest).toList := by
      simp [Pieces.text]
    rw [hcons, write_append, writeAll]
    split <;> simp_all

end Sink

end HartKernel
