import HartKernel.Proofs.Text.Lines
import HartKernel.Writing

/-!
# What a text routine delivers

A routine `Spells` some pieces if every outlet is left by it as it is left by the pieces offered in
turn, up to the first that is refused. This is put together along the routine: `spells_put` for one
string, `Spells.bind` for what comes after, `spells_forM` for a loop.

From there on the routine does not matter, only its text (`truncates_of_spells`). A sink with room
for a limited number of characters ends up with that many from the start of the text, or with all of
it if there are fewer, and an outlet of any kind is not offered anything after its first refusal.
-/

namespace HartKernel

namespace Outlet

variable {σ : Type} [Outlet σ]

/-- Offers pieces in turn, up to the first that is refused. -/
def acceptAll (outlet : σ) : Pieces → Bool × σ
  | [] => (true, outlet)
  | piece :: rest =>
    match accept outlet piece with
    | (true, next) => acceptAll next rest
    | (false, left) => (false, left)

theorem acceptAll_singleton (outlet : σ) (piece : String) :
    acceptAll outlet [piece] = accept outlet piece := by
  rw [acceptAll]
  split
  · next next h => rw [h, acceptAll]
  · next left h => exact h.symm

theorem acceptAll_append (outlet : σ) (first second : Pieces) :
    acceptAll outlet (first ++ second) =
      if (acceptAll outlet first).1 then acceptAll (acceptAll outlet first).2 second
      else (false, (acceptAll outlet first).2) := by
  induction first generalizing outlet with
  | nil => rfl
  | cons piece rest ih =>
    rw [List.cons_append, acceptAll, acceptAll]
    split
    · next next h => exact ih next
    · rfl

theorem acceptAll_sink (sink : Sink) (pieces : Pieces) :
    acceptAll sink pieces = sink.writeAll pieces := by
  induction pieces generalizing sink with
  | nil => rfl
  | cons piece rest ih =>
    have haccept : accept sink piece = sink.write piece.toList := rfl
    rw [acceptAll, Sink.writeAll, haccept]
    rcases sink.write piece.toList with ⟨_ | _, after⟩
    · rfl
    · exact ih after

/-! ### Outlets under watch -/

/-- An outlet with a note of its answers to the strings that it has been offered. -/
structure Watched (σ : Type) where
  outlet : σ
  answers : List Bool

instance watchedOutlet : Outlet (Watched σ) where
  accept watched text :=
    let answer := accept watched.outlet text
    (answer.1, { outlet := answer.2, answers := watched.answers ++ [answer.1] })

/-- All answers but the last are the same, and what the last one is tells how it ended. -/
theorem answers_acceptAll (watched : Watched σ) (pieces : Pieces) :
    ∃ count, (acceptAll watched pieces).2.answers =
      watched.answers ++ (List.replicate count true ++
        if (acceptAll watched pieces).1 then [] else [false]) := by
  induction pieces generalizing watched with
  | nil => exact ⟨0, by simp [acceptAll]⟩
  | cons piece rest ih =>
    rcases hanswer : accept watched.outlet piece with ⟨answer, outlet⟩
    have hstep : accept watched piece =
        (answer, { outlet, answers := watched.answers ++ [answer] }) := by
      simp only [accept, hanswer]
    rw [acceptAll, hstep]
    cases answer with
    | false => exact ⟨0, rfl⟩
    | true =>
      obtain ⟨count, hcount⟩ := ih { outlet, answers := watched.answers ++ [true] }
      refine ⟨count + 1, ?_⟩
      dsimp only
      rw [hcount, List.replicate_succ, List.append_assoc, List.cons_append]
      rfl

end Outlet

namespace Writing

variable {σ : Type}

/-! ### Routines and pieces -/

theorem outcome_bind (first second : Writing σ Unit) (outlet : σ) :
    outcome (first >>= fun _ => second) outlet =
      if (first.outcome outlet).1 then second.outcome (first.outcome outlet).2
      else (false, (first.outcome outlet).2) := by
  unfold outcome
  rw [EStateM.run_bind]
  cases EStateM.run first outlet <;> rfl

variable [Outlet σ]

/-- The routine writes these pieces in turn and does nothing else. -/
def Spells (routine : Writing σ Unit) (pieces : Pieces) : Prop :=
  ∀ outlet, routine.outcome outlet = Outlet.acceptAll outlet pieces

theorem spells_pure : Spells (pure () : Writing σ Unit) [] :=
  fun _ => rfl

theorem spells_put (text : String) : Spells (put text : Writing σ Unit) [text] := by
  intro outlet
  rw [Outlet.acceptAll_singleton, outcome]
  rcases h : Outlet.accept outlet text with ⟨_ | _, after⟩ <;> simp [put, EStateM.run, h]

theorem Spells.bind {first second : Writing σ Unit} {pieces rest : Pieces}
    (hfirst : Spells first pieces) (hsecond : Spells second rest) :
    Spells (first >>= fun _ => second) (pieces ++ rest) := by
  intro outlet
  rw [outcome_bind, Outlet.acceptAll_append, hfirst outlet, hsecond]

theorem spells_forM {α : Type} {body : α → Writing σ Unit} {pieces : α → Pieces}
    (h : ∀ a, Spells (body a) (pieces a)) (as : List α) :
    Spells (as.forM body) (as.flatMap pieces) := by
  induction as with
  | nil => exact spells_pure
  | cons a rest ih => exact (h a).bind ih

theorem spells_putAll (pieces : Pieces) : Spells (putAll pieces : Writing σ Unit) pieces := by
  have h := spells_forM (fun piece => spells_put (σ := σ) piece) pieces
  rw [List.flatMap_singleton'] at h
  exact h

end Writing

/-! ### Limited room -/

theorem Sink.write_of_room_some (accepted : String) (room : Nat) (cs : List Char) :
    ({ accepted, room := some room } : Sink).write cs =
      (decide (cs.length ≤ room),
        { accepted := accepted ++ String.ofList (cs.take room)
          room := some (room - cs.length) }) := by
  induction cs generalizing accepted room with
  | nil => simp [write]
  | cons c rest ih =>
    cases room with
    | zero => simp [write, put?]
    | succ room =>
      have hput : ({ accepted, room := some (room + 1) } : Sink).put? c =
          some { accepted := accepted.push c, room := some room } := rfl
      have htext : accepted.push c ++ String.ofList (rest.take room) =
          accepted ++ String.ofList ((c :: rest).take (room + 1)) := by
        apply String.toList_injective
        simp
      rw [write, hput]
      dsimp only
      rw [ih, htext, List.length_cons, Nat.add_sub_add_right]
      simp only [Nat.add_le_add_iff_right]

namespace Writing

/-- A text routine that can be run on every outlet. -/
abbrev Anywhere := (σ : Type) → [Outlet σ] → Writing σ Unit

/-- What a routine that writes a text does if it cannot write all of it. -/
structure Truncates (routine : Anywhere) (text : String) : Prop where
  /-- Where there is no limit, all of the text is accepted. -/
  unlimited : (routine Sink).outcome (.empty none) = (true, { accepted := text, room := none })
  delivered : ∀ limit, ((routine Sink).outcome (.empty (some limit))).2.accepted =
    String.ofList (text.toList.take (min limit text.length))
  succeeds_iff : ∀ limit,
    ((routine Sink).outcome (.empty (some limit))).1 = true ↔ text.length ≤ limit
  /-- With more room, what was delivered before is delivered again, and perhaps more. -/
  monotone : ∀ small large, small ≤ large →
    ((routine Sink).outcome (.empty (some small))).2.accepted.toList <+:
      ((routine Sink).outcome (.empty (some large))).2.accepted.toList
  /-- An outlet that has refused a string is not offered another one, and then the routine fails. -/
  stops : ∀ (σ : Type) [Outlet σ] (outlet : σ), ∃ count,
    let ended := (routine (Outlet.Watched σ)).outcome { outlet, answers := [] }
    ended.2.answers = List.replicate count true ++ if ended.1 then [] else [false]

/-- A routine that writes some pieces in turn truncates their text. -/
theorem truncates_of_spells {routine : Anywhere} {pieces : Pieces}
    (h : ∀ (σ : Type) [Outlet σ], Spells (routine σ) pieces) : Truncates routine pieces.text := by
  have hsink (sink : Sink) : (routine Sink).outcome sink = sink.write pieces.text.toList := by
    rw [h Sink sink, Outlet.acceptAll_sink, Sink.writeAll_eq_write]
  have hlimited (limit : Nat) : (routine Sink).outcome (.empty (some limit)) =
      (decide (pieces.text.length ≤ limit),
        { accepted := String.ofList (pieces.text.toList.take limit)
          room := some (limit - pieces.text.length) }) := by
    rw [hsink, Sink.empty, Sink.write_of_room_some, String.empty_append, String.length_toList]
  refine ⟨?_, ?_, ?_, ?_, ?_⟩
  · rw [h Sink, Outlet.acceptAll_sink, Sink.writeAll_empty_none]
  · intro limit
    have htake : pieces.text.toList.take (min limit pieces.text.length) =
        pieces.text.toList.take limit := by
      rw [← String.length_toList, ← List.take_take, List.take_length]
    rw [hlimited, htake]
  · intro limit
    rw [hlimited]
    exact decide_eq_true_iff
  · intro small large hle
    rw [hlimited, hlimited]
    dsimp only
    rw [String.toList_ofList, String.toList_ofList]
    exact List.take_prefix_take_left hle
  · intro σ _ outlet
    obtain ⟨count, hcount⟩ := Outlet.answers_acceptAll { outlet, answers := [] } pieces
    refine ⟨count, ?_⟩
    rw [h (Outlet.Watched σ)]
    exact hcount

end Writing

end HartKernel
