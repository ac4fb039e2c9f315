import Mathlib.Data.List.Induction

/-!
# The last write wins

Writes are made to a state one after another, and each of them reaches some of the places that the
state is read at. `Writes` asks one thing of a single write: a place that it reaches shows what was
written there, and every other place shows what it showed before. A whole sequence of writes is then
told without the states in between: a place shows what the last write that reached it has written
there, and what it showed in the beginning if there is none (`read_run`). So two neighbours that
reach no place in common may be exchanged (`read_run_swap`).
-/

namespace HartKernel

/-- Writes `ω` to states `σ`, which show values `α` at places `κ`. -/
structure Writes (σ ω κ α : Type) where
  apply : σ → ω → σ
  read : σ → κ → α
  reaches : ω → κ → Bool
  /-- What a write puts at a place that it reaches. -/
  value : ω → κ → α
  read_apply : ∀ state write place,
    read (apply state write) place =
      if reaches write place then value write place else read state place

namespace Writes

variable {σ ω κ α : Type} (W : Writes σ ω κ α)

/-- The state after some writes. -/
def run (state : σ) (writes : List ω) : σ :=
  writes.foldl W.apply state

/-- The last of some writes that reaches a place. -/
def last? (writes : List ω) (place : κ) : Option ω :=
  (writes.filter (W.reaches · place)).getLast?

theorem run_append (state : σ) (first second : List ω) :
    W.run state (first ++ second) = W.run (W.run state first) second :=
  List.foldl_append

theorem last?_append_singleton (writes : List ω) (write : ω) (place : κ) :
    W.last? (writes ++ [write]) place =
      if W.reaches write place then some write else W.last? writes place := by
  unfold last?
  cases h : W.reaches write place <;> simp [List.filter_append, h]

/-- A place shows what the last write that reached it has put there. -/
theorem read_run (state : σ) (writes : List ω) (place : κ) :
    W.read (W.run state writes) place =
      ((W.last? writes place).map (W.value · place)).getD (W.read state place) := by
  induction writes using List.reverseRecOn with
  | nil => rfl
  | append_singleton writes write ih =>
    have hlast : W.run state (writes ++ [write]) = W.apply (W.run state writes) write := by
      rw [run_append]
      rfl
    rw [hlast, W.read_apply, last?_append_singleton, ih]
    split <;> rfl

theorem last?_eq_none {writes : List ω} {place : κ}
    (h : ∀ write ∈ writes, W.reaches write place = false) : W.last? writes place = none := by
  have hnone : writes.filter (W.reaches · place) = [] :=
    List.filter_eq_nil_iff.mpr fun write hwrite => by simp [h write hwrite]
  rw [last?, hnone]
  rfl

theorem read_run_of_unreached {writes : List ω} {place : κ}
    (h : ∀ write ∈ writes, W.reaches write place = false) (state : σ) :
    W.read (W.run state writes) place = W.read state place := by
  rw [read_run, W.last?_eq_none h]
  rfl

/-- Two neighbours that do not both reach a place may be exchanged as far as that place goes. -/
theorem last?_swap {first second : ω} {place : κ}
    (h : ¬(W.reaches first place = true ∧ W.reaches second place = true)) (before after : List ω) :
    W.last? (before ++ first :: second :: after) place =
      W.last? (before ++ second :: first :: after) place := by
  unfold last?
  cases hfirst : W.reaches first place with
  | false => simp [List.filter_append, List.filter_cons, hfirst]
  | true =>
    have hsecond : W.reaches second place = false := by
      cases hs : W.reaches second place with
      | false => rfl
      | true => exact absurd ⟨hfirst, hs⟩ h
    simp [List.filter_append, hfirst, hsecond]

theorem read_run_swap {first second : ω} {place : κ}
    (h : ¬(W.reaches first place = true ∧ W.reaches second place = true)) (state : σ)
    (before after : List ω) :
    W.read (W.run state (before ++ first :: second :: after)) place =
      W.read (W.run state (before ++ second :: first :: after)) place := by
  rw [read_run, read_run, W.last?_swap h]

end Writes

end HartKernel
