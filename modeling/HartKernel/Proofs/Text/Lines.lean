import HartKernel.Numeral
import HartKernel.Text
import HartKernel.Trap.Cause
import Mathlib.Data.Nat.Digits.Defs

/-!
# Texts, pieces and lines

How the text of some pieces is put together, what a sink without a limit takes of it
(`Sink.writeAll_empty_none`), and which texts are lines. A text `IsLine` if it ends with its only
line feed. Numerals and the names of causes have no line feed in them, so that a line in which they
are filled in stays one line.
-/

namespace HartKernel

namespace Pieces

theorem text_nil : Pieces.text [] = "" := rfl

theorem text_cons (piece : String) (rest : Pieces) :
    Pieces.text (piece :: rest) = piece ++ Pieces.text rest :=
  String.join_cons

theorem text_singleton (piece : String) : Pieces.text [piece] = piece := by
  rw [text_cons, text_nil, String.append_empty]

theorem text_append (first second : Pieces) :
    Pieces.text (first ++ second) = Pieces.text first ++ Pieces.text second :=
  String.join_append

theorem text_flatMap {α : Type} (pieces : α → Pieces) (as : List α) :
    Pieces.text (as.flatMap pieces) = String.join (as.map fun a => Pieces.text (pieces a)) := by
  induction as with
  | nil => rfl
  | cons a rest ih => rw [List.flatMap_cons, text_append, ih, List.map_cons, String.join_cons]

end Pieces

namespace Sink

theorem write_of_room_none (accepted : String) (cs : List Char) :
    ({ accepted, room := none } : Sink).write cs =
      (true, { accepted := accepted ++ String.ofList cs, room := none }) := by
  induction cs generalizing accepted with
  | nil => rw [write, String.ofList_nil, String.append_empty]
  | cons c rest ih =>
    have hput : ({ accepted, room := none } : Sink).put? c =
        some { accepted := accepted.push c, room := none } := rfl
    have htext : accepted.push c ++ String.ofList rest = accepted ++ String.ofList (c :: rest) := by
      apply String.toList_injective
      simp
    rw [write, hput]
    dsimp only
    rw [ih, htext]

/-- A sink without a limit takes all of a text. -/
theorem writeAll_empty_none (pieces : Pieces) :
    (empty none).writeAll pieces = (true, { accepted := pieces.text, room := none }) := by
  rw [writeAll_eq_write, empty, write_of_room_none, String.ofList_toList, String.empty_append]

end Sink

/-! ### Lines -/

/-- The text ends with a line feed and has no other. -/
def IsLine (text : String) : Prop :=
  ∃ body : String, text = body ++ "\n" ∧ '\n' ∉ body.toList

namespace Numeral

theorem digitChar_ne_newline (n : Nat) : Nat.digitChar n ≠ '\n' := by
  by_cases h : n < 16
  · exact (by decide : ∀ i : Fin 16, Nat.digitChar i ≠ '\n') ⟨n, h⟩
  · have hstar : Nat.digitChar n = '*' := by
      rw [Nat.digitChar]
      simp (disch := omega) only [if_neg]
    rw [hstar]
    decide

theorem exists_digit_of_mem_toDigits {base n : Nat} (hbase : 1 < base) {c : Char}
    (h : c ∈ Nat.toDigits base n) : ∃ d < base, c = Nat.digitChar d := by
  induction n using Nat.strongRecOn with
  | ind n ih =>
    -- The last digit comes off the end.
    rw [Nat.toDigits_eq_if hbase] at h
    split at h
    · next hlt => exact ⟨n, hlt, List.mem_singleton.mp h⟩
    · rcases List.mem_append.mp h with h | h
      · exact ih (n / base) (Nat.div_lt_self (by omega) hbase) h
      · exact ⟨n % base, Nat.mod_lt _ (by omega), List.mem_singleton.mp h⟩

@[simp] theorem newline_notMem_toDigits {base : Nat} (hbase : 1 < base) (n : Nat) :
    '\n' ∉ Nat.toDigits base n := by
  intro h
  obtain ⟨d, -, hd⟩ := exists_digit_of_mem_toDigits hbase h
  exact digitChar_ne_newline d hd.symm

theorem newline_notMem_inBase {base : Nat} (hbase : 1 < base) (n : Nat) :
    '\n' ∉ (inBase base n).toList := by
  rw [inBase, String.toList_ofList]
  exact newline_notMem_toDigits hbase n

@[simp] theorem newline_notMem_decimal (w : Word) : '\n' ∉ (decimal w).toList :=
  newline_notMem_inBase (by decide) w.toNat

@[simp] theorem newline_notMem_hex (w : Word) : '\n' ∉ (hex w).toList :=
  newline_notMem_inBase (by decide) w.toNat

end Numeral

theorem Cause.newline_notMem_name (cause : Cause) : '\n' ∉ cause.name.toList := by
  unfold name
  split
  · split <;> decide
  · split <;> decide

@[simp] theorem newline_notMem_causeName (mcause : Word) : '\n' ∉ (causeName mcause).toList :=
  (Cause.ofWord mcause).newline_notMem_name

end HartKernel
