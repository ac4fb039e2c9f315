import HartKernel.Proofs.Text.Numerals

/-!
# Forms

A form is a text with blanks, and each blank is filled in with the numeral of a word. Numerals
differ in length, and what is printed after one may depend on its word, but it never begins with a
digit. So the words can be told from the text: two ways to fill in a form that give the same text
are the same (`Blank.fill_inj`).
-/

namespace HartKernel

open Numeral

/-- The kinds of numerals that are filled in. -/
inductive Spelling where
  | decimal
  | hex
  | hex16
  deriving DecidableEq, Repr

namespace Spelling

def spell : Spelling → Word → String
  | decimal => Numeral.decimal
  | hex => Numeral.hex
  | hex16 => Numeral.hex16

theorem spell_injective (spelling : Spelling) : Function.Injective spelling.spell := by
  cases spelling with
  | decimal => exact decimal_injective
  | hex => exact hex_injective
  | hex16 => exact hex16_injective

theorem mem_digits_of_mem_spell {spelling : Spelling} {w : Word} :
    ∀ c ∈ (spelling.spell w).toList, c ∈ digits := by
  intro c hc
  cases spelling with
  | decimal => exact mem_digits_of_mem_inBase (by decide) (by decide) hc
  | hex => exact mem_digits_of_mem_inBase (by decide) (by decide) hc
  | hex16 => exact mem_digits_of_mem_hex16 hc

end Spelling

/-- A blank of a form, with the text from there to the next blank. -/
structure Blank where
  spelling : Spelling
  after : Word → String
  stops : ∀ w, Stops (after w).toList

namespace Blank

/-- A blank after which always the same text is printed. -/
def before (spelling : Spelling) (text : String) (h : Stops text.toList) : Blank :=
  { spelling, after := fun _ => text, stops := fun _ => h }

theorem stops_comma : Stops ", ".toList := by decide

/-- The blanks of a list, which has commas between its numerals. -/
def listed (spelling : Spelling) (text : String) (h : Stops text.toList) : Nat → List Blank
  | 0 => []
  | 1 => [before spelling text h]
  | n + 2 => before spelling ", " stops_comma :: listed spelling text h (n + 1)

/-- The text of a form from its first blank on. -/
def fill : List Blank → List Word → String
  | blank :: blanks, w :: words => blank.spelling.spell w ++ (blank.after w ++ fill blanks words)
  | _, _ => ""

theorem fill_listed (spelling : Spelling) (text : String) (h : Stops text.toList) (w : Word)
    (words : List Word) :
    fill (listed spelling text h (words.length + 1)) (w :: words) =
      ", ".intercalate ((w :: words).map spelling.spell) ++ text := by
  induction words generalizing w with
  | nil =>
    show spelling.spell w ++ (text ++ "") = _
    rw [String.append_empty, List.map_singleton, String.intercalate_singleton]
  | cons v words ih =>
    show spelling.spell w ++
      (", " ++ fill (listed spelling text h (words.length + 1)) (v :: words)) = _
    rw [ih]
    simp only [List.map_cons, String.intercalate_cons_cons, String.append_assoc]

/-- The words that a form has been filled in with can be read off the text. -/
theorem fill_inj {blanks : List Blank} {first second : List Word}
    (hfirst : first.length = blanks.length) (hsecond : second.length = blanks.length) :
    fill blanks first = fill blanks second ↔ first = second := by
  refine ⟨fun h => ?_, congrArg _⟩
  induction blanks generalizing first second with
  | nil => rw [List.length_eq_zero_iff.mp hfirst, List.length_eq_zero_iff.mp hsecond]
  | cons blank blanks ih =>
    obtain ⟨v, first, rfl⟩ := List.exists_cons_of_length_eq_add_one hfirst
    obtain ⟨w, second, rfl⟩ := List.exists_cons_of_length_eq_add_one hsecond
    have hlists := congrArg String.toList h
    simp only [fill, String.toList_append] at hlists
    obtain ⟨hspell, hrest⟩ := eq_of_append_eq Spelling.mem_digits_of_mem_spell
      Spelling.mem_digits_of_mem_spell ((blank.stops v).append _) ((blank.stops w).append _) hlists
    obtain rfl := blank.spelling.spell_injective (String.toList_injective hspell)
    have hfill := String.toList_injective (List.append_cancel_left hrest)
    rw [ih (Nat.succ.inj hfirst) (Nat.succ.inj hsecond) hfill]

end Blank

end HartKernel
