import HartKernel.Proofs.Text.Lines
import Mathlib.Data.List.OfFn

/-!
# Reading numerals back

A numeral says which word it is a numeral of (`decimal_injective`, `hex_injective`,
`hex16_injective`), and it is made of hexadecimal digits. So a numeral of any length ends where the
digits end (`eq_of_append_eq`), and what comes after it needs no other mark than to begin with
something else.
-/

namespace HartKernel.Numeral

/-! ### Digits -/

/-- The digits of hexadecimal numerals, and so of all numerals. -/
def digits : List Char :=
  "0123456789abcdef".toList

theorem digitChar_mem_digits {n : Nat} (h : n < 16) : Nat.digitChar n ∈ digits :=
  (by decide : ∀ i : Fin 16, Nat.digitChar i ∈ digits) ⟨n, h⟩

theorem digitChar_inj {m n : Nat} (hm : m < 16) (hn : n < 16)
    (h : Nat.digitChar m = Nat.digitChar n) : m = n := by
  have hdigits : ∀ i j : Fin 16, Nat.digitChar i = Nat.digitChar j → i = j := by decide
  exact congrArg Fin.val (hdigits ⟨m, hm⟩ ⟨n, hn⟩ h)

/-! ### Numerals without leading zeros -/

section InBase

variable {base : Nat} (hbase : 1 < base) (hle : base ≤ 16)

include hbase hle

theorem mem_digits_of_mem_inBase {n : Nat} {c : Char} (h : c ∈ (inBase base n).toList) :
    c ∈ digits := by
  rw [inBase, String.toList_ofList] at h
  obtain ⟨d, hd, rfl⟩ := exists_digit_of_mem_toDigits hbase h
  exact digitChar_mem_digits (by omega)

theorem toDigits_injective : Function.Injective (Nat.toDigits base) := by
  intro m
  induction m using Nat.strongRecOn with
  | ind m ih =>
    intro n h
    have hpos : 0 < base := by omega
    have hlong (k : Nat) (d : Char) : (Nat.toDigits base k ++ [d]).length ≠ 1 := by
      have := Nat.length_toDigits_pos (b := base) (n := k)
      rw [List.length_append, List.length_singleton]
      omega
    have hunfold (k : Nat) := Nat.toDigits_eq_if (n := k) hbase
    rw [hunfold m, hunfold n] at h
    -- Either both numerals have one digit, or both lose their last one.
    split at h
    · next hm =>
      split at h
      · next hn => exact digitChar_inj (by omega) (by omega) (List.singleton_inj.mp h)
      · exact absurd (congrArg List.length h).symm (hlong _ _)
    · next hm =>
      split at h
      · exact absurd (congrArg List.length h) (hlong _ _)
      · obtain ⟨hfront, hlast⟩ := List.append_inj' h rfl
        have hdiv : m / base = n / base := ih (m / base) (Nat.div_lt_self (by omega) hbase) hfront
        have hmod : m % base = n % base := by
          have hm := Nat.mod_lt m hpos
          have hn := Nat.mod_lt n hpos
          exact digitChar_inj (by omega) (by omega) (List.singleton_inj.mp hlast)
        rw [← Nat.div_add_mod m base, ← Nat.div_add_mod n base, hdiv, hmod]

theorem inBase_injective : Function.Injective (inBase base) := by
  intro m n h
  exact toDigits_injective hbase hle (String.ofList_injective h)

end InBase

theorem decimal_injective : Function.Injective decimal := fun _ _ h =>
  BitVec.eq_of_toNat_eq (inBase_injective (by decide) (by decide) h)

theorem hex_injective : Function.Injective hex := fun _ _ h =>
  BitVec.eq_of_toNat_eq (inBase_injective (by decide) (by decide) h)

/-! ### Numerals of sixteen digits -/

theorem mem_digits_of_mem_hex16 {w : Word} {c : Char} (h : c ∈ (hex16 w).toList) : c ∈ digits := by
  rw [hex16, hexPadded, String.toList_ofList] at h
  obtain ⟨i, rfl⟩ := List.mem_ofFn.mp h
  exact digitChar_mem_digits (Nat.mod_lt _ (by decide))

theorem hex16_injective : Function.Injective hex16 := by
  intro v w h
  have hdigit (i : Fin 16) : hexDigit v.toNat (15 - i.val) = hexDigit w.toNat (15 - i.val) :=
    congrFun (List.ofFn_inj.mp (String.ofList_injective h)) i
  apply BitVec.eq_of_getLsbD_eq
  intro i hi
  -- Bit `i` is a bit of the digit that stands `i / 4` places from the right.
  have hplace : 15 - (15 - i / 4) = i / 4 := by omega
  have hindex : 15 - i / 4 < 16 := by omega
  have hnibble : (v.toNat >>> (4 * (i / 4))) % 16 = (w.toNat >>> (4 * (i / 4))) % 16 := by
    have h := hdigit ⟨15 - i / 4, hindex⟩
    rw [hplace] at h
    exact digitChar_inj (Nat.mod_lt _ (by decide)) (Nat.mod_lt _ (by decide)) h
  have hbit (u : Word) : u.getLsbD i = ((u.toNat >>> (4 * (i / 4))) % 16).testBit (i % 4) := by
    have hmod : i % 4 < 4 := Nat.mod_lt _ (by decide)
    have hsplit : 4 * (i / 4) + i % 4 = i := Nat.div_add_mod i 4
    have hpow : 16 = 2 ^ 4 := rfl
    rw [hpow, Nat.testBit_mod_two_pow, decide_eq_true hmod, Bool.true_and, Nat.testBit_shiftRight,
      hsplit, BitVec.testBit_toNat]
  rw [hbit, hbit, hnibble]

/-! ### Where a numeral ends -/

/-- A text that begins, and with something else than a digit. -/
def Stops (text : List Char) : Prop :=
  ∃ c ∈ text.head?, c ∉ digits

instance decidableStops : (text : List Char) → Decidable (Stops text)
  | [] => isFalse (by simp [Stops])
  | c :: _ => decidable_of_iff (c ∉ digits) (by simp [Stops])

theorem Stops.append {text : List Char} (h : Stops text) (more : List Char) :
    Stops (text ++ more) := by
  obtain ⟨c, hhead, hc⟩ := h
  obtain ⟨rest, rfl⟩ := List.head?_eq_some_iff.mp hhead
  exact ⟨c, rfl, hc⟩

theorem takeWhile_digits {numeral rest : List Char} (hnumeral : ∀ c ∈ numeral, c ∈ digits)
    (hrest : Stops rest) : (numeral ++ rest).takeWhile (· ∈ digits) = numeral := by
  obtain ⟨c, hhead, hc⟩ := hrest
  obtain ⟨rest, rfl⟩ := List.head?_eq_some_iff.mp hhead
  rw [List.takeWhile_append_of_pos (by simpa using hnumeral),
    List.takeWhile_cons_of_neg (by simpa using hc), List.append_nil]

/-- A numeral ends where the digits end. -/
theorem eq_of_append_eq {first second rest other : List Char} (hfirst : ∀ c ∈ first, c ∈ digits)
    (hsecond : ∀ c ∈ second, c ∈ digits) (hrest : Stops rest) (hother : Stops other)
    (h : first ++ rest = second ++ other) : first = second ∧ rest = other := by
  have hnumeral : first = second := by
    rw [← takeWhile_digits hfirst hrest, h, takeWhile_digits hsecond hother]
  subst hnumeral
  exact ⟨rfl, List.append_cancel_left h⟩

end HartKernel.Numeral
