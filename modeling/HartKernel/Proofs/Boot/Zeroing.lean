import HartKernel.Boot.Zero

/-!
# What zeroing a range does

The loop that zeroes memory goes from the start of the range to its stop, and never beyond the
memory. `getElem?_zeroFrom` tells every word of the memory after it, and `snd_zeroFrom` how many
words it has counted. A memory that is zeroed from its first to its last word is all zero
(`zeroRange_all`).

A loop that is left at some point and entered again there does what it does in one go
(`zeroFrom_zeroFrom`), so that neighbouring ranges may be zeroed one after the other. The number of
passes is known in advance (`exists_passes`): one for each word, and none for a range whose stop is
not after its start. `zeroRange_contract` has it all together.
-/

namespace HartKernel

variable (memory : Array Word) (cursor stop written : Nat)

theorem size_zeroFrom : (zeroFrom memory cursor stop written).1.size = memory.size := by
  fun_induction zeroFrom with
  | case1 memory cursor written _ ih => rw [ih, Array.size_setIfInBounds]
  | case2 => rfl

theorem snd_zeroFrom : (zeroFrom memory cursor stop written).2 = written + (stop - cursor) := by
  fun_induction zeroFrom with
  | case1 memory cursor written _ ih =>
    rw [ih]
    omega
  | case2 memory cursor written _ =>
    show written = written + (stop - cursor)
    omega

theorem getElem?_zeroFrom (i : Nat) (hi : i < memory.size) :
    (zeroFrom memory cursor stop written).1[i]? =
      if cursor ≤ i ∧ i < stop then some 0 else memory[i]? := by
  fun_induction zeroFrom with
  | case1 memory cursor written hlt ih =>
    rw [ih (by rwa [Array.size_setIfInBounds]), Array.getElem?_setIfInBounds]
    by_cases hcursor : cursor = i
    · -- The word at the cursor is written now and not by the rest of the loop.
      have hrest : ¬(cursor + 1 ≤ i ∧ i < stop) := by omega
      have hnow : cursor ≤ i ∧ i < stop := by omega
      rw [if_neg hrest, if_pos hcursor, if_pos hnow, if_pos (hcursor ▸ hi)]
    · have hsame : (cursor + 1 ≤ i ∧ i < stop) = (cursor ≤ i ∧ i < stop) := by
        rw [eq_iff_iff]
        omega
      simp only [hsame, if_neg hcursor]
  | case2 memory cursor written hge =>
    have hout : ¬(cursor ≤ i ∧ i < stop) := by omega
    rw [if_neg hout]

theorem zeroRange_all :
    zeroRange memory 0 memory.size = (Array.replicate memory.size 0, memory.size) := by
  refine Prod.ext ?_ ?_
  · apply Array.ext_getElem?
    intro i
    have hsize := size_zeroFrom memory 0 memory.size 0
    by_cases hi : i < memory.size
    · have hin : 0 ≤ i ∧ i < memory.size := ⟨Nat.zero_le i, hi⟩
      rw [zeroRange, getElem?_zeroFrom memory 0 memory.size 0 i hi, if_pos hin,
        Array.getElem?_replicate, if_pos hi]
    · rw [zeroRange, Array.getElem?_eq_none (by omega), Array.getElem?_replicate, if_neg hi]
  · rw [zeroRange, snd_zeroFrom]
    omega

/-! ### The passes of the loop -/

/-- The loop between two of its passes. -/
structure Zeroing where
  memory : Array Word
  cursor : Nat
  written : Nat

namespace Zeroing

/-- One pass of the loop. There is none once the cursor has reached the stop. -/
def pass? (stop : Nat) (loop : Zeroing) : Option Zeroing :=
  if loop.cursor < stop then
    some
      { memory := loop.memory.setIfInBounds loop.cursor 0
        cursor := loop.cursor + 1
        written := loop.written + 1 }
  else none

/-- The loop after some more passes, if there are as many. -/
def passes? (stop : Nat) : Nat → Zeroing → Option Zeroing
  | 0, loop => some loop
  | count + 1, loop => (loop.pass? stop).bind (passes? stop count)

/-- The loop ends, and it does so after one pass for each word that is ahead of the cursor. -/
theorem exists_passes (stop : Nat) (loop : Zeroing) :
    ∃ last, passes? stop (stop - loop.cursor) loop = some last ∧ last.pass? stop = none ∧
      zeroFrom loop.memory loop.cursor stop loop.written = (last.memory, last.written) := by
  obtain ⟨memory, cursor, written⟩ := loop
  dsimp only
  fun_induction zeroFrom memory cursor stop written with
  | case1 memory cursor written hlt ih =>
    obtain ⟨last, hpasses, hlast, hresult⟩ := ih
    have hcount : stop - cursor = (stop - (cursor + 1)) + 1 := by omega
    refine ⟨last, ?_, hlast, hresult⟩
    rw [hcount, passes?, pass?, if_pos hlt]
    exact hpasses
  | case2 memory cursor written hge =>
    have hcount : stop - cursor = 0 := by omega
    refine ⟨⟨memory, cursor, written⟩, ?_, if_neg hge, rfl⟩
    rw [hcount]
    rfl

end Zeroing

/-! ### One range after another -/

variable {memory cursor stop written}

/-- The count that the loop starts with does not decide what it writes. -/
theorem fst_zeroFrom_congr (other : Nat) :
    (zeroFrom memory cursor stop written).1 = (zeroFrom memory cursor stop other).1 := by
  fun_induction zeroFrom memory cursor stop written generalizing other with
  | case1 memory cursor written hlt ih =>
    rw [zeroFrom.eq_def memory cursor stop other, if_pos hlt]
    exact ih (other + 1)
  | case2 memory cursor written hge =>
    rw [zeroFrom.eq_def memory cursor stop other, if_neg hge]

/-- The loop may be left on its way and entered again where it was left. -/
theorem zeroFrom_zeroFrom {middle : Nat} (hmiddle : cursor ≤ middle) (hstop : middle ≤ stop) :
    zeroFrom (zeroFrom memory cursor middle written).1 middle stop
        (zeroFrom memory cursor middle written).2 =
      zeroFrom memory cursor stop written := by
  fun_induction zeroFrom memory cursor middle written with
  | case1 memory cursor written hlt ih =>
    have hahead : cursor < stop := Nat.lt_of_lt_of_le hlt hstop
    rw [ih hlt, zeroFrom.eq_def memory cursor stop written, if_pos hahead]
  | case2 memory cursor written hge =>
    obtain rfl : cursor = middle := Nat.le_antisymm hmiddle (Nat.not_lt.mp hge)
    rfl

theorem getElem?_zeroRange {start : Nat} (hstop : stop ≤ memory.size) (i : Nat) :
    (zeroRange memory start stop).1[i]? =
      if start ≤ i ∧ i < stop then some 0 else memory[i]? := by
  by_cases hi : i < memory.size
  · exact getElem?_zeroFrom memory start stop 0 i hi
  · -- Beyond the memory there is no word, neither before nor after.
    have hout : ¬(start ≤ i ∧ i < stop) := by omega
    have hsize : (zeroRange memory start stop).1.size = memory.size := size_zeroFrom ..
    rw [if_neg hout, Array.getElem?_eq_none (by omega), Array.getElem?_eq_none (by omega)]

theorem zeroRange_zeroRange {start : Nat} (hstop : stop ≤ memory.size) :
    zeroRange (zeroRange memory start stop).1 start stop = zeroRange memory start stop := by
  have hsize : (zeroRange memory start stop).1.size = memory.size := size_zeroFrom ..
  refine Prod.ext ?_ ?_
  · apply Array.ext_getElem?
    intro i
    rw [getElem?_zeroRange (hsize ▸ hstop), getElem?_zeroRange hstop]
    split <;> rfl
  · rw [zeroRange, zeroRange, snd_zeroFrom, snd_zeroFrom]

/-- **Zeroing a range.** The loop ends after one pass for each word of the range. It has counted
them, and they are zero then; every other word is what it was. Doing it again changes nothing, and
a range may be zeroed in two parts. -/
theorem zeroRange_contract (memory : Array Word) (start : Nat) {stop : Nat}
    (hstop : stop ≤ memory.size) :
    let zeroed := zeroRange memory start stop
    (∃ last : Zeroing,
      Zeroing.passes? stop (stop - start) { memory, cursor := start, written := 0 } = some last ∧
        last.pass? stop = none ∧ zeroed = (last.memory, last.written)) ∧
    (zeroed.2 : Int) = max 0 ((stop : Int) - start) ∧
    zeroed.1.size = memory.size ∧
    (∀ i, zeroed.1[i]? = if start ≤ i ∧ i < stop then some 0 else memory[i]?) ∧
    zeroRange zeroed.1 start stop = zeroed ∧
    ∀ middle, start ≤ middle → middle ≤ stop →
      let first := zeroRange memory start middle
      let second := zeroRange first.1 middle stop
      second.1 = zeroed.1 ∧ first.2 + second.2 = zeroed.2 := by
  intro zeroed
  have hcount : zeroed.2 = stop - start := by
    rw [show zeroed = zeroFrom memory start stop 0 from rfl, snd_zeroFrom, Nat.zero_add]
  refine ⟨?_, ?_, size_zeroFrom .., getElem?_zeroRange hstop, zeroRange_zeroRange hstop, ?_⟩
  · exact Zeroing.exists_passes stop { memory, cursor := start, written := 0 }
  · rw [hcount]
    omega
  · intro middle hstart hmiddle first second
    constructor
    · calc second.1 = (zeroFrom first.1 middle stop first.2).1 := fst_zeroFrom_congr first.2
        _ = zeroed.1 := by
          rw [show first = zeroFrom memory start middle 0 from rfl,
            zeroFrom_zeroFrom hstart hmiddle]
          rfl
    · have hfirst : first.2 = 0 + (middle - start) := snd_zeroFrom ..
      have hsecond : second.2 = 0 + (stop - middle) := snd_zeroFrom ..
      omega

/-- Two words in the middle of five, and then the range the other way around. -/
theorem zeroRange_contract_five :
    let memory : Array Word := #[1, 2, 3, 4, 5]
    3 ≤ memory.size ∧ 1 ≤ memory.size ∧
      (zeroRange memory 1 3).2 = 2 ∧ (zeroRange memory 1 3).1[0]? = some 1 ∧
      (zeroRange memory 1 3).1[2]? = some 0 ∧ (zeroRange memory 1 3).1[3]? = some 4 ∧
      (zeroRange memory 3 1).2 = 0 ∧ (zeroRange memory 3 1).1[2]? = some 3 := by
  intro memory
  have hstop : 3 ≤ memory.size := by decide
  have hstop' : 1 ≤ memory.size := by decide
  obtain ⟨-, hcount, -, hword, -, -⟩ := zeroRange_contract memory 1 hstop
  obtain ⟨-, hcount', -, hword', -, -⟩ := zeroRange_contract memory 3 hstop'
  exact ⟨hstop, hstop', Int.ofNat_inj.mp hcount, hword 0, hword 2, hword 3,
    Int.ofNat_inj.mp hcount', hword' 2⟩

end HartKernel
