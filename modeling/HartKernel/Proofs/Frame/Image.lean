import HartKernel.Frame.Image

/-!
# The memory image of a frame, byte by byte

A word and its eight bytes are the same information (`wordOfBytes_byteOf`, `byteOf_wordOfBytes`).
Byte `i` of the image is byte `i % 8` of word `i / 8` (`getElem_image`), and register `r` is word
`r` (`words_setRegister`). So a new value in a register shows in eight bytes of the image and in no
other (`getElem_image_setRegister`).
-/

namespace HartKernel

/-! ### Words and their bytes -/

theorem byteOf_zero (j : Nat) : byteOf 0 j = 0 := by
  simp [byteOf]

theorem getLsbD_byteOf (w : Word) (j : Nat) {k : Nat} (hk : k < 8) :
    (byteOf w j).getLsbD k = w.getLsbD (8 * j + k) := by
  rw [byteOf, BitVec.getLsbD_extractLsb', decide_eq_true hk, Bool.true_and]

theorem getLsbD_wordOfBytes (bytes : Vector Byte 8) (j : Fin 8) {k : Nat} (hk : k < 8) :
    (wordOfBytes bytes).getLsbD (8 * j.val + k) = bytes[j].getLsbD k := by
  obtain ⟨j, hj⟩ := j
  have hcases : j = 0 ∨ j = 1 ∨ j = 2 ∨ j = 3 ∨ j = 4 ∨ j = 5 ∨ j = 6 ∨ j = 7 := by omega
  simp only [wordOfBytes, BitVec.getLsbD_append]
  rcases hcases with h | h | h | h | h | h | h | h <;> subst h <;>
    simp (disch := omega) only [if_pos, if_neg] <;> simp only [getElem_position] <;> congr 1 <;>
    omega

theorem byteOf_wordOfBytes (bytes : Vector Byte 8) (j : Fin 8) :
    byteOf (wordOfBytes bytes) j.val = bytes[j] := by
  apply BitVec.eq_of_getLsbD_eq
  intro k hk
  rw [getLsbD_byteOf _ _ hk, getLsbD_wordOfBytes _ _ hk]

theorem wordOfBytes_byteOf (w : Word) :
    wordOfBytes (Vector.ofFn fun j : Fin 8 => byteOf w j.val) = w := by
  apply BitVec.eq_of_getLsbD_eq
  intro i hi
  have hbyte : i / 8 < 8 := by omega
  have hbit : i % 8 < 8 := Nat.mod_lt _ (by decide)
  have hsplit : i = 8 * (⟨i / 8, hbyte⟩ : Fin 8).val + i % 8 := (Nat.div_add_mod i 8).symm
  rw [hsplit, getLsbD_wordOfBytes _ _ hbit, getElem_position, Vector.getElem_ofFn,
    getLsbD_byteOf _ _ hbit]

namespace Frame

/-- The frame with another word in the slot of a register, which may be register 0. -/
def setRegister (frame : Frame) (r : Register) (value : Word) : Frame :=
  { frame with regs := frame.regs.set r value }

theorem div_eight_lt (i : Fin 560) : i.val / 8 < 70 := by omega

theorem getElem_image (frame : Frame) (i : Fin 560) :
    frame.image[i] = byteOf frame.words[(⟨i.val / 8, div_eight_lt i⟩ : Fin 70)] (i.val % 8) := by
  rw [image, getElem_position, Vector.getElem_ofFn, getElem_position]

/-- A change in one word shows in its eight bytes. -/
theorem getElem_image_of_words_set {frame after : Frame} {k : Fin 70} {value : Word}
    (h : after.words = frame.words.set k value) (i : Fin 560) :
    after.image[i] = if i.val / 8 = k.val then byteOf value (i.val % 8) else frame.image[i] := by
  rw [getElem_image, getElem_image]
  simp only [h, getElem_position, Vector.getElem_set]
  by_cases hk : i.val / 8 = k.val
  · rw [if_pos hk.symm, if_pos hk]
  · rw [if_neg (Ne.symm hk), if_neg hk]

theorem words_setRegister (frame : Frame) (r : Register) (value : Word) :
    (frame.setRegister r value).words = frame.words.set r value := by
  have hr := r.isLt
  unfold words setRegister
  rw [Vector.set_append_left (by omega), Vector.set_append_left (by omega),
    Vector.set_append_left (by omega), Vector.set_append_left hr]

theorem getElem_image_setRegister (frame : Frame) (r : Register) (value : Word) (i : Fin 560) :
    (frame.setRegister r value).image[i] =
      if i.val / 8 = r.val then byteOf value (i.val % 8) else frame.image[i] := by
  have hr : r.val < 70 := by omega
  have hwords : (frame.setRegister r value).words = frame.words.set (⟨r.val, hr⟩ : Fin 70) value :=
    words_setRegister frame r value
  exact getElem_image_of_words_set hwords i

end Frame

end HartKernel
