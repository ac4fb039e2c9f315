import HartKernel.Picture
import HartKernel.Proofs.Frame.Image
import HartKernel.Proofs.Script.LastWrite
import Mathlib.Logic.ExistsUnique

/-!
# The layout of a frame in memory

Reset code, trap vector and context switch know a frame by the offsets of its words alone. So the
image has to say all that the frame says, at these offsets and at no others.

* `FrameCell.existsUnique_offset`: the words of a frame tile its image. Each byte lies in the word
  of one cell (`FrameCell.ofIndex` finds it), and in no other.
* `wordAt_image` reads a cell off the image, `image_ofImage` and `ofImage_image` make the two
  descriptions of a frame inverse to each other.
* `getElem_image_perform`: a write through the accessors reaches the eight bytes of its own cell. By
  `Writes.read_run` a sequence of them leaves in each byte what was written there last.

`Frame.image_lays_out` is all of this for every frame, every string of bytes and every sequence.
-/

namespace HartKernel

/-! ### Cells and offsets -/

namespace FrameCell

/-- Where the word of a cell starts in the image of a frame. -/
def offset : FrameCell → Nat
  | x register => 8 * register.val
  | f register => 256 + 8 * register.val
  | satp => 512
  | pc => 520
  | scratch index => 528 + 8 * index.val
  | mode => 552

theorem index_x_lt (register : Register) : register.val < 70 := by omega

theorem index_f_lt (register : Register) : 32 + register.val < 70 := by omega

theorem index_scratch_lt (index : Fin 3) : 66 + index.val < 70 := by omega

/-- The index of a cell among the words of a frame. -/
def index : FrameCell → Fin 70
  | x register => ⟨register.val, index_x_lt register⟩
  | f register => ⟨32 + register.val, index_f_lt register⟩
  | satp => 64
  | pc => 65
  | scratch index => ⟨66 + index.val, index_scratch_lt index⟩
  | mode => 69

/-- The cell with an index. -/
def ofIndex (index : Fin 70) : FrameCell :=
  if hx : index.val < 32 then x ⟨index.val, hx⟩
  else if hf : index.val < 64 then f ⟨index.val - 32, by omega⟩
  else if index.val = 64 then satp
  else if index.val = 65 then pc
  else if hs : index.val < 69 then scratch ⟨index.val - 66, by omega⟩
  else mode

theorem offset_eq (cell : FrameCell) : cell.offset = 8 * cell.index.val := by
  cases cell with
  | x register => rfl
  | f register => rw [offset, index, Nat.mul_add]
  | scratch i => rw [offset, index, Nat.mul_add]
  | satp => rfl
  | pc => rfl
  | mode => rfl

theorem offset_add_eight_le (cell : FrameCell) : cell.offset + 8 ≤ 560 := by
  have hindex := cell.index.isLt
  rw [offset_eq]
  omega

theorem index_ofIndex (i : Fin 70) : (ofIndex i).index = i := by
  have hi := i.isLt
  apply Fin.ext
  unfold ofIndex
  split_ifs with hx hf hsatp hpc hscratch
  · rfl
  · show 32 + (i.val - 32) = i.val
    omega
  · exact hsatp.symm
  · exact hpc.symm
  · show 66 + (i.val - 66) = i.val
    omega
  · show 69 = i.val
    omega

theorem ofIndex_index (cell : FrameCell) : ofIndex cell.index = cell := by
  cases cell with
  | x register => exact dif_pos register.isLt
  | f register =>
    unfold ofIndex index
    dsimp only
    rw [dif_neg (by omega), dif_pos (by omega)]
    simp only [Nat.add_sub_cancel_left]
  | scratch i =>
    unfold ofIndex index
    dsimp only
    rw [dif_neg (by omega), dif_neg (by omega), if_neg (by omega), if_neg (by omega),
      dif_pos (by omega)]
    simp only [Nat.add_sub_cancel_left]
  | satp => rfl
  | pc => rfl
  | mode => rfl

/-- Each byte of an image lies in the word of exactly one cell. -/
theorem existsUnique_offset {i : Nat} (hi : i < 560) :
    ∃! cell : FrameCell, cell.offset ≤ i ∧ i < cell.offset + 8 := by
  have hword : i / 8 < 70 := by omega
  refine ⟨ofIndex ⟨i / 8, hword⟩, ?_, ?_⟩
  · dsimp only
    rw [offset_eq, index_ofIndex]
    dsimp only
    omega
  · rintro cell ⟨hle, hlt⟩
    rw [offset_eq] at hle hlt
    have hindex : cell.index = ⟨i / 8, hword⟩ := by
      apply Fin.ext
      dsimp only
      omega
    rw [← hindex, ofIndex_index]

end FrameCell

namespace Frame

/-! ### What an image says -/

/-- The word in a cell. -/
def content (frame : Frame) : FrameCell → Word
  | .x register => frame.regs[register]
  | .f register => frame.fregs[register]
  | .satp => frame.satp
  | .pc => frame.pc
  | .scratch index => frame.scratch[index]
  | .mode => frame.mode

theorem ext_content {first second : Frame} (h : ∀ cell, first.content cell = second.content cell) :
    first = second := by
  apply Frame.ext_cells
  intro cell
  have hword := h cell
  cases cell <;> exact congrArg CellValue.word hword

theorem getElem_words (frame : Frame) (cell : FrameCell) :
    frame.words[cell.index] = frame.content cell := by
  rw [getElem_position]
  -- The cell is in the last block that is put on, or in one of those before it.
  cases cell with
  | x register =>
    simp only [words, FrameCell.index, content]
    rw [Vector.getElem_append_left (by omega), Vector.getElem_append_left (by omega),
      Vector.getElem_append_left (by omega), Vector.getElem_append_left (by omega),
      getElem_position]
  | f register =>
    simp only [words, FrameCell.index, content]
    rw [Vector.getElem_append_left (by omega), Vector.getElem_append_left (by omega),
      Vector.getElem_append_left (by omega), Vector.getElem_append_right (by omega) (by omega),
      getElem_position]
    simp only [Nat.add_sub_cancel_left]
  | satp =>
    show frame.words[64] = frame.satp
    rw [words, Vector.getElem_append_left (by omega), Vector.getElem_append_left (by omega),
      Vector.getElem_append_right (by omega) (by omega)]
    rfl
  | pc =>
    show frame.words[65] = frame.pc
    rw [words, Vector.getElem_append_left (by omega), Vector.getElem_append_left (by omega),
      Vector.getElem_append_right (by omega) (by omega)]
    rfl
  | scratch i =>
    simp only [words, FrameCell.index, content]
    rw [Vector.getElem_append_left (by omega), Vector.getElem_append_right (by omega) (by omega),
      getElem_position]
    simp only [Nat.add_sub_cancel_left]
  | mode =>
    show frame.words[69] = frame.mode
    rw [words, Vector.getElem_append_right (by omega) (by omega)]
    rfl

/-- Byte `j` of the word of a cell lies `j` after its offset. -/
theorem getElem_image_offset (frame : Frame) (cell : FrameCell) (j : Fin 8)
    (h : cell.offset + j.val < 560) :
    frame.image[(⟨cell.offset + j.val, h⟩ : Fin 560)] = byteOf (frame.content cell) j.val := by
  have hj := j.isLt
  have hoffset := cell.offset_eq
  have hword : (⟨(cell.offset + j.val) / 8, div_eight_lt ⟨_, h⟩⟩ : Fin 70) = cell.index := by
    apply Fin.ext
    dsimp only
    omega
  have hbyte : (cell.offset + j.val) % 8 = j.val := by omega
  rw [getElem_image]
  dsimp only
  rw [hword, hbyte, getElem_words]

theorem wordAt_image (frame : Frame) (cell : FrameCell) :
    wordAt frame.image cell.offset cell.offset_add_eight_le = frame.content cell := by
  have hend := cell.offset_add_eight_le
  rw [← wordOfBytes_byteOf (frame.content cell), wordAt]
  apply congrArg wordOfBytes
  apply Vector.ext
  intro j hj
  rw [Vector.getElem_ofFn, Vector.getElem_ofFn]
  exact frame.getElem_image_offset cell ⟨j, hj⟩ (by dsimp only; omega)

theorem wordAt_congr (image : Vector Byte 560) {offset other : Nat} (h : offset = other)
    (hoffset : offset + 8 ≤ 560) (hother : other + 8 ≤ 560) :
    wordAt image offset hoffset = wordAt image other hother := by
  subst h
  rfl

theorem content_ofImage (image : Vector Byte 560) (cell : FrameCell) :
    (ofImage image).content cell = wordAt image cell.offset cell.offset_add_eight_le := by
  cases cell with
  | x register =>
    simp only [ofImage, content, getElem_position, Vector.getElem_ofFn]
    exact wordAt_congr image (Nat.zero_add _) _ _
  | f register =>
    simp only [ofImage, content, getElem_position, Vector.getElem_ofFn, FrameCell.offset]
  | scratch i =>
    simp only [ofImage, content, getElem_position, Vector.getElem_ofFn, FrameCell.offset]
  | satp => rfl
  | pc => rfl
  | mode => rfl

theorem ofImage_image (frame : Frame) : ofImage frame.image = frame := by
  apply ext_content
  intro cell
  rw [content_ofImage, wordAt_image]

theorem image_ofImage (image : Vector Byte 560) : (ofImage image).image = image := by
  apply Vector.ext
  intro i hi
  obtain ⟨cell, ⟨hle, hlt⟩, -⟩ := FrameCell.existsUnique_offset hi
  -- The byte is read into the word of its cell and written back from there.
  have hj : i - cell.offset < 8 := by omega
  have hsplit : cell.offset + (i - cell.offset) = i := by omega
  have hbound : cell.offset + (⟨i - cell.offset, hj⟩ : Fin 8).val < 560 := by
    dsimp only
    omega
  have hbyte := (ofImage image).getElem_image_offset cell ⟨i - cell.offset, hj⟩ hbound
  rw [content_ofImage, wordAt, byteOf_wordOfBytes, getElem_position, getElem_position,
    Vector.getElem_ofFn] at hbyte
  simpa only [hsplit] using hbyte

theorem image_injective : Function.Injective image :=
  Function.LeftInverse.injective ofImage_image

end Frame

/-! ### Writes through the accessors -/

/-- A write to a frame through one of its accessors. -/
inductive FrameWrite where
  | register (index : Nat) (value : Word)
  | result (value : Word)
  | privilege (mode : Privilege)
  deriving DecidableEq, Repr

namespace FrameWrite

def perform (frame : Frame) : FrameWrite → Frame
  | register index value => frame.write index value
  | result value => frame.setResult value
  | privilege mode => frame.withPrivilege mode

/-- The word that is written. -/
def value : FrameWrite → Word
  | register _ value => value
  | result value => value
  | privilege mode => mode.bits

/-- Whether a write may change the byte of the image at a position. -/
def covers : FrameWrite → Nat → Bool
  | register index _, i => 1 ≤ index ∧ index ≤ 31 ∧ 8 * index ≤ i ∧ i < 8 * index + 8
  | result _, i => 80 ≤ i ∧ i < 88
  | privilege _, i => 552 ≤ i ∧ i < 560

end FrameWrite

namespace Frame

/-- The frame after some writes. -/
def performAll (frame : Frame) (writes : List FrameWrite) : Frame :=
  writes.foldl FrameWrite.perform frame

theorem words_withPrivilege (frame : Frame) (mode : Privilege) :
    (frame.withPrivilege mode).words = frame.words.set (⟨69, by decide⟩ : Fin 70) mode.bits := by
  unfold words withPrivilege
  rw [Vector.set_append_right (by decide) (by decide)]
  rfl

theorem write_eq_setRegister (frame : Frame) {index : Nat} (value : Word) (h0 : index ≠ 0)
    (h : index < 32) : frame.write index value = frame.setRegister ⟨index, h⟩ value := by
  rw [write, dif_pos h, if_neg h0]
  rfl

theorem write_eq_self (frame : Frame) {index : Nat} (value : Word) (h : index = 0 ∨ 32 ≤ index) :
    frame.write index value = frame := by
  unfold write
  split
  · next hlt =>
    have h32 : index < 32 := hlt
    rw [if_pos (by omega)]
  · rfl

theorem getElem_image_of_covers {frame after : Frame} {write : FrameWrite} {k : Fin 70}
    {i : Fin 560} (hwords : after.words = replaceAt frame.words k write.value)
    (hcovers : write.covers i.val = true ↔ i.val / 8 = k.val) :
    after.image[i] =
      if write.covers i.val then byteOf write.value (i.val % 8) else frame.image[i] := by
  rw [getElem_image_of_words_set hwords]
  simp only [hcovers]

/-- A write reaches the bytes of one word, if it reaches any. -/
theorem getElem_image_perform (frame : Frame) (write : FrameWrite) (i : Fin 560) :
    (write.perform frame).image[i] =
      if write.covers i.val then byteOf write.value (i.val % 8) else frame.image[i] := by
  have hi := i.isLt
  cases write with
  | register index value =>
    by_cases hindex : index = 0 ∨ 32 ≤ index
    · have hcovers : (FrameWrite.register index value).covers i.val = false := by
        simp only [FrameWrite.covers, decide_eq_false_iff_not]
        omega
      rw [FrameWrite.perform, write_eq_self _ _ hindex, hcovers, if_neg (by decide)]
    · have h32 : index < 32 := by omega
      have hset : (FrameWrite.register index value).perform frame =
          frame.setRegister ⟨index, h32⟩ value := write_eq_setRegister frame value (by omega) h32
      rw [hset]
      refine getElem_image_of_covers (k := ⟨index, by omega⟩) (words_setRegister _ _ _) ?_
      simp only [FrameWrite.covers, decide_eq_true_eq]
      omega
  | result value =>
    refine getElem_image_of_covers (k := 10) (words_setRegister frame resultRegister value) ?_
    simp only [FrameWrite.covers, decide_eq_true_eq]
    omega
  | privilege mode =>
    refine getElem_image_of_covers (k := 69) (words_withPrivilege frame mode) ?_
    simp only [FrameWrite.covers, decide_eq_true_eq]
    omega

/-- The bytes of the image as places that the accessors write to. -/
def writes : Writes Frame FrameWrite (Fin 560) Byte where
  apply frame write := write.perform frame
  read frame i := frame.image[i]
  reaches write i := write.covers i.val
  value write i := byteOf write.value (i.val % 8)
  read_apply := getElem_image_perform

theorem covers_eq_false {i : Nat} (h : i < 8 ∨ 256 ≤ i ∧ i < 552) (write : FrameWrite) :
    write.covers i = false := by
  cases write <;> simp only [FrameWrite.covers, decide_eq_false_iff_not] <;> omega

/-- **The image of a frame is a faithful encoding.** Its 560 bytes are the words of the frame at
their offsets, little end first, without gap or overlap, and every string of 560 bytes is the image
of the frame that is read off it. After any sequence of writes through the accessors a byte is what
the last write that covers it has put there. No write covers the slot of register 0 or anything from
the floating-point registers to the scratch words. -/
theorem image_lays_out :
    (∀ frame : Frame, frame.image.toList.length = 560 ∧
      ∀ cell, wordAt frame.image cell.offset cell.offset_add_eight_le = frame.content cell) ∧
    (∀ i < 560, ∃! cell : FrameCell, cell.offset ≤ i ∧ i < cell.offset + 8) ∧
    (∀ first second : Frame, first.image = second.image ↔ first = second) ∧
    (∀ image : Vector Byte 560, (ofImage image).image = image ∧
      ∀ cell, (ofImage image).content cell =
        wordAt image cell.offset cell.offset_add_eight_le) ∧
    ∀ (frame : Frame) (sequence : List FrameWrite) (i : Fin 560),
      (frame.performAll sequence).image[i] =
        ((sequence.filter (·.covers i.val)).getLast?.map fun write =>
          byteOf write.value (i.val % 8)).getD frame.image[i] ∧
      ((frame.performAll sequence).image[i] ≠ frame.image[i] →
        ∃ write ∈ sequence, write.covers i.val = true) ∧
      (i.val < 8 ∨ 256 ≤ i.val ∧ i.val < 552 →
        (frame.performAll sequence).image[i] = frame.image[i]) := by
  refine ⟨?_, ?_, ?_, ?_, ?_⟩
  · intro frame
    exact ⟨Vector.length_toList, frame.wordAt_image⟩
  · intro i hi
    exact FrameCell.existsUnique_offset hi
  · intro first second
    exact image_injective.eq_iff
  · intro image
    exact ⟨image_ofImage image, content_ofImage image⟩
  · intro frame sequence i
    have hkept (h : ∀ write ∈ sequence, write.covers i.val = false) :
        (frame.performAll sequence).image[i] = frame.image[i] :=
      writes.read_run_of_unreached h frame
    refine ⟨writes.read_run frame sequence i, ?_, ?_⟩
    · intro hchanged
      by_contra hnone
      refine hchanged (hkept fun write hwrite => ?_)
      by_contra hcovers
      exact hnone ⟨write, hwrite, Bool.not_eq_false _ ▸ hcovers⟩
    · intro hrange
      exact hkept fun write _ => covers_eq_false hrange write

end Frame

end HartKernel
