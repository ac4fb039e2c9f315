import HartKernel.Frame.Basic
import HartKernel.Numeral

/-!
# The memory image of a frame

A frame occupies 560 bytes: seventy little-endian words without gaps, in the order integer
registers, floating-point registers, `satp`, resume address, scratch words, mode. Reset code, trap
vector and context switch address frames by these offsets.
-/

namespace HartKernel

/-- A byte of memory. -/
abbrev Byte := BitVec 8

/-- Byte `j` of a word, counted from the least significant one. -/
def byteOf (w : Word) (j : Nat) : Byte :=
  w.extractLsb' (8 * j) 8

/-- The word whose bytes are given, least significant byte first. -/
def wordOfBytes (bytes : Vector Byte 8) : Word :=
  bytes[7] ++ bytes[6] ++ bytes[5] ++ bytes[4] ++ bytes[3] ++ bytes[2] ++ bytes[1] ++ bytes[0]

namespace Frame

/-- The number of bytes of a frame. -/
abbrev size : Nat := 560

/-- The offset of the integer registers. -/
abbrev regsOffset : Nat := 0

/-- The offset of the floating-point registers. -/
abbrev fregsOffset : Nat := 256

/-- The offset of `satp`. -/
abbrev satpOffset : Nat := 512

/-- The offset of the resume address. -/
abbrev pcOffset : Nat := 520

/-- The offset of the scratch words. -/
abbrev scratchOffset : Nat := 528

/-- The offset of the mode. -/
abbrev modeOffset : Nat := 552

/-- The words of a frame in memory order. -/
def words (frame : Frame) : Vector Word 70 :=
  frame.regs ++ frame.fregs ++ #v[frame.satp, frame.pc] ++ frame.scratch ++ #v[frame.mode]

/-- The memory image of a frame. -/
def image (frame : Frame) : Vector Byte 560 :=
  Vector.ofFn fun i => byteOf frame.words[i.val / 8] (i.val % 8)

/-- The word at a byte offset of an image. -/
def wordAt (image : Vector Byte 560) (offset : Nat) (h : offset + 8 ≤ 560) : Word :=
  wordOfBytes (Vector.ofFn fun j => image[offset + j.val])

/-- The frame that a memory image holds. -/
def ofImage (image : Vector Byte 560) : Frame :=
  { regs := Vector.ofFn fun i =>
      wordAt image (regsOffset + 8 * i.val) (by unfold regsOffset; omega)
    fregs := Vector.ofFn fun i =>
      wordAt image (fregsOffset + 8 * i.val) (by unfold fregsOffset; omega)
    satp := wordAt image satpOffset (by decide)
    pc := wordAt image pcOffset (by decide)
    scratch := Vector.ofFn fun i =>
      wordAt image (scratchOffset + 8 * i.val) (by unfold scratchOffset; omega)
    mode := wordAt image modeOffset (by decide) }

/-- The memory image in hexadecimal, two digits a byte. -/
def imageText (frame : Frame) : String :=
  String.join (frame.image.toList.map Numeral.hexByte)

end Frame

end HartKernel
