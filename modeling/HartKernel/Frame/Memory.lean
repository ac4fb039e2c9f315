import HartKernel.Frame.Table

/-!
# Frames in memory

There is a frame at every address. Those of eight contexts lie one after another from a base on and
are known by their positions, those of the harts are where the linker has placed them. A hart finds
its frame by an address.

A memory for tests may hold nothing but the frames of the contexts. There an address that is none of
theirs is taken to mean the frame of the first context. Main statement:
`FrameMemory.designated_address`, the address of a context's frame means itself in either case.
-/

namespace HartKernel

/-- The position of the frame of a context. -/
abbrev FramePosition := Fin 8

/-- Frames in memory. -/
structure FrameMemory where
  /-- The address of the frame of the first context. -/
  base : Word
  /-- The frame at an address; frames that are used do not overlap. -/
  get : Word → Frame
  /-- Whether other frames can be used than those of the contexts. -/
  whole : Bool

namespace FrameMemory

/-- The memory in which all words of all frames are zero, with the frames of contexts from an
address on. -/
def zeroed (base : Word) : FrameMemory :=
  { base, get := fun _ => .zeroed, whole := true }

/-- The memory with nothing but the frames of the contexts. -/
def contextsOnly (memory : FrameMemory) : FrameMemory :=
  { memory with whole := false }

/-- Replaces the frame at an address. -/
def set (memory : FrameMemory) (address : Word) (frame : Frame) : FrameMemory :=
  { memory with get := fun other => if other = address then frame else memory.get other }

/-- The address of the frame of a context. -/
def address (memory : FrameMemory) (position : FramePosition) : Word :=
  memory.base + BitVec.ofNat 64 position.val * frameStride

/-- The context in whose frame an address lies, and the first one for all other addresses. -/
def positionAt (memory : FrameMemory) (address : Word) : FramePosition :=
  let distance := (address - memory.base).toNat / 560
  if h : distance < 8 then ⟨distance, h⟩ else 0

/-- The address of the frame that an address is taken to mean. -/
def designated (memory : FrameMemory) (address : Word) : Word :=
  if memory.whole then address else memory.address (memory.positionAt address)

/-- The printed name of the frame at an address, that of a hart or else that of a context. -/
def frameName [KernelImage] (memory : FrameMemory) (address : Word) : String :=
  match HartId.ofKernelFrame? address with
  | some hart => "kernel" ++ hart.val.repr
  | none => "frame" ++ (memory.positionAt address).val.repr

/-- The active frames of the four harts under their printed names. -/
def activeNames [KernelImage] (memory : FrameMemory) (table : FrameTable) : List (Option String) :=
  (List.finRange 4).map fun hart => (table.current? hart).map memory.frameName

theorem designated_of_whole {memory : FrameMemory} (h : memory.whole = true) (address : Word) :
    memory.designated address = address :=
  if_pos h

theorem positionAt_address (memory : FrameMemory) (position : FramePosition) :
    memory.positionAt (memory.address position) = position := by
  have hdistance : memory.address position - memory.base =
      BitVec.ofNat 64 position.val * frameStride := by
    rw [address, BitVec.add_comm, BitVec.add_sub_cancel]
  have hstep : ∀ p : FramePosition,
      (BitVec.ofNat 64 p.val * frameStride).toNat / 560 = p.val := by decide
  simp only [positionAt, hdistance, hstep, position.isLt, dite_true, Fin.eta]

theorem designated_address (memory : FrameMemory) (position : FramePosition) :
    memory.designated (memory.address position) = memory.address position := by
  rw [designated, positionAt_address]
  exact ite_self _

end FrameMemory

end HartKernel
