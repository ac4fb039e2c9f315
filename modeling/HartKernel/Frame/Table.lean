import HartKernel.Frame.Image
import HartKernel.HartId
import HartKernel.KernelImage

/-!
# Kernel frames and the table of active frames

Every hart has a kernel frame of its own, so that it can take a trap before any context runs on it.
The frame table says, for each hart, at which address the frame lies that is active there; the
hardware's copy of that fact is the hart's `mscratch` register. Main statement:
`FrameTable.current?_activate`, the last frame made active on a hart is the one the table gives for
it, and no other hart is concerned.
-/

namespace HartKernel

/-- The bytes from the start of one frame to the start of the next. -/
abbrev frameStride : Word := 560

/-- The address of a hart's kernel frame. -/
def kernelFrame [KernelImage] (hart : HartId) : Word :=
  KernelImage.frames + hart.word * frameStride

/-- The hart whose kernel frame is at an address. -/
def HartId.ofKernelFrame? [KernelImage] (address : Word) : Option HartId :=
  (List.finRange 4).find? fun hart => kernelFrame hart == address

/-- The address of the active frame of each hart that has one. -/
abbrev FrameTable := Vector (Option Word) 4

namespace FrameTable

/-- The table in which no hart has an active frame. -/
def empty : FrameTable :=
  Vector.replicate 4 none

/-- The active frame of a hart. -/
def current? (table : FrameTable) (hart : HartId) : Option Word :=
  table[hart]

/-- Makes a frame the active one of a hart. -/
def activate (table : FrameTable) (hart : HartId) (frame : Word) : FrameTable :=
  table.set hart (some frame)

/-- Makes a hart's kernel frame its active one. -/
def activateKernel [KernelImage] (table : FrameTable) (hart : HartId) : FrameTable :=
  table.activate hart (kernelFrame hart)

/-- Makes a frame the active one of the hart with a raw identifier, and says which hart that is. A
hart beyond the ceiling has no slot, and nothing is changed for it. -/
def activateRaw (table : FrameTable) (raw frame : Word) : Option HartId × FrameTable :=
  match HartId.ofRaw? raw with
  | some hart => (some hart, table.activate hart frame)
  | none => (none, table)

theorem current?_activate (table : FrameTable) (hart other : HartId) (frame : Word) :
    (table.activate hart frame).current? other =
      if other = hart then some frame else table.current? other := by
  by_cases h : other = hart
  · subst h
    simp [activate, current?]
  · have hne : (hart : Nat) ≠ other := fun e => h (Fin.ext e.symm)
    simp [activate, current?, h, Vector.getElem_set_ne _ _ hne]

end FrameTable

end HartKernel
