import HartKernel.Frame.Basic

/-!
# Raw writes to a frame

A patch names the words of a frame to overwrite. It writes slots as they are, slot 0 included, and
leaves what it does not name.
-/

namespace HartKernel

/-- Overwrites the named positions, a later write to a position winning over an earlier one. -/
def patchVector {n : Nat} (file : Vector Word n) (writes : List (Fin n × Word)) : Vector Word n :=
  writes.foldl (fun file write => file.set write.1 write.2) file

namespace Frame

/-- Words of a frame to overwrite. -/
structure Patch where
  regs : List (Register × Word) := []
  fregs : List (Register × Word) := []
  scratch : List (Fin 3 × Word) := []
  satp : Option Word := none
  pc : Option Word := none
  mode : Option Word := none
  deriving Repr

/-- Writes the words that a patch names. -/
def patch (frame : Frame) (writes : Patch) : Frame :=
  { regs := patchVector frame.regs writes.regs
    fregs := patchVector frame.fregs writes.fregs
    scratch := patchVector frame.scratch writes.scratch
    satp := writes.satp.getD frame.satp
    pc := writes.pc.getD frame.pc
    mode := writes.mode.getD frame.mode }

end Frame

end HartKernel
