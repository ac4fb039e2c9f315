import HartKernel.Frame.Memory
import HartKernel.Hart.Patch

/-!
# Pictures of harts and frames

A picture is made of named cells, one for each word (or mode) of a hart or a frame. What a command
did is told as the cells whose values differ, with their new values. Main statements:
`Hart.ext_cells` and `Frame.ext_cells`, a picture shows everything but the two notes of a hart:
equal cells mean equal registers, control registers, mode and address.
-/

namespace HartKernel

/-- What a cell shows. -/
inductive CellValue where
  | word (value : Word)
  | mode (value : Privilege)
  deriving DecidableEq, Repr

/-- A cell of a hart. -/
inductive HartCell where
  | x (register : Register)
  | f (register : Register)
  | csr (name : ControlRegister)
  | pc
  | mode
  deriving DecidableEq, Repr

/-- A cell of a frame. -/
inductive FrameCell where
  | x (register : Register)
  | f (register : Register)
  | scratch (index : Fin 3)
  | satp
  | pc
  | mode
  deriving DecidableEq, Repr

namespace HartCell

/-- All cells of a hart. -/
def all : List HartCell :=
  (List.finRange 32).map x ++ (List.finRange 32).map f ++ ControlRegister.all.map csr ++ [pc, mode]

/-- The printed name of a cell. -/
def text : HartCell → String
  | x register => "x" ++ register.val.repr
  | f register => "f" ++ register.val.repr
  | csr name => name.text
  | pc => "pc"
  | mode => "mode"

end HartCell

namespace FrameCell

/-- All cells of a frame. -/
def all : List FrameCell :=
  (List.finRange 32).map x ++ (List.finRange 32).map f ++ (List.finRange 3).map scratch ++
    [satp, pc, mode]

/-- The printed name of a cell. -/
def text : FrameCell → String
  | x register => "x" ++ register.val.repr
  | f register => "f" ++ register.val.repr
  | scratch index => "scratch" ++ index.val.repr
  | satp => "satp"
  | pc => "pc"
  | mode => "mode"

end FrameCell

/-- What a cell of a hart shows. The slot of register 0 is shown as it is. -/
def Hart.cell (hart : Hart) : HartCell → CellValue
  | .x register => .word hart.x[register]
  | .f register => .word hart.f[register]
  | .csr name => .word (hart.csr.read name)
  | .pc => .word hart.pc
  | .mode => .mode hart.mode

/-- What a cell of a frame shows. -/
def Frame.cell (frame : Frame) : FrameCell → CellValue
  | .x register => .word frame.regs[register]
  | .f register => .word frame.fregs[register]
  | .scratch index => .word frame.scratch[index]
  | .satp => .word frame.satp
  | .pc => .word frame.pc
  | .mode => .word frame.mode

/-- A named cell with the value that it shows. -/
abbrev NamedCell := String × CellValue

/-- The cells of a hart that changed, under the hart's position. -/
def Hart.changes (before after : Hart) (position : Nat) : List NamedCell :=
  HartCell.all.filterMap fun cell =>
    if before.cell cell = after.cell cell then none
    else some ("h" ++ position.repr ++ "." ++ cell.text, after.cell cell)

/-- The cells of a frame that changed, under the frame's position. -/
def Frame.changes (before after : Frame) (position : Nat) : List NamedCell :=
  FrameCell.all.filterMap fun cell =>
    if before.cell cell = after.cell cell then none
    else some ("t" ++ position.repr ++ "." ++ cell.text, after.cell cell)

/-- The cells that changed on the harts that are still shown. -/
def hartChanges {n : Nat} (before after : Vector Hart n) (isShown : Fin n → Bool) :
    List NamedCell :=
  (List.finRange n).flatMap fun i => if isShown i then Hart.changes before[i] after[i] i.val else []

/-- The cells that changed in the frames of the first `count` contexts. -/
def FrameMemory.changes (before after : FrameMemory) (count : Nat) : List NamedCell :=
  (List.finRange 8).flatMap fun i =>
    if i.val < count then
      Frame.changes (before.get (before.address i)) (after.get (after.address i)) i.val
    else []

/-- Two harts that show the same differ in their notes at most. -/
theorem Hart.ext_cells {a b : Hart} (h : ∀ cell, a.cell cell = b.cell cell) :
    a = { b with lastStatusWrite := a.lastStatusWrite, handlerStack := a.handlerStack } := by
  have hx : a.x = b.x := by
    apply Vector.ext
    intro i hi
    have := h (.x ⟨i, hi⟩)
    simpa [cell] using this
  have hf : a.f = b.f := by
    apply Vector.ext
    intro i hi
    have := h (.f ⟨i, hi⟩)
    simpa [cell] using this
  have hcsr : a.csr = b.csr := by
    have hread : ∀ name, a.csr.read name = b.csr.read name := fun name => by
      simpa [cell] using h (.csr name)
    cases ha : a.csr
    cases hb : b.csr
    simp only [ha, hb] at hread
    simp only [ControlRegisters.mk.injEq]
    exact ⟨hread .mstatus, hread .mepc, hread .mcause, hread .mtval, hread .mscratch,
      hread .mtvec, hread .mie, hread .satp, hread .mhartid, hread .pmpaddr0, hread .pmpcfg0⟩
  have hpc : a.pc = b.pc := by simpa [cell] using h .pc
  have hmode : a.mode = b.mode := by simpa [cell] using h .mode
  cases a
  cases b
  simp_all

/-- Two frames that show the same are the same. -/
theorem Frame.ext_cells {a b : Frame} (h : ∀ cell, a.cell cell = b.cell cell) : a = b := by
  have hregs : a.regs = b.regs := by
    apply Vector.ext
    intro i hi
    have := h (.x ⟨i, hi⟩)
    simpa [cell] using this
  have hfregs : a.fregs = b.fregs := by
    apply Vector.ext
    intro i hi
    have := h (.f ⟨i, hi⟩)
    simpa [cell] using this
  have hscratch : a.scratch = b.scratch := by
    apply Vector.ext
    intro i hi
    have := h (.scratch ⟨i, hi⟩)
    simpa [cell] using this
  have hsatp : a.satp = b.satp := by simpa [cell] using h .satp
  have hpc : a.pc = b.pc := by simpa [cell] using h .pc
  have hmode : a.mode = b.mode := by simpa [cell] using h .mode
  cases a
  cases b
  simp_all

end HartKernel
