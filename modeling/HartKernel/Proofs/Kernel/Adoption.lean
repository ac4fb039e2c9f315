import HartKernel.Proofs.Kernel.Invariants
import HartKernel.Proofs.Script.LastWrite

/-!
# The table of active frames as a map

A frame is made the active one of a hart in four ways: it is recorded, it is adopted, which is
logged, it is adopted for a raw identifier, or it is the kernel frame of the hart. Each of them
writes at most one slot of the table (`Adoption.current?_perform`), and so a whole sequence of them
leaves in each slot what was written there last.

A raw identifier has 64 bits and is compared with the ceiling as it stands. One that is beyond it
has no slot, also where its lowest bits are the index of a hart.

`World.frame_table_last_writer` is what the table shows after any sequence.
-/

namespace HartKernel

namespace World

theorem adoptRaw_of_lt {raw : Word} {hart : HartId} (h : raw.toNat = hart.val) (world : World)
    (frame : Word) : world.adoptRaw raw frame = (some hart, world.adopt hart frame) := by
  rw [adoptRaw, HartId.ofRaw?_eq_some_iff.mpr h]

theorem adoptRaw_of_beyond {raw : Word} (h : maxHarts ≤ raw.toNat) (world : World) (frame : Word) :
    world.adoptRaw raw frame = (none, world) := by
  rw [adoptRaw, HartId.ofRaw?_eq_none_iff.mpr h]

/-- To adopt a frame is to record it, apart from the log line. -/
theorem frameTable_adopt (world : World) (hart : HartId) (frame : Word) :
    (world.adopt hart frame).frameTable = world.frameTable.activate hart frame :=
  frameTable_log ..

/-- An adoption does to the table what `FrameTable.activateRaw` does, and answers the same. -/
theorem adoptRaw_frameTable (world : World) (raw frame : Word) :
    ((world.adoptRaw raw frame).1, (world.adoptRaw raw frame).2.frameTable) =
      world.frameTable.activateRaw raw frame := by
  unfold adoptRaw FrameTable.activateRaw
  cases HartId.ofRaw? raw with
  | none => rfl
  | some hart => exact congrArg (Prod.mk (some hart)) (world.frameTable_adopt hart frame)

end World

/-- A way to make a frame the active one of a hart. -/
inductive Adoption where
  | activate (hart : HartId) (frame : Word)
  | adopt (hart : HartId) (frame : Word)
  | adoptRaw (raw frame : Word)
  | activateKernel (hart : HartId)
  deriving DecidableEq, Repr

namespace Adoption

section KernelImage

variable [KernelImage]

def perform (world : World) : Adoption → World
  | activate hart frame => world.activateFrame hart frame
  | adopt hart frame => world.adopt hart frame
  | adoptRaw raw frame => (world.adoptRaw raw frame).2
  | activateKernel hart => world.activateKernelFrame hart

/-- The index of the hart that an adoption is addressed to, which may be beyond the ceiling. -/
def target : Adoption → Nat
  | activate hart _ => hart.val
  | adopt hart _ => hart.val
  | adoptRaw raw _ => raw.toNat
  | activateKernel hart => hart.val

def frame : Adoption → Word
  | activate _ frame => frame
  | adopt _ frame => frame
  | adoptRaw _ frame => frame
  | activateKernel hart => kernelFrame hart

/-- One adoption writes the slot of the hart that it is addressed to, if there is such a hart, and
no other slot. -/
theorem current?_perform (world : World) (adoption : Adoption) (hart : HartId) :
    (adoption.perform world).frameTable.current? hart =
      if adoption.target = hart.val then some adoption.frame
      else world.frameTable.current? hart := by
  have hslot (id : HartId) (frame : Word) :
      (world.frameTable.activate id frame).current? hart =
        if id.val = hart.val then some frame else world.frameTable.current? hart := by
    rw [FrameTable.current?_activate]
    simp only [Fin.ext_iff, eq_comm]
  cases adoption with
  | activate id frame => exact hslot id frame
  | adopt id frame =>
    show (world.adopt id frame).frameTable.current? hart = _
    rw [World.frameTable_adopt]
    exact hslot id frame
  | activateKernel id => exact hslot id (kernelFrame id)
  | adoptRaw raw frame =>
    show (world.adoptRaw raw frame).2.frameTable.current? hart =
      if raw.toNat = hart.val then some frame else world.frameTable.current? hart
    by_cases hraw : raw.toNat < 4
    · have hindex : raw.toNat = (⟨raw.toNat, hraw⟩ : HartId).val := rfl
      rw [World.adoptRaw_of_lt hindex, World.frameTable_adopt]
      exact hslot ⟨raw.toNat, hraw⟩ frame
    · have hlt := hart.isLt
      have hne : raw.toNat ≠ hart.val := by omega
      rw [World.adoptRaw_of_beyond (Nat.le_of_not_lt hraw), if_neg hne]

/-- The slots of the table as places that adoptions write to. -/
def writes : Writes World Adoption HartId (Option Word) where
  apply world adoption := adoption.perform world
  read world hart := world.frameTable.current? hart
  reaches adoption hart := adoption.target = hart.val
  value adoption _ := some adoption.frame
  read_apply world adoption hart := by
    rw [current?_perform]
    simp only [decide_eq_true_eq]

end KernelImage

end Adoption

namespace World

section KernelImage

variable [KernelImage]

/-- The world after some adoptions. -/
def adoptAll (world : World) (adoptions : List Adoption) : World :=
  adoptions.foldl (fun world adoption => adoption.perform world) world

/-- **The table of active frames maps each hart to the last frame that was adopted there.** From the
empty table on, a slot shows the frame of the last adoption addressed to its hart. An adoption for a
raw identifier answers with the hart of that index, and for one beyond the ceiling with none, in
which case nothing is changed. Two neighbours that are addressed to different harts may be
exchanged. -/
theorem frame_table_last_writer (world : World) (adoptions : List Adoption) :
    let start := { world with frameTable := .empty }
    let after := start.adoptAll adoptions
    (∀ hart : HartId, after.frameTable.current? hart =
      (adoptions.filter fun adoption => adoption.target = hart.val).getLast?.map Adoption.frame) ∧
    (∀ raw frame, maxHarts ≤ raw.toNat → after.adoptRaw raw frame = (none, after)) ∧
    (∀ raw frame, ∀ hart : HartId, raw.toNat = hart.val →
      after.adoptRaw raw frame = (some hart, after.adopt hart frame)) ∧
    ∀ before first second rest, adoptions = before ++ first :: second :: rest →
      first.target ≠ second.target →
      (start.adoptAll (before ++ second :: first :: rest)).frameTable = after.frameTable := by
  intro start after
  refine ⟨?_, ?_, ?_, ?_⟩
  · intro hart
    have hempty : start.frameTable.current? hart = none := by
      show FrameTable.empty[hart] = none
      simp [FrameTable.empty]
    have hread : after.frameTable.current? hart =
        ((Adoption.writes.last? adoptions hart).map fun adoption => some adoption.frame).getD
          (start.frameTable.current? hart) := Adoption.writes.read_run start adoptions hart
    rw [hread, hempty]
    show _ = (Adoption.writes.last? adoptions hart).map Adoption.frame
    cases Adoption.writes.last? adoptions hart <;> rfl
  · intro raw frame h
    exact adoptRaw_of_beyond h after frame
  · intro raw frame hart h
    exact adoptRaw_of_lt h after frame
  · intro before first second rest hadoptions hne
    apply Vector.ext
    intro i hi
    have hslot : ¬(Adoption.writes.reaches second ⟨i, hi⟩ = true ∧
        Adoption.writes.reaches first ⟨i, hi⟩ = true) := by
      rintro ⟨hsecond, hfirst⟩
      exact hne ((of_decide_eq_true hfirst).trans (of_decide_eq_true hsecond).symm)
    have hswap := Adoption.writes.read_run_swap hslot start before rest
    rw [← hadoptions] at hswap
    exact hswap

end KernelImage

open KernelImage in
/-- The lowest bits of `0x10002` are those of hart 2. -/
example :
    (fresh.adoptAll [.activateKernel 1, .adoptRaw 0x10002 0x80400000, .adopt 1 0x80400230,
      .adoptRaw 3 0x80400460]).frameTable =
      #v[none, some 0x80400230, none, some 0x80400460] := by
  rfl

end World

end HartKernel
