import HartKernel.Hart.Call
import HartKernel.Proofs.Hart.BootPath
import HartKernel.Proofs.Hart.Routine

/-!
# What routines keep on a hart in any state

Some facts about the routines of a hart need neither the vector nor a frame in place. No routine
gives a hart another identifier (`mhartid_takeTrap`, `mhartid_boot`), and the world that a trap
leaves is the one it found or the one that its handler made of that (`world_takeTrap`).
-/

namespace HartKernel

variable [KernelImage] {σ : Type}

namespace Hart

theorem mhartid_serveTrap (hart : Hart) (address : Word) (frame : Frame) (handler : Handler σ)
    (world : σ) :
    (hart.serveTrap address frame handler world).hart.csr.mhartid = hart.csr.mhartid := by
  have hswap : hart.swapScratch.csr.mhartid = hart.csr.mhartid := rfl
  have hpassed (info : TrapInfo) :
      (hart.swapScratch.recoverScratch.passArguments info).csr.mhartid = hart.csr.mhartid := by
    rw [csr_passArguments, recoverScratch_swapScratch, csr_write]
  unfold serveTrap
  dsimp only
  split
  · exact hswap
  · split
    · exact hpassed _
    · split
      · rw [csr_moveToStack]
        exact hpassed _
      · -- The return rewrites the status word, and the vector wrote the resume address.
        have hleave (called : Hart) (resume : Word) (left : Frame) :
            (called.leaveVector resume left).csr.mhartid = called.csr.mhartid := rfl
        rw [hleave, csr_moveToStack]
        exact hpassed _

/-- No trap gives a hart another identifier, however it ends. -/
theorem mhartid_takeTrap (hart : Hart) (cause tval address : Word) (frame : Frame)
    (handler : Handler σ) (world : σ) :
    (hart.takeTrap cause tval address frame handler world).hart.csr.mhartid = hart.csr.mhartid := by
  by_cases hvector : hart.csr.mtvec = vectorAddress
  · rw [takeTrap, acceptTrap_of_vector hvector]
    exact mhartid_serveTrap ..
  · rw [takeTrap_of_noVector hvector]

theorem world_serveTrap (hart : Hart) (address : Word) (frame : Frame) (handler : Handler σ)
    (world : σ) :
    (hart.serveTrap address frame handler world).world = world ∨
      ∃ info saved, (hart.serveTrap address frame handler world).world =
        (handler info saved world).world := by
  unfold serveTrap
  dsimp only
  split
  · exact Or.inl rfl
  · split
    · exact Or.inl rfl
    · split
      · exact Or.inr ⟨_, _, rfl⟩
      · exact Or.inr ⟨_, _, rfl⟩

/-- A trap changes the world by its handler only. -/
theorem world_takeTrap (hart : Hart) (cause tval address : Word) (frame : Frame)
    (handler : Handler σ) (world : σ) :
    (hart.takeTrap cause tval address frame handler world).world = world ∨
      ∃ info saved, (hart.takeTrap cause tval address frame handler world).world =
        (handler info saved world).world := by
  by_cases hvector : hart.csr.mtvec = vectorAddress
  · rw [takeTrap, acceptTrap_of_vector hvector]
    exact world_serveTrap ..
  · rw [takeTrap_of_noVector hvector]
    exact Or.inl rfl

/-- A system call leaves the control registers and the world to its trap. -/
theorem systemCall_from_takeTrap (hart : Hart) (number : Word) (args : Vector Word 6)
    (address : Word) (frame : Frame) (handler : Handler σ) (world : σ) :
    let prepared := (hart.placeArguments number args).shiftArguments
    let outcome := prepared.takeTrap (Cause.callFrom prepared.mode) 0 address frame handler world
    (hart.systemCall number args address frame handler world).hart.csr = outcome.hart.csr ∧
      (hart.systemCall number args address frame handler world).world = outcome.world := by
  intro prepared outcome
  unfold systemCall
  dsimp only
  split
  · exact ⟨rfl, rfl⟩
  · exact ⟨rfl, rfl⟩

theorem mhartid_systemCall (hart : Hart) (number : Word) (args : Vector Word 6) (address : Word)
    (frame : Frame) (handler : Handler σ) (world : σ) :
    (hart.systemCall number args address frame handler world).hart.csr.mhartid =
      hart.csr.mhartid := by
  obtain ⟨hcsr, -⟩ := systemCall_from_takeTrap hart number args address frame handler world
  rw [hcsr, mhartid_takeTrap, (sameButArguments_prepareCall hart number args).csr]

theorem world_systemCall (hart : Hart) (number : Word) (args : Vector Word 6) (address : Word)
    (frame : Frame) (handler : Handler σ) (world : σ) :
    (hart.systemCall number args address frame handler world).world = world ∨
      ∃ info saved, (hart.systemCall number args address frame handler world).world =
        (handler info saved world).world := by
  obtain ⟨-, hworld⟩ := systemCall_from_takeTrap hart number args address frame handler world
  rw [hworld]
  exact world_takeTrap ..

omit [KernelImage] in
/-- Neither does a boot, whether the hart drops or parks. -/
theorem mhartid_boot {hart : Hart} {symbols : Boot.Symbols} {bss : Array Word}
    {result : Boot.Result} (h : hart.boot symbols bss = .ok result) :
    result.hart.csr.mhartid = hart.csr.mhartid := by
  rcases Nat.lt_or_ge hart.csr.mhartid.toNat maxHarts with hid | hbeyond
  · obtain ⟨-, -, hkept⟩ := boot_installs hid h
    exact hkept
  · rw [boot_parks hbeyond] at h
    cases h
    show (hart.openMemory symbols).csr.mhartid = _
    rw [csr_openMemory]

end Hart

end HartKernel
