import HartKernel.Proofs.Hart.BootPath
import HartKernel.Proofs.Hart.Machine
import HartKernel.Proofs.Hart.Routine

/-!
# The active frame

`mscratch` holds the address of the frame that the next trap goes to. In every trap it is for some
instructions the only place where an interrupted register is kept, and a boot, an activation and a
switch each set a part of the control registers only. Nevertheless, at every point of every run
(`active_frame_invariant`) the vector is in place, `mscratch` is the address of the frame that was
installed last, no routine is refused, and no frame but that one changes.

`perform_ready` says so for one operation and `reaches_ready` for a run. A hart beyond the ceiling
is the opposite case: it parks before anything is installed, and then refuses every routine
(`perform_parked`, `reaches_parked`).
-/

namespace HartKernel

variable {ι σ : Type}

namespace Machine

/-! ### Runs -/

/-- What can be done with a machine. -/
inductive Operation (ι σ : Type) where
  /-- The context on the hart replaces what it sees. -/
  | runUser (user : UserState)
  | trap (frame : ι) (cause tval : Word) (handler : Handler σ)
  | call (frame : ι) (number : Word) (args : Vector Word 6) (handler : Handler σ)
  | switchTo (frame : ι)
  | activate (frame : ι)

namespace Operation

/-- The frame that a trap or a system call is given. -/
def enters? : Operation ι σ → Option ι
  | trap frame _ _ _ => some frame
  | call frame _ _ _ => some frame
  | _ => none

/-- The frame that an operation makes the active one. -/
def installs? : Operation ι σ → Option ι
  | switchTo frame => some frame
  | activate frame => some frame
  | _ => none

end Operation

/-- The ways in which a hart that the kernel runs comes to its first frame. -/
inductive Started (address : ι → Word) (first : ι) : Machine ι σ → Prop where
  | boot {hart : Hart} {symbols : Boot.Symbols} {bss : Array Word} {result : Boot.Result}
      (hid : hart.csr.mhartid.toNat < maxHarts) (hvector : symbols.trapVector = vectorAddress)
      (hframe : symbols.frames.toNat + hart.csr.mhartid.toNat * 560 = (address first).toNat)
      (hboot : hart.boot symbols bss = .ok result) (frames : ι → Frame) (world : σ) :
      Started address first { hart := result.hart, frames, world }
  | activate (machine : Machine ι σ) (hid : machine.hart.csr.mhartid.toNat < maxHarts) :
      Started address first (machine.activate address first)
  | switchTo (machine : Machine ι σ) (hid : machine.hart.csr.mhartid.toNat < maxHarts) :
      Started address first (machine.switchTo address first)

theorem ready_of_started {address : ι → Word} {first : ι} {machine : Machine ι σ}
    (h : Started address first machine) : machine.hart.Ready (address first) := by
  cases h with
  | boot hid hvector hframe hboot frames world =>
    obtain ⟨htvec, hscratch, hkept⟩ := Hart.boot_installs hid hboot
    refine ⟨htvec.trans hvector, ?_, ?_⟩
    · apply BitVec.eq_of_toNat_eq
      rw [hscratch, hframe]
    · rw [hkept]
      exact hid
  | activate machine hid => exact ⟨rfl, rfl, hid⟩
  | switchTo machine hid => exact Hart.ready_resumeContext hid ..

/-- What an operation leaves of a machine, and whether it was stopped. -/
structure Step (ι σ : Type) where
  machine : Machine ι σ
  result : Except Stop Unit

variable [DecidableEq ι]

/-- What is left after a routine into a frame. -/
def settle {α : Type} (machine : Machine ι σ) (frame : ι) (outcome : Outcome σ α) : Step ι σ :=
  { machine := machine.keep frame outcome, result := outcome.result.map fun _ => () }

theorem notRefused_settle {α : Type} {machine : Machine ι σ} {frame : ι} {outcome : Outcome σ α}
    (h : Hart.NotRefused outcome.result) :
    Hart.NotRefused (machine.settle frame outcome).result := by
  intro error hrefused
  cases hresult : outcome.result with
  | ok value =>
    simp only [settle, hresult] at hrefused
    cases hrefused
  | error stop =>
    simp only [settle, hresult] at hrefused
    cases hrefused
    exact h error hresult

/-- A routine into the active frame changes no other. -/
theorem frames_settle {α : Type} (machine : Machine ι σ) {active i : ι} (hi : i ≠ active)
    (outcome : Outcome σ α) : (machine.settle active outcome).machine.frames i = machine.frames i :=
  Function.update_of_ne hi ..

section

variable [KernelImage]

/-- Does an operation. -/
def perform (address : ι → Word) (machine : Machine ι σ) : Operation ι σ → Step ι σ
  | .runUser user => { machine := machine.runUser user, result := .ok () }
  | .trap frame cause tval handler =>
    machine.settle frame (machine.trapInto address frame cause tval handler)
  | .call frame number args handler =>
    machine.settle frame (machine.callInto address frame number args handler)
  | .switchTo frame => { machine := machine.switchTo address frame, result := .ok () }
  | .activate frame => { machine := machine.activate address frame, result := .ok () }

/-- The machine after a run of operations each of which is allowed where it is done. An operation
that is stopped does not end the run. -/
inductive Reaches (address : ι → Word) (allowed : Machine ι σ → Operation ι σ → Prop)
    (machine : Machine ι σ) : List (Operation ι σ) → Machine ι σ → Prop where
  | start : Reaches address allowed machine [] machine
  | step {operations : List (Operation ι σ)} {before : Machine ι σ}
      (h : Reaches address allowed machine operations before) (operation : Operation ι σ)
      (hallowed : allowed before operation) :
      Reaches address allowed machine (operations ++ [operation])
        (before.perform address operation).machine

/-- A routine is given the frame that `mscratch` designates. -/
def FollowsScratch (address : ι → Word) (machine : Machine ι σ) (operation : Operation ι σ) :
    Prop :=
  ∀ frame ∈ operation.enters?, address frame = machine.hart.csr.mscratch

/-- The frame that was installed last, given the one that was installed before the operations. -/
def lastInstalled (first : ι) (operations : List (Operation ι σ)) : ι :=
  operations.foldl (fun active operation => operation.installs?.getD active) first

variable {address : ι → Word}

/-- **One operation.** On a ready hart no operation is refused, the hart is ready afterwards for the
frame that is then the active one, and all frames but the active one are as before. -/
theorem perform_ready (hinj : Function.Injective address) {machine : Machine ι σ} {active : ι}
    (h : machine.hart.Ready (address active)) {operation : Operation ι σ}
    (hfollows : FollowsScratch address machine operation) :
    Hart.NotRefused (machine.perform address operation).result ∧
      (machine.perform address operation).machine.hart.Ready
        (address (operation.installs?.getD active)) ∧
      ∀ i, i ≠ active →
        (machine.perform address operation).machine.frames i = machine.frames i := by
  -- A frame that lies where `mscratch` points is the active one, since no two lie at one address.
  have hactive : ∀ frame ∈ operation.enters?, frame = active := by
    intro frame hframe
    exact hinj ((hfollows frame hframe).trans h.scratch)
  have hok : Hart.NotRefused (.ok () : Except Stop Unit) := by
    intro error hrefused
    cases hrefused
  cases operation with
  | runUser user =>
    exact ⟨hok, h.of_csr_eq (Hart.csr_withUserState ..), fun _ _ => rfl⟩
  | trap frame cause tval handler =>
    obtain rfl := hactive frame rfl
    obtain ⟨hruns, hafter⟩ :=
      Hart.ready_takeTrap h cause tval (machine.frames frame) handler machine.world
    exact ⟨notRefused_settle hruns, hafter, fun i hi => frames_settle machine hi _⟩
  | call frame number args handler =>
    obtain rfl := hactive frame rfl
    obtain ⟨hruns, hafter⟩ :=
      Hart.ready_systemCall h number args (machine.frames frame) handler machine.world
    exact ⟨notRefused_settle hruns, hafter, fun i hi => frames_settle machine hi _⟩
  | switchTo frame => exact ⟨hok, Hart.ready_resumeContext h.id .., fun _ _ => rfl⟩
  | activate frame => exact ⟨hok, ⟨rfl, rfl, h.id⟩, fun _ _ => rfl⟩

/-- One operation on a hart without the vector. No handler is called, since what it would do to the
world does not happen. -/
theorem perform_parked {machine : Machine ι σ} (h : machine.hart.csr.mtvec ≠ vectorAddress)
    {operation : Operation ι σ} (henters : operation.enters?.isSome) :
    (machine.perform address operation).result =
        .error (.refused (.noVector machine.hart.csr.mtvec)) ∧
      (machine.perform address operation).machine.frames = machine.frames ∧
      (machine.perform address operation).machine.world = machine.world ∧
      machine.hart.SameButArguments (machine.perform address operation).machine.hart := by
  cases operation with
  | runUser user => cases henters
  | switchTo frame => cases henters
  | activate frame => cases henters
  | trap frame cause tval handler =>
    have houtcome := Hart.takeTrap_of_noVector h cause tval (address frame) (machine.frames frame)
      handler machine.world
    simp only [perform, settle, trapInto, keep, houtcome, Function.update_eq_self]
    exact ⟨rfl, trivial, trivial, .refl _⟩
  | call frame number args handler =>
    have houtcome := Hart.systemCall_of_noVector h number args (address frame)
      (machine.frames frame) handler machine.world
    simp only [perform, settle, callInto, keep, houtcome, Function.update_eq_self]
    exact ⟨rfl, trivial, trivial, Hart.sameButArguments_prepareCall ..⟩

theorem reaches_ready (hinj : Function.Injective address) {machine : Machine ι σ} {first : ι}
    (h : machine.hart.Ready (address first)) {operations : List (Operation ι σ)}
    {after : Machine ι σ}
    (hrun : Reaches address (FollowsScratch address) machine operations after) :
    after.hart.Ready (address (lastInstalled first operations)) := by
  induction hrun with
  | start => exact h
  | step _ operation hallowed ih =>
    rw [lastInstalled, List.foldl_append]
    exact (perform_ready hinj ih hallowed).2.1

theorem reaches_parked {machine : Machine ι σ} (h : machine.hart.csr.mtvec ≠ vectorAddress)
    {operations : List (Operation ι σ)} {after : Machine ι σ}
    (hrun :
      Reaches address (fun _ operation => operation.enters?.isSome) machine operations after) :
    after.frames = machine.frames ∧ after.world = machine.world ∧
      machine.hart.SameButArguments after.hart := by
  induction hrun with
  | start => exact ⟨rfl, rfl, .refl _⟩
  | step _ operation hallowed ih =>
    obtain ⟨hframes, hworld, hsame⟩ := ih
    have hvector : _ ≠ vectorAddress := hsame.csr ▸ h
    obtain ⟨-, hframes', hworld', hsame'⟩ := perform_parked hvector hallowed
    exact ⟨hframes'.trans hframes, hworld'.trans hworld, hsame.trans hsame'⟩

/-- **The active frame.** A hart that the kernel runs starts with a boot, an activation or a switch.
At every point of every run after that, `mscratch` is the address of the frame that was installed
last, and whatever is done next is not refused and changes no other frame. A hart beyond the ceiling
parks when it boots, and then refuses every trap and every system call, into whatever frame. -/
theorem active_frame_invariant (address : ι → Word) (hinj : Function.Injective address) :
    (∀ (first : ι) (machine : Machine ι σ), Started address first machine →
      ∀ operations after, Reaches address (FollowsScratch address) machine operations after →
        after.hart.csr.mtvec = vectorAddress ∧
        after.hart.csr.mscratch = address (lastInstalled first operations) ∧
        ∀ operation, FollowsScratch address after operation →
          Hart.NotRefused (after.perform address operation).result ∧
          ∀ i, i ≠ lastInstalled first operations →
            (after.perform address operation).machine.frames i = after.frames i) ∧
    ∀ (id : Word) (symbols : Boot.Symbols) (bss : Array Word), maxHarts ≤ id.toNat →
      ∃ parked, (Hart.reset id).boot symbols bss = .ok { landing := .parked, hart := parked, bss } ∧
        ∀ (frames : ι → Frame) (world : σ) operations after,
          Reaches address (fun _ operation => operation.enters?.isSome)
            { hart := parked, frames, world } operations after →
          after.frames = frames ∧ after.world = world ∧ parked.SameButArguments after.hart ∧
          ∀ operation, operation.enters?.isSome →
            (after.perform address operation).result = .error (.refused (.noVector 0)) := by
  constructor
  · intro first machine hstart operations after hrun
    have hready := reaches_ready hinj (ready_of_started hstart) hrun
    refine ⟨hready.vector, hready.scratch, ?_⟩
    intro operation hfollows
    obtain ⟨hruns, -, hframes⟩ := perform_ready hinj hready hfollows
    exact ⟨hruns, hframes⟩
  · intro id symbols bss hid
    refine ⟨_, Hart.boot_parks hid symbols bss, ?_⟩
    intro frames world operations after hrun
    have hzero : ((Hart.reset id).openMemory symbols).csr.mtvec = 0 := by
      rw [Hart.csr_openMemory]
      rfl
    have hparked : ((Hart.reset id).openMemory symbols).csr.mtvec ≠ vectorAddress := by
      rw [hzero]
      decide
    obtain ⟨hframes, hworld, hsame⟩ := reaches_parked hparked hrun
    refine ⟨hframes, hworld, hsame, ?_⟩
    intro operation henters
    have hvector : after.hart.csr.mtvec = 0 := by
      rw [hsame.csr]
      exact hzero
    have hafter : after.hart.csr.mtvec ≠ vectorAddress := by
      rw [hsame.csr]
      exact hparked
    rw [(perform_parked hafter henters).1, hvector]

end

open KernelImage in
/-- Two frames, of which the first is installed by the boot of a hart and the second by a switch. A
handler that panics in between leaves `mscratch` as it is, and a fifth hart does not start. -/
theorem active_frame_invariant_two :
    let address : Bool → Word := fun i => if i then 0x80400230 else 0x80400460
    let symbols : Boot.Symbols :=
      { globalPointer := 0, bssStart := 0, bssStop := 0, stackTop := 0x80200000
        frames := 0x80400000, bootEntry := 0, hartEntry := 0x80003000, trapVector := vectorAddress
        park := 0 }
    let panicking : Handler Unit := fun _ frame world =>
      { resume := .error (.fault .addOverflow), frame, world }
    Function.Injective address ∧
      (∃ result, (Hart.reset 1).boot symbols #[] = .ok result ∧
        ∃ after, Reaches address (FollowsScratch address)
            { hart := result.hart, frames := fun _ => .zeroed, world := () }
            [.trap true 3 0 panicking, .switchTo false] after ∧
          after.hart.csr.mtvec = vectorAddress ∧ after.hart.csr.mscratch = 0x80400460) ∧
      ∃ parked, (Hart.reset 4).boot symbols #[] =
        .ok { landing := .parked, hart := parked, bss := #[] } := by
  intro address symbols panicking
  have hinj : Function.Injective address := by
    intro a b
    revert a b
    decide
  obtain ⟨hruns, hparks⟩ := active_frame_invariant (σ := Unit) address hinj
  obtain ⟨parked, hparked, -⟩ := hparks 4 symbols #[] (by decide)
  have hplan : symbols.plan? (Hart.reset 1).csr.mhartid =
      .ok (some (symbols.secondaryPlan 1 0x801f0000 0x80400230)) := by decide
  obtain ⟨result, hresult, -⟩ := Hart.boot_of_plan hplan #[]
  set machine : Machine Bool Unit :=
    { hart := result.hart, frames := fun _ => .zeroed, world := () }
  have hstart : Started address true machine := .boot (by decide) rfl (by decide) hresult _ _
  have htrap : FollowsScratch address machine (.trap true 3 0 panicking) := by
    intro frame hframe
    cases hframe
    exact (ready_of_started hstart).scratch.symm
  have hswitch (before : Machine Bool Unit) : FollowsScratch address before (.switchTo false) := by
    intro frame hframe
    cases hframe
  have hfirst : Reaches address (FollowsScratch address) machine
      ([] ++ [.trap true 3 0 panicking]) _ := .step .start _ htrap
  have hsecond : Reaches address (FollowsScratch address) machine
      ([] ++ [.trap true 3 0 panicking] ++ [.switchTo false]) _ := .step hfirst _ (hswitch _)
  obtain ⟨hvector, hscratch, -⟩ := hruns true machine hstart _ _ hsecond
  exact ⟨hinj, ⟨result, hresult, _, hsecond, hvector, hscratch⟩, parked, hparked⟩

end Machine

end HartKernel
