import HartKernel.Proofs.Hart.Observed
import HartKernel.Proofs.Hart.Refusal
import HartKernel.Proofs.Hart.UserState

/-!
# The status words of a hart over its life

A boot writes one of two fixed status words and returns from it, a switch makes a word up from a
field of memory and returns from that, and every trap rewrites three bits and returns again. Of all
this only a few words are ever seen between two of these: the one that the last boot or switch has
returned to, or that word after a trap (`Lives`). `take_lives` is one step and `live_lives` a whole
run, and `settled_wordOf` reads off the words what their bits are.

Inside a trap the word is the one before it with the interrupted mode in MPP, which is never the
reserved pattern, since a hart is never in a mode that has none (`entered_of_mem_calls`).
-/

namespace HartKernel

variable {σ : Type}

/-- What happens to a hart in its life. -/
inductive Turn (σ : Type) where
  | boot (symbols : Boot.Symbols) (bss : Array Word)
  /-- The context on the hart replaces what it sees. -/
  | runUser (user : UserState)
  /-- The hart does a routine, with a frame that holds whatever it may and lies wherever it may. -/
  | perform (address : Word) (frame : Frame) (routine : Routine σ)

/-- The two ways in which a status word comes to be written as a whole. -/
inductive StatusSource where
  | boot
  | switch

/-- Whether a turn writes a status word as a whole. -/
def Turn.source? : Turn σ → Option StatusSource
  | boot _ _ => some .boot
  | perform _ _ .switchTo => some .switch
  | _ => none

/-- The last way in which a status word was written as a whole. -/
def lastSource (turns : List (Turn σ)) : Option StatusSource :=
  turns.foldl (fun last turn => turn.source?.or last) none

/-- A hart and the world that its handlers share. -/
structure Running (σ : Type) where
  hart : Hart
  world : σ

namespace Running

variable [KernelImage]

/-- Takes a turn, unless it ends in an error. -/
def take (running : Running σ) : Turn σ → Except Stop (Running σ)
  | .boot symbols bss =>
    let booted := running.hart.bootOrFault symbols bss
    booted.1.map fun _ => { running with hart := booted.2 }
  | .runUser user => .ok { running with hart := running.hart.withUserState user }
  | .perform address frame routine =>
    let observed := routine.perform running.hart address frame running.world
    observed.result.map fun _ => { hart := observed.hart, world := observed.world }

/-- Takes turns one after another, unless one of them ends in an error. -/
def live (running : Running σ) (turns : List (Turn σ)) : Except Stop (Running σ) :=
  turns.foldlM take running

/-- The calls that a turn makes of its handler, also if it ends in an error. -/
def calls (running : Running σ) : Turn σ → List Call
  | .perform address frame routine =>
    (routine.perform running.hart address frame running.world).calls
  | _ => []

end Running

/-! ### Turns that do not fail -/

namespace Running

variable [KernelImage]

theorem live_cons {running next : Running σ} {turn : Turn σ} (h : running.take turn = .ok next)
    (rest : List (Turn σ)) : running.live (turn :: rest) = next.live rest := by
  rw [live, List.foldlM_cons, h]
  rfl

/-- A hart that is ready takes a trap, unless its handler panics. -/
theorem take_trap_of_ready {running : Running σ} {address : Word}
    (h : running.hart.Ready address) {cause tval resume : Word} {frame after : Frame}
    {handler : Handler σ} {world : σ}
    (hreply : handler (running.hart.infoOfTrap cause tval) (running.hart.captureInto frame)
      running.world = { resume := .ok resume, frame := after, world }) :
    running.take (.perform address frame (.trap cause tval handler)) =
      .ok { hart := running.hart.resumeFrom cause tval resume after, world } := by
  simp only [take, Routine.perform, Routine.observe, Hart.takeTrap_of_ready h, Hart.concludeTrap,
    Handler.noting, hreply]
  rfl

/-- A hart that has a plan boots. -/
theorem take_boot_of_plan {running : Running σ} {symbols : Boot.Symbols} {plan : Boot.Plan}
    (h : symbols.plan? running.hart.csr.mhartid = .ok (some plan)) (bss : Array Word) :
    running.take (.boot symbols bss) =
      .ok { running with hart := running.hart.booted symbols plan } := by
  simp only [take, Hart.bootOrFault, Hart.boot_eq_of_plan h]
  rfl

end Running

namespace Mstatus

/-- A status word between two turns of a hart, by whether it is the first hart and by what has last
written a word as a whole. -/
structure Settled (first : Bool) (last : Option StatusSource) (status : Mstatus) : Prop where
  /-- MPP is zero with this, and so are SIE, SPP, MPRV and all bits without a name. -/
  named : Flags.difference status (mie ||| mpie ||| spie ||| fs) = 0
  float : status.floatStatus =
    match last with
    | none => .off
    | some .boot => .initial
    | some .switch => .dirty
  mie : Flags.contains status Mstatus.mie =
    match last with
    | none => false
    | some .boot => !first
    | some .switch => true

/-- The word that the last boot or the last switch has returned to. -/
def wordOf (first : Bool) : Option StatusSource → Mstatus
  | none => 0
  | some .boot => (if first then boot else secondary).afterReturn
  | some .switch => resumed

/-- All of these are closed terms, before a trap and after it. -/
theorem settled_wordOf (first : Bool) (last : Option StatusSource) :
    Settled first last (wordOf first last) ∧ Settled first last (wordOf first last).afterTrap := by
  rcases last with _ | _ | _ <;> cases first <;>
    exact ⟨⟨by decide, by decide, by decide⟩, by decide, by decide, by decide⟩

end Mstatus

theorem Boot.Symbols.mstatus_of_plan {symbols : Boot.Symbols} {raw : Word} {plan : Boot.Plan}
    (h : symbols.plan? raw = .ok (some plan)) :
    plan.mstatus = if raw == 0 then Mstatus.boot else Mstatus.secondary := by
  obtain ⟨hart, rfl, hplan⟩ := exists_plans_of_plan? h
  have hfirst : hart.word = 0 ↔ hart = HartId.boot := HartId.word_injective.eq_iff' rfl
  rw [hplan.rest]
  simp only [beq_iff_eq, hfirst]
  split <;> rfl

namespace Hart

variable [KernelImage] {hart : Hart} {address : Word} {frame : Frame} {handler : Handler σ}
  {world : σ}

/-- A trap that has answered found the hart ready. -/
theorem ready_of_takeTrap_ok {cause tval : Word} {info : TrapInfo}
    (hid : hart.csr.mhartid.toNat < maxHarts)
    (h : (hart.takeTrap cause tval address frame handler world).result = .ok info) :
    hart.Ready address := by
  have hrefused : ¬(hart.csr.mtvec ≠ vectorAddress ∨ hart.csr.mscratch ≠ address) := by
    intro hobstacle
    obtain ⟨error, herror⟩ := exists_takeTrap_refused_iff.mpr hobstacle
    rw [h] at herror
    cases herror
  exact ⟨Decidable.of_not_not fun hne => hrefused (Or.inl hne),
    Decidable.of_not_not fun hne => hrefused (Or.inr hne), hid⟩

theorem mstatus_takeTrap_of_ok {cause tval : Word} {info : TrapInfo}
    (hid : hart.csr.mhartid.toNat < maxHarts)
    (h : (hart.takeTrap cause tval address frame handler world).result = .ok info) :
    (hart.takeTrap cause tval address frame handler world).hart.csr.mstatus =
      hart.csr.mstatus.afterTrap := by
  have hready := ready_of_takeTrap_ok hid h
  rw [takeTrap_of_ready hready] at h ⊢
  cases hreply : (handler (hart.infoOfTrap cause tval) (hart.captureInto frame) world).resume with
  | ok resume => simp only [concludeTrap, hreply, resumeFrom]
  | error panic =>
    simp only [concludeTrap, hreply] at h
    cases h

/-- The status word of a caller comes back from its call as from any trap. -/
theorem mstatus_systemCall_of_ok {number : Word} {args : Vector Word 6} {value : Word}
    (hid : hart.csr.mhartid.toNat < maxHarts)
    (h : (hart.systemCall number args address frame handler world).result = .ok value) :
    (hart.systemCall number args address frame handler world).hart.csr.mstatus =
      hart.csr.mstatus.afterTrap := by
  have hsame := sameButArguments_prepareCall hart number args
  set prepared := (hart.placeArguments number args).shiftArguments
  rw [(systemCall_from_takeTrap ..).1, hsame.mode]
  cases htrap : (prepared.takeTrap (Cause.callFrom hart.mode) 0 address frame handler world).result
  with
  | ok info =>
    have hid' : prepared.csr.mhartid.toNat < maxHarts := by rwa [hsame.csr]
    rw [mstatus_takeTrap_of_ok hid' htrap, hsame.csr]
  | error stop =>
    rw [systemCall_error_iff.mpr htrap] at h
    cases h

omit [KernelImage] in
theorem mstatus_bootOrFault_of_ok {symbols : Boot.Symbols} {bss : Array Word}
    {answer : Routine.Answer} (hid : hart.csr.mhartid.toNat < maxHarts)
    (h : (hart.bootOrFault symbols bss).1 = .ok answer) :
    (hart.bootOrFault symbols bss).2.csr.mhartid = hart.csr.mhartid ∧
      (hart.bootOrFault symbols bss).2.csr.mstatus =
        Mstatus.wordOf (hart.csr.mhartid == 0) (some .boot) := by
  cases hboot : hart.boot symbols bss with
  | ok result =>
    obtain ⟨plan, hplan, -, hhart⟩ := exists_plan_of_boot hid hboot
    simp only [bootOrFault, hboot, hhart, csr_booted, Boot.Symbols.mstatus_of_plan hplan]
    exact ⟨trivial, rfl⟩
  | error reason =>
    simp only [bootOrFault, hboot] at h
    cases h

end Hart

namespace Running

/-- **The invariant.** A hart keeps its identifier, and its status word is the one that was returned
to last, or that word after a trap. -/
structure Lives (id : Word) (last : Option StatusSource) (running : Running σ) : Prop where
  identifier : running.hart.csr.mhartid = id
  status : running.hart.csr.mstatus = Mstatus.wordOf (id == 0) last ∨
    running.hart.csr.mstatus = (Mstatus.wordOf (id == 0) last).afterTrap

theorem Lives.settled {id : Word} {last : Option StatusSource} {running : Running σ}
    (h : Lives id last running) : Mstatus.Settled (id == 0) last running.hart.csr.mstatus := by
  obtain ⟨hword, hafter⟩ := Mstatus.settled_wordOf (id == 0) last
  rcases h.status with hstatus | hstatus
  · rwa [hstatus]
  · rwa [hstatus]

/-- A trap changes such a word once and not again. -/
theorem Lives.of_afterTrap {id : Word} {last : Option StatusSource} {running next : Running σ}
    (h : Lives id last running) (hid : next.hart.csr.mhartid = running.hart.csr.mhartid)
    (hstatus : next.hart.csr.mstatus = running.hart.csr.mstatus.afterTrap) :
    Lives id last next := by
  refine ⟨hid.trans h.identifier, Or.inr ?_⟩
  rcases h.status with hword | hword
  · rw [hstatus, hword]
  · rw [hstatus, hword, Mstatus.afterTrap_afterTrap]

theorem Lives.of_csr_eq {id : Word} {last : Option StatusSource} {running next : Running σ}
    (h : Lives id last running) (hcsr : next.hart.csr = running.hart.csr) : Lives id last next := by
  constructor <;> rw [hcsr]
  · exact h.identifier
  · exact h.status

section

variable [KernelImage]

/-- **One turn.** -/
theorem take_lives {id : Word} (hid : id.toNat < maxHarts) {last : Option StatusSource}
    {running next : Running σ} (h : Lives id last running) {turn : Turn σ}
    (htake : running.take turn = .ok next) : Lives id (turn.source?.or last) next := by
  have hid' : running.hart.csr.mhartid.toNat < maxHarts := by rwa [h.identifier]
  cases turn with
  | boot symbols bss =>
    obtain ⟨answer, hanswer, rfl⟩ := map_eq_ok_iff.mp htake
    obtain ⟨hkept, hstatus⟩ := Hart.mstatus_bootOrFault_of_ok hid' hanswer
    rw [h.identifier] at hkept hstatus
    exact ⟨hkept, Or.inl hstatus⟩
  | runUser user =>
    obtain rfl := Except.ok.inj htake
    exact h.of_csr_eq (Hart.csr_withUserState running.hart user)
  | perform address frame routine =>
    obtain ⟨answer, hanswer, rfl⟩ := map_eq_ok_iff.mp htake
    cases routine with
    | activate => exact ⟨h.identifier, h.status⟩
    | switchTo =>
      have hcsr := Hart.csr_resumeContext running.hart address frame
      refine ⟨?_, Or.inl ?_⟩
      · show (running.hart.resumeContext address frame).csr.mhartid = id
        rw [hcsr, h.identifier]
      · show (running.hart.resumeContext address frame).csr.mstatus = Mstatus.resumed
        rw [hcsr]
    | trap cause tval handler =>
      obtain ⟨info, hinfo, -⟩ := map_eq_ok_iff.mp hanswer
      exact h.of_afterTrap (Hart.mhartid_takeTrap ..) (Hart.mstatus_takeTrap_of_ok hid' hinfo)
    | call number args handler =>
      obtain ⟨value, hvalue, -⟩ := map_eq_ok_iff.mp hanswer
      exact h.of_afterTrap (Hart.mhartid_systemCall ..) (Hart.mstatus_systemCall_of_ok hid' hvalue)

theorem live_lives {id : Word} (hid : id.toNat < maxHarts) {last : Option StatusSource}
    {running after : Running σ} (h : Lives id last running) {turns : List (Turn σ)}
    (hlive : running.live turns = .ok after) :
    Lives id (turns.foldl (fun last turn => turn.source?.or last) last) after := by
  induction turns generalizing running last with
  | nil =>
    cases hlive
    exact h
  | cons turn rest ih =>
    rw [live, List.foldlM_cons] at hlive
    obtain ⟨next, htake, hrest⟩ := bind_eq_ok_iff.mp hlive
    exact ih (take_lives hid h htake) hrest

/-- A handler is told the interrupted status word, but for the entry into its trap. -/
theorem entered_of_mem_calls {running : Running σ} {turn : Turn σ} {call : Call}
    (h : call ∈ running.calls turn) :
    Mstatus.Entered running.hart.csr.mstatus running.hart.mode call.info.status := by
  cases turn with
  | boot symbols bss => cases h
  | runUser user => cases h
  | perform address frame routine =>
    cases routine with
    | activate => cases h
    | switchTo => cases h
    | trap cause tval handler =>
      rw [Hart.eq_of_mem_calls_takeTrap h]
      exact Mstatus.entered_inTrap ..
    | call number args handler =>
      -- The caller's word and mode are those of the hart that traps.
      have hsame := Hart.sameButArguments_prepareCall running.hart number args
      rw [Hart.eq_of_mem_calls_systemCall h, ← hsame.mode, ← hsame.csr]
      exact Mstatus.entered_inTrap ..

/-- **The reachable status words.** A hart that the kernel runs lives from its reset on without an
error, whatever frames and handlers it is given. Then its status word holds MIE, MPIE, SPIE and FS
only, with FS as the last boot or switch has left it, and with MIE clear if and only if neither a
switch nor the boot of another hart than the first came last. Whatever the hart does next, a handler
that is called for it finds MIE clear, the interrupted MIE in MPIE, the interrupted mode in MPP and
the interrupted FS. -/
theorem live_settled {id : Word} (hid : id.toNat < maxHarts) {world : σ} {turns : List (Turn σ)}
    {after : Running σ} (hlive : live { hart := .reset id, world } turns = .ok after) :
    Mstatus.Settled (id == 0) (lastSource turns) after.hart.csr.mstatus ∧
      ∀ turn, ∀ call ∈ after.calls turn,
        Mstatus.Entered after.hart.csr.mstatus after.hart.mode call.info.status := by
  have hreset : Lives id none ({ hart := .reset id, world } : Running σ) := ⟨rfl, Or.inl rfl⟩
  refine ⟨(live_lives hid hreset hlive).settled, ?_⟩
  intro turn call hcall
  exact entered_of_mem_calls hcall

end

open KernelImage in
/-- A second hart switches to a frame with junk in its mode field, where the two lowest bits are the
reserved pattern, and traps there. Then it boots, and its floating-point unit is as the boot
says. -/
theorem live_settled_reserved :
    let frame : Frame := { Frame.zeroed with mode := 0xff02 }
    let symbols : Boot.Symbols :=
      { globalPointer := 0, bssStart := 0, bssStop := 0, stackTop := 0x80200000
        frames := 0x80400000, bootEntry := 0, hartEntry := 0x80003000, trapVector := vectorAddress
        park := 0 }
    let handler : Handler Unit := fun _ frame world => { resume := .ok 0x4000, frame, world }
    let trap : Turn Unit := .perform 0x80400000 frame (.trap 3 0 handler)
    let begun : Running Unit := { hart := .reset 1, world := () }
    (1 : Word).toNat < maxHarts ∧
      ∃ switched booted,
        begun.live [.perform 0x80400000 frame .switchTo, trap] = .ok switched ∧
        begun.live [.perform 0x80400000 frame .switchTo, trap, .boot symbols #[]] = .ok booted ∧
        switched.hart.csr.mstatus.floatStatus = .dirty ∧
        booted.hart.csr.mstatus.floatStatus = .initial ∧
        Flags.contains booted.hart.csr.mstatus Mstatus.mie = true ∧
        ∀ call ∈ switched.calls trap, Mstatus.mpp? call.info.status = some .user := by
  intro frame symbols handler trap begun
  have hid : (1 : Word).toNat < maxHarts := by decide
  have hready : ((Hart.reset 1).resumeContext 0x80400000 frame).Ready 0x80400000 :=
    Hart.ready_resumeContext hid ..
  have hmode : ((Hart.reset 1).resumeContext 0x80400000 frame).mode = .user := by
    rw [Hart.mode_resumeContext]
    decide
  have hcsr := Hart.csr_resumeContext (.reset 1) 0x80400000 frame
  have hswitch : begun.take (.perform 0x80400000 frame .switchTo) =
      .ok { hart := (Hart.reset 1).resumeContext 0x80400000 frame, world := () } := rfl
  generalize (Hart.reset 1).resumeContext 0x80400000 frame = context at *
  have htrap : take { hart := context, world := () } trap = .ok { hart := _, world := () } :=
    take_trap_of_ready hready rfl
  -- The trap is not seen by the context, and not by the boot either.
  have hmode' : (context.resumeFrom 3 0 0x4000 (context.captureInto frame)).mode = .user := by
    simp only [Hart.resumeFrom, hmode]
  have hplan : symbols.plan?
      (context.resumeFrom 3 0 0x4000 (context.captureInto frame)).csr.mhartid =
        .ok (some (symbols.secondaryPlan 1 0x801f0000 0x80400230)) := by
    simp only [Hart.resumeFrom, hcsr]
    decide
  generalize context.resumeFrom 3 0 0x4000 (context.captureInto frame) = resumed at *
  have hplan' : symbols.plan? (mk resumed ()).hart.csr.mhartid = _ := hplan
  have hboot := take_boot_of_plan hplan' #[]
  have hswitched :
      begun.live [.perform 0x80400000 frame .switchTo, trap] = .ok (mk resumed ()) := by
    rw [live_cons hswitch, live_cons htrap]
    rfl
  obtain ⟨booted, hbooted⟩ : ∃ booted,
      begun.live [.perform 0x80400000 frame .switchTo, trap, .boot symbols #[]] = .ok booted := by
    rw [live_cons hswitch, live_cons htrap, live_cons hboot]
    exact ⟨_, rfl⟩
  obtain ⟨hsettled, hcalls⟩ := live_settled hid hswitched
  obtain ⟨hsettled', -⟩ := live_settled hid hbooted
  refine ⟨hid, _, booted, hswitched, hbooted, hsettled.float, hsettled'.float, hsettled'.mie, ?_⟩
  intro call hcall
  rw [(hcalls trap call hcall).mpp, hmode']

end Running

end HartKernel
