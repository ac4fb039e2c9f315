import HartKernel.Proofs.Hart.StatusWords
import Mathlib.Logic.Function.Iterate

/-!
# The status word over traps in a row

A trap goes into the status word and comes out of it again: the entry moves MIE to MPIE and puts the
interrupted mode into MPP (`Mstatus.Entered`), the return sets MPIE, clears MPP and gives MIE back
(`Mstatus.Left`). Nothing is assumed of the word, so that bits without a name and a reserved MPP are
among what is told.

One trap is `Running.take_arrival` and a row of them `Running.live_arrivals`: the word is rewritten
once for each trap. But what one trap rewrites no later trap rewrites again
(`Mstatus.iterate_afterTrap`), and so a row of traps leaves the word that the first of them has left
(`Running.traps_in_a_row`).
-/

namespace HartKernel

variable {σ : Type}

/-- The handler never panics. -/
def Handler.Answers (handler : Handler σ) : Prop :=
  ∀ info frame world, ∃ resume, (handler info frame world).resume = .ok resume

/-- A trap that is to arrive at a hart, the frame as the hart then finds it, and the handler. -/
structure Arrival (σ : Type) where
  cause : Word
  tval : Word
  frame : Frame
  handler : Handler σ

/-- The turn in which a hart takes the trap into the frame at an address. -/
def Arrival.turn (arrival : Arrival σ) (address : Word) : Turn σ :=
  .perform address arrival.frame (.trap arrival.cause arrival.tval arrival.handler)

namespace Mstatus

/-- A status word before a trap and after the return from it. -/
structure Left (before after : Mstatus) : Prop where
  mpie : Flags.contains after Mstatus.mpie = true
  mppLow : after.getLsbD 11 = false
  mppHigh : after.getLsbD 12 = false
  rest : ∀ i, i ∉ [7, 11, 12] → after.getLsbD i = before.getLsbD i

theorem left_afterTrap (status : Mstatus) : Left status status.afterTrap := by
  refine ⟨?_, ?_, ?_, ?_⟩
  · rw [mpie_eq_twoPow, Flags.contains_twoPow _ (by omega), getLsbD_afterTrap]
    rfl
  · rw [getLsbD_afterTrap, getLsbD_setMpp]
    rfl
  · rw [getLsbD_afterTrap, getLsbD_setMpp]
    rfl
  · intro i hi
    simp only [List.mem_cons, List.not_mem_nil, or_false, not_or] at hi
    obtain ⟨h7, h11, h12⟩ := hi
    rw [getLsbD_afterTrap, getLsbD_setMpp, if_neg h7, if_neg h11, if_neg h12]

/-- Any number of traps rewrites the word like one. -/
theorem iterate_afterTrap (n : Nat) (status : Mstatus) :
    afterTrap^[n + 1] status = status.afterTrap := by
  induction n with
  | zero => rfl
  | succ n ih => rw [Function.iterate_succ_apply', ih, afterTrap_afterTrap]

end Mstatus

namespace Running

variable {running : Running σ} {address : Word}

/-- What a row of traps leaves of a hart. -/
structure Trapped (address : Word) (count : Nat) (before after : Hart) : Prop where
  ready : after.Ready address
  mode : after.mode = before.mode
  status : after.csr.mstatus = Mstatus.afterTrap^[count] before.csr.mstatus

theorem reply_eq_of_resume {reply : Reply Frame σ} {resume : Word} (h : reply.resume = .ok resume) :
    reply = { resume := .ok resume, frame := reply.frame, world := reply.world } := by
  rw [← h]

section

variable [KernelImage]

/-- **One trap.** -/
theorem take_arrival (h : running.hart.Ready address) {arrival : Arrival σ}
    (hanswers : arrival.handler.Answers) :
    ∃ next, running.take (arrival.turn address) = .ok next ∧
      Trapped address 1 running.hart next.hart := by
  obtain ⟨resume, hresume⟩ := hanswers (running.hart.infoOfTrap arrival.cause arrival.tval)
    (running.hart.captureInto arrival.frame) running.world
  have htake := take_trap_of_ready h (reply_eq_of_resume hresume)
  refine ⟨_, htake, ?_, ?_, ?_⟩
  · simp only [Hart.resumeFrom]
    exact ⟨h.vector, h.scratch, h.id⟩
  · simp only [Hart.resumeFrom]
  · simp only [Hart.resumeFrom, Function.iterate_one]

/-- **A row of traps.** -/
theorem live_arrivals (h : running.hart.Ready address) {arrivals : List (Arrival σ)}
    (hanswers : ∀ arrival ∈ arrivals, arrival.handler.Answers) :
    ∃ after, running.live (arrivals.map (·.turn address)) = .ok after ∧
      Trapped address arrivals.length running.hart after.hart := by
  induction arrivals generalizing running with
  | nil => exact ⟨running, rfl, h, rfl, rfl⟩
  | cons arrival rest ih =>
    obtain ⟨next, htake, hone⟩ := take_arrival h (hanswers arrival List.mem_cons_self)
    obtain ⟨after, hlive, hrest⟩ :=
      ih hone.ready fun other hother => hanswers other (List.mem_cons_of_mem _ hother)
    refine ⟨after, ?_, hrest.ready, hrest.mode.trans hone.mode, ?_⟩
    · rw [List.map_cons, live_cons htake, hlive]
    · rw [hrest.status, hone.status]
      rfl

/-- A hart that is ready calls its handler once, and tells it what `infoOfTrap` and `captureInto`
tell. -/
theorem calls_arrival (h : running.hart.Ready address) (arrival : Arrival σ) :
    running.calls (arrival.turn address) =
      [{ info := running.hart.infoOfTrap arrival.cause arrival.tval
         frame := running.hart.captureInto arrival.frame }] := by
  simp only [Arrival.turn, calls, Routine.perform, Routine.observe, Hart.takeTrap_of_ready h,
    Hart.concludeTrap, Handler.noting]
  cases (arrival.handler (running.hart.infoOfTrap arrival.cause arrival.tval)
    (running.hart.captureInto arrival.frame) running.world).resume with
  | ok resume => rfl
  | error panic => rfl

/-- **Traps in a row rewrite the status word once.** Whatever word a hart runs with, and whatever
mode it runs in, the handler of a trap finds MIE in MPIE and the mode in MPP and everything else as
it was. If no handler panics, one trap leaves MPIE set and MPP zero and the rest as it was, and any
number of traps after it leaves the same word again. The mode is back each time. -/
theorem traps_in_a_row (h : running.hart.Ready address) (first : Arrival σ)
    (rest : List (Arrival σ)) :
    (∃ info saved, running.calls (first.turn address) = [{ info, frame := saved }] ∧
      Mstatus.Entered running.hart.csr.mstatus running.hart.mode info.status) ∧
    ((∀ arrival ∈ first :: rest, arrival.handler.Answers) →
      ∃ one all,
        running.live [first.turn address] = .ok one ∧
        Mstatus.Left running.hart.csr.mstatus one.hart.csr.mstatus ∧
        one.hart.mode = running.hart.mode ∧
        running.live ((first :: rest).map (·.turn address)) = .ok all ∧
        all.hart.csr.mstatus = one.hart.csr.mstatus ∧
        all.hart.mode = running.hart.mode) := by
  refine ⟨⟨_, _, calls_arrival h first, Mstatus.entered_inTrap ..⟩, ?_⟩
  intro hanswers
  obtain ⟨one, htake, hone⟩ := take_arrival h (hanswers first List.mem_cons_self)
  obtain ⟨all, hlive, hall⟩ := live_arrivals h hanswers
  have hstatus : one.hart.csr.mstatus = running.hart.csr.mstatus.afterTrap := hone.status
  refine ⟨one, all, ?_, ?_, hone.mode, hlive, ?_, hall.mode⟩
  · rw [live_cons htake]
    rfl
  · rw [hstatus]
    exact Mstatus.left_afterTrap _
  · rw [hall.status, hstatus]
    exact Mstatus.iterate_afterTrap rest.length _

end

open KernelImage in
/-- A breakpoint and then two interrupts at a hart whose status word has every bit but one, so that
its MPP is reserved. The handler counts its calls and writes the count into the frame. -/
theorem traps_in_a_row_reserved :
    let word : Mstatus := 0xfffffffffffff7ff
    let hart : Hart :=
      { Hart.reset 2 with
        mode := .supervisor
        csr :=
          { (Hart.reset 2).csr with
            mstatus := word, mtvec := vectorAddress, mscratch := 0x80400460 } }
    let handler : Handler Nat := fun info frame count =>
      { resume := .ok (info.epc + 4)
        frame := frame.setResult (.ofNat 64 count)
        world := count + 1 }
    let arrival (cause : Word) : Arrival Nat := { cause, tval := 0, frame := .zeroed, handler }
    let running : Running Nat := { hart, world := 0 }
    let interrupt := arrival (Cause.interruptFlag ||| Cause.machineTimer)
    Mstatus.mpp? word = none ∧ hart.Ready 0x80400460 ∧ handler.Answers ∧
      (∃ info saved, running.calls ((arrival 3).turn 0x80400460) = [{ info, frame := saved }] ∧
        Mstatus.mpp? info.status = some .supervisor) ∧
      ∃ all, running.live ([arrival 3, interrupt, interrupt].map (·.turn 0x80400460)) = .ok all ∧
        all.hart.csr.mstatus.getLsbD 12 = false ∧ all.hart.csr.mstatus.getLsbD 63 = true := by
  intro word hart handler arrival running interrupt
  have hready : running.hart.Ready 0x80400460 := ⟨rfl, rfl, by decide⟩
  have hanswers : handler.Answers := fun info _ _ => ⟨info.epc + 4, rfl⟩
  obtain ⟨⟨info, saved, hcalls, hentered⟩, hrow⟩ :=
    traps_in_a_row hready (arrival 3) [interrupt, interrupt]
  have hall : ∀ each ∈ [arrival 3, interrupt, interrupt], each.handler.Answers := by
    simp only [List.forall_mem_cons, List.not_mem_nil, false_imp_iff, implies_true, and_true]
    exact ⟨hanswers, hanswers, hanswers⟩
  obtain ⟨one, all, -, hleft, -, hlive, hsame, -⟩ := hrow hall
  refine ⟨by decide, hready, hanswers, ⟨info, saved, hcalls, hentered.mpp⟩, all, hlive, ?_, ?_⟩
  · rw [hsame, hleft.mppHigh]
  · rw [hsame, hleft.rest 63 (by decide)]
    decide

end Running

end HartKernel
