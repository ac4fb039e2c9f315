import HartKernel.Proofs.Hart.Routine
import HartKernel.Proofs.Hart.TrapContract
import Mathlib.Data.Fintype.Basic
import Mathlib.Tactic.FinCases

/-!
# The contract of a system call

A caller puts the number of a system call into `a0` and its arguments into the registers after it,
and the call moves them to where the handler looks for them, one register at a time. No argument is
overwritten before it has been moved (`read_shiftArguments`), so that the handler finds all of them
in order. Then the trap takes its course, and whatever the handler leaves in the frame is what the
caller gets, with the result in `a0`.

`systemCall_contract` is the whole way there and back. A handler that writes a result and nothing
else is not noticed in any register beyond those that pass arguments.
-/

namespace HartKernel

/-- The registers that a caller passes the number and the arguments of a system call in, in this
order. -/
def Register.argument (i : Fin 7) : Register :=
  ⟨10 + i.val, by omega⟩

/-- The handler looks for each argument one register before the caller put it. -/
theorem Frame.argumentRegisters_eq (i : Fin 6) :
    Frame.argumentRegisters[i] = Register.argument i.castSucc := by
  revert i
  decide

theorem Cause.isCall_callFrom (mode : Privilege) :
    (Cause.ofWord (Cause.callFrom mode)).isCall = true := by
  cases mode <;> decide

namespace Hart

variable {σ : Type}

/-! ### The arguments on their way -/

theorem read_copy (hart : Hart) {target : Register} (h : target ≠ Register.zero)
    (source r : Register) :
    (hart.copy target source).read r = if target = r then hart.read source else hart.read r := by
  rw [copy, read_write]
  simp [h]

theorem read_placeArguments_number (hart : Hart) (number : Word) (args : Vector Word 6) :
    (hart.placeArguments number args).read Register.a0 = number := by
  simp +decide [placeArguments, read_write]

theorem read_placeArguments (hart : Hart) (number : Word) (args : Vector Word 6) (i : Fin 6) :
    (hart.placeArguments number args).read (Register.argument i.succ) = args[i] := by
  fin_cases i <;> simp +decide [placeArguments, read_write, Register.argument]

theorem read_shiftArguments_number (hart : Hart) :
    hart.shiftArguments.read Register.a7 = hart.read Register.a0 := by
  simp +decide [shiftArguments, read_copy]

/-- Each register is read before it is written. -/
theorem read_shiftArguments (hart : Hart) (i : Fin 6) :
    hart.shiftArguments.read (Register.argument i.castSucc) =
      hart.read (Register.argument i.succ) := by
  fin_cases i <;> simp +decide [shiftArguments, read_copy, Register.argument]

/-- The register of the last argument keeps it. -/
theorem read_shiftArguments_last (hart : Hart) :
    hart.shiftArguments.read Register.a6 = hart.read Register.a6 := by
  simp +decide [shiftArguments, read_copy]

/-! ### What the handler is given, and what the caller gets back -/

/-- What the handler of a system call is told and what it finds in the frame. -/
structure Delivers (caller : Hart) (number : Word) (args : Vector Word 6) (info : TrapInfo)
    (saved : Frame) : Prop where
  cause : info.cause = Cause.callFrom caller.mode
  isCall : (Cause.ofWord info.cause).isCall = true
  tval : info.tval = 0
  epc : info.epc = caller.pc
  callNumber : saved.callNumber = number
  callArgs : saved.callArgs = args
  last : saved.regs[Register.a6] = args[Fin.last 5]
  others : ∀ r, r < Register.a0 ∨ Register.a7 < r → saved.regs[r] = caller.read r

/-- What the caller of a system call finds, given the frame that the handler left. -/
structure Returns (caller : Hart) (left : Frame) (after : Hart) : Prop where
  /-- The address that the handler answered with plays no part. -/
  pc : after.pc = left.regs[Register.ra]
  mode : after.mode = caller.mode
  regs : ∀ r : Register, r ≠ Register.zero → after.x[r] = left.regs[r]

/-- A hart on which a caller's system call is about to trap. -/
structure Prepared (caller : Hart) (number : Word) (args : Vector Word 6) (prepared : Hart) :
    Prop extends SameButArguments caller prepared where
  readNumber : prepared.read Frame.numberRegister = number
  readArgument : ∀ i : Fin 6, prepared.read Frame.argumentRegisters[i] = args[i]
  readLast : prepared.read Register.a6 = args[Fin.last 5]

theorem prepared_shiftArguments (hart : Hart) (number : Word) (args : Vector Word 6) :
    hart.Prepared number args (hart.placeArguments number args).shiftArguments := by
  refine ⟨sameButArguments_prepareCall hart number args, ?_, ?_, ?_⟩
  · rw [read_shiftArguments_number, read_placeArguments_number]
  · intro i
    rw [Frame.argumentRegisters_eq, read_shiftArguments, read_placeArguments]
  · rw [read_shiftArguments_last]
    exact read_placeArguments hart number args (Fin.last 5)

theorem regs_captureInto (hart : Hart) (frame : Frame) (r : Register) :
    (hart.captureInto frame).regs[r] = hart.read r := by
  simp [captureInto]

theorem delivers_captureInto {caller prepared : Hart} {number : Word} {args : Vector Word 6}
    (h : caller.Prepared number args prepared) (frame : Frame) :
    caller.Delivers number args (prepared.infoOfTrap (Cause.callFrom prepared.mode) 0)
      (prepared.captureInto frame) := by
  refine ⟨?_, ?_, rfl, h.pc, ?_, ?_, ?_, ?_⟩
  · rw [← h.mode]
    rfl
  · exact Cause.isCall_callFrom prepared.mode
  · rw [Frame.callNumber, regs_captureInto]
    exact h.readNumber
  · apply Vector.ext
    intro i hi
    rw [Frame.callArgs, Vector.getElem_map, regs_captureInto]
    exact h.readArgument ⟨i, hi⟩
  · rw [regs_captureInto]
    exact h.readLast
  · intro r hr
    rw [regs_captureInto]
    exact h.read r hr

/-- The caller goes on at its return address, with the registers of the frame. -/
theorem returns_returnToCaller {caller prepared returned : Hart} {cause tval resume : Word}
    {left : Frame} (h : prepared.ResumesWith cause tval resume left returned)
    (hmode : prepared.mode = caller.mode) : caller.Returns left returned.returnToCaller := by
  refine ⟨?_, h.mode.trans hmode, h.regs⟩
  have hpc : returned.returnToCaller.pc = returned.read Register.ra := rfl
  rw [hpc, read, if_neg (by decide), h.regs Register.ra (by decide)]

/-- A handler that only writes a result changes no register but those that pass arguments. -/
theorem read_of_setResult {caller after : Hart} {number : Word} {args : Vector Word 6}
    {info : TrapInfo} {saved : Frame} {value : Word}
    (hgiven : caller.Delivers number args info saved)
    (hafter : caller.Returns (saved.setResult value) after) {r : Register}
    (hr : r < Register.a0 ∨ Register.a7 < r) : after.read r = caller.read r := by
  by_cases hzero : r = Register.zero
  · rw [read, if_pos hzero, read, if_pos hzero]
  · have hne : r ≠ Frame.resultRegister := by
      rintro rfl
      revert hr
      decide
    rw [read, if_neg hzero, hafter.regs r hzero, Frame.regs_setResult, if_neg hne,
      hgiven.others r hr]

/-- Nor does it change the floating-point registers, which go to the frame and back or stay. -/
theorem f_of_setResult {prepared returned : Hart} {cause tval resume value : Word}
    {frame saved : Frame} (hsaved : prepared.Captures frame saved)
    (h : prepared.ResumesWith cause tval resume (saved.setResult value) returned) :
    returned.f = prepared.f := by
  by_cases hdirty : prepared.csr.mstatus.floatStatus = .dirty
  · rw [h.dirty hdirty]
    exact hsaved.dirty hdirty
  · exact h.live hdirty

section

variable [KernelImage]

/-- **The closed form of a system call** whose handler answers. -/
theorem systemCall_of_answer {hart : Hart} {address : Word} (h : hart.Ready address)
    (number : Word) (args : Vector Word 6) {frame left : Frame} {handler : Handler σ}
    {world next : σ} {resume : Word} :
    let prepared := (hart.placeArguments number args).shiftArguments
    let cause := Cause.callFrom prepared.mode
    handler (prepared.infoOfTrap cause 0) (prepared.captureInto frame) world =
        { resume := .ok resume, frame := left, world := next } →
      hart.systemCall number args address frame handler world =
        { result := .ok left.regs[Register.a0]
          hart := (prepared.resumeFrom cause 0 resume left).returnToCaller
          frame := left
          world := next } := by
  intro prepared cause hanswer
  have hready : prepared.Ready address :=
    h.of_csr_eq (sameButArguments_prepareCall hart number args).csr
  have htrap : prepared.takeTrap cause 0 address frame handler world =
      { result := .ok (prepared.infoOfTrap cause 0)
        hart := prepared.resumeFrom cause 0 resume left
        frame := left
        world := next } := by
    rw [takeTrap_of_ready hready, hanswer]
    rfl
  have hresult : (prepared.resumeFrom cause 0 resume left).read Register.a0 =
      left.regs[Register.a0] := by
    have hread : (prepared.resumeFrom cause 0 resume left).read Register.a0 =
        (prepared.restore left.regs).read Register.a0 := rfl
    rw [hread, read_restore, if_neg (by decide)]
  unfold systemCall
  dsimp only
  rw [htrap, ← hresult]

/-- **The closed form of a system call** whose handler panics. -/
theorem systemCall_of_panic {hart : Hart} {address : Word} (h : hart.Ready address)
    (number : Word) (args : Vector Word 6) {frame left : Frame} {handler : Handler σ}
    {world next : σ} {panic : Panic} :
    let prepared := (hart.placeArguments number args).shiftArguments
    let cause := Cause.callFrom prepared.mode
    handler (prepared.infoOfTrap cause 0) (prepared.captureInto frame) world =
        { resume := .error panic, frame := left, world := next } →
      hart.systemCall number args address frame handler world =
        { result := .error (.panicked panic)
          hart := prepared.inHandler cause 0
          frame := left
          world := next } := by
  intro prepared cause hpanic
  have hready : prepared.Ready address :=
    h.of_csr_eq (sameButArguments_prepareCall hart number args).csr
  have htrap : prepared.takeTrap cause 0 address frame handler world =
      { result := .error (.panicked panic)
        hart := prepared.inHandler cause 0
        frame := left
        world := next } := by
    rw [takeTrap_of_ready hready, hpanic]
    rfl
  unfold systemCall
  dsimp only
  rw [htrap]

/-- What a handler's reply makes of a system call. A handler that writes a result and nothing else
lets the caller go on at its return address, and beyond the registers that pass arguments the caller
finds what it left. -/
theorem systemCall_by_reply {hart : Hart} {address : Word} (h : hart.Ready address)
    (number : Word) (args : Vector Word 6) (frame : Frame) (handler : Handler σ) (world : σ) :
    ∃ info saved, hart.Delivers number args info saved ∧
      (∀ resume value next,
        handler info saved world =
            { resume := .ok resume, frame := saved.setResult value, world := next } →
          ∃ after,
            hart.systemCall number args address frame handler world =
              { result := .ok value
                hart := after
                frame := saved.setResult value
                world := next } ∧
            after.pc = hart.read Register.ra ∧
            ∀ r, r < Register.a0 ∨ Register.a7 < r → after.read r = hart.read r) ∧
      ∀ panic left next,
        handler info saved world = { resume := .error panic, frame := left, world := next } →
          ∃ after, hart.systemCall number args address frame handler world =
            { result := .error (.panicked panic)
              hart := after
              frame := left
              world := next } := by
  set prepared := (hart.placeArguments number args).shiftArguments
  set saved := prepared.captureInto frame
  have hprepared : hart.Prepared number args prepared := prepared_shiftArguments hart number args
  have hgiven := delivers_captureInto hprepared frame
  refine ⟨_, saved, hgiven, ?_, ?_⟩
  · intro resume value next hanswer
    have hcall := systemCall_of_answer h number args hanswer
    rw [Frame.regs_setResult, if_pos rfl] at hcall
    have hresumes := resumesWith_resumeFrom prepared (Cause.callFrom prepared.mode) 0 resume
      (saved.setResult value)
    have hreturns : hart.Returns (saved.setResult value) _ :=
      returns_returnToCaller hresumes hprepared.mode
    have hread (r : Register) (hr : r < Register.a0 ∨ Register.a7 < r) :=
      read_of_setResult hgiven hreturns hr
    refine ⟨_, hcall, ?_, hread⟩
    rw [hreturns.pc, ← hreturns.regs Register.ra (by decide)]
    exact hread Register.ra (by decide)
  · intro panic left next hpanic
    exact ⟨_, systemCall_of_panic h number args hpanic⟩

/-- **The contract of a system call.** On a hart that is ready the call returns, whatever its mode,
its registers and its status word. The handler is called once, with the number and all arguments
where it looks for them and with the registers of the caller beyond those. The caller gets what the
handler leaves in the frame; if that is a result and nothing else, all other registers are as they
were before the call. -/
theorem systemCall_contract {hart : Hart} {address : Word} (h : hart.Ready address)
    (number : Word) (args : Vector Word 6) (frame : Frame) (f : TrapInfo → Frame → Word × Frame)
    (calls : List (TrapInfo × Frame)) :
    ∃ info saved left after,
      left = (f info saved).2 ∧
      hart.systemCall number args address frame (.logged f) calls =
        { result := .ok left.regs[Register.a0]
          hart := after
          frame := left
          world := calls ++ [(info, saved)] } ∧
      hart.Delivers number args info saved ∧
      hart.Returns left after ∧
      ∀ value, left = saved.setResult value →
        after.f = hart.f ∧
        ∀ r, r < Register.a0 ∨ Register.a7 < r → after.read r = hart.read r := by
  set prepared := (hart.placeArguments number args).shiftArguments
  set info := prepared.infoOfTrap (Cause.callFrom prepared.mode) 0
  set saved := prepared.captureInto frame
  set returned := prepared.resumeFrom (Cause.callFrom prepared.mode) 0 (f info saved).1
    (f info saved).2
  have hprepared : hart.Prepared number args prepared := prepared_shiftArguments hart number args
  have hgiven : hart.Delivers number args info saved := delivers_captureInto hprepared frame
  have hreturned : prepared.ResumesWith (Cause.callFrom prepared.mode) 0 (f info saved).1
      (f info saved).2 returned := resumesWith_resumeFrom ..
  have hafter : hart.Returns (f info saved).2 returned.returnToCaller :=
    returns_returnToCaller hreturned hprepared.mode
  refine ⟨info, saved, (f info saved).2, returned.returnToCaller, rfl,
    systemCall_of_answer h number args rfl, hgiven, hafter, ?_⟩
  intro value hvalue
  rw [hvalue] at hafter hreturned
  have hkept : returned.f = prepared.f :=
    f_of_setResult (captures_captureInto prepared frame) hreturned
  constructor
  · exact hkept.trans hprepared.f
  · intro r hr
    exact read_of_setResult hgiven hafter hr

end

open KernelImage in
/-- A call from supervisor mode with a number and three arguments that are not zero. The handler's
result is what the call returns, and the caller goes on at its return address and not where the
handler said. -/
theorem systemCall_contract_supervisor :
    let hart : Hart :=
      { (Hart.reset 1).activate 0x80400000 with
        x := RegisterFile.zeroed.set Register.ra 0x80001234
        mode := .supervisor
        pc := 0x80003000 }
    let args : Vector Word 6 := #v[10, 20, 30, 0, 0, 0]
    hart.Ready 0x80400000 ∧
      ∃ info saved after,
        hart.systemCall 5 args 0x80400000 .zeroed
            (.logged fun info frame => (info.epc + 4, frame.setResult 0x55)) [] =
          { result := .ok 0x55
            hart := after
            frame := saved.setResult 0x55
            world := [(info, saved)] } ∧
        info.cause = Cause.callFromSupervisor ∧ saved.callNumber = 5 ∧ saved.callArgs = args ∧
        after.pc = 0x80001234 ∧ after.read Register.ra = 0x80001234 ∧ after.mode = .supervisor := by
  intro hart args
  have hready : hart.Ready 0x80400000 := ⟨rfl, rfl, by decide⟩
  obtain ⟨info, saved, left, after, hleft, hcall, hgiven, hafter, hkept⟩ :=
    systemCall_contract hready 5 args .zeroed
      (fun info frame => (info.epc + 4, frame.setResult 0x55)) []
  have hresult : left.regs[Register.a0] = 0x55 := by
    rw [hleft, Frame.regs_setResult, if_pos rfl]
  obtain ⟨-, hread⟩ := hkept 0x55 hleft
  have hra : after.read Register.ra = 0x80001234 := hread Register.ra (by decide)
  have hpc : after.pc = 0x80001234 := by
    rw [hafter.pc, ← hafter.regs Register.ra (by decide)]
    exact hra
  rw [hresult, hleft] at hcall
  exact ⟨hready, info, saved, after, hcall, hgiven.cause, hgiven.callNumber, hgiven.callArgs, hpc,
    hra, hafter.mode⟩

end Hart

end HartKernel
