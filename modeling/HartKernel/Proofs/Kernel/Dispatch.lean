import HartKernel.Proofs.Kernel.Interrupts
import HartKernel.Proofs.Trap.Cause
import HartKernel.Proofs.Trap.DumpText
import HartKernel.Proofs.Trap.History

/-!
# What the kernel makes of a trap

The handler has an answer to five of the `2 ^ 64` cause words (`Kernel.handledCauses`). The cause
alone decides which way a trap goes: an interrupt is served (`handleTrap_interrupt`), a system call
is answered (`handleTrap_call`), and nothing else comes back (`handleTrap_unhandled`). All three act
on the world in which the trap is already recorded and traced (`World.traced`).

`Kernel.handleTrap_by_cause` says what each of them does to the resume address, to the frame and to
the devices.
-/

namespace HartKernel

open Numeral

namespace Kernel

variable {info : TrapInfo}

/-! ### One lemma for each way -/

/-- The cause words that the handler has an answer to. -/
def handledCauses : List Word :=
  [Cause.interruptFlag ||| Cause.machineSoft, Cause.interruptFlag ||| Cause.machineTimer,
    Cause.callFromUser, Cause.callFromSupervisor, Cause.callFromMachine]

/-- No code is handled both as an interrupt and as an exception. -/
theorem flip_notMem_handledCauses {mcause : Word}
    (h : mcause ^^^ Cause.interruptFlag ∈ handledCauses) : mcause ∉ handledCauses := by
  have hflip : ∀ handled ∈ handledCauses, handled ^^^ Cause.interruptFlag ∉ handledCauses := by
    simp [handledCauses]
  have hback : mcause ^^^ Cause.interruptFlag ^^^ Cause.interruptFlag = mcause := by
    rw [BitVec.xor_assoc, BitVec.xor_self, BitVec.xor_zero]
  rw [← hback]
  exact hflip _ h

theorem handleTrap_call (h : info.cause ∈ Cause.calls) (frame : Frame) (world : World) :
    handleTrap info (some frame) world = answerCall info frame (world.traced info) := by
  have hcall : (Cause.ofWord info.cause).isCall = true := Cause.isCall_ofWord_iff.mpr h
  have hexception : (Cause.ofWord info.cause).interrupt = false := by
    rw [Cause.isCall, Bool.and_eq_true, Bool.not_eq_true'] at hcall
    exact hcall.1
  simp only [handleTrap, hexception, hcall, Bool.false_eq_true, if_false]
  rfl

theorem handleTrap_unhandled (h : info.cause ∉ handledCauses) (frame : Option Frame)
    (world : World) : handleTrap info frame world = unhandled info frame (world.traced info) := by
  simp only [handledCauses, List.mem_cons, List.not_mem_nil, or_false, not_or] at h
  obtain ⟨hsoft, htimer, hcalls⟩ := h
  cases hinterrupt : (Cause.ofWord info.cause).interrupt with
  | true =>
    -- The code of an interrupt is all that is left to tell it from the two that are served.
    have hword := Cause.eq_interruptFlag_or hinterrupt
    have hcode : (Cause.ofWord info.cause).code ≠ Cause.machineSoft := by
      intro hcode
      rw [hcode] at hword
      exact hsoft hword
    have hcode' : (Cause.ofWord info.cause).code ≠ Cause.machineTimer := by
      intro hcode'
      rw [hcode'] at hword
      exact htimer hword
    simp only [handleTrap, hinterrupt, if_true, handleInterrupt, if_neg hcode, if_neg hcode']
    rfl
  | false =>
    have hcall : (Cause.ofWord info.cause).isCall = false := by
      rw [← Bool.not_eq_true, Cause.isCall_ofWord_iff]
      simp only [Cause.calls, List.mem_cons, List.not_mem_nil, or_false, not_or]
      exact hcalls
    simp only [handleTrap, hinterrupt, hcall, Bool.false_eq_true, if_false]
    rfl

/-! ### What a system call is answered -/

/-- A frame before and after a system call of a hart has been answered. -/
structure Answered (hart : Word) (before after : Frame) : Prop where
  yields : before.regs[Register.a7] = 1 → after.regs[Register.a0] = 0
  names : before.regs[Register.a7] = 2 → after.regs[Register.a0] = hart
  refuses : before.regs[Register.a7] ≠ 1 → before.regs[Register.a7] ≠ 2 →
    after.regs[Register.a0].toNat = 2 ^ 64 - 38
  otherRegisters : ∀ r : Register, r ≠ Register.a0 → after.regs[r] = before.regs[r]
  otherFields : after = { before with regs := after.regs }

theorem answered_setResult (hart : Word) (frame : Frame) :
    Answered hart frame (frame.setResult (callResult frame.callNumber hart)) := by
  have hresult := frame.regs_setResult (callResult frame.callNumber hart)
  have ha0 := hresult Register.a0
  rw [if_pos rfl] at ha0
  refine ⟨?_, ?_, ?_, ?_, rfl⟩
  · intro hyield
    rw [ha0, callResult, Frame.callNumber, hyield, if_pos rfl]
  · intro hname
    rw [ha0, callResult, Frame.callNumber, hname, if_neg (by decide), if_pos rfl]
  · intro hyield hname
    rw [ha0, callResult, Frame.callNumber, if_neg hyield, if_neg hname]
    rfl
  · intro r hr
    rw [hresult, if_neg hr]

theorem checkedAdd_eq_error_of_le {a b : Word} (h : 2 ^ 64 ≤ a.toNat + b.toNat) :
    checkedAdd a b = .error .addOverflow :=
  if_pos (decide_eq_true h)

/-- The instruction after a call has an address unless the call is in the last four bytes. -/
theorem mapError_checkedAdd_four (epc : Word) :
    (checkedAdd epc 4).mapError Panic.fault =
      if epc.toNat ≤ 2 ^ 64 - 5 then .ok (epc + 4) else .error (.fault .addOverflow) := by
  have hfour : (4 : Word).toNat = 4 := rfl
  split
  · next h =>
    have hsum : checkedAdd epc 4 = .ok (epc + 4) := by
      rw [checkedAdd_eq_ok_iff, BitVec.toNat_add]
      omega
    rw [hsum]
    rfl
  · next h =>
    rw [checkedAdd_eq_error_of_le (by omega)]
    rfl

/-! ### Every trap -/

/-- The text of the line that traces a trap. -/
def traceText (info : TrapInfo) : String :=
  "[TRACE trap] hart" ++ decimal info.hart ++ " " ++ causeName info.cause ++
    " epc=0x" ++ hex info.epc ++ "\n"

theorem text_traceLine (info : TrapInfo) : (traceLine info).text = traceText info := by
  unfold traceLine traceText
  simp only [Pieces.text_cons, Pieces.text_nil, String.append_empty, String.append_assoc,
    TrapInfo.causeName]

theorem isLine_traceText (info : TrapInfo) : IsLine (traceText info) :=
  ⟨_, rfl, by simp⟩

/-- What is printed about a trap that nothing handles: which cause it has, and its dump. -/
def unhandledText (info : TrapInfo) (frame : Frame) : String :=
  "TRAP: unhandled " ++ causeName info.cause ++ " (mcause=0x" ++ hex info.cause ++ ")\n" ++
    info.dumpText frame

theorem printUnhandled_eq_print (info : TrapInfo) (frame : Frame) (world : World) :
    printUnhandled info (some frame) world =
      world.print (unhandledLine info ++ info.dump frame) := by
  rw [← World.print_print]
  exact World.write_eq_print (info.spells_writeDump frame) _

theorem text_unhandled (info : TrapInfo) (frame : Frame) :
    (unhandledLine info ++ info.dump frame).text = unhandledText info frame := by
  unfold unhandledLine unhandledText
  rw [Pieces.text_append, TrapInfo.text_dump]
  simp only [Pieces.text_cons, Pieces.text_nil, String.append_empty, String.append_assoc,
    TrapInfo.causeName]

/-- What the handler makes of a trap that finds the clock at `mtime`: where it resumes, how it
leaves the frame, and which stores it makes. -/
inductive Handling (info : TrapInfo) (frame : Frame) (mtime : Word) :
    Except Panic Word → Frame → List Store → Prop where
  | soft (h : info.cause = Cause.interruptFlag ||| Cause.machineSoft) :
    Handling info frame mtime (.ok info.epc) frame
      [{ width := .word, address := Clint.base + info.hart * 4, value := 0 }]
  | timer (h : info.cause = Cause.interruptFlag ||| Cause.machineTimer) :
    Handling info frame mtime (.ok info.epc) frame
      [{ width := .double
         address := Clint.base + Clint.deadlineOffset + info.hart * 8
         value := mtime + Clint.ticksPerSecond / 100 }]
  /-- The answer is in the frame even if there is no address to resume at. -/
  | call (h : info.cause ∈ Cause.calls) {after : Frame}
    (hanswered : Answered info.hart frame after) :
    Handling info frame mtime
      (if info.epc.toNat ≤ 2 ^ 64 - 5 then .ok (info.epc + 4) else .error (.fault .addOverflow))
      after []
  | other (h : info.cause ∉ handledCauses) :
    Handling info frame mtime (.error (.unhandledTrap info.cause info.hart)) frame
      (Uart.transmit Uart.base (Uart.encode (unhandledText info frame)))

namespace Handling

variable {frame after : Frame} {mtime : Word} {resume : Except Panic Word} {made : List Store}

/-- A handled code with the other top bit ends in a panic. -/
theorem resume_of_flip (h : Handling info frame mtime resume after made)
    (hflip : info.cause ^^^ Cause.interruptFlag ∈ handledCauses) :
    resume = .error (.unhandledTrap info.cause info.hart) := by
  have hcause := flip_notMem_handledCauses hflip
  simp only [handledCauses, List.mem_cons, List.not_mem_nil, or_false, not_or] at hcause
  cases h with
  | soft h => exact absurd h hcause.1
  | timer h => exact absurd h hcause.2.1
  | call h =>
    simp only [Cause.calls, List.mem_cons, List.not_mem_nil, or_false] at h
    exact absurd h (by simpa using hcause.2.2)
  | other => rfl

/-- Of all registers of the controller only those of this hart are written, and only to serve an
interrupt. -/
theorem eq_of_owns (h : Handling info frame mtime resume after made)
    (hid : info.hart.toNat < maxHarts) {store : Store} (hstore : store ∈ made) {raw : Word}
    {byte : Nat} (hraw : raw.toNat < Clint.hartLimit) (hbyte : store.Touches byte)
    (howner : Clint.Owns raw byte) :
    raw = info.hart ∧ ∃ interrupt : Interrupt, info.cause = interrupt.cause := by
  have hlimit := Clint.lt_hartLimit hid
  cases h with
  | soft h =>
    obtain rfl := List.mem_singleton.mp hstore
    have hown := Clint.owns_of_acknowledge (Clint.acknowledge_of_lt hid) hbyte
    exact ⟨Clint.eq_of_owns hraw hlimit howner hown, .soft, h⟩
  | timer h =>
    obtain rfl := List.mem_singleton.mp hstore
    have hown := Clint.owns_of_setDeadline (Clint.setDeadline_of_lt hid _) hbyte
    exact ⟨Clint.eq_of_owns hraw hlimit howner hown, .timer, h⟩
  | call => cases hstore
  | other => exact absurd howner (Clint.not_owns_of_mem_transmit hraw hstore hbyte)

end Handling

/-- On the world in which the trap is recorded and traced, the handler does one of four things. -/
theorem exists_handling (hid : info.hart.toNat < maxHarts) (frame : Frame) (world : World) :
    ∃ resume after made,
      handleTrap info (some frame) world =
        { resume, frame := some after, world := (world.traced info).store made } ∧
      Handling info frame world.mtime resume after made := by
  by_cases hsoft : info.cause = Cause.interruptFlag ||| Cause.machineSoft
  · have hstore : Interrupt.soft.store info.hart (world.traced info) = .ok _ :=
      Clint.acknowledge_of_lt hid
    exact ⟨_, _, _, handleTrap_interrupt .soft hsoft hstore (some frame), .soft hsoft⟩
  by_cases htimer : info.cause = Cause.interruptFlag ||| Cause.machineTimer
  · -- Tracing takes no time.
    have hclock : (world.traced info).nextDeadline = world.mtime + Clint.tick := by
      rw [World.traced_eq_store]
      rfl
    have hstore : Interrupt.timer.store info.hart (world.traced info) = .ok _ :=
      Clint.setDeadline_of_lt hid _
    rw [hclock] at hstore
    exact ⟨_, _, _, handleTrap_interrupt .timer htimer hstore (some frame), .timer htimer⟩
  by_cases hcall : info.cause ∈ Cause.calls
  · refine ⟨_, _, _, ?_, .call hcall (answered_setResult info.hart frame)⟩
    rw [handleTrap_call hcall, answerCall, mapError_checkedAdd_four, World.store_nil]
  · have hother : info.cause ∉ handledCauses := by
      simpa only [handledCauses, Cause.calls, List.mem_cons, hsoft, htimer, false_or] using hcall
    refine ⟨_, _, _, ?_, .other hother⟩
    rw [handleTrap_unhandled hother, unhandled, printUnhandled_eq_print, World.print_eq_store,
      text_unhandled]

/-- **Every trap is recorded, traced, and handled by its cause.** This holds for all words that the
handler is told, for all frames, and whatever locks of the diagnostics are held. What is recorded
depends on the locks (`Diagnostics.Records`). -/
theorem handleTrap_by_cause (hid : info.hart.toNat < maxHarts) (frame : Frame) (world : World) :
    ∃ resume after made,
      handleTrap info (some frame) world =
        { resume
          frame := some after
          world :=
            { world with
              diagnostics := world.diagnostics.record info
              stores :=
                world.stores ++ Uart.transmit Uart.base (Uart.encode (traceText info)) ++ made } } ∧
      world.diagnostics.Records info (world.diagnostics.record info) ∧
      IsLine (traceText info) ∧
      Handling info frame world.mtime resume after made ∧
      (info.cause ^^^ Cause.interruptFlag ∈ handledCauses →
        resume = .error (.unhandledTrap info.cause info.hart)) ∧
      ∀ store ∈ made, ∀ raw byte, raw.toNat < Clint.hartLimit → store.Touches byte →
        Clint.Owns raw byte →
          raw = info.hart ∧ ∃ interrupt : Interrupt, info.cause = interrupt.cause := by
  obtain ⟨resume, after, made, hreply, hhandling⟩ := exists_handling hid frame world
  refine ⟨resume, after, made, ?_, world.diagnostics.records_record info, isLine_traceText info,
    hhandling, hhandling.resume_of_flip, ?_⟩
  · rw [hreply, World.traced_eq_store, text_traceLine]
    rfl
  · intro store hstore raw byte hraw hbyte howner
    exact hhandling.eq_of_owns hid hstore hraw hbyte howner

/-- A call in the last word of the address space: the answer is written and there is nowhere to
return to. -/
theorem handleTrap_call_at_the_top :
    let info : TrapInfo :=
      { epc := -4, tval := 0, cause := Cause.callFromMachine, hart := 3, status := 0 }
    let frame : Frame := { Frame.zeroed with regs := RegisterFile.zeroed.set Register.a7 2 }
    let world : World := { World.fresh with diagnostics := Diagnostics.empty.hold true true }
    info.hart.toNat < maxHarts ∧ ∃ after made,
      handleTrap info (some frame) world =
        { resume := .error (.fault .addOverflow)
          frame := some after
          world :=
            { world with
              diagnostics := world.diagnostics.record info
              stores := Uart.transmit Uart.base (Uart.encode (traceText info)) ++ made } } ∧
      (world.diagnostics.record info).dropped.toNat = 1 ∧
      after.regs[Register.a0] = 3 ∧ made = [] := by
  intro info frame world
  have hid : info.hart.toNat < maxHarts := by decide
  obtain ⟨resume, after, made, hreply, hrecords, -, hhandling, -⟩ :=
    handleTrap_by_cause hid frame world
  have hcount : (world.diagnostics.record info).dropped.toNat = 1 := hrecords.counted (Or.inl rfl)
  refine ⟨hid, after, made, ?_⟩
  cases hhandling with
  | soft h => exact absurd h (by decide)
  | timer h => exact absurd h (by decide)
  | call _ hanswered => exact ⟨hreply, hcount, hanswered.names (by decide), rfl⟩
  | other h => exact absurd (by decide) h

end Kernel

end HartKernel
