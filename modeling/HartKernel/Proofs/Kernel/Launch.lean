import HartKernel.Kernel.Startup
import HartKernel.Proofs.Hart.CallContract
import HartKernel.Proofs.Kernel.Dispatch
import HartKernel.Proofs.Kernel.Invariants

/-!
# What the starts of the harts do

A hart other than the first goes online in a few steps, none of which can fail (`run_startHart`).
Hart 0 reports what it was booted with, makes two system calls, wakes the other harts, makes a third
system call and logs the mask of harts that are online. On the way the mask is written once, by hart
0 for itself: neither the system calls nor what is printed disturbs it (`World.Undisturbed`).

A system call is answered if the hart can take a trap and the call is not in the last four bytes of
the address space (`Hart.Serves`), and comes back to the return address. The first call is made at
the entry and the others at the return address, so hart 0 gets through if there is a next
instruction after both (`Hart.GetsThrough`, `ends_startBootHart`).
-/

namespace HartKernel

/-! ### What printing and tracing leave alone -/

namespace World

/-- The stores that were made to anything but the serial line. -/
def deviceStores (world : World) : List Store :=
  world.stores.filter fun store => (Uart.sent store).isNone

/-- The mask of harts online and the devices past the serial line are as they were. -/
structure Undisturbed (before after : World) : Prop where
  online : after.online = before.online
  deviceStores : after.deviceStores = before.deviceStores

theorem deviceStores_transmit (bytes : List UInt8) :
    (Uart.transmit Uart.base bytes).filter (fun store => (Uart.sent store).isNone) = [] := by
  rw [List.filter_eq_nil_iff]
  intro store hstore
  obtain ⟨byte, -, rfl⟩ := List.mem_map.mp hstore
  simp [Uart.sent]

theorem Undisturbed.refl (world : World) : world.Undisturbed world :=
  ⟨rfl, rfl⟩

theorem undisturbed_print (world : World) (pieces : Pieces) :
    world.Undisturbed (world.print pieces) := by
  rw [print_eq_store]
  refine ⟨rfl, ?_⟩
  show (world.stores ++ Uart.transmit Uart.base (Uart.encode pieces.text)).filter
    (fun store => (Uart.sent store).isNone) = world.deviceStores
  rw [List.filter_append, deviceStores_transmit, List.append_nil]
  rfl

theorem undisturbed_log (world : World) (level : LogLevel) (target : String) (message : Pieces) :
    world.Undisturbed (world.log level target message) := by
  rw [log_eq_print]
  exact undisturbed_print ..

theorem undisturbed_traced (world : World) (info : TrapInfo) :
    world.Undisturbed (world.traced info) := by
  obtain ⟨honline, hdevices⟩ := undisturbed_print (world.recordTrap info) (Kernel.traceLine info)
  exact ⟨honline, hdevices⟩

end World

namespace Kernel

/-! ### System calls, from context to context -/

theorem trapHandler_call {info : TrapInfo} (h : info.cause ∈ Cause.calls) (frame : Frame)
    (world : World) :
    trapHandler info frame world =
      { resume :=
          if info.epc.toNat ≤ 2 ^ 64 - 5 then .ok (info.epc + 4) else .error (.fault .addOverflow)
        frame := frame.setResult (callResult frame.callNumber info.hart)
        world := world.traced info } := by
  rw [trapHandler, handleTrap_call h, answerCall, mapError_checkedAdd_four]
  rfl

end Kernel

namespace Hart

/-- A system call that the hart makes where it is will be answered: the frame that `mscratch`
designates can take the trap, and there is a next instruction to resume at. -/
structure Serves (hart : Hart) : Prop where
  ready : hart.Ready hart.csr.mscratch
  pc : hart.pc.toNat ≤ 2 ^ 64 - 5

/-- One system call after the other will be answered. All but the first are made at the return
address. -/
structure GetsThrough (hart : Hart) : Prop where
  first : hart.Serves
  next : (hart.read Register.ra).toNat ≤ 2 ^ 64 - 5

/-- The hart is back from a system call that was made with a return address. -/
structure Returned (ra : Word) (hart : Hart) : Prop where
  ready : hart.Ready hart.csr.mscratch
  pc : hart.pc = ra
  ra : hart.read Register.ra = ra

theorem Returned.serves {ra : Word} {hart : Hart} (h : Returned ra hart)
    (hra : ra.toNat ≤ 2 ^ 64 - 5) : hart.Serves :=
  ⟨h.ready, h.pc ▸ hra⟩

end Hart

namespace Kernel

variable {context : Context}

/-! ### The steps of the start -/

/-- Hart 0 on its way through its start. The hart is in some state, and the mask and the stores to
devices are as told. -/
structure Launching (state : Hart → Prop) (online : Word) (devices : List Store)
    (context : Context) : Prop where
  state : state context.hart
  whole : context.frames.whole = true
  online : context.world.online = online
  deviceStores : context.world.deviceStores = devices

variable {state : Hart → Prop} {online : Word} {devices : List Store}
  {exits : Exit → Context → Prop}

theorem Launching.of_undisturbed (h : Launching state online devices context) {world : World}
    (hworld : context.world.Undisturbed world) :
    Launching state online devices { context with world := world } :=
  ⟨h.state, h.whole, hworld.online.trans h.online, hworld.deviceStores.trans h.deviceStores⟩

theorem ends_markOnline (id : HartId) :
    (onWorld (·.markOnline id)).Ends (Launching state online devices)
      (fun _ => Launching state (online ||| 1 <<< id.val) devices) exits := by
  refine Code.ends_onWorld fun context h => ⟨h.state, h.whole, ?_, h.deviceStores⟩
  show context.world.online ||| 1 <<< id.val = online ||| 1 <<< id.val
  rw [h.online]

theorem ends_log (level : LogLevel) (target : String) (message : Pieces) :
    (log level target message).Ends (Launching state online devices)
      (fun _ => Launching state online devices) exits :=
  Code.ends_onWorld fun _ h => h.of_undisturbed (World.undisturbed_log ..)

theorem ends_reportLayout (symbols : LinkerSymbols) :
    (reportLayout symbols).Ends (Launching state online devices)
      (fun _ => Launching state online devices) exits := by
  unfold reportLayout
  cases symbols.layout? with
  | ok layout => exact ends_log _ _ _
  | error refusal => exact ends_log _ _ _

theorem ends_reportPlan {symbols : LinkerSymbols} {raw : Word}
    (hplan : ∃ plan?, symbols.plan? raw = .ok plan?) :
    (reportPlan symbols raw).Ends (Launching state online devices)
      (fun _ => Launching state online devices) exits := by
  obtain ⟨plan?, hplan⟩ := hplan
  unfold reportPlan
  refine Code.ends_bind (Code.ends_orPanic hplan) fun given => ?_
  cases given with
  | none => exact Code.ends_pure fun _ h => h.2
  | some plan => exact Code.ends_of_imp (fun _ h => h.2) (ends_log _ _ _)

/-- The store that raises a software interrupt on a hart. -/
def wakeStore (raw : Word) : Store :=
  { width := .word, address := Clint.base + raw * 4, value := 1 }

/-- The interrupt controller is not the serial line. -/
theorem sent_wakeStore {raw : Word} (h : raw.toNat < maxHarts) :
    Uart.sent (wakeStore raw) = none := by
  have hne : Clint.base + raw * 4 ≠ Uart.base := by
    have hraw : raw.toNat < 4 := h
    bv_omega
  exact if_neg hne

theorem ends_wake {raw : Word} (hraw : raw.toNat < maxHarts) :
    (wake raw).Ends (Launching state online devices)
      (fun _ => Launching state online (devices ++ [wakeStore raw])) exits := by
  refine Code.ends_tryOnWorld fun context h => ⟨context.world.store [wakeStore raw], ?_, ?_⟩
  · rw [World.tryStore, Clint.raise_of_lt hraw]
    rfl
  · refine ⟨h.state, h.whole, h.online, ?_⟩
    show (context.world.stores ++ [wakeStore raw]).filter
      (fun store => (Uart.sent store).isNone) = devices ++ [wakeStore raw]
    rw [List.filter_append, List.filter_singleton, sent_wakeStore hraw, ← h.deviceStores]
    rfl

/-- Hart 0 wakes all harts but itself. -/
theorem ends_wakeOthers :
    ([1, 2, 3].forM wake).Ends (Launching state online [])
      (fun _ => Launching state online ([1, 2, 3].map wakeStore)) exits := by
  let woken (done : List Word) := Launching state online (done.map wakeStore)
  have hall : ([1, 2, 3].forM wake).Ends (woken []) (fun _ => woken [1, 2, 3]) exits := by
    refine Code.ends_forM fun done raw hmem => ?_
    have hraw : ∀ raw ∈ ([1, 2, 3] : List Word), raw.toNat < maxHarts := by
      simp only [List.forall_mem_cons]
      exact ⟨by decide, by decide, by decide, nofun⟩
    simp only [woken, List.map_append]
    exact ends_wake (hraw raw hmem)
  exact hall

/-! ### The last line -/

/-- The line that reports who is online. -/
def onlineText (online : Word) : String :=
  "[INFO boot] online mask 0b" ++ Numeral.binary online ++ "\n"

theorem text_logLine_online (online : Word) :
    (logLine .info "boot" ["online mask 0b", Numeral.binary online]).text = onlineText online := by
  have hhead : "[INFO boot] online mask 0b" =
      "[" ++ "INFO" ++ " " ++ "boot" ++ "] " ++ "online mask 0b" := by decide
  unfold onlineText
  -- `rw` would go on to compare the two texts by computing them.
  rewrite [hhead]
  simp only [logLine, LogLevel.tag, Pieces.text_append, Pieces.text_cons, Pieces.text_nil,
    String.append_empty, String.append_assoc]

/-- How the start of hart 0 exits. The mask is the last that is printed. -/
structure Launched (online : Word) (exit : Exit) (after : Context) : Prop where
  parked : exit = .parked
  mask : after.world.online = online
  woken : after.world.deviceStores = [1, 2, 3].map wakeStore
  printed : ∃ earlier, after.world.stores =
    earlier ++ Uart.transmit Uart.base (Uart.encode (onlineText online))

/-- The last line is printed, and the hart parks. -/
theorem ends_reportOnline :
    (do log .info "boot" ["online mask 0b", Numeral.binary (← get).world.online]; park :
      Code Unit).Ends (Launching state online ([1, 2, 3].map wakeStore)) (fun _ _ => False)
      (Launched online) := by
  refine Code.ends_bind Code.ends_get fun seen => ?_
  -- The context that is seen is the one that the line is logged in.
  intro context h
  obtain ⟨rfl, h⟩ := h
  have hlogged := h.of_undisturbed (World.undisturbed_log seen.world .info "boot"
    ["online mask 0b", Numeral.binary seen.world.online])
  refine ⟨rfl, hlogged.online, hlogged.deviceStores, seen.world.stores, ?_⟩
  rw [← text_logLine_online, ← h.online]
  exact congrArg World.stores ((World.log_eq_print ..).trans (World.print_eq_store ..))

/-! ### The whole start -/

variable [KernelImage]

/-- A system call that is answered comes back. -/
theorem run_systemCall_of_serves (h : context.hart.Serves) (hwhole : context.frames.whole = true)
    (number : Word) (args : Vector Word 6) :
    ∃ value after, EStateM.run (systemCall number args) context = .ok value after ∧
      after.frames.whole = true ∧
      Hart.Returned (context.hart.read Register.ra) after.hart ∧
      context.world.Undisturbed after.world := by
  obtain ⟨hready, hpc⟩ := h
  have hrun := Code.run_systemCall number args context
  dsimp only at hrun
  rw [FrameMemory.designated_of_whole hwhole] at hrun
  obtain ⟨info, saved, hgiven, hanswers, -⟩ := Hart.systemCall_by_reply hready number args
    (context.frames.get context.hart.csr.mscratch) trapHandler context.world
  have hreply := trapHandler_call (Cause.isCall_ofWord_iff.mp hgiven.isCall) saved context.world
  rw [hgiven.epc, if_pos hpc] at hreply
  obtain ⟨hart, hcall, hreturn, hread⟩ := hanswers _ _ _ hreply
  obtain ⟨-, hkept⟩ := Hart.ready_systemCall hready number args
    (context.frames.get context.hart.csr.mscratch) trapHandler context.world
  rw [hcall] at hkept hrun
  refine ⟨_, _, hrun, hwhole, ⟨?_, hreturn, hread Register.ra (by decide)⟩, ?_⟩
  · rw [hkept.scratch]
    exact hkept
  · exact World.undisturbed_traced context.world info

theorem ends_systemCall {ra : Word}
    (hstate : ∀ hart, state hart → hart.Serves ∧ hart.read Register.ra = ra)
    (number : Word) (args : Vector Word 6) :
    (systemCall number args).Ends (Launching state online devices)
      (fun _ => Launching (Hart.Returned ra) online devices) exits := by
  intro context h
  obtain ⟨hserves, rfl⟩ := hstate _ h.state
  obtain ⟨value, after, hrun, hwhole, hreturned, hworld⟩ :=
    run_systemCall_of_serves hserves h.whole number args
  rw [hrun]
  exact ⟨hreturned, hwhole, hworld.online.trans h.online,
    hworld.deviceStores.trans h.deviceStores⟩

theorem ends_activateKernelFrame (id : HartId) :
    (onWorld (·.activateKernelFrame id)).Ends (Launching state online devices)
      (fun _ => Launching state online devices) exits :=
  Code.ends_onWorld fun _ h => h.of_undisturbed ⟨rfl, rfl⟩

/-- **Hart 0 gets through**: it adds itself to the mask, wakes the others and parks. -/
theorem ends_startBootHart {symbols : LinkerSymbols}
    (hplans : ∀ raw, ∃ plan?, symbols.plan? raw = .ok plan?) {hart : Hart}
    (hthrough : hart.GetsThrough) :
    (startBootHart symbols).Ends (Launching (· = hart) online []) (fun _ _ => False)
      (Launched (online ||| 1)) := by
  have hentry : ∀ hart', hart' = hart →
      hart'.Serves ∧ hart'.read Register.ra = hart.read Register.ra := by
    rintro _ rfl
    exact ⟨hthrough.first, rfl⟩
  have hagain : ∀ hart', Hart.Returned (hart.read Register.ra) hart' →
      hart'.Serves ∧ hart'.read Register.ra = hart.read Register.ra :=
    fun _ h => ⟨h.serves hthrough.next, h.ra⟩
  unfold startBootHart
  -- Up to the first system call only the world changes.
  refine Code.ends_bind (ends_activateKernelFrame _) fun _ => ?_
  refine Code.ends_bind (ends_markOnline _) fun _ => ?_
  refine Code.ends_bind (ends_log _ _ _) fun _ => ?_
  refine Code.ends_bind (ends_reportLayout symbols) fun _ => ?_
  refine Code.ends_bind (Code.ends_loop fun raw _ => ends_reportPlan (hplans raw)) fun _ => ?_
  refine Code.ends_bind (ends_systemCall hentry _ _) fun _ => ?_
  refine Code.ends_bind (ends_log _ _ _) fun _ => ?_
  -- All further calls are made at the return address.
  refine Code.ends_bind (ends_systemCall hagain _ _) fun _ => ?_
  refine Code.ends_bind (ends_log _ _ _) fun _ => ?_
  refine Code.ends_bind ends_wakeOthers fun _ => ?_
  refine Code.ends_bind (ends_systemCall hagain _ _) fun _ => ?_
  exact ends_reportOnline

/-! ### The start of any other hart -/

omit [KernelImage] in
theorem setNextTick_word (world : World) (id : HartId) :
    world.setNextTick id.word =
      .ok (world.store [{
        width := .double
        address := Clint.base + Clint.deadlineOffset + id.word * 8
        value := world.nextDeadline }]) := by
  have hid : id.word.toNat < maxHarts := by
    rw [HartId.toNat_word]
    exact id.isLt
  rw [World.setNextTick, World.tryStore, Clint.setDeadline_of_lt hid]
  rfl

/-- What the start of a hart makes of the world. The deadline is counted from the clock as the start
finds it. -/
def started (id : HartId) (world : World) : World :=
  (((world.activateKernelFrame id).markOnline id).store [{
    width := .double
    address := Clint.base + Clint.deadlineOffset + id.word * 8
    value := world.nextDeadline }]).writeControl (.setBits .mie Mie.mtie)

theorem run_startHart {raw : Word} {id : HartId} (h : HartId.ofRaw? raw = some id)
    (context : Context) :
    EStateM.run (startHart raw) context =
      .error .parked { context with world := started id context.world } := by
  have htick : (fun world : World => world.setNextTick id.word) = fun world => _ :=
    funext fun world => setNextTick_word world id
  unfold startHart
  rw [h]
  dsimp only
  rw [htick]
  rfl

theorem run_startHart_of_beyond {raw : Word} (h : maxHarts ≤ raw.toNat) (context : Context) :
    EStateM.run (startHart raw) context = .error .parked context := by
  unfold startHart
  rw [HartId.ofRaw?_eq_none_iff.mpr h]
  rfl

end Kernel

end HartKernel
