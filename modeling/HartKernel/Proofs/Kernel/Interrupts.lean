import HartKernel.Kernel.TrapHandler
import HartKernel.Proofs.Device.Clint
import HartKernel.Proofs.Device.Uart

/-!
# How the kernel serves an interrupt

`trapHandler_interrupt`: on a hart that the kernel runs, a software or timer interrupt never ends in
a panic. The interrupted context goes on where it was, its frame is not touched, and of the world
only diagnostics and stores change (`World.Served`). Each of the stores is a byte of the trace line,
the acknowledgement of a software interrupt of the same hart, or a new deadline of the same hart;
no such store reaches a register of another hart (`ServiceStore.spares`).
-/

namespace HartKernel

namespace Kernel

/-- The interrupts that the kernel serves. -/
inductive Interrupt where
  | soft
  | timer
  deriving DecidableEq, Repr

namespace Interrupt

/-- The code of the interrupt in a cause word. -/
def code : Interrupt → Word
  | soft => Cause.machineSoft
  | timer => Cause.machineTimer

/-- The cause word of the interrupt. -/
def cause (interrupt : Interrupt) : Word :=
  Cause.interruptFlag ||| interrupt.code

/-- The store by which the interrupt of a hart is served. -/
def store (interrupt : Interrupt) (hart : Word) (world : World) : Except Fault Store :=
  match interrupt with
  | soft => Clint.acknowledge hart
  | timer => Clint.setDeadline hart world.nextDeadline

theorem ofWord_cause (interrupt : Interrupt) :
    Cause.ofWord interrupt.cause = { interrupt := true, code := interrupt.code } := by
  cases interrupt <;> decide

/-- A hart that the kernel runs has the registers that the store goes to. -/
theorem store_of_lt (interrupt : Interrupt) {hart : Word} (h : hart.toNat < maxHarts)
    (world : World) : ∃ store, interrupt.store hart world = .ok store := by
  cases interrupt with
  | soft => exact ⟨_, Clint.acknowledge_of_lt h⟩
  | timer => exact ⟨_, Clint.setDeadline_of_lt h world.nextDeadline⟩

end Interrupt

/-- The stores by which the kernel traces and serves the interrupts of a hart. -/
inductive ServiceStore (hart : Word) : Store → Prop where
  | trace (value : Word) : ServiceStore hart { width := .byte, address := Uart.base, value }
  | acknowledge {store : Store} (h : Clint.acknowledge hart = .ok store) : ServiceStore hart store
  | deadline {store : Store} {deadline : Word} (h : Clint.setDeadline hart deadline = .ok store) :
    ServiceStore hart store

namespace ServiceStore

/-- **Other harts are left alone.** No byte that such a store writes belongs to another hart. -/
theorem spares {hart other : Word} {store : Store} {byte : Nat} (hid : hart.toNat < maxHarts)
    (hother : other.toNat < Clint.hartLimit) (hne : other ≠ hart) (h : ServiceStore hart store)
    (hbyte : store.Touches byte) : ¬Clint.Owns other byte := by
  intro howner
  have hlimit := Clint.lt_hartLimit hid
  cases h with
  | trace value => exact Clint.not_owns_of_serial hother hbyte howner
  | acknowledge h =>
    exact hne (Clint.eq_of_owns hother hlimit howner (Clint.owns_of_acknowledge h hbyte))
  | deadline h =>
    exact hne (Clint.eq_of_owns hother hlimit howner (Clint.owns_of_setDeadline h hbyte))

theorem of_mem_transmit {hart : Word} {bytes : List UInt8} {store : Store}
    (h : store ∈ Uart.transmit Uart.base bytes) : ServiceStore hart store := by
  obtain ⟨byte, -, rfl⟩ := List.mem_map.mp h
  exact trace _

theorem of_store {interrupt : Interrupt} {hart : Word} {world : World} {store : Store}
    (h : interrupt.store hart world = .ok store) : ServiceStore hart store := by
  cases interrupt with
  | soft => exact acknowledge h
  | timer => exact deadline h

end ServiceStore

end Kernel

/-- The world after a trap has been recorded and traced, which every trap is before it is looked
at. -/
def World.traced (world : World) (info : TrapInfo) : World :=
  (world.recordTrap info).print (Kernel.traceLine info)

theorem World.traced_eq_store (world : World) (info : TrapInfo) :
    world.traced info = (world.recordTrap info).store
      (Uart.transmit Uart.base (Uart.encode (Kernel.traceLine info).text)) :=
  print_eq_store ..

/-- A world before and after the kernel has served interrupts of a hart: nothing but what is known
about past traps has changed, and the stores that were made serve the interrupts. -/
structure World.Served (hart : Word) (before after : World) : Prop where
  mtime : after.mtime = before.mtime
  lastHeld : after.diagnostics.lastHeld = before.diagnostics.lastHeld
  historyHeld : after.diagnostics.historyHeld = before.diagnostics.historyHeld
  frameTable : after.frameTable = before.frameTable
  online : after.online = before.online
  controlWrites : after.controlWrites = before.controlWrites
  stores : ∃ made, after.stores = before.stores ++ made ∧
    ∀ store ∈ made, Kernel.ServiceStore hart store

namespace World.Served

variable {hart : Word} {a b c : World}

theorem refl (hart : Word) (world : World) : world.Served hart world :=
  ⟨rfl, rfl, rfl, rfl, rfl, rfl, [], (List.append_nil _).symm, by simp⟩

theorem trans (h : a.Served hart b) (h' : b.Served hart c) : a.Served hart c := by
  obtain ⟨first, hfirst, hof⟩ := h.stores
  obtain ⟨second, hsecond, hof'⟩ := h'.stores
  refine ⟨h'.mtime.trans h.mtime, h'.lastHeld.trans h.lastHeld, h'.historyHeld.trans h.historyHeld,
    h'.frameTable.trans h.frameTable, h'.online.trans h.online,
    h'.controlWrites.trans h.controlWrites, first ++ second, ?_, ?_⟩
  · rw [hsecond, hfirst, List.append_assoc]
  · intro store hstore
    rcases List.mem_append.mp hstore with hstore | hstore
    · exact hof store hstore
    · exact hof' store hstore

theorem recordTrap (world : World) (info : TrapInfo) : world.Served hart (world.recordTrap info) :=
  ⟨rfl, rfl, rfl, rfl, rfl, rfl, [], (List.append_nil _).symm, by simp⟩

theorem store {stores : List Store} (world : World)
    (h : ∀ store ∈ stores, Kernel.ServiceStore hart store) :
    world.Served hart (world.store stores) :=
  ⟨rfl, rfl, rfl, rfl, rfl, rfl, stores, rfl, h⟩

end World.Served

namespace Kernel

theorem handleTrap_interrupt (interrupt : Interrupt) {info : TrapInfo}
    (hcause : info.cause = interrupt.cause) {world : World} {store : Store}
    (hstore : interrupt.store info.hart (world.traced info) = .ok store) (frame : Option Frame) :
    handleTrap info frame world =
      { resume := .ok info.epc, frame, world := (world.traced info).store [store] } := by
  have hofWord : Cause.ofWord info.cause = { interrupt := true, code := interrupt.code } := by
    rw [hcause, Interrupt.ofWord_cause]
  have hserved : handleTrap info frame world =
      served info frame (world.traced info)
        ((world.traced info).tryStore (interrupt.store info.hart (world.traced info))) := by
    simp only [handleTrap, hofWord, if_true]
    cases interrupt with
    | soft => rfl
    | timer => rfl
  rw [hserved, hstore]
  rfl

/-- **An interrupt is served.** The handler resumes the interrupted context and leaves its frame
alone. -/
theorem trapHandler_interrupt (interrupt : Interrupt) {info : TrapInfo}
    (hcause : info.cause = interrupt.cause) (hid : info.hart.toNat < maxHarts) (frame : Frame)
    (world : World) :
    ∃ after, trapHandler info frame world = { resume := .ok info.epc, frame, world := after } ∧
      world.Served info.hart after := by
  -- The deadline is computed in the world in which the trap is already recorded and traced.
  obtain ⟨store, hstore⟩ := interrupt.store_of_lt hid (world.traced info)
  refine ⟨(world.traced info).store [store], ?_, ?_⟩
  · rw [trapHandler, handleTrap_interrupt interrupt hcause hstore]
    rfl
  · have hprint : (world.recordTrap info).Served info.hart (world.traced info) := by
      rw [World.traced_eq_store]
      exact .store _ fun _ => ServiceStore.of_mem_transmit
    have hlast : (world.traced info).Served info.hart ((world.traced info).store [store]) := by
      apply World.Served.store
      intro other hother
      rw [List.mem_singleton.mp hother]
      exact ServiceStore.of_store hstore
    exact ((World.Served.recordTrap world info).trans hprint).trans hlast

end Kernel

end HartKernel
