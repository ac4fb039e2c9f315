import HartKernel.Kernel.Startup

/-!
# Tasks

The pieces of kernel code that a hart of a board can be told to run, and the values they return.
-/

namespace HartKernel.Board

open Kernel

/-- A request to a device of the board. -/
inductive DeviceCall where
  | readClock
  | setTimer (target deadline : Word)
  /-- Raises a software interrupt. -/
  | raise (target : Word)
  /-- Acknowledges a software interrupt. -/
  | acknowledge (target : Word)
  | enableTimer
  | park
  deriving DecidableEq, Repr

/-- A piece of kernel code. -/
inductive Task where
  /-- Starts as the hart with a raw identifier. -/
  | startHart (raw : Word)
  | raiseTrap (frame : FramePosition) (cause tval : Word)
  | systemCall (number : Word) (args : Vector Word 6)
  | resumeContext (frame : FramePosition)
  /-- Points the hart at the trap vector. -/
  | pointAtVector
  | currentHart
  | log (level : LogLevel) (target message : String)
  /-- Sends a text through the serial line at an address. -/
  | send (address : Word) (text : String)
  | device (call : DeviceCall)
  deriving Repr

/-- A value that a task returns. -/
inductive Value where
  | none
  | word (value : Word)
  | sent
  | hart (id : Option HartId)
  | trapped (info : TrapInfo)
  | refused (error : TrapError)
  deriving DecidableEq, Repr

/-- The code of a request to a device. -/
def DeviceCall.code : DeviceCall → Code Value
  | readClock => do return .word (← get).world.mtime
  | setTimer target deadline => do
    tryOnWorld (·.tryStore (Clint.setDeadline target deadline))
    return .none
  | raise target => do
    tryOnWorld (·.tryStore (Clint.raise target))
    return .none
  | acknowledge target => do
    tryOnWorld (·.tryStore (Clint.acknowledge target))
    return .none
  | enableTimer => do
    Kernel.enableTimer
    return .none
  | park => Kernel.park

/-- The address of the frame of a context. -/
def addressOf (position : FramePosition) : Code Word := do
  return (← get).frames.address position

/-- The code of a task. -/
def Task.code [KernelImage] (symbols : LinkerSymbols) : Task → Code Value
  | startHart raw => do
    Kernel.startHart raw
    return .none
  | raiseTrap position cause tval => do
    match ← Kernel.raiseTrap (← addressOf position) cause tval with
    | .ok info => return .trapped info
    | .error error => return .refused error
  | systemCall number args => do return .word (← Kernel.systemCall number args)
  | resumeContext position => do Kernel.resumeContext (← addressOf position)
  | pointAtVector => do
    Kernel.pointAtVector symbols.trapVector
    return .none
  | currentHart => do return .hart (← Kernel.currentHart)
  | log level target message => do
    Kernel.log level target [message]
    return .none
  | send address text => do
    sendText address text
    return .sent
  | device call => call.code

end HartKernel.Board
