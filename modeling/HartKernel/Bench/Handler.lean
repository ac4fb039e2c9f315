import HartKernel.Frame.Patch
import HartKernel.Trap.Diagnostics
import HartKernel.Trap.Handler

/-!
# Scripted trap handlers

A scripted handler notes what it was called with, then changes the frame as its script says and
resumes where the script says. It can show what the trap vector does around a handler of any kind.
-/

namespace HartKernel.Bench

/-- Where a scripted handler resumes. -/
inductive Resume where
  /-- At the interrupted instruction. -/
  | interrupted
  /-- After the interrupted instruction; the address wraps around. -/
  | afterInterrupted
  /-- At the address that the frame then holds. -/
  | framePc
  /-- At a fixed address. -/
  | address (value : Word)
  deriving DecidableEq, Repr

/-- What a scripted handler does, in the order of the fields. -/
structure HandlerScript where
  /-- Whether it records the trap. -/
  records : Bool := false
  /-- Raw writes to the frame. -/
  writes : Frame.Patch := {}
  /-- Writes to registers of the frame by number. -/
  registers : List (Nat × Word) := []
  /-- The result of a system call. -/
  result : Option Word := none
  resume : Resume := .afterInterrupted
  deriving Repr

/-- What a scripted handler noted when it was called. -/
structure Sighting where
  info : TrapInfo
  number : Word
  callArgs : Vector Word 6
  privilege : Option Privilege
  deriving DecidableEq, Repr

/-- The world of scripted handlers: the diagnostics, and the note of the latest call. -/
structure Notebook where
  diagnostics : Diagnostics
  sighting : Option Sighting
  deriving DecidableEq, Repr

/-- What a handler sees when it is called. -/
def Sighting.of (info : TrapInfo) (frame : Frame) : Sighting :=
  { info, number := frame.callNumber, callArgs := frame.callArgs, privilege := frame.privilege? }

/-- The frame after the script has changed it. -/
def HandlerScript.edit (script : HandlerScript) (frame : Frame) : Frame :=
  let patched := frame.patch script.writes
  let written := script.registers.foldl (fun frame write => frame.write write.1 write.2) patched
  match script.result with
  | some value => written.setResult value
  | none => written

/-- The address at which a handler resumes that leaves a frame. -/
def Resume.target (resume : Resume) (info : TrapInfo) (frame : Frame) : Word :=
  match resume with
  | interrupted => info.epc
  | afterInterrupted => info.epc + 4
  | framePc => frame.pc
  | address value => value

/-- The handler that follows a script. -/
def HandlerScript.handler (script : HandlerScript) : Handler Notebook := fun info frame notebook =>
  let left := script.edit frame
  let diagnostics :=
    if script.records then notebook.diagnostics.record info else notebook.diagnostics
  { resume := .ok (script.resume.target info left)
    frame := left
    world := { diagnostics, sighting := some (Sighting.of info frame) } }

end HartKernel.Bench
