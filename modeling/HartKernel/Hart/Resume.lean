import HartKernel.Hart.Basic

/-!
# Resuming a context

A hart leaves whatever it runs for the context in a frame: the frame becomes the active one and the
hart drops into the context. Nothing is kept of what ran before, so whoever wants to come back to
that has to have saved it.
-/

namespace HartKernel.Hart

/-- Makes the frame at an address the active one and drops into the context it holds. -/
def resumeContext (hart : Hart) (address : Word) (frame : Frame) : Hart :=
  let staged := (hart.writeStatus frame.resumeStatus).activate address
  let installed :=
    { staged with
      csr.mepc := frame.pc
      csr.satp := frame.satp
      csr.mie := Mie.context
      f := frame.fregs }
  (installed.restore frame.regs).machineReturn

end HartKernel.Hart
