import HartKernel.Hart.Resume
import HartKernel.Proofs.Status.Bits

/-!
# The path into a context, in closed form

A hart that leaves for a context goes through a status word that it makes up from the mode field of
the frame. `resumeContext_eq` tells what is left of the hart in the end: everything a context can
see comes from the frame, and of the mode field only the mode it encodes (`Frame.targetMode`).
-/

namespace HartKernel

/-- The mode in which the context of a frame runs. Only the two lowest bits of the mode field count,
and the reserved pattern stands for user mode. -/
def Frame.targetMode (frame : Frame) : Privilege :=
  (Privilege.ofBits? (frame.mode &&& fieldMask)).getD .user

namespace Hart

theorem machineReturn_eq (hart : Hart) :
    hart.machineReturn =
      { hart with
        csr.mstatus := hart.csr.mstatus.afterReturn
        mode := (Mstatus.mpp? hart.csr.mstatus).getD .user
        pc := hart.csr.mepc } := rfl

theorem resumeContext_eq (hart : Hart) (address : Word) (frame : Frame) :
    hart.resumeContext address frame =
      { x := (hart.restore frame.regs).x
        f := frame.fregs
        csr :=
          { hart.csr with
            mstatus := Mstatus.resumed
            mepc := frame.pc
            mscratch := address
            mtvec := vectorAddress
            mie := Mie.context
            satp := frame.satp }
        mode := frame.targetMode
        pc := frame.pc
        lastStatusWrite := some frame.resumeStatus
        handlerStack := hart.handlerStack } := by
  have hstatus : frame.resumeStatus.afterReturn = Mstatus.resumed :=
    Mstatus.afterReturn_contextWord frame.mode
  have hmode : (Mstatus.mpp? frame.resumeStatus).getD .user = frame.targetMode := by
    rw [Frame.resumeStatus, Mstatus.mpp?_contextWord, Frame.targetMode]
  simp only [resumeContext, writeStatus, activate, restore, machineReturn_eq, hstatus, hmode]

theorem csr_resumeContext (hart : Hart) (address : Word) (frame : Frame) :
    (hart.resumeContext address frame).csr =
      { hart.csr with
        mstatus := Mstatus.resumed
        mepc := frame.pc
        mscratch := address
        mtvec := vectorAddress
        mie := Mie.context
        satp := frame.satp } := by
  rw [resumeContext_eq]

theorem mode_resumeContext (hart : Hart) (address : Word) (frame : Frame) :
    (hart.resumeContext address frame).mode = frame.targetMode := by
  rw [resumeContext_eq]

end Hart

end HartKernel
