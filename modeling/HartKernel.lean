import HartKernel.Position
import HartKernel.Word
import HartKernel.Numeral
import HartKernel.Text
import HartKernel.Writing
import HartKernel.Utf8
import HartKernel.Script
import HartKernel.Status.Privilege
import HartKernel.Status.Flags
import HartKernel.Status.Mstatus
import HartKernel.Frame.Basic
import HartKernel.Frame.Patch
import HartKernel.Frame.Image
import HartKernel.Frame.Debug
import HartKernel.HartId
import HartKernel.KernelImage
import HartKernel.Stack.Region
import HartKernel.Stack.Layout
import HartKernel.Frame.Table
import HartKernel.Frame.Memory
import HartKernel.Boot.Plan
import HartKernel.Boot.Zero
import HartKernel.Trap.Cause
import HartKernel.Trap.Info
import HartKernel.Trap.Diagnostics
import HartKernel.Trap.Report
import HartKernel.Trap.Handler
import HartKernel.Hart.Basic
import HartKernel.Hart.Trap
import HartKernel.Hart.Resume
import HartKernel.Hart.Call
import HartKernel.Hart.Boot
import HartKernel.Hart.Patch
import HartKernel.Log
import HartKernel.Device.Store
import HartKernel.Device.Clint
import HartKernel.Device.Uart
import HartKernel.Device.Inert
import HartKernel.Kernel.World
import HartKernel.Kernel.TrapHandler
import HartKernel.Kernel.Code
import HartKernel.Kernel.Startup
import HartKernel.Picture
import HartKernel.Bench.Handler
import HartKernel.Bench.Run
import HartKernel.Board.Task
import HartKernel.Board.Run
import HartKernel.Proofs.Status.Bits
import HartKernel.Proofs.Hart.TrapPath
import HartKernel.Proofs.Hart.TrapContract
import HartKernel.Proofs.Hart.ResumePath
import HartKernel.Proofs.Hart.UserState
import HartKernel.Proofs.Hart.Machine
import HartKernel.Proofs.Hart.TimeSharing
import HartKernel.Proofs.Device.Clint
import HartKernel.Proofs.Kernel.Interrupts
import HartKernel.Proofs.Kernel.Transparency
import HartKernel.Proofs.Hart.BootPath
import HartKernel.Proofs.Hart.ActiveFrame
import HartKernel.Proofs.Hart.Routine
import HartKernel.Proofs.Hart.ContextSwitch
import HartKernel.Proofs.Hart.ReturnPaths
import HartKernel.Proofs.Hart.CallContract
import HartKernel.Proofs.Hart.AnyState
import HartKernel.Proofs.Kernel.Invariants
import HartKernel.Proofs.Kernel.Initializers
import HartKernel.Proofs.Kernel.Cluster
import HartKernel.Proofs.Kernel.FrameEffect
import HartKernel.Proofs.Kernel.FrameAgreement
import HartKernel.Proofs.Trap.History
import HartKernel.Proofs.Frame.Image
import HartKernel.Proofs.Hart.SaveRestore
import HartKernel.Proofs.Boot.Zeroing
import HartKernel.Proofs.Hart.BootContract
import HartKernel.Proofs.Hart.BootOrder
import HartKernel.Proofs.Stack.Layout
import HartKernel.Proofs.Hart.Refusal
import HartKernel.Proofs.Hart.Observed
import HartKernel.Proofs.Hart.StatusWords
import HartKernel.Proofs.Hart.ZeroRegister
import HartKernel.Proofs.Device.Uart
import HartKernel.Proofs.Trap.Cause
import HartKernel.Proofs.Kernel.Dispatch
import HartKernel.Proofs.Hart.RepeatedTraps
import HartKernel.Proofs.Trap.PanicReport
import HartKernel.Proofs.Kernel.UnhandledTrap
import HartKernel.Proofs.Script.LastWrite
import HartKernel.Proofs.Frame.Layout
import HartKernel.Proofs.Text.Writing
import HartKernel.Proofs.Text.Numerals
import HartKernel.Proofs.Text.Form
import HartKernel.Proofs.Trap.Truncation
import HartKernel.Proofs.Trap.DumpText
import HartKernel.Proofs.Kernel.Adoption
import HartKernel.Proofs.Device.LineEndings
import HartKernel.Proofs.Status.Fields
import HartKernel.Proofs.Kernel.Launch
import HartKernel.Proofs.Board.Steps
import HartKernel.Proofs.Board.OnlineMask
