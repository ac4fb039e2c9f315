import HartKernel.Device.Clint

/-!
# Devices that are not there

Away from the hardware there is no device to drive: the clock stands at zero, and output and stores
are discarded. The addresses of registers are computed all the same, so a request for a hart whose
registers have no address still faults.
-/

namespace HartKernel.Inert

/-- A request to the devices. -/
inductive Request where
  | readClock
  | setTimer (hart deadline : Word)
  | raise (hart : Word)
  | acknowledge (hart : Word)
  | enableTimer
  | wait
  | pointAtVector
  | send (text : String)
  deriving DecidableEq, Repr

/-- The answer to a request. -/
inductive Answer where
  | clock (value : Word)
  | done
  | sent
  deriving DecidableEq, Repr

/-- Answers a request without any effect. -/
def answer : Request → Except Fault Answer
  | .readClock => .ok (.clock 0)
  | .setTimer hart deadline => (Clint.setDeadline hart deadline).map fun _ => .done
  | .raise hart => (Clint.raise hart).map fun _ => .done
  | .acknowledge hart => (Clint.acknowledge hart).map fun _ => .done
  | .enableTimer => .ok .done
  | .wait => .ok .done
  | .pointAtVector => .ok .done
  | .send _ => .ok .sent

end HartKernel.Inert
