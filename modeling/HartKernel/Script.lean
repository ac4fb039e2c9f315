/-!
# Running a script of commands

A script is a list of commands that act on a state one after another. A command that fails gives the
script's last answer: the commands after it are not run.
-/

namespace HartKernel

/-- The answers of the commands in order, up to and including the first failure. -/
def runScript {σ ι α ε : Type} (step : σ → ι → Except ε (α × σ)) : σ → List ι → List (Except ε α)
  | _, [] => []
  | state, command :: rest =>
    match step state command with
    | .ok (answer, next) => .ok answer :: runScript step next rest
    | .error failure => [.error failure]

end HartKernel
