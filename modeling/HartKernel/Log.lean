import HartKernel.Writing

/-!
# Log lines

A log line carries its level and the part of the kernel it comes from.
-/

namespace HartKernel

/-- How much a log line matters. -/
inductive LogLevel where
  | error
  | warn
  | info
  | debug
  | trace
  deriving DecidableEq, Repr

/-- The printed name of a level. -/
def LogLevel.tag : LogLevel → String
  | error => "ERROR"
  | warn => "WARN"
  | info => "INFO"
  | debug => "DEBUG"
  | trace => "TRACE"

open Writing in
/-- Writes a log line with its line end. -/
def writeLogLine {σ : Type} [Outlet σ] (level : LogLevel) (target : String) (message : Pieces) :
    Writing σ Unit := do
  putAll ["[", level.tag, " ", target, "] "]
  putAll message
  put "\n"

end HartKernel
