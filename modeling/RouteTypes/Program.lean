import RouteTypes.FileSystem

/-!
# Programs of the host

A program is started with its arguments and gets an input. It writes to its output and to its
error output, may change files, takes its time and ends with a status or by a signal, or never.
-/

namespace RouteTypes

/-- How a program ends. -/
inductive Ending where
  | exited (status : Nat)
  | killed (signal : Nat)
  | never
  deriving DecidableEq, Repr

/-- What is left of a program that is to be stopped. -/
inductive Remains where
  /-- It has ended and its outputs are closed, so there is nothing to stop. -/
  | gone
  /-- It is stopped, and its outputs are closed with it. -/
  | stopped
  /-- Its outputs are kept open by programs that it has started itself. -/
  | held
  deriving DecidableEq, Repr

/-- What a program has done. Its time is in millionths of a second and lasts until it has ended and
its outputs are closed. What remains of it counts where it is stopped before. -/
structure Child where
  files : FileSystem
  ending : Ending
  output : Bytes
  errors : Bytes
  time : Nat
  remains : Remains
  deriving Repr

/-- What comes of starting a program. -/
inductive Launch where
  | missing
  | forbidden
  | refused (fault : FileFault)
  | ran (child : Child)
  deriving Repr

/-- The variables that programs find set. -/
abbrev Environment := List (String × String)

/-- The programs of a host: what comes of starting one with files, arguments and an input. -/
abbrev Programs := FileSystem → List String → Bytes → Launch

end RouteTypes
