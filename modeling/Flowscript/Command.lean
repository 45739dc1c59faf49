import Flowscript.Instances

/-!
# Commands

* `Command` is a program and what it is given.
-/

set_option autoImplicit false

namespace Flowscript

/-- A program and its arguments. -/
structure Command where
  program : String
  arguments : List String
  deriving DecidableEq, Repr

end Flowscript
