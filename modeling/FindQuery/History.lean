/-!
# The history of a session

A session adds its statements to a file that the settings may name.  This module
words the complaint of a session whose file cannot be written.
-/

namespace FindQuery.History

/-- Why the history cannot be kept. -/
inductive Fault where
  /-- The path holds the character that no path may hold. -/
  | nulInPath
  /-- The system refuses the file. -/
  | refused (code : Nat) (description : String)
  deriving DecidableEq, Repr, Inhabited

/-- The message of a fault. -/
def Fault.message : Fault → String
  | nulInPath => "file name contained an unexpected NUL byte"
  | refused code description => description ++ " (os error " ++ Nat.repr code ++ ")"

/-- The fault at a path, given what the system says about paths without NUL. -/
def faultAt? (refusal? : String → Option Fault) (path : String) : Option Fault :=
  if '\x00' ∈ path.toList then some .nulInPath else refusal? path

/-- The complaint names the fault twice: as that of the history, and as that of its file. -/
def complaint (path : String) (fault : Fault) : String :=
  "Error: failed to save history to " ++ path ++ "\n\nCaused by:\n" ++
    "    0: " ++ fault.message ++ "\n    1: " ++ fault.message

end FindQuery.History
