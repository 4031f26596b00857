import FindQuery.Shell
import Std.Time.DateTime.Timestamp
import Std.Time.Zoned.Database

/-!
# The command line

This module joins the shell to the world: it finds the settings, reads the clock,
passes statements in and answers out, and writes the history.  What is answered is
decided elsewhere.
-/

namespace FindQuery.Main

open FindQuery.Time

/-- What is found at a path. -/
def fileAt (path : String) : IO Settings.File := do
  try
    return .content (← IO.FS.readBinFile path)
  catch
    | .noFileOrDirectory .. => return .missing
    | _ => return .unreadable

/-- The settings that the environment points to. -/
def findSettings : IO Settings := do
  let path := Settings.path (← IO.getEnv Settings.pathVariable)
  return Shell.settingsOf path (← fileAt path)

/-- The present on the clock of a zone. -/
def present (zone : Zone) : IO Instant := do
  let timestamp ← Std.Time.Timestamp.now
  let nanos := timestamp.toNanosecondsSinceUnixEpoch.val
  let offset ← match zone with
    | .universal => pure 0
    | .machine => do
        let rules ← Std.Time.Database.defaultGetLocalZoneRules
        pure (rules.timezoneAt timestamp).offset.second.val
  return Instant.ofEpoch (nanos / secondNanos) (nanos % secondNanos) offset

/-- Passes an answer out, and tells whether the statement was one. -/
def deliver : Shell.Answer → IO Bool
  | .document text => do
      IO.println text
      return true
  | .complaint text => do
      IO.eprintln text
      return false

/-- Answers a statement at the present. -/
def respond (settings : Settings) (statement : String) : IO Bool := do
  deliver (Shell.answer settings (← present settings.zone) statement)

/-- Answers the lines of the input and returns the statements that were on them. -/
partial def converse (settings : Settings) (interactive : Bool) (input : IO.FS.Stream)
    (said : Array String) : IO (Array String) := do
  if interactive then
    IO.print Shell.prompt
    (← IO.getStdout).flush
  let line ← input.getLine
  if line.isEmpty then
    return said
  match Shell.statementOf? line.toList with
  | none => converse settings interactive input said
  | some statement =>
      let _ ← respond settings statement
      converse settings interactive input (said.push statement)

/-- The fault that an error of the system stands for. -/
def faultOf : IO.Error → History.Fault
  | .noFileOrDirectory _ code text | .interrupted _ code text
  | .alreadyExists _ code text | .invalidArgument _ code text
  | .permissionDenied _ code text | .resourceExhausted _ code text
  | .inappropriateType _ code text | .noSuchThing _ code text
  | .otherError code text | .resourceBusy code text | .resourceVanished code text
  | .unsupportedOperation code text | .hardwareFault code text
  | .unsatisfiedConstraints code text | .illegalOperation code text
  | .protocolError code text | .timeExpired code text => .refused code.toNat text
  | .unexpectedEof => .refused 0 "unexpected end of file"
  | .userError text => .refused 0 text

/-- Adds statements to the history and tells what keeps them from being added. -/
def writeHistory (path : String) (statements : List String) : IO (Option History.Fault) := do
  try
    let file ← IO.FS.Handle.mk path .append
    for statement in statements do
      file.putStrLn statement
    return none
  catch error =>
    return some (faultOf error)

/-- Keeps the statements of a session and tells whether they are kept. -/
def keepHistory (settings : Settings) (statements : List String) : IO Bool := do
  match Shell.historyPath? settings statements with
  | none => return true
  | some path =>
      let refusal ←
        match History.faultAt? (fun _ => none) path with
        | some fault => pure (some fault)
        | none => writeHistory path statements
      match refusal with
      | none => return true
      | some fault => do
          IO.eprintln (History.complaint path fault)
          return false

end FindQuery.Main

open FindQuery in
/-- Answers the statement in the arguments, or the statements on the input. -/
def main (arguments : List String) : IO UInt32 := do
  let settings ← Main.findSettings
  let succeeded ←
    if arguments.isEmpty then do
      IO.println Shell.banner
      let input ← IO.getStdin
      let statements ← Main.converse settings (← input.isTty) input #[]
      Main.keepHistory settings statements.toList
    else
      Main.respond settings (Shell.joinArguments arguments)
  return if succeeded then 0 else 1
