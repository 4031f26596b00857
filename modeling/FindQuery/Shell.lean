import FindQuery.Grammar.Statement
import FindQuery.History
import FindQuery.Query.Document
import FindQuery.Settings
import FindQuery.Text.Blank
import FindQuery.Text.TypedLine

/-!
# The shell

The shell answers a statement with the document of its query, or with an error
that points into the statement.  Given arguments it answers the one statement
that they make up; otherwise it answers every line of its input that is not
blank once the backspaces in it are applied, and goes on after an error.  At the
end it keeps these lines as its history, if the settings name a file for it.
-/

namespace FindQuery.Shell

open FindQuery.Text
open FindQuery.Time

/-- The answer to a statement. -/
inductive Answer where
  /-- The document of a query, for the output. -/
  | document (text : String)
  /-- A rendered error, for the error output. -/
  | complaint (text : String)
  deriving DecidableEq, Repr, Inhabited

/-- Answers a statement at a given time. -/
def answer (settings : Settings) (now : Instant) (statement : String) : Answer :=
  match Query.parse statement now with
  | .ok query => .document (query.write settings.pretty)
  | .error error => .complaint (error.render statement)

/-- What a run of the shell leaves behind. -/
structure Transcript where
  exitCode : Nat
  output : String
  errors : String
  deriving DecidableEq, Repr, Inhabited

namespace Transcript

/-- Adds the line of an answer to the output or to the error output. -/
def record (transcript : Transcript) : Answer → Transcript
  | .document text => { transcript with output := transcript.output ++ text ++ "\n" }
  | .complaint text => { transcript with errors := transcript.errors ++ text ++ "\n" }

/-- Fails because the history cannot be kept at a path. -/
def loseHistory (transcript : Transcript) (path : String) (fault : History.Fault) : Transcript :=
  { transcript with
    exitCode := 1
    errors := transcript.errors ++ History.complaint path fault ++ "\n" }

end Transcript

/-- The line that opens a session. -/
def banner : String := "findql: enter FIND statements, Ctrl-D to quit"

/-- The text that asks for a line. -/
def prompt : String := "findql> "

/-- The statement that arguments make up. -/
def joinArguments (arguments : List String) : String :=
  " ".intercalate arguments

/-- The statement that stands on a typed line, `none` if the line is blank. -/
def statementOf? (line : List Char) : Option String :=
  match trim (applyBackspaces line) with
  | [] => none
  | first :: rest => some (String.ofList (first :: rest))

/-- The lines of a text, with the one after the last line break even if it is empty. -/
def linesOf : List Char → List (List Char)
  | [] => [[]]
  | first :: rest =>
      if first = '\n' then
        [] :: linesOf rest
      else
        match linesOf rest with
        | [] => [[first]]
        | line :: later => (first :: line) :: later

/-- Answers the statement that arguments make up; the exit code tells whether it was one. -/
def runArguments (settings : Settings) (now : Instant) (arguments : List String) : Transcript :=
  match answer settings now (joinArguments arguments) with
  | .document text => Transcript.record ⟨0, "", ""⟩ (.document text)
  | .complaint text => Transcript.record ⟨1, "", ""⟩ (.complaint text)

/-- The statements on the lines of an input. -/
def statementsOf (input : String) : List String :=
  (linesOf input.toList).filterMap statementOf?

/-- The path where statements are to be kept; none are kept without a statement. -/
def historyPath? (settings : Settings) (statements : List String) : Option String :=
  if statements.isEmpty then none else settings.historyFile

/-- Ends a session that answered some statements by keeping its history. -/
def keepHistory (settings : Settings) (refusal? : String → Option History.Fault)
    (statements : List String) (transcript : Transcript) : Transcript :=
  match historyPath? settings statements with
  | none => transcript
  | some path =>
      match History.faultAt? refusal? path with
      | none => transcript
      | some fault => transcript.loseHistory path fault

/-- Answers the lines of an input. -/
def runSession (settings : Settings) (now : Instant)
    (refusal? : String → Option History.Fault) (input : String) : Transcript :=
  let statements := statementsOf input
  keepHistory settings refusal? statements <|
    statements.foldl
      (fun transcript statement => transcript.record (answer settings now statement))
      ⟨0, banner ++ "\n", ""⟩

/--
Runs the shell on arguments and an input, where `refusal?` tells why the system
would not let a file be written at a path.
-/
def run (settings : Settings) (now : Instant) (refusal? : String → Option History.Fault)
    (arguments : List String) (input : String) : Transcript :=
  if arguments.isEmpty then
    runSession settings now refusal? input
  else
    runArguments settings now arguments

/-- The settings of a file, or the standard ones if it has none. -/
def settingsOf (path : String) (file : Settings.File) : Settings :=
  match Settings.load path file with
  | .ok settings => settings
  | .error _ => Settings.standard

end FindQuery.Shell
