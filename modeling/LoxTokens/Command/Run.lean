import LoxTokens.Command.Input
import LoxTokens.Command.Options
import LoxTokens.Scan

/-!
The command: it prints the tokens of a script, or of each line typed at the prompt, and logs what
was reported about the text. Lines are scanned one by one, so nothing is carried over from a line
to the next.
-/

namespace LoxTokens.Command

def target : String :=
  "lox"

-- A line feed follows a printed text.
inductive Write
  | print (text : String)
  | log (r : Log.Record)
  deriving DecidableEq

namespace Write

@[simp]
def printed? : Write → Option String
  | print text => some text
  | log _      => none

@[simp]
def logged? : Write → Option Log.Record
  | print _ => none
  | log r   => some r

end Write

-- What has been written so far, in its order.
structure Output where
  writes : Array Write
  deriving DecidableEq

structure Outcome where
  exitCode : UInt8
  output   : Output
  deriving DecidableEq

namespace Output

def empty : Output :=
  ⟨#[]⟩

def printed (out : Output) : List String :=
  out.writes.toList.filterMap Write.printed?

def log (out : Output) : Log :=
  out.writes.filterMap Write.logged?

def append (out : Output) (writes : Array Write) : Output :=
  ⟨out.writes ++ writes⟩

def add (out : Output) (filter : Log.Filter) (level : Log.Level) (message : String) : Output :=
  out.append <| (Log.add #[] filter level target fun _ => message).map .log

def text (out : Output) : String :=
  String.join <| out.printed.map (· ++ "\n")

end Output

inductive Failure
  | script (path : String) (error : ReadError)
  | prompt (error : ReadError)

namespace Failure

def message : Failure → String
  | script path e => "Failed to read file '" ++ path ++ "': " ++ e.message
  | prompt e      => "Prompt failed: " ++ e.message

def exitCode : Failure → UInt8
  | script .. => 66
  | prompt _  => 74

def outcome (filter : Log.Filter) (out : Output) (failure : Failure) : Outcome :=
  ⟨failure.exitCode, out.add filter .error failure.message⟩

end Failure

/-- Scans a text into the collector, prints the tokens and logs all that was collected. -/
def scanText (options : Options) (filter : Log.Filter) (ds : Diagnostics) (out : Output)
    (source : String) : Diagnostics × Output :=
  let last    := Scan.run filter .report ds #[] source
  let scanned := out.append <| last.log.map .log
  let printed := if options.quiet then #[] else last.tokens.map fun t => .print t.text
  (last.sink,
    last.sink.reported.foldl (fun out d => out.add filter .error d.text) (scanned.append printed))

def runScript (options : Options) (filter : Log.Filter) (path : String)
    (content : Except ReadError ByteArray) : Outcome :=
  match content >>= decode with
  | .error e   => Failure.script path e |>.outcome filter .empty
  | .ok source =>
    let opened    := Output.empty.add filter .info <| "Scanning file: " ++ path
    let (ds, out) := scanText options filter .empty opened source
    ⟨if ds.hadError then 65 else 0, out⟩

-- The prompt before a line is read.
structure Prompt where
  diagnostics : Diagnostics
  output      : Output

namespace Prompt

def start : Prompt :=
  ⟨.empty, .empty⟩

-- The collector is used for all lines, so it has to be cleared behind each.
def answer (options : Options) (filter : Log.Filter) (p : Prompt) (line : String) : Prompt :=
  let (ds, out) := scanText options filter p.diagnostics p.output line
  ⟨ds.clear, out⟩

def run (options : Options) (filter : Log.Filter) (p : Prompt) :
    List (Except ReadError String) → Outcome
  | []                => ⟨0, p.output⟩
  | .error e :: _     => Failure.prompt e |>.outcome filter p.output
  | .ok line :: lines => (p.answer options filter line).run options filter lines

end Prompt

def runPrompt (options : Options) (filter : Log.Filter) (lines : List (Except ReadError String)) :
    Outcome :=
  Prompt.start.run options filter lines

-- Without usable options nothing is read, and the command ends with its help.
def options (words : List String) : Except Outcome Options :=
  (Options.parse words).mapError fun e =>
    let ending := Options.definition.ending Options.programName e
    ⟨ending.exitCode, ⟨ending.printed.toArray.map .print⟩⟩

/-- Runs the command, given how files are read and what stands at its standard input. -/
def run (readFile : String → Except ReadError ByteArray) (input : ByteArray)
    (filter : Log.Filter) (words : List String) : Outcome :=
  match options words with
  | .error outcome => outcome
  | .ok options    =>
    match options.script with
    | some path => runScript options filter path (readFile path)
    | none      => runPrompt options filter (readLines input)

end LoxTokens.Command
