import LoxTokens.Args.Help
import LoxTokens.Args.Parser
import LoxTokens.Text.Escape
import LoxTokens.Text.Record

/-!
What becomes of a process that parses its command line: it goes on with the values, or it prints
the help, after a message unless the help was asked for, and ends.
-/

namespace LoxTokens.Args

def Value.inspect : Value → String
  | flag on              => if on then "true" else "false"
  | text word            => Text.quote word
  | optional (some word) => "Some(" ++ Text.quote word ++ ")"
  | optional none        => "None"

def Values.inspect (name : String) (values : Values) : String :=
  Text.record name <| values.map fun (field, value) => (field, value.inspect)

-- A process that has ended, with the texts it printed, each with a line feed after it.
structure Ending where
  exitCode : UInt8
  printed  : List String
  deriving DecidableEq

-- The system keeps the low eight bits of the code that a process ends with.
def exitStatus (code : Int32) : UInt8 :=
  UInt8.ofNat (code.toInt % 256).toNat

namespace Definition

def ending (d : Definition) (program : String) : ParseError → Ending
  | .helpRequested => ⟨0, d.help program⟩
  | e              => ⟨exitStatus d.usageExitCode, e.message :: d.help program⟩

def start (d : Definition) (program : String) (words : List String) : Except Ending Values :=
  (d.parse words).mapError (d.ending program)

end Definition
end LoxTokens.Args
