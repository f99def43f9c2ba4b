import LoxTokens.Args.Process

/-!
The command line of the program.
-/

namespace LoxTokens.Command

structure Options where
  script : Option String
  quiet  : Bool
  deriving DecidableEq

namespace Options

def programName : String :=
  "lox"

def scriptField : Args.Field where
  name        := "script"
  short       := none
  long        := none
  description := "Script to scan, starts the prompt when omitted"
  required    := false
  positional  := true
  kind        := .optionalValue
  not_flag    := fun _ => nofun
  has_form    := (absurd rfl ·)

def quietField : Args.Field where
  name        := "quiet"
  short       := "-q"
  long        := "--quiet"
  description := "Only report diagnostics, do not print tokens"
  required    := false
  positional  := false
  kind        := .flag
  not_flag    := nofun
  has_form    := fun _ => .inl nofun

def definition : Args.Definition where
  description   :=
    "Lox scanner. Prints the tokens of a script, or of each line typed at the prompt."
  usageExitCode := 64
  fields        := [scriptField, quietField]

def ofValues (values : Args.Values) : Options where
  script :=
    match values.lookup "script" with
    | some (.optional path) => path
    | _                     => none
  quiet := values.lookup "quiet" == some (.flag true)

def parse (words : List String) : Except Args.ParseError Options :=
  (definition.parse words).map ofValues

end Options
end LoxTokens.Command
