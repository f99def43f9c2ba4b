import LoxTokens.Command.Run

/-!
The program `lox` on the real system. The level of the log is taken from the environment.
-/

namespace LoxTokens.Command

def filterOfName : Option String → Log.Filter
  | some "off"   => .off
  | some "warn"  => .upTo .warn
  | some "info"  => .upTo .info
  | some "debug" => .upTo .debug
  | some "trace" => .upTo .trace
  | _            => .upTo .error

def describe : IO.Error → ReadError
  | .noFileOrDirectory _ number details => .ofNumber number details
  | .inappropriateType _ number details => .ofNumber number details
  | .permissionDenied _ number details  => .ofNumber number details
  | .invalidArgument _ number details   => .ofNumber number details
  | .resourceExhausted _ number details => .ofNumber number details
  | .hardwareFault number details       => .ofNumber number details
  | .otherError number details          => .ofNumber number details
  | e                                   => .ofNumber 5 (toString e)

def finish (outcome : Outcome) : IO UInt32 := do
  for write in outcome.output.writes do
    match write with
    | .print text => IO.println text
    | .log r      => IO.eprintln r.text
  return outcome.exitCode.toUInt32

def runProcess (words : List String) : IO UInt32 := do
  let filter := filterOfName (← IO.getEnv "LOX_LOG")
  match options words with
  | .error outcome => finish outcome
  | .ok options    =>
    match options.script with
    | some path =>
      let content ← (IO.FS.readBinFile path).toBaseIO
      finish <| runScript options filter path <| content.mapError describe
    | none =>
      let input ← (← IO.getStdin).readBinToEnd
      finish <| runPrompt options filter <| readLines input

end LoxTokens.Command

def main (words : List String) : IO UInt32 :=
  LoxTokens.Command.runProcess words
