import LoxTokens.Text.Column

/-!
Log records. A filter names the most detailed level that is recorded, records of a more
detailed level are never made.
-/

namespace LoxTokens

namespace Log

inductive Level
  | error | warn | info | debug | trace
  deriving DecidableEq

namespace Level

def label : Level → String
  | error => "ERROR"
  | warn  => "WARN"
  | info  => "INFO"
  | debug => "DEBUG"
  | trace => "TRACE"

def detail : Level → Nat
  | error => 1
  | warn  => 2
  | info  => 3
  | debug => 4
  | trace => 5

end Level

structure Record where
  level   : Level
  target  : String
  message : String
  deriving DecidableEq

namespace Record

-- Further lines of a message are indented.
def text (r : Record) : String :=
  let message := r.message.toList.flatMap fun c => if c = '\n' then "\n    ".toList else [c]
  "[" ++ Text.column 5 r.level.label ++ " " ++ r.target ++ "] " ++ String.ofList message

end Record

inductive Filter
  | off
  | upTo (level : Level)
  deriving DecidableEq

def Filter.allows : Filter → Level → Bool
  | off,       _     => false
  | upTo most, level => level.detail ≤ most.detail

end Log

abbrev Log := Array Log.Record

-- The message is only made for a record that is kept.
def Log.add (log : Log) (filter : Log.Filter) (level : Log.Level) (target : String)
    (message : Unit → String) : Log :=
  if filter.allows level then log.push ⟨level, target, message ()⟩ else log

end LoxTokens
