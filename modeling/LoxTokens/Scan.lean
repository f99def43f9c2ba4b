import LoxTokens.Log
import LoxTokens.Piece
import LoxTokens.Scan.Error

/-!
Scanning a source text: its tokens, closed by an end-of-file token, and reports about what is
wrong in it. A scan never stops at an error, and it never reads anything back from the sink
that it reports into.
-/

namespace LoxTokens

universe u

inductive ScanEvent
  | token (t : Token)
  | error (e : LexicalError)
  deriving DecidableEq

/-- What a piece that starts on the given line gives rise to. A string belongs to the line of its
    opening quote, but one that is never closed is missed at the end of the source. -/
def Piece.event? (p : Piece) (line : UInt32) : Option ScanEvent :=
  match p.kind with
  | .lexeme type => some <| .token ⟨type, String.ofList p.text, p.literal?, line⟩
  | .openString  => some <| .error <| .unterminatedString (line + p.lineFeeds)
  | .stray c     => some <| .error <| .unexpectedCharacter line c
  | _            => none

namespace Scan

def target : String :=
  "lox_scanner::lexer"

structure State (σ : Type u) where
  sink   : σ
  tokens : Array Token
  log    : Log
  line   : UInt32

namespace State

variable {σ : Type u}

def start (sink : σ) (log : Log) : State σ :=
  ⟨sink, #[], log, 1⟩

def record (filter : Log.Filter) (s : State σ) (event : ScanEvent) : State σ :=
  match event with
  | .token t => { s with log := s.log.add filter .trace target fun _ => t.inspect }
  | .error e => { s with log := s.log.add filter .debug target fun _ => e.inspect }

def emit (report : σ → Diagnostic → σ) (s : State σ) (event : ScanEvent) : State σ :=
  match event with
  | .token t => { s with tokens := s.tokens.push t }
  | .error e => { s with sink := report s.sink e.diagnostic }

def step (filter : Log.Filter) (report : σ → Diagnostic → σ) (s : State σ) (p : Piece) :
    State σ :=
  let s' :=
    match p.event? s.line with
    | some event => (s.record filter event).emit report event
    | none       => s
  { s' with line := s'.line + p.lineFeeds }

def close (s : State σ) : State σ :=
  { s with tokens := s.tokens.push <| .eof s.line }

end State

-- Scans with a log, which is continued, next to the sink.
def run {σ : Type u} (filter : Log.Filter) (report : σ → Diagnostic → σ) (sink : σ)
    (log : Log) (source : String) : State σ :=
  let opening := fun _ => "==== Scan " ++ toString source.utf8ByteSize ++ " bytes ===="
  let first   := State.start sink <| log.add filter .debug target opening
  let last    := Piece.foldSource (State.step filter report) first source.toList |>.close
  let closing := fun _ => "==== Scanned " ++ toString last.tokens.size ++ " tokens ===="
  { last with log := last.log.add filter .debug target closing }

/-- Scans the source and reports what is wrong into a sink. Yields the tokens and the sink. -/
def into {σ : Type u} (report : σ → Diagnostic → σ) (sink : σ) (source : String) :
    List Token × σ :=
  let last := run .off report sink #[] source
  (last.tokens.toList, last.sink)

end Scan

structure ScanResult where
  tokens      : List Token
  diagnostics : Diagnostics
  deriving DecidableEq

/-- Scans the source with a collector of its own. -/
def scan (source : String) : ScanResult :=
  let (tokens, diagnostics) := Scan.into .report .empty source
  ⟨tokens, diagnostics⟩

-- The records that a scan makes.
def scanLog (filter : Log.Filter) (source : String) : List Log.Record :=
  (Scan.run filter Diagnostics.report .empty #[] source).log.toList

end LoxTokens
