import LoxTokens.Proofs.Scan.Events
import Mathlib.Data.String.Basic
import Mathlib.Logic.Relation

/-!
Scanning with a cursor. It keeps its place in the source twice, as the characters that are left and as
a byte offset, and the texts of tokens are slices between two offsets. A scan is broken up into steps,
and none of them takes more than one character.
-/

namespace LoxTokens.Scan

-- A slice that ends before it starts, reaches out of the text or cuts a character apart.
structure BadSlice where
  start : String.Pos.Raw
  stop  : String.Pos.Raw
  deriving DecidableEq

def slice (text : String) (start stop : String.Pos.Raw) : Except BadSlice String :=
  if start ≤ stop ∧ start.isValid text ∧ stop.isValid text then
    .ok <| start.extract text stop
  else
    .error ⟨start, stop⟩

-- Where a scan stands. Each of its loops has a stage, in which the scan stays until the loop ends.
inductive Stage
  | between                    -- behind one piece and in front of the next
  | begun                      -- a piece of which nothing is taken
  | first (c : Char)           -- a piece of which the first character is taken
  | lexeme (type : TokenType)  -- a punctuator or an operator, all of it taken
  | comment
  | quoted
  | closed                     -- a string, its closing quote taken
  | whole
  | fraction
  | number                     -- all of it taken
  | word
  | done
  deriving DecidableEq

namespace Stage

-- The characters that the loop of the stage goes on with.
def takes : Stage → Char → Bool
  | between,  _ => true
  | comment,  c => c ≠ '\n'
  | quoted,   c => c ≠ '"'
  | whole,    c => c.isDigit
  | fraction, c => c.isDigit
  | word,     c => Piece.isWordRest c
  | _,        _ => false

-- Stages follow each other by falling ranks as long as no character is taken.
def rank : Stage → Nat
  | done                       => 0
  | begun                      => 1
  | between                    => 2
  | lexeme _ | closed | number => 3
  | comment | quoted           => 4
  | whole | fraction | word    => 4
  | first _                    => 5

end Stage

structure Cursor where
  stage     : Stage
  rest      : List Char       -- what is left of the source
  start     : String.Pos.Raw  -- of the piece
  current   : String.Pos.Raw
  startLine : UInt32          -- of the piece
  line      : UInt32
  events    : List ScanEvent
  ranOut    : Bool            -- a character was to be taken where none was left
  deriving DecidableEq

namespace Cursor

def initial (source : String) : Cursor where
  stage     := .between
  rest      := source.toList
  start     := 0
  current   := 0
  startLine := 1
  line      := 1
  events    := []
  ranOut    := false

section

variable (source : String) (s : Cursor)

def enter (stage : Stage) : Cursor :=
  { s with stage := stage }

def emit (event : ScanEvent) : Cursor :=
  { s with events := s.events ++ [event] }

def isAtEnd : Bool :=
  source.rawEndPos ≤ s.current

-- The next character is read off what is left, the one behind it off the slice from the offset on. Where
-- there is none, the answer is a character that may just as well stand in the source.

def peek : Char :=
  s.rest.headD '\x00'

def peekNext : Except BadSlice Char :=
  (slice source s.current source.rawEndPos).map fun text => text.toList.getD 1 '\x00'

def advance : Char × Cursor :=
  match s.rest with
  | c :: cs => (c, { s with rest := cs, current := s.current + c })
  | []      => ('\x00', { s with ranOut := true })

def matchChar (expected : Char) : Bool × Cursor :=
  if s.peek ≠ expected ∨ s.isAtEnd source then (false, s) else (true, s.advance.2)

def addToken (type : TokenType) (literal : Option Literal) : Except BadSlice Cursor :=
  (slice source s.start s.current).map fun lexeme =>
    (s.emit <| .token ⟨type, lexeme, literal, s.startLine⟩).enter .between

-- What the first character of a piece leads to.
def dispatch (c : Char) : Cursor :=
  match Piece.punctuator? c with
  | some type => s.enter <| .lexeme type
  | none      =>
    match Piece.operator? c with
    | some types =>
      let m := s.matchChar source '='
      m.2.enter <| .lexeme <| if m.1 then types.2 else types.1
    | none =>
      if c = '/' then
        let m := s.matchChar source '/'
        m.2.enter <| if m.1 then .comment else .lexeme .slash
      else if Piece.isBlank c then
        s.enter .between
      else if c = '\n' then
        { s with line := s.line + 1 }.enter .between
      else if c = '"' then
        s.enter .quoted
      else if c.isDigit then
        s.enter .whole
      else if Piece.isWordStart c then
        s.enter .word
      else
        (s.emit <| .error <| .unexpectedCharacter s.line c).enter .between

-- The condition of the loop of the stage, if it has one.
def loops : Bool :=
  match s.stage with
  | .between  => !s.isAtEnd source
  | .comment  => s.peek ≠ '\n' && !s.isAtEnd source
  | .quoted   => s.peek ≠ '"' && !s.isAtEnd source
  | .whole    => s.peek.isDigit
  | .fraction => s.peek.isDigit
  | .word     => Piece.isWordRest s.peek
  | _         => false

-- The body of the loop, which for the loop over the pieces only begins here.
def body : Cursor :=
  match s.stage with
  | .between => { s with start := s.current, startLine := s.line, stage := .begun }
  | .quoted  => if s.peek = '\n' then { s with line := s.line + 1 }.advance.2 else s.advance.2
  | _        => s.advance.2

-- What is done where no loop goes on.
def proceed : Except BadSlice Cursor :=
  match s.stage with
  | .between     => .ok <| s.enter .done
  | .begun       => .ok <| s.advance.2.enter <| .first s.advance.1
  | .first c     => .ok <| s.dispatch source c
  | .lexeme type => s.addToken source type none
  | .comment     => .ok <| s.enter .between
  | .quoted      =>
    if s.isAtEnd source then
      .ok <| (s.emit <| .error <| .unterminatedString s.line).enter .between
    else
      .ok <| s.advance.2.enter .closed
  | .closed => do
    let value ← slice source ⟨s.start.byteIdx + 1⟩ ⟨s.current.byteIdx - 1⟩
    s.addToken source .string <| some <| .string value
  | .whole =>
    if s.peek = '.' then do
      let next ← s.peekNext source
      return if next.isDigit then s.advance.2.enter .fraction else s.enter .number
    else
      .ok <| s.enter .number
  | .fraction => .ok <| s.enter .number
  | .number => do
    let lexeme ← slice source s.start s.current
    s.addToken source .number <| some <| .number <| .ofDecimal <| .read lexeme.toList
  | .word => do
    let lexeme ← slice source s.start s.current
    s.addToken source ((TokenType.keyword? lexeme).getD .identifier) none
  | .done => .ok s

def step : Except BadSlice Cursor :=
  if s.loops source then .ok s.body else s.proceed source

end

def Next (source : String) (s t : Cursor) : Prop :=
  s.step source = .ok t

def Steps (source : String) : Cursor → Cursor → Prop :=
  Relation.ReflTransGen (Next source)

def Reached (source : String) (s : Cursor) : Prop :=
  Steps source (initial source) s

-- Both places of the cursor are the same place of the source.
structure Agrees (source : String) (s : Cursor) : Prop where
  order    : s.start ≤ s.current ∧ s.current ≤ source.rawEndPos
  start    : s.start.IsValid source
  current  : s.current.IsValid source
  rest     : slice source s.current source.rawEndPos = .ok (String.ofList s.rest)
  peekNext : s.peekNext source = .ok (s.rest.tail.headD '\x00')
  atEnd    : s.isAtEnd source ↔ s.rest = []
  ranOut   : ¬s.ranOut

-- No more than so many steps are left.
def bound (s : Cursor) : Nat :=
  6 * s.rest.length + s.stage.rank

end Cursor
end LoxTokens.Scan
