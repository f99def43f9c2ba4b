import LoxTokens.Double.Layout
import LoxTokens.Text.Escape
import LoxTokens.Text.Record
import LoxTokens.Token.Type

/-!
Lox tokens with the values that string and number tokens stand for. A token has two texts: the
line it makes in a listing, and one that shows each of its fields.
-/

namespace LoxTokens

inductive Literal
  | string (value : String)
  | number (value : Double)
  deriving DecidableEq

namespace Literal

/-- Equality of values. Numbers are equal as numbers, so a NaN is not equal to itself. -/
def equal : Literal → Literal → Bool
  | string s, string t => s == t
  | number x, number y => x.equal y
  | _,        _        => false

def text : Literal → String
  | string value => value
  | number value => value.text

def inspect : Literal → String
  | string value => "String(" ++ Text.quote value ++ ")"
  | number value => "Number(" ++ value.inspect ++ ")"

-- Equality and texts where there may be no literal.

def equal? : Option Literal → Option Literal → Bool
  | some l₁, some l₂ => l₁.equal l₂
  | none,    none    => true
  | _,       _       => false

def text? (literal : Option Literal) : String :=
  literal.elim "null" text

def inspect? (literal : Option Literal) : String :=
  literal.elim "None" fun l => "Some(" ++ l.inspect ++ ")"

end Literal

structure Token where
  type    : TokenType
  lexeme  : String
  literal : Option Literal
  line    : UInt32
  deriving DecidableEq

namespace Token

def eof (line : UInt32) : Token where
  type    := .eof
  lexeme  := ""
  literal := none
  line    := line

def equal (t₁ t₂ : Token) : Bool :=
  t₁.type == t₂.type && t₁.lexeme == t₂.lexeme &&
  Literal.equal? t₁.literal t₂.literal && t₁.line == t₂.line

def text (t : Token) : String :=
  t.type.name ++ " " ++ t.lexeme ++ " " ++ Literal.text? t.literal

def inspect (t : Token) : String :=
  Text.record "Token" [
    ("token_type", t.type.label),
    ("lexeme",     Text.quote t.lexeme),
    ("literal",    Literal.inspect? t.literal),
    ("line",       toString t.line.toNat)]

end Token
end LoxTokens
