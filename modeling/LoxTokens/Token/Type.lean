/-!
The types of Lox tokens, their names, and the reserved words among them.
-/

namespace LoxTokens

inductive TokenType
  -- single-character tokens
  | leftParen | rightParen | leftBrace | rightBrace
  | comma | dot | minus | plus | semicolon | slash | star
  -- one- or two-character tokens
  | bang | bangEqual | equal | equalEqual
  | greater | greaterEqual | less | lessEqual
  -- literals
  | identifier | string | number
  -- keywords
  | kwAnd | kwClass | kwElse | kwFalse | kwFun | kwFor | kwIf | kwNil
  | kwOr | kwPrint | kwReturn | kwSuper | kwThis | kwTrue | kwVar | kwWhile
  | eof
  deriving DecidableEq

namespace TokenType

/-- All types in their order. -/
def all : List TokenType := [
  leftParen, rightParen, leftBrace, rightBrace,
  comma, dot, minus, plus, semicolon, slash, star,
  bang, bangEqual, equal, equalEqual,
  greater, greaterEqual, less, lessEqual,
  identifier, string, number,
  kwAnd, kwClass, kwElse, kwFalse, kwFun, kwFor, kwIf, kwNil,
  kwOr, kwPrint, kwReturn, kwSuper, kwThis, kwTrue, kwVar, kwWhile,
  eof]

def ordinal (type : TokenType) : Nat :=
  all.idxOf type

def name : TokenType → String
  | leftParen    => "LEFT_PAREN"
  | rightParen   => "RIGHT_PAREN"
  | leftBrace    => "LEFT_BRACE"
  | rightBrace   => "RIGHT_BRACE"
  | comma        => "COMMA"
  | dot          => "DOT"
  | minus        => "MINUS"
  | plus         => "PLUS"
  | semicolon    => "SEMICOLON"
  | slash        => "SLASH"
  | star         => "STAR"
  | bang         => "BANG"
  | bangEqual    => "BANG_EQUAL"
  | equal        => "EQUAL"
  | equalEqual   => "EQUAL_EQUAL"
  | greater      => "GREATER"
  | greaterEqual => "GREATER_EQUAL"
  | less         => "LESS"
  | lessEqual    => "LESS_EQUAL"
  | identifier   => "IDENTIFIER"
  | string       => "STRING"
  | number       => "NUMBER"
  | kwAnd        => "AND"
  | kwClass      => "CLASS"
  | kwElse       => "ELSE"
  | kwFalse      => "FALSE"
  | kwFun        => "FUN"
  | kwFor        => "FOR"
  | kwIf         => "IF"
  | kwNil        => "NIL"
  | kwOr         => "OR"
  | kwPrint      => "PRINT"
  | kwReturn     => "RETURN"
  | kwSuper      => "SUPER"
  | kwThis       => "THIS"
  | kwTrue       => "TRUE"
  | kwVar        => "VAR"
  | kwWhile      => "WHILE"
  | eof          => "EOF"

-- The name as it is shown inside a structured value.
def label : TokenType → String
  | leftParen    => "LeftParen"
  | rightParen   => "RightParen"
  | leftBrace    => "LeftBrace"
  | rightBrace   => "RightBrace"
  | comma        => "Comma"
  | dot          => "Dot"
  | minus        => "Minus"
  | plus         => "Plus"
  | semicolon    => "Semicolon"
  | slash        => "Slash"
  | star         => "Star"
  | bang         => "Bang"
  | bangEqual    => "BangEqual"
  | equal        => "Equal"
  | equalEqual   => "EqualEqual"
  | greater      => "Greater"
  | greaterEqual => "GreaterEqual"
  | less         => "Less"
  | lessEqual    => "LessEqual"
  | identifier   => "Identifier"
  | string       => "String"
  | number       => "Number"
  | kwAnd        => "And"
  | kwClass      => "Class"
  | kwElse       => "Else"
  | kwFalse      => "False"
  | kwFun        => "Fun"
  | kwFor        => "For"
  | kwIf         => "If"
  | kwNil        => "Nil"
  | kwOr         => "Or"
  | kwPrint      => "Print"
  | kwReturn     => "Return"
  | kwSuper      => "Super"
  | kwThis       => "This"
  | kwTrue       => "True"
  | kwVar        => "Var"
  | kwWhile      => "While"
  | eof          => "Eof"

def keywords : List (String × TokenType) := [
  ("and", kwAnd), ("class", kwClass), ("else", kwElse), ("false", kwFalse),
  ("for", kwFor), ("fun", kwFun), ("if", kwIf), ("nil", kwNil),
  ("or", kwOr), ("print", kwPrint), ("return", kwReturn), ("super", kwSuper),
  ("this", kwThis), ("true", kwTrue), ("var", kwVar), ("while", kwWhile)]

/-- The type of a reserved word, none for any other text. -/
def keyword? (text : String) : Option TokenType :=
  keywords.lookup text

def isKeyword (type : TokenType) : Bool :=
  keywords.any (·.2 = type)

end TokenType
end LoxTokens
