import LoxTokens.Diagnostic

/-!
What can be wrong with a source text, character by character.
-/

namespace LoxTokens

inductive LexicalError
  | unexpectedCharacter (line : UInt32) (character : Char)
  | unterminatedString (line : UInt32)
  -- a failure of the scanner itself, with its own message
  | internalError (message : String) (line : UInt32)
  deriving DecidableEq

namespace LexicalError

def line : LexicalError → UInt32
  | unexpectedCharacter line _ => line
  | unterminatedString line    => line
  | internalError _ line       => line

def location : LexicalError → String
  | unexpectedCharacter _ c => "at '" ++ String.ofList (Text.escapeChar c) ++ "'"
  | _                       => ""

def message : LexicalError → String
  | unexpectedCharacter .. => "Unexpected character."
  | unterminatedString _   => "Unterminated string."
  | internalError msg _    => msg

def diagnostic (e : LexicalError) : Diagnostic where
  line     := e.line
  location := e.location
  message  := e.message

def inspect : LexicalError → String
  | unexpectedCharacter line c =>
    Text.record "UnexpectedCharacter" [
      ("line", toString line.toNat), ("character", Text.quoteChar c)]
  | unterminatedString line =>
    Text.record "UnterminatedString" [("line", toString line.toNat)]
  | internalError msg line =>
    Text.record "InternalError" [("msg", Text.quote msg), ("line", toString line.toNat)]

end LexicalError
end LoxTokens
