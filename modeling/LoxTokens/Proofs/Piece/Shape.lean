import LoxTokens.Piece

/-!
The texts that the kinds of pieces have, and what may follow a piece in a source. A piece ends
where the next character cannot go on with it, so at most two characters of the rest decide.
-/

namespace LoxTokens

namespace TokenType

-- Punctuators and operators.
def symbols : List (List Char × TokenType) := [
  (['('], leftParen), ([')'], rightParen), (['{'], leftBrace), (['}'], rightBrace),
  ([','], comma), (['.'], dot), (['-'], minus), (['+'], plus), ([';'], semicolon),
  (['*'], star), (['/'], slash),
  (['!'], bang), (['!', '='], bangEqual), (['='], equal), (['=', '='], equalEqual),
  (['<'], less), (['<', '='], lessEqual), (['>'], greater), (['>', '='], greaterEqual)]

-- A reserved word has a type of its own, every other word is an identifier.
inductive OfWord (text : List Char) : TokenType → Prop
  | reserved   : (String.ofList text, type) ∈ keywords → OfWord text type
  | identifier : String.ofList text ∉ keywords.map Prod.fst → OfWord text identifier

end TokenType

namespace PieceKind

def IsDigits (text : List Char) : Prop :=
  text ≠ [] ∧ ∀ c ∈ text, c.isDigit

def IsWord : List Char → Prop
  | []      => False
  | c :: cs => (c.isAlpha ∨ c = '_') ∧ ∀ d ∈ cs, d.isAlphanum ∨ d = '_'

instance : DecidablePred IsDigits :=
  fun text => @instDecidableAnd _ _ _ (List.decidableBAll _ text)

instance : DecidablePred IsWord
  | []      => instDecidableFalse
  | _ :: cs => @instDecidableAnd _ _ _ (List.decidableBAll _ cs)

-- The texts of each kind. That of an open string is meant to be the whole rest of a source, and
-- a stray character has none, as it is one that no text of another kind starts with.
inductive Allows : PieceKind → List Char → Prop
  | symbol     : (text, type) ∈ TokenType.symbols → Allows (.lexeme type) text
  | comment    : '\n' ∉ cs → Allows .comment ('/' :: '/' :: cs)
  | blank      : c ∈ [' ', '\t', '\r'] → Allows .blank [c]
  | lineFeed   : Allows .lineFeed ['\n']
  | string     : '"' ∉ cs → Allows (.lexeme .string) ('"' :: cs ++ ['"'])
  | openString : '"' ∉ cs → Allows .openString ('"' :: cs)
  | whole      : IsDigits ds → Allows (.lexeme .number) ds
  | fraction   : IsDigits ds → IsDigits fs → Allows (.lexeme .number) (ds ++ '.' :: fs)
  | word       : IsWord text → TokenType.OfWord text type → Allows (.lexeme type) text

end PieceKind

namespace Piece

open PieceKind

-- Texts as `Allows` has them, and single characters that start none of these.
inductive WellShaped : Piece → Prop
  | allowed : p.kind.Allows p.text → WellShaped p
  | stray   : (∀ kind text, ¬Allows kind (c :: text)) → WellShaped ⟨.stray c, [c]⟩

-- The piece does not go on into the rest of the source.
def Stops (p : Piece) (rest : List Char) : Prop :=
  match p.kind with
  | .lexeme .slash  => ∀ c ∈ rest.head?, c ≠ '/'
  | .lexeme .bang | .lexeme .equal | .lexeme .less | .lexeme .greater =>
    ∀ c ∈ rest.head?, c ≠ '='
  | .lexeme .number =>
    (∀ c ∈ rest.head?, ¬c.isDigit) ∧
    ('.' ∉ p.text → rest.head? = some '.' → ∀ d ∈ rest.tail.head?, ¬d.isDigit)
  | .lexeme _       => IsWord p.text → ∀ c ∈ rest.head?, ¬isWordRest c
  | .comment        => ∀ c ∈ rest.head?, c = '\n'
  | .openString     => rest = []
  | _               => True

-- A source that starts with the piece, before the given rest, is to be cut behind the piece.
structure Leads (p : Piece) (rest : List Char) : Prop where
  shape : p.WellShaped
  stops : p.Stops rest

end Piece
end LoxTokens
