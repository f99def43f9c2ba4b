import LoxTokens.Args.TypeExpr.Lexeme

/-!
Type expressions of declared fields. All that matters of a type is whether it is a path, such as
`std::option::Option<String>`, and the names of the path, without what stands in brackets.
-/

namespace LoxTokens.Args

inductive TypeExpr
  | path (names : List String)
  -- a reference, a tuple, a function type and so on
  | other
  deriving DecidableEq

namespace TypeExpr

namespace Lexeme

-- What stands outside of all brackets, with the brackets that open there, given the closing ones
-- of those that are open. Within round, square and curly brackets the angle signs are no brackets,
-- and in an arrow neither.
def outside (closers : List Char) : List Lexeme → List Lexeme
  | .sign '-' :: .sign '>' :: ls => keep [.sign '-', .sign '>'] ++ outside closers ls
  | .sign c :: ls =>
    match closing? c with
    | some close => keep [.sign c] ++ outside (close :: closers) ls
    | none       =>
      if closers.head? = some c then outside closers.tail ls
      else keep [.sign c] ++ outside closers ls
  | l :: ls => keep [l] ++ outside closers ls
  | []      => []
where
  keep (ls : List Lexeme) : List Lexeme :=
    if closers.isEmpty then ls else []
  closing? : Char → Option Char
    | '(' => some ')'
    | '[' => some ']'
    | '{' => some '}'
    | '<' => if closers.all (· = '>') then some '>' else none
    | _   => none

-- Whether a lexeme can stand in a path before its results, outside of all brackets.
def inPath : Lexeme → Bool
  | word _ => true
  | sign c => c = ':' ∨ c = '<' ∨ c = '('

-- The names of a path. After an arrow comes the type of a result, which belongs to the arguments
-- of the last name. Only after one in round brackets can the path go on.
def names : List Lexeme → List String
  | .sign '-' :: .sign '>' :: .sign '(' :: ls => names ls
  | .sign '-' :: .sign '>' :: _               => []
  | .word name :: ls                          => name :: names ls
  | _ :: ls                                   => names ls
  | []                                        => []

end Lexeme

-- Words that start a type which is not a path.
def nonPathWords : List String :=
  ["dyn", "impl", "fn", "unsafe", "extern", "for", "_"]

-- A sum of bounds, a macro call and a built-in operation such as `builtin # name(…)` only start
-- like a path. The type of a result may be any of them but a sum.
def ofLexemes (ls : List Lexeme) : TypeExpr :=
  let outer := Lexeme.outside [] ls
  if .sign '+' ∉ outer ∧ (outer.takeWhile (· ≠ .sign '-')).all Lexeme.inPath then
    .path (Lexeme.names outer)
  else
    .other

-- A byte order mark may come first.
def read (text : String) : TypeExpr :=
  let cs := match text.toList with
    | '\ufeff' :: cs => cs
    | cs             => cs
  match Lexeme.readAll cs with
  | .word w :: ls   => if w ∈ nonPathWords then .other else ofLexemes (.word w :: ls)
  | .sign ':' :: ls => ofLexemes (.sign ':' :: ls)
  | .sign '<' :: ls => ofLexemes (.sign '<' :: ls)
  | _               => .other

end TypeExpr
end LoxTokens.Args
