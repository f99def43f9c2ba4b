/-!
The lexemes of a type expression: words and signs. Comments and white space are skipped. Quoted
texts become single signs, as nothing in them matters.
-/

namespace LoxTokens.Args.TypeExpr

inductive Lexeme
  | word (text : String)
  | sign (c : Char)
  deriving DecidableEq

namespace Lexeme

def isSpace (c : Char) : Bool :=
  c == ' ' || '\t' ≤ c && c ≤ '\r' || c == '\u0085' || c == '\u00a0' || c == '\u1680' ||
  '\u2000' ≤ c && c ≤ '\u200a' || '\u200e' ≤ c && c ≤ '\u200f' ||
  '\u2028' ≤ c && c ≤ '\u2029' || c == '\u202f' || c == '\u205f' || c == '\u3000'

def isWord (c : Char) : Bool :=
  c.isAlphanum || c == '_' || '\u0080' ≤ c && !isSpace c

-- What follows a block comment, which may hold others, given the comments that are open.
def afterComment : Nat → List Char → List Char
  | n,     '/' :: '*' :: cs => afterComment (n + 1) cs
  | n + 1, '*' :: '/' :: cs => if n = 0 then cs else afterComment n cs
  | n,     _ :: cs          => afterComment n cs
  | _,     []               => []

-- What follows a quoted text, in which a backslash keeps a quote from ending it.
def afterQuote (quote : Char) : List Char → List Char
  | '\\' :: _ :: cs => afterQuote quote cs
  | c :: cs         => if c = quote then cs else afterQuote quote cs
  | []              => []

-- What follows a raw text, in which a backslash is a character like others. It ends at a quote
-- with the marks after it that stood before the opening one.
def afterRaw (marks : List Char) : List Char → List Char
  | []      => []
  | c :: cs =>
    if c = '"' ∧ marks.isPrefixOf cs then cs.drop marks.length else afterRaw marks cs

-- Words that make the quoted text after them a raw one.
def rawWords : List (List Char) :=
  [['r'], ['b', 'r'], ['c', 'r']]

-- What follows the raw text that starts with a word, if one does.
def afterRaw? (word cs : List Char) : Option (List Char) :=
  match cs.dropWhile (· = '#') with
  | '"' :: rest => if word ∈ rawWords then some (afterRaw (cs.takeWhile (· = '#')) rest) else none
  | _           => none

-- A quoted text ends with the word that directly follows it.
def literal (rest : List Char) : Lexeme × List Char :=
  (.sign '"', rest.dropWhile isWord)

-- The lexeme that starts with a word. A raw name keeps its mark.
def readWord (text cs : List Char) : Lexeme × List Char :=
  match afterRaw? text cs, cs with
  | some rest, _                => literal rest
  | none,      '#' :: d :: rest =>
    if text = ['r'] ∧ isWord d then
      (.word <| String.ofList <| 'r' :: '#' :: d :: rest.takeWhile isWord, rest.dropWhile isWord)
    else
      (.word <| String.ofList text, cs)
  | none,      _                => (.word <| String.ofList text, cs)

-- The lexeme that starts with another sign, if it is not to be skipped.
def readSign (c : Char) (cs : List Char) : Option Lexeme × List Char :=
  match c, cs with
  | '/',  '/' :: rest       => (none, rest.dropWhile (· ≠ '\n'))
  | '/',  '*' :: rest       => (none, afterComment 1 rest)
  | '"',  rest              => (literal (afterQuote '"' rest)).map some id
  | '\'', '\\' :: rest      => (literal (afterQuote '\'' ('\\' :: rest))).map some id
  | '\'', _ :: '\'' :: rest => (literal rest).map some id
  | c,    rest              => (some <| .sign c, rest)

-- The lexeme at the front, if there is one, and the rest.
def read (c : Char) (cs : List Char) : Option Lexeme × List Char :=
  if isSpace c then
    (none, cs)
  else if isWord c then
    (readWord (c :: cs.takeWhile isWord) (cs.dropWhile isWord)).map some id
  else
    readSign c cs

theorem afterComment_length_le (n : Nat) (cs : List Char) :
    (afterComment n cs).length ≤ cs.length := by
  fun_induction afterComment n cs <;> grind

theorem afterQuote_length_le (quote : Char) (cs : List Char) :
    (afterQuote quote cs).length ≤ cs.length := by
  fun_induction afterQuote quote cs <;> grind

theorem afterRaw_length_le (marks cs : List Char) : (afterRaw marks cs).length ≤ cs.length := by
  fun_induction afterRaw marks cs <;> grind

theorem afterRaw?_length_le {word cs rest : List Char} (h : afterRaw? word cs = some rest) :
    rest.length ≤ cs.length := by
  have := (List.dropWhile_suffix (· = '#') (l := cs)).length_le
  unfold afterRaw? at h
  grind [afterRaw_length_le]

theorem literal_length_le (rest : List Char) : (literal rest).2.length ≤ rest.length :=
  (List.dropWhile_suffix _).length_le

theorem readWord_length_le (text cs : List Char) : (readWord text cs).2.length ≤ cs.length := by
  unfold readWord
  repeat' split
  all_goals grind [
    List.dropWhile_suffix, List.IsSuffix.length_le, → afterRaw?_length_le, literal_length_le]

theorem readSign_length_le (c : Char) (cs : List Char) :
    (readSign c cs).2.length ≤ cs.length := by
  unfold readSign
  split
  all_goals grind [
    List.dropWhile_suffix, List.IsSuffix.length_le, afterComment_length_le, afterQuote_length_le,
    literal_length_le]

theorem read_length_le (c : Char) (cs : List Char) : (read c cs).2.length ≤ cs.length := by
  have := (List.dropWhile_suffix isWord (l := cs)).length_le
  have := readWord_length_le (c :: cs.takeWhile isWord) (cs.dropWhile isWord)
  grind [read, readSign_length_le]

def readAll : List Char → List Lexeme
  | []      => []
  | c :: cs => (read c cs).1.toList ++ readAll (read c cs).2
termination_by cs => cs.length
decreasing_by exact Nat.lt_succ_of_le (read_length_le c cs)

end Lexeme
end LoxTokens.Args.TypeExpr
