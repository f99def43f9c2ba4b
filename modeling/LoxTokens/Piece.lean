import LoxTokens.Token

/-!
The pieces of a source text. A source is read from left to right, always taking the longest
piece that can stand at the front: a lexeme, something to skip, or something that is wrong.
-/

namespace LoxTokens

inductive PieceKind
  | lexeme (type : TokenType)
  | blank
  | lineFeed
  | comment
  -- an opening quote without a closing one, up to the end of the source
  | openString
  -- a character that starts nothing else
  | stray (c : Char)
  deriving DecidableEq

structure Piece where
  kind : PieceKind
  text : List Char
  deriving DecidableEq

namespace Piece

def punctuator? : Char → Option TokenType
  | '(' => some .leftParen
  | ')' => some .rightParen
  | '{' => some .leftBrace
  | '}' => some .rightBrace
  | ',' => some .comma
  | '.' => some .dot
  | '-' => some .minus
  | '+' => some .plus
  | ';' => some .semicolon
  | '*' => some .star
  | _   => none

-- The types of an operator alone and of the same one followed by an equals sign.
def operator? : Char → Option (TokenType × TokenType)
  | '!' => some (.bang, .bangEqual)
  | '=' => some (.equal, .equalEqual)
  | '<' => some (.less, .lessEqual)
  | '>' => some (.greater, .greaterEqual)
  | _   => none

def isBlank (c : Char) : Bool :=
  c == ' ' || c == '\t' || c == '\r'

def isWordStart (c : Char) : Bool :=
  c.isAlpha || c == '_'

def isWordRest (c : Char) : Bool :=
  isWordStart c || c.isDigit

-- Each of the following yields the piece at the front and the rest of the source.

def slash : List Char → Piece × List Char
  | '/' :: cs =>
    (⟨.comment, '/' :: '/' :: cs.takeWhile (· ≠ '\n')⟩, cs.dropWhile (· ≠ '\n'))
  | cs => (⟨.lexeme .slash, ['/']⟩, cs)

def operator (c : Char) (alone withEqual : TokenType) : List Char → Piece × List Char
  | '=' :: cs => (⟨.lexeme withEqual, [c, '=']⟩, cs)
  | cs        => (⟨.lexeme alone, [c]⟩, cs)

def quoted (cs : List Char) : Piece × List Char :=
  let content := cs.takeWhile (· ≠ '"')
  match cs.dropWhile (· ≠ '"') with
  | []        => (⟨.openString, '"' :: content⟩, [])
  | _ :: rest => (⟨.lexeme .string, '"' :: content ++ ['"']⟩, rest)

-- A point belongs to the number only if a digit follows it.
def number (c : Char) (cs : List Char) : Piece × List Char :=
  let whole := c :: cs.takeWhile Char.isDigit
  match cs.dropWhile Char.isDigit with
  | '.' :: d :: rest =>
    if d.isDigit then
      let fraction := d :: rest.takeWhile Char.isDigit
      (⟨.lexeme .number, whole ++ '.' :: fraction⟩, rest.dropWhile Char.isDigit)
    else
      (⟨.lexeme .number, whole⟩, '.' :: d :: rest)
  | rest => (⟨.lexeme .number, whole⟩, rest)

def word (c : Char) (cs : List Char) : Piece × List Char :=
  let text := c :: cs.takeWhile isWordRest
  let type := (TokenType.keyword? (String.ofList text)).getD .identifier
  (⟨.lexeme type, text⟩, cs.dropWhile isWordRest)

def read (c : Char) (cs : List Char) : Piece × List Char :=
  match punctuator? c, operator? c with
  | some type, _                      => (⟨.lexeme type, [c]⟩, cs)
  | none,      some (alone, withEqual) => operator c alone withEqual cs
  | none,      none                   =>
    if c = '/' then slash cs
    else if c = '"' then quoted cs
    else if c.isDigit then number c cs
    else if isWordStart c then word c cs
    else if isBlank c then (⟨.blank, [c]⟩, cs)
    else if c = '\n' then (⟨.lineFeed, [c]⟩, cs)
    else (⟨.stray c, [c]⟩, cs)

theorem slash_append (cs : List Char) : (slash cs).1.text ++ (slash cs).2 = '/' :: cs := by
  unfold slash
  split <;> simp

theorem operator_append (c : Char) (alone withEqual : TokenType) (cs : List Char) :
    (operator c alone withEqual cs).1.text ++ (operator c alone withEqual cs).2 = c :: cs := by
  unfold operator
  split <;> simp

theorem quoted_append (cs : List Char) : (quoted cs).1.text ++ (quoted cs).2 = '"' :: cs := by
  have h := List.takeWhile_append_dropWhile (p := (· ≠ '"')) (l := cs)
  unfold quoted
  split
  case h_1 hd =>
    rw [hd] at h
    simpa using h
  case h_2 q rest hd =>
    have hq := List.head?_dropWhile_not (· ≠ '"') cs
    rw [hd] at h hq
    simp at hq
    simpa [hq] using h

theorem number_append (c : Char) (cs : List Char) :
    (number c cs).1.text ++ (number c cs).2 = c :: cs := by
  have h := List.takeWhile_append_dropWhile (p := Char.isDigit) (l := cs)
  unfold number
  split
  case h_1 hd =>
    split
    all_goals simp_all
  case h_2 => simp [h]

theorem word_append (c : Char) (cs : List Char) :
    (word c cs).1.text ++ (word c cs).2 = c :: cs := by
  simp [word]

/-- Nothing of the source is lost. -/
theorem read_append (c : Char) (cs : List Char) :
    (read c cs).1.text ++ (read c cs).2 = c :: cs := by
  unfold read
  repeat' split
  case h_1 => simp
  all_goals simp_all [slash_append, operator_append, quoted_append, number_append, word_append]

theorem read_text_ne_nil (c : Char) (cs : List Char) : (read c cs).1.text ≠ [] := by
  unfold read slash operator quoted number word
  repeat' split
  all_goals simp

theorem read_length_le (c : Char) (cs : List Char) : (read c cs).2.length ≤ cs.length := by
  have h := congrArg List.length (read_append c cs)
  have := List.length_pos_iff.mpr (read_text_ne_nil c cs)
  simp at h
  omega

/-- The source cut into its pieces. -/
def cut : List Char → List Piece
  | []      => []
  | c :: cs => (read c cs).1 :: cut (read c cs).2
termination_by cs => cs.length
decreasing_by exact Nat.lt_succ_of_le (read_length_le c cs)

theorem flatMap_text_cut (cs : List Char) : (cut cs).flatMap text = cs := by
  fun_induction cut cs
  case case1        => rfl
  case case2 c cs h => simp [h, read_append]

/-- Goes through the pieces of the source from left to right. -/
def foldSource {σ : Type u} (f : σ → Piece → σ) (s : σ) : List Char → σ
  | []      => s
  | c :: cs => foldSource f (f s (read c cs).1) (read c cs).2
termination_by cs => cs.length
decreasing_by exact Nat.lt_succ_of_le (read_length_le c cs)

theorem foldSource_eq_foldl {σ : Type u} (f : σ → Piece → σ) (s : σ) (cs : List Char) :
    foldSource f s cs = (cut cs).foldl f s := by
  fun_induction foldSource f s cs
  case case1        => simp [cut]
  case case2 c cs h => simpa [cut] using h

def lineFeeds (p : Piece) : UInt32 :=
  UInt32.ofNat (p.text.count '\n')

/-- The value that a string or number stands for. -/
def literal? (p : Piece) : Option Literal :=
  match p.kind with
  | .lexeme .string => some (.string (String.ofList (p.text.drop 1).dropLast))
  | .lexeme .number => some (.number (Double.ofDecimal (Decimal.read p.text)))
  | _               => none

end Piece
end LoxTokens
