import LoxTokens.Text.Escape
import LoxTokens.Proofs.Piece.Read

/-!
Reading escapes back. An escape tells where it ends, so that it can be told from what follows. And
no escape starts with the delimiter, so that a quoted text tells where it ends as well.
-/

namespace LoxTokens.Text

def hexValue (c : Char) : Nat :=
  if c.isDigit then c.toNat - '0'.toNat else c.toNat - 'a'.toNat + 10

def readHex (digits : List Char) : Nat :=
  digits.foldl (fun n c => 16 * n + hexValue c) 0

-- The character that the front of a text stands for, and the text behind it.
def unescape : List Char → Option (Char × List Char)
  | '\\' :: 'u' :: '{' :: cs =>
    some (.ofNat <| readHex <| cs.takeWhile (· ≠ '}'), (cs.dropWhile (· ≠ '}')).drop 1)
  | '\\' :: '0' :: cs => some ('\x00', cs)
  | '\\' :: 't' :: cs => some ('\t', cs)
  | '\\' :: 'n' :: cs => some ('\n', cs)
  | '\\' :: 'r' :: cs => some ('\r', cs)
  | '\\' :: c :: cs   => some (c, cs)
  | c :: cs           => some (c, cs)
  | []                => none

variable {c d delimiter : Char} {cs ds r r₁ r₂ : List Char}

theorem hexValue_digitChar : ∀ n < 16, hexValue (Nat.digitChar n) = n := by
  decide

theorem readHex_toDigits (n : Nat) : readHex (Nat.toDigits 16 n) = n := by
  induction n using Nat.strongRecOn
  case ind n hi =>
    rw [Nat.toDigits_eq_if (by decide)]
    split
    case isTrue h  => simp [readHex, hexValue_digitChar n h]
    case isFalse h =>
      have hd := hi (n / 16) (by omega)
      have hm := hexValue_digitChar (n % 16) (Nat.mod_lt _ (by decide))
      rw [readHex] at hd ⊢
      rw [List.foldl_append, hd, List.foldl_cons, List.foldl_nil, hm]
      omega

theorem brace_not_mem_toDigits (n : Nat) : '}' ∉ Nat.toDigits 16 n := by
  induction n using Nat.strongRecOn
  case ind n hi =>
    rw [Nat.toDigits_eq_if (by decide)]
    split
    case isTrue    => simp
    case isFalse h => simpa using hi (n / 16) (by omega)

theorem unescape_cons (h : c ≠ '\\') : unescape (c :: cs) = some (c, cs) := by
  unfold unescape
  split <;> simp_all

theorem unescape_escapeChar (c : Char) (r : List Char) : unescape (escapeChar c ++ r) = some (c, r) := by
  unfold escapeChar
  split
  case h_8 hb _ _ =>
    split
    case isTrue =>
      have hd := decide_ne_of_not_mem <| brace_not_mem_toDigits c.toNat
      have hr : ∀ d ∈ ('}' :: r).head?, ¬decide (d ≠ '}') := by simp
      have : (['\\', 'u', '{'] ++ Nat.toDigits 16 c.toNat ++ ['}'] ++ r) =
          '\\' :: 'u' :: '{' :: (Nat.toDigits 16 c.toNat ++ '}' :: r) := by simp
      rw [this, unescape, takeWhile_append_of_stop hd hr, dropWhile_append_of_stop hd hr,
        readHex_toDigits, Char.ofNat_toNat]
      rfl
    case isFalse => exact unescape_cons hb
  all_goals rfl

theorem unescape_escapeBetween (delimiter c : Char) (r : List Char) :
    unescape (escapeBetween delimiter c ++ r) = some (c, r) := by
  unfold escapeBetween
  split
  case isTrue h  => exact unescape_cons fun hc => by simp [hc] at h
  case isFalse h => exact unescape_escapeChar c r

theorem escapeChar_inj (h : escapeChar c = escapeChar d) : c = d := by
  have hc := unescape_escapeChar c []
  rw [h, unescape_escapeChar] at hc
  cases hc
  rfl

theorem escapeBetween_append_inj (h : escapeBetween delimiter c ++ r₁ = escapeBetween delimiter d ++ r₂) :
    c = d ∧ r₁ = r₂ := by
  have hc := unescape_escapeBetween delimiter c r₁
  rw [h, unescape_escapeBetween] at hc
  cases hc
  exact ⟨rfl, rfl⟩

-- A delimiter by itself is read as one, but the escape of one starts with a backslash.
theorem cons_ne_escapeBetween_append (hd : delimiter = '\'' ∨ delimiter = '"') :
    delimiter :: r₁ ≠ escapeBetween delimiter c ++ r₂ := by
  intro h
  have hb : delimiter ≠ '\\' := by
    rintro rfl
    simp at hd
  have hu := @unescape_cons delimiter r₁ hb
  rw [h, unescape_escapeBetween] at hu
  cases hu
  obtain rfl | rfl := hd <;> simp [escapeBetween, escapeChar] at h

-- What is escaped goes on up to the first delimiter that stands by itself.
theorem flatMap_escapeBetween_inj (hd : delimiter = '\'' ∨ delimiter = '"')
    (h : cs.flatMap (escapeBetween delimiter) ++ delimiter :: r₁ =
      ds.flatMap (escapeBetween delimiter) ++ delimiter :: r₂) : cs = ds ∧ r₁ = r₂ := by
  induction cs generalizing ds <;> cases ds
  case nil.nil => simpa using h
  case nil.cons d ds =>
    rw [List.flatMap_cons, List.append_assoc] at h
    exact absurd h <| cons_ne_escapeBetween_append hd
  case cons.nil c cs _ =>
    rw [List.flatMap_cons, List.append_assoc] at h
    exact absurd h.symm <| cons_ne_escapeBetween_append hd
  case cons.cons c cs hi d ds =>
    simp only [List.flatMap_cons, List.append_assoc] at h
    have ⟨hc, h⟩ := escapeBetween_append_inj h
    have ⟨hs, hr⟩ := hi h
    exact ⟨hc ▸ hs ▸ rfl, hr⟩

theorem quote_append_inj {s t : String} (h : (quote s).toList ++ r₁ = (quote t).toList ++ r₂) :
    s = t ∧ r₁ = r₂ := by
  simp only [quote, String.toList_ofList, List.cons_append, List.append_assoc, List.nil_append,
    List.cons.injEq, true_and] at h
  have ⟨hc, hr⟩ := flatMap_escapeBetween_inj (.inr rfl) h
  exact ⟨String.toList_inj.mp hc, hr⟩

theorem quoteChar_inj (h : quoteChar c = quoteChar d) : c = d := by
  have h := List.cons.inj (String.ofList_injective h) |>.right
  exact escapeBetween_append_inj h |>.left

end LoxTokens.Text
