import LoxTokens.Proofs.Double.Layout
import LoxTokens.Proofs.Scan.Number
import LoxTokens.Proofs.Text.Escape

/-!
The texts that show all fields of a token or of an error. Each field tells where it ends, so what has
the same text is the same. Only a NaN has no text of its own.
-/

namespace LoxTokens

open Piece

namespace TokenType

theorem comma_not_mem_label (type : TokenType) : ',' ∉ type.label.toList := by
  cases type <;> decide

theorem find?_label (type : TokenType) : all.find? (·.label = type.label) = some type := by
  cases type <;> decide

theorem label_inj {type₁ type₂ : TokenType} (h : type₁.label = type₂.label) : type₁ = type₂ :=
  eq_of_find? find?_label h

end TokenType

theorem comma_not_mem_toDigits (n : ℕ) : ',' ∉ Nat.toDigits 10 n :=
  fun h => absurd (Decimal.isDigits_toDigits n |>.right _ h) <| by decide

theorem line_inj {line₁ line₂ : UInt32}
    (h : Nat.toDigits 10 line₁.toNat = Nat.toDigits 10 line₂.toNat) : line₁ = line₂ :=
  UInt32.toNat_inj.mp <| toDigits_inj h

namespace Literal

-- If there is a number, it is no NaN.
def IsProper (literal : Option Literal) : Prop :=
  ∀ x, literal = some (.number x) → ¬x.isNaN

-- If there is a number, it is read from digits.
def IsRead (literal : Option Literal) : Prop :=
  ∀ x, literal = some (.number x) → ∃ d, x = .ofDecimal d

variable {l₁ l₂ : Option Literal} {r₁ r₂ : List Char}

theorem IsRead.isProper (h : IsRead l₁) : IsProper l₁ := by
  intro x hx
  have ⟨d, hd⟩ := h x hx
  exact hd ▸ Double.not_isNaN_ofDecimal d

theorem inspect?_append_inj (h₁ : IsProper l₁) (h₂ : IsProper l₂)
    (h : (inspect? l₁).toList ++ r₁ = (inspect? l₂).toList ++ r₂) : l₁ = l₂ ∧ r₁ = r₂ := by
  obtain _ | ⟨s₁ | x₁⟩ := l₁ <;> obtain _ | ⟨s₂ | x₂⟩ := l₂ <;> simp [inspect?, inspect] at h
  case none.none => exact ⟨rfl, h⟩
  case some.string.some.string =>
    have ⟨hs, h⟩ := Text.quote_append_inj h
    exact ⟨hs ▸ rfl, by simpa using h⟩
  case some.number.some.number =>
    have hp (x : Double) : ')' ∉ x.inspect.toList := by
      rw [Double.inspect, String.toList_ofList]
      exact Double.Layout.paren_not_mem_render _ _
    have ⟨hx, h⟩ := append_cons_inj (hp x₁) (hp x₂) h
    have hx := Double.inspect_inj (h₁ x₁ rfl) (h₂ x₂ rfl) <| String.toList_inj.mp hx
    exact ⟨hx ▸ rfl, by simpa using h⟩

-- No number that is read from digits equals another one, as a zero has no sign then.
theorem equal?_iff (h₁ : IsRead l₁) (h₂ : IsRead l₂) : equal? l₁ l₂ ↔ l₁ = l₂ := by
  obtain _ | ⟨s₁ | x₁⟩ := l₁ <;> obtain _ | ⟨s₂ | x₂⟩ := l₂ <;> simp [equal?, equal]
  have ⟨d₁, hd₁⟩ := h₁ x₁ rfl
  have ⟨d₂, hd₂⟩ := h₂ x₂ rfl
  subst hd₁ hd₂
  refine Double.equal_iff (Double.not_isNaN_ofDecimal d₁) (Double.not_isNaN_ofDecimal d₂) ?_
  have h₁ := Double.not_isNegative_ofDecimal d₁
  have h₂ := Double.not_isNegative_ofDecimal d₂
  rw [Bool.eq_false_of_not_eq_true h₁, Bool.eq_false_of_not_eq_true h₂]

end Literal

namespace Token

variable {t₁ t₂ : Token}

theorem toList_inspect (t : Token) :
    t.inspect.toList =
      "Token \x7b token_type: ".toList ++ (t.type.label.toList ++ ',' ::
        (" lexeme: ".toList ++ ((Text.quote t.lexeme).toList ++
          (", literal: ".toList ++ ((Literal.inspect? t.literal).toList ++
            (", line: ".toList ++ (Nat.toDigits 10 t.line.toNat ++ " \x7d".toList))))))) := by
  simp [inspect, Text.record]

theorem inspect_inj (h₁ : Literal.IsProper t₁.literal) (h₂ : Literal.IsProper t₂.literal)
    (h : t₁.inspect = t₂.inspect) : t₁ = t₂ := by
  rw [← String.toList_inj, toList_inspect, toList_inspect] at h
  have ⟨ht, h⟩ := append_cons_inj t₁.type.comma_not_mem_label t₂.type.comma_not_mem_label <|
    List.append_cancel_left h
  have ⟨hl, h⟩ := Text.quote_append_inj <| List.append_cancel_left h
  have ⟨hv, h⟩ := Literal.inspect?_append_inj h₁ h₂ <| List.append_cancel_left h
  have hn := line_inj <| List.append_cancel_right <| List.append_cancel_left h
  have ht := TokenType.label_inj <| String.toList_inj.mp ht
  cases t₁
  cases t₂
  simp_all

theorem eq_iff :
    t₁ = t₂ ↔ t₁.type = t₂.type ∧ t₁.lexeme = t₂.lexeme ∧ t₁.line = t₂.line ∧
      t₁.literal = t₂.literal := by
  cases t₁
  cases t₂
  simp
  tauto

theorem equal_iff (h₁ : Literal.IsRead t₁.literal) (h₂ : Literal.IsRead t₂.literal) :
    t₁.equal t₂ ↔ t₁ = t₂ := by
  simp only [equal, Bool.and_eq_true, beq_iff_eq, Literal.equal?_iff h₁ h₂, eq_iff]
  tauto

theorem isRead_of_mem_scan_tokens {source : String} {t : Token} (h : t ∈ (scan source).tokens) :
    Literal.IsRead t.literal := by
  intro x hx
  have hl := hx.symm.trans <| literal_of_mem_scan_tokens h
  unfold literal? at hl
  split at hl <;> cases hl
  exact ⟨_, rfl⟩

end Token

namespace LexicalError

variable {e₁ e₂ : LexicalError}

theorem inspect_inj (h : e₁.inspect = e₂.inspect) : e₁ = e₂ := by
  rw [← String.toList_inj] at h
  cases e₁ <;> cases e₂ <;> simp [inspect, Text.record] at h
  case unexpectedCharacter.unexpectedCharacter =>
    have ⟨hl, h⟩ := append_cons_inj (comma_not_mem_toDigits _) (comma_not_mem_toDigits _) h
    have hc := Text.quoteChar_inj <| String.toList_inj.mp <| by simpa using h
    rw [line_inj hl, hc]
  case unterminatedString.unterminatedString => rw [line_inj h]
  case internalError.internalError =>
    have ⟨hm, h⟩ := Text.quote_append_inj h
    have hl := line_inj <| by simpa using h
    rw [hm, hl]

theorem location_inj {line₁ line₂ : UInt32} {c₁ c₂ : Char}
    (h : (unexpectedCharacter line₁ c₁).location = (unexpectedCharacter line₂ c₂).location) :
    c₁ = c₂ := by
  rw [← String.toList_inj] at h
  exact Text.escapeChar_inj <| by simpa [location] using h

end LexicalError

theorem inspect_lossless :
    (∀ t₁ t₂ : Token, Literal.IsProper t₁.literal → Literal.IsProper t₂.literal →
      (t₁.inspect = t₂.inspect ↔
        t₁.type = t₂.type ∧ t₁.lexeme = t₂.lexeme ∧ t₁.line = t₂.line ∧ t₁.literal = t₂.literal)) ∧
    (∀ source₁ source₂, ∀ t₁ ∈ (scan source₁).tokens, ∀ t₂ ∈ (scan source₂).tokens,
      t₁.inspect = t₂.inspect ↔ t₁.equal t₂) ∧
    (∀ e₁ e₂ : LexicalError, e₁.inspect = e₂.inspect ↔ e₁ = e₂) ∧
    ∀ line₁ line₂ c₁ c₂, c₁ ≠ c₂ →
      (LexicalError.unexpectedCharacter line₁ c₁).location ≠
        (LexicalError.unexpectedCharacter line₂ c₂).location := by
  refine ⟨fun t₁ t₂ h₁ h₂ => ?fields, fun _ _ t₁ h₁ t₂ h₂ => ?scanned, fun e₁ e₂ => ?errors,
    fun _ _ _ _ hc h => hc <| LexicalError.location_inj h⟩
  case fields =>
    rw [← Token.eq_iff]
    exact ⟨Token.inspect_inj h₁ h₂, fun h => h ▸ rfl⟩
  case scanned =>
    have h₁ := Token.isRead_of_mem_scan_tokens h₁
    have h₂ := Token.isRead_of_mem_scan_tokens h₂
    rw [Token.equal_iff h₁ h₂]
    exact ⟨Token.inspect_inj h₁.isProper h₂.isProper, fun h => h ▸ rfl⟩
  case errors => exact ⟨LexicalError.inspect_inj, fun h => h ▸ rfl⟩

-- The two zeros are equal as numbers, but one of them shows its sign.
example :
    let t₁ : Token := ⟨.number, "0", some <| .number ⟨0⟩, 1⟩
    let t₂ : Token := { t₁ with literal := some <| .number ⟨0x8000000000000000⟩ }
    t₁.equal t₂ ∧ t₁.inspect ≠ t₂.inspect := by
  decide +kernel

end LoxTokens
