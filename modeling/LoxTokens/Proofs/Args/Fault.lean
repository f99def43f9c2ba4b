import LoxTokens.Proofs.Args.Distinct
import LoxTokens.Proofs.Args.Reached

/-!
The first word that starts no item. It alone decides the error of a parse, and nothing that
follows it has a part in that, apart from the word next to an option that asks for a value.
-/

namespace LoxTokens.Args

namespace ParseError

-- Errors that quote the word they are about, and say the same of every word.
def Quotes (kind : String → ParseError) : Prop :=
  ∃ front back, ∀ word, (kind word).message = front ++ "'" ++ word ++ "'" ++ back

theorem quotes_repeatedOption : Quotes .repeatedOption :=
  ⟨"[ERROR] Option ", " has already been processed", fun _ => by rw [String.append_assoc]; rfl⟩

theorem quotes_missingValue : Quotes .missingValue :=
  ⟨"[ERROR] ", " requires an argument to be passed", fun _ => by rw [String.append_assoc]; rfl⟩

theorem quotes_invalidOption : Quotes .invalidOption :=
  ⟨"[ERROR] ", " is not a valid option", fun _ => by rw [String.append_assoc]; rfl⟩

theorem Quotes.message_ne_empty {kind : String → ParseError} (h : Quotes kind) (word : String) :
    (kind word).message ≠ "" := by
  have ⟨front, back, hm⟩ := h
  simp [hm, String.append_eq_empty_iff]

end ParseError

namespace Definition

-- The word after an option, if it can be its value.
def value? : List String → Option String
  | []         => none
  | value :: _ => if isDashed value then none else some value

-- What is wrong with a word that is reached behind the items. A word for help is wrong even if it
-- is a form of an option, and an option that has been given is not asked for its value again.
inductive Fault (d : Definition) (items : List (Item d)) (word : String) (rest : List String) :
    ParseError → Prop
  | help     : isHelp word → Fault d items word rest .helpRequested
  | repeated : ¬isHelp word → d.Owns i word → i ∈ items.filterMap Item.option? →
               Fault d items word rest (.repeatedOption word)
  | missing  : ¬isHelp word → d.Owns i word → i ∉ items.filterMap Item.option? →
               (d.field i).kind ≠ .flag → (∀ value ∈ rest.head?, isDashed value) →
               Fault d items word rest (.missingValue word)
  | invalid  : ¬isHelp word → (∀ i, ¬(d.field i).listens word) →
               (isDashed word ∨
                d.positionals.length ≤ (items.filterMap Item.positional?).length) →
               Fault d items word rest (.invalidOption word)

-- The items go up to a word that is wrong.
structure Stumbles (d : Definition) (words : List String) (items : List (Item d)) (word : String)
    (rest : List String) (e : ParseError) : Prop where
  reads : d.Reads items words (word :: rest)
  fault : d.Fault items word rest e

variable {d : Definition} {default : d.Index → Value} {given items items' : List (Item d)}
  {i : d.Index} {word word' : String} {words rest rest' : List String} {e e' : ParseError}

theorem Owns.unique {j : d.Index} (hi : d.Owns i word) (hj : d.Owns j word) : i = j := by
  rw [← owner?_eq_some_iff] at hi hj
  exact Option.some.inj <| hi.symm.trans hj

theorem value?_eq_none_iff : value? rest = none ↔ ∀ value ∈ rest.head?, isDashed value := by
  cases rest <;> simp [value?]

theorem readItem_of_owns (hh : ¬isHelp word) (ho : d.Owns i word) (given : List (Item d))
    (rest : List String) :
    d.readItem given word rest =
      if i ∈ given.map Item.index then .error (.repeatedOption word)
      else if (d.field i).kind = .flag then .ok (.flag i word)
      else (value? rest).elim (.error <| .missingValue word) (.ok <| .option i word ·) := by
  rw [readItem, if_neg hh, owner?_eq_some_iff.mpr ho]
  cases rest
  case nil           => rfl
  case cons value vs => by_cases hv : isDashed value <;> simp [value?, hv]

theorem readItem_of_forall_not_listens (hh : ¬isHelp word) (hl : ∀ i, ¬(d.field i).listens word)
    (given : List (Item d)) (rest : List String) :
    d.readItem given word rest =
      if isDashed word then .error <| .invalidOption word
      else (d.nextPositional? given).elim (.error <| .invalidOption word)
        (.ok <| .positional · word) := by
  rw [readItem, if_neg hh, owner?_eq_none_iff.mpr hl]
  cases d.nextPositional? given <;> rfl

namespace Reads

theorem mem_index_iff (h : d.Reads items words rest) (hi : ¬(d.field i).positional) :
    i ∈ items.reverse.map Item.index ↔ i ∈ items.filterMap Item.option? := by
  have hp : (items.reverse.filterMap Item.positional?).reverse <+: d.positionals := by
    rw [List.filterMap_reverse, List.reverse_reverse]
    exact h.inOrder
  rw [mem_index_iff_of_option hi hp, List.filterMap_reverse, List.mem_reverse]

theorem nextPositional?_eq_none_iff (h : d.Reads items words rest) :
    d.nextPositional? items.reverse = none ↔
      d.positionals.length ≤ (items.filterMap Item.positional?).length := by
  rw [h.nextPositional?_eq, List.getElem?_eq_none_iff]

-- A word is for help, stands for an option, or is no form of any: each comes to an end of its own.

theorem readItem_eq_error_iff_of_isHelp (hh : isHelp word) :
    d.readItem given word rest = .error e ↔ d.Fault items word rest e := by
  rw [readItem, if_pos hh]
  constructor
  case mp  => intro hr; cases hr; exact .help hh
  case mpr =>
    intro hf
    cases hf
    case help => rfl
    all_goals exact absurd hh ‹¬isHelp word›

theorem readItem_eq_error_iff_of_owns (h : d.Reads items words (word :: rest))
    (hh : ¬isHelp word) (ho : d.Owns i word) :
    d.readItem items.reverse word rest = .error e ↔ d.Fault items word rest e := by
  simp only [readItem_of_owns hh ho, h.mem_index_iff ho.not_positional]
  constructor
  case mp =>
    intro hr
    split at hr
    case isTrue hg => cases hr; exact .repeated hh ho hg
    case isFalse hg =>
      split at hr
      case isTrue => cases hr
      case isFalse hk =>
        cases hv : value? rest <;> rw [hv] at hr <;> cases hr
        exact .missing hh ho hg hk <| value?_eq_none_iff.mp hv
  case mpr =>
    intro hf
    cases hf
    case help hh'           => exact absurd hh' hh
    case invalid hl _       => exact absurd ho.listens <| hl i
    case repeated hj hg     => rw [if_pos <| ho.unique hj ▸ hg]
    case missing hj hg hk hv =>
      obtain rfl := ho.unique hj
      rw [if_neg hg, if_neg hk, value?_eq_none_iff.mpr hv, Option.elim_none]

theorem readItem_eq_error_iff_of_forall_not_listens (h : d.Reads items words (word :: rest))
    (hh : ¬isHelp word) (hl : ∀ i, ¬(d.field i).listens word) :
    d.readItem items.reverse word rest = .error e ↔ d.Fault items word rest e := by
  have hn := h.nextPositional?_eq_none_iff
  rw [readItem_of_forall_not_listens hh hl]
  constructor
  case mp =>
    intro hr
    split at hr
    case isTrue hd => cases hr; exact .invalid hh hl <| .inl hd
    case isFalse =>
      cases ho : d.nextPositional? items.reverse <;> rw [ho] at hr <;> cases hr
      exact .invalid hh hl <| .inr <| hn.mp ho
  case mpr =>
    intro hf
    cases hf
    case help hh'   => exact absurd hh' hh
    case invalid hw =>
      split
      case isTrue     => rfl
      case isFalse hd => rw [hn.mpr <| hw.resolve_left hd, Option.elim_none]
    all_goals exact absurd ‹d.Owns _ _›.listens <| hl _

theorem readItem_eq_error_iff (h : d.Reads items words (word :: rest)) :
    d.readItem items.reverse word rest = .error e ↔ d.Fault items word rest e := by
  by_cases hh : isHelp word
  case pos => exact readItem_eq_error_iff_of_isHelp hh
  case neg =>
    cases ho : d.owner? word
    case some i => exact h.readItem_eq_error_iff_of_owns hh <| owner?_eq_some_iff.mp ho
    case none   =>
      exact h.readItem_eq_error_iff_of_forall_not_listens hh <| owner?_eq_none_iff.mp ho

end Reads

theorem readItems_eq_error_iff :
    d.readItems [] words = .error e ↔ ∃ items word rest, d.Stumbles words items word rest e := by
  rw [readItems_nil_eq_error_iff]
  constructor
  case mp  => exact fun ⟨items, word, rest, h, hr⟩ => ⟨_, _, _, h, h.readItem_eq_error_iff.mp hr⟩
  case mpr => exact fun ⟨items, word, rest, h, hf⟩ => ⟨_, _, _, h, h.readItem_eq_error_iff.mpr hf⟩

theorem Fault.ne_missingRequired (h : d.Fault items word rest e) : e ≠ .missingRequired := by
  cases h <;> exact ParseError.noConfusion

-- Only an option that misses its value asks for what follows.
theorem Fault.replace (h : d.Fault items word rest e)
    (hv : e = .missingValue word → ∀ value ∈ rest'.head?, isDashed value) :
    d.Fault items word rest' e := by
  cases h
  case help hh               => exact .help hh
  case repeated hh ho hg     => exact .repeated hh ho hg
  case missing hh ho hg hk _ => exact .missing hh ho hg hk <| hv rfl
  case invalid hh hl hw      => exact .invalid hh hl hw

theorem Fault.head_dashed (h : d.Fault items word rest (.missingValue word)) :
    ∀ value ∈ rest.head?, isDashed value := by
  cases h
  assumption

theorem Fault.exists_quotes (h : d.Fault items word rest e) (hh : ¬isHelp word) :
    ∃ kind, ParseError.Quotes kind ∧ e = kind word := by
  cases h
  case help hh' => exact absurd hh' hh
  case repeated => exact ⟨_, ParseError.quotes_repeatedOption, rfl⟩
  case missing  => exact ⟨_, ParseError.quotes_missingValue, rfl⟩
  case invalid  => exact ⟨_, ParseError.quotes_invalidOption, rfl⟩

theorem Fault.message_eq_empty_iff (h : d.Fault items word rest e) :
    e.message = "" ↔ isHelp word := by
  by_cases hh : isHelp word
  case pos =>
    cases h
    case help => exact iff_of_true rfl hh
    all_goals contradiction
  case neg =>
    obtain ⟨kind, hk, rfl⟩ := h.exists_quotes hh
    exact iff_of_false (hk.message_ne_empty word) hh

namespace Stumbles

theorem parseFrom_eq (h : d.Stumbles words items word rest e) :
    d.parseFrom default words = .error e := by
  rw [parseFrom, readItems_eq_error_iff.mpr ⟨items, word, rest, h⟩]

theorem unique (h : d.Stumbles words items word rest e)
    (h' : d.Stumbles words items' word' rest' e') :
    items = items' ∧ word = word' ∧ rest = rest' ∧ e = e' := by
  have hr := h.reads.readItem_eq_error_iff.mpr h.fault
  have hr' := h'.reads.readItem_eq_error_iff.mpr h'.fault
  have hw := h.reads.words.trans h'.reads.words.symm
  rw [← List.append_nil items.reverse] at hr
  rw [← List.append_nil items'.reverse] at hr'
  obtain rfl := eq_of_readItem_eq_error h.reads.proper h.reads.fitInTurn hr h'.reads.proper
    h'.reads.fitInTurn hr' hw
  obtain ⟨rfl, rfl⟩ := List.cons.inj <| List.append_cancel_left hw
  exact ⟨rfl, rfl, rfl, Except.error.inj <| hr.symm.trans hr'⟩

theorem replace (h : d.Stumbles words items word rest e)
    (hv : e = .missingValue word → ∀ value ∈ rest'.head?, isDashed value) :
    d.Stumbles (items.flatMap Item.words ++ word :: rest') items word rest' e where
  reads := h.reads.replace _
  fault := h.fault.replace hv

end Stumbles

theorem parseFrom_eq_missingRequired_iff :
    d.parseFrom default words = .error .missingRequired ↔
      ∃ items, d.Reads items words [] ∧ ∃ i, (d.field i).required ∧ i ∉ items.map Item.index := by
  simp only [reads_nil_iff]
  constructor
  case mp =>
    intro h
    unfold parseFrom at h
    split at h
    case h_1 e hr =>
      cases h
      have ⟨_, _, _, hs⟩ := readItems_eq_error_iff.mp hr
      exact absurd rfl hs.fault.ne_missingRequired
    case h_2 items hr =>
      split at h
      case isTrue     => cases h
      case isFalse hc =>
        have := mt isComplete_iff.mpr hc
        push Not at this
        exact ⟨items, hr, this⟩
  case mpr =>
    intro ⟨items, hr, i, hi, hn⟩
    have hc : ¬d.isComplete items := fun hc => hn <| isComplete_iff.mp hc i hi
    simp only [parseFrom, hr, if_neg hc]

theorem parseFrom_eq_error (h : d.parseFrom default words = .error e) :
    e = .missingRequired ∨ ∃ items word rest, d.Stumbles words items word rest e := by
  unfold parseFrom at h
  split at h
  case h_1 hr =>
    cases h
    exact .inr <| readItems_eq_error_iff.mp hr
  case h_2 =>
    split at h <;> cases h
    exact .inl rfl

theorem parseFrom_stumbles (default : d.Index → Value) (words : List String) :
    (∀ items word rest e, d.Stumbles words items word rest e →
      d.parseFrom default words = .error e ∧ e ≠ .missingRequired ∧
      (e.message = "" ↔ isHelp word) ∧
      (¬isHelp word → ∃ kind, ParseError.Quotes kind ∧ e = kind word) ∧
      -- there is no other word that is wrong
      (∀ items' word' rest' e', d.Stumbles words items' word' rest' e' →
        items' = items ∧ word' = word ∧ rest' = rest ∧ e' = e) ∧
      (e ≠ .missingValue word → ∀ after,
        d.parseFrom default (items.flatMap Item.words ++ word :: after) = .error e) ∧
      ∀ value left after, rest = value :: left →
        d.parseFrom default (items.flatMap Item.words ++ word :: value :: after) = .error e) ∧
    (d.parseFrom default words = .error .missingRequired ↔
      (¬∃ items word rest e, d.Stumbles words items word rest e) ∧
      ∃ items, d.Reads items words [] ∧ ∃ i, (d.field i).required ∧ i ∉ items.map Item.index) ∧
    ∀ e, d.parseFrom default words = .error e →
      e = .missingRequired ∨ ∃ items word rest, d.Stumbles words items word rest e := by
  refine ⟨fun items word rest e h => ?_, ?_, fun e => parseFrom_eq_error⟩
  case refine_1 =>
    have hf := h.fault
    refine ⟨h.parseFrom_eq, hf.ne_missingRequired, hf.message_eq_empty_iff, hf.exists_quotes,
      fun _ _ _ _ h' => h'.unique h, fun he _ => ?_, ?_⟩
    case refine_1 => exact (h.replace fun hv => absurd hv he).parseFrom_eq
    case refine_2 =>
      rintro value left after rfl
      have hd (he : e = .missingValue word) : isDashed value := (he ▸ hf).head_dashed value rfl
      exact (h.replace fun he => by simpa using hd he).parseFrom_eq
  case refine_2 =>
    rw [← parseFrom_eq_missingRequired_iff, iff_and_self]
    intro h ⟨_, _, _, _, hs⟩
    exact hs.fault.ne_missingRequired <| Except.error.inj <| hs.parseFrom_eq.symm.trans h

-- The word for help is missed as the value of the option, and then decides nothing.
theorem copy_stumbles :
    copy.Stumbles ["to", "-l", "-h"] [.positional ⟨2, by decide⟩ "to"] "-l" ["-h"]
      (.missingValue "-l") ∧
    ∀ after, copy.parse ("to" :: "-l" :: "-h" :: after) = .error (.missingValue "-l") := by
  have ho : copy.Owns ⟨0, by decide⟩ "-l" := ⟨by decide, by decide⟩
  have h : copy.Stumbles ["to", "-l", "-h"] [.positional ⟨2, by decide⟩ "to"] "-l" ["-h"]
      (.missingValue "-l") := {
    reads := ⟨rfl, by simpa using copyItems_proper _ List.mem_cons_self, by decide, by decide⟩
    fault := .missing (by decide) ho (by decide) (by decide) (by decide) }
  have ⟨_, _, _, _, _, _, ha⟩ := parseFrom_stumbles copy.derivedDefault _ |>.left _ _ _ _ h
  exact ⟨h, fun after => ha _ _ after rfl⟩

end Definition
end LoxTokens.Args
