import LoxTokens.Proofs.Args.Fault
import LoxTokens.Proofs.Args.Order
import LoxTokens.Proofs.Args.Render

/-!
The forms of an option. One may be put for another: an item keeps the word it was given by, but
neither what is read after it nor the values of the fields depend on that word.
-/

namespace LoxTokens.Args

-- What an item adds to the values, whichever form it was given by.
def Item.gives {d : Definition} (item : Item d) : d.Index × Value :=
  (item.index, item.value)

namespace Definition

-- What comes of one word and of another in its place.
inductive SameButForm (d : Definition) (form other : String) :
    Except ParseError (Item d) → Except ParseError (Item d) → Prop
  | item  : item.gives = item'.gives → item.words.length = item'.words.length →
            SameButForm d form other (.ok item) (.ok item')
  | error (kind : String → ParseError) : kind = .repeatedOption ∨ kind = .missingValue →
            SameButForm d form other (.error <| kind form) (.error <| kind other)

variable {d : Definition} {default : d.Index → Value} {given given' items items' : List (Item d)}
  {item item' : Item d} {i : d.Index} {form other word : String} {words words' rest : List String}

-- Of the given items, only the fields are asked for.

theorem readItem_congr (h : given.map Item.index = given'.map Item.index) :
    d.readItem given word rest = d.readItem given' word rest := by
  simp only [readItem, nextPositional?, h]

theorem readItems_congr (h : given.map Item.index = given'.map Item.index) :
    d.readItems given words = d.readItems given' words := by
  fun_induction readItems d given words generalizing given'
  case case1 => rw [readItems]
  case case2 hr =>
    rw [readItems, ← readItem_congr h, hr]
  case case3 item hr hi =>
    have hi := @hi (item :: given') <| by rw [List.map_cons, List.map_cons, h]
    rw [readItems, ← readItem_congr h, hr, hi]

-- Of all items, only what they give.

theorem map_index_eq (h : items.map Item.gives = items'.map Item.gives) :
    items.map Item.index = items'.map Item.index := by
  have := congrArg (List.map Prod.fst) h
  rwa [List.map_map, List.map_map] at this

theorem valueOf_eq_find?_gives :
    valueOf default items i =
      ((items.map Item.gives).find? (·.fst = i)).elim (default i) Prod.snd := by
  rw [valueOf, List.find?_map]
  change _ = ((items.find? (·.index = i)).map Item.gives).elim _ _
  cases items.find? (·.index = i) <;> rfl

theorem values_congr_gives (h : items.map Item.gives = items'.map Item.gives) :
    d.values default items = d.values default items' :=
  values_congr fun i => by rw [valueOf_eq_find?_gives, valueOf_eq_find?_gives, h]

theorem isComplete_congr (h : items.map Item.index = items'.map Item.index) :
    d.isComplete items = d.isComplete items' := by
  rw [Bool.eq_iff_iff, isComplete_iff, isComplete_iff, h]

theorem parseFrom_congr
    (h : (d.readItems [] words).map (List.map Item.gives) =
      (d.readItems [] words').map (List.map Item.gives)) :
    d.parseFrom default words = d.parseFrom default words' := by
  cases hr : d.readItems [] words <;> cases hr' : d.readItems [] words' <;> rw [hr, hr'] at h
  case error.error => cases h; simp only [parseFrom, hr, hr']
  case ok.ok =>
    have hg := Except.ok.inj h
    simp only [parseFrom, hr, hr', isComplete_congr (map_index_eq hg), values_congr_gives hg]
  all_goals cases h

theorem readItems_cons_congr (h : d.readItem given form rest = .ok item)
    (h' : d.readItem given other rest = .ok item') (hg : item.gives = item'.gives)
    (hl : item.words.length = item'.words.length) :
    (d.readItems given (form :: rest)).map (List.map Item.gives) =
      (d.readItems given (other :: rest)).map (List.map Item.gives) := by
  have hc (words : List String) :
      d.readItems (item :: given) words = d.readItems (item' :: given) words :=
    readItems_congr <| congrArg (Prod.fst · :: _) hg
  rw [readItems, readItems, h, h']
  simp only [hl, hc]
  cases d.readItems (item' :: given) _
  case error => rfl
  case ok    => simp only [Except.map, List.map_cons, hg]

theorem Reads.map_gives_readItems (h : d.Reads items words rest) :
    (d.readItems [] words).map (List.map Item.gives) =
      ((d.readItems items.reverse rest).map (List.map Item.gives)).map
        (items.map Item.gives ++ ·) := by
  rw [h.readItems_eq]
  cases d.readItems items.reverse rest
  case error => rfl
  case ok    => simp only [Except.map, List.map_append]

theorem readItem_sameButForm (hd : d.Distinct) (hi : ¬(d.field i).positional)
    (hf : form ∈ (d.field i).patterns) (ho : other ∈ (d.field i).patterns)
    (given : List (Item d)) (rest : List String) :
    d.SameButForm form other (d.readItem given form rest) (d.readItem given other rest) := by
  have hh := hd.not_help i <| mem_optionFields.mpr hi
  rw [readItem_of_owns (hh _ hf) (hd.owns hi hf), readItem_of_owns (hh _ ho) (hd.owns hi ho)]
  split
  case isTrue => exact .error _ <| .inl rfl
  case isFalse =>
    split
    case isTrue hk =>
      have (word : String) : (d.field i).kind.ofWord word = .flag true := by rw [hk]; rfl
      exact .item (by rw [Item.gives, Item.gives, Item.value, Item.value, this, this]; rfl) rfl
    case isFalse =>
      cases value? rest
      case none => exact .error _ <| .inr rfl
      case some => exact .item rfl rfl

theorem parseFrom_set_form (hd : d.Distinct) (hi : ¬(d.field i).positional)
    (hf : form ∈ (d.field i).patterns) (ho : other ∈ (d.field i).patterns)
    (h : d.Reads items words (form :: rest)) (default : d.Index → Value) :
    d.parseFrom default (words.set (items.flatMap Item.words).length other) =
      d.parseFrom default words ∨
    ∃ kind, (kind = .repeatedOption ∨ kind = .missingValue) ∧ ParseError.Quotes kind ∧
      d.Stumbles words items form rest (kind form) ∧
      d.parseFrom default words = .error (kind form) ∧
      d.parseFrom default (words.set (items.flatMap Item.words).length other) =
        .error (kind other) := by
  have h' := h.set other
  have hs := readItem_sameButForm hd hi hf ho items.reverse rest
  generalize hr : d.readItem items.reverse form rest = r at hs
  generalize hr' : d.readItem items.reverse other rest = r' at hs
  cases hs
  case item hg hl =>
    refine .inl <| parseFrom_congr ?_
    rw [h.map_gives_readItems, h'.map_gives_readItems, readItems_cons_congr hr hr' hg hl]
  case error kind hk =>
    have hq : ParseError.Quotes kind := by
      obtain rfl | rfl := hk
      · exact ParseError.quotes_repeatedOption
      · exact ParseError.quotes_missingValue
    have hf : d.Stumbles words items form rest (kind form) := ⟨h, h.readItem_eq_error_iff.mp hr⟩
    have ho : d.Stumbles _ items other rest (kind other) := ⟨h', h'.readItem_eq_error_iff.mp hr'⟩
    exact .inr ⟨kind, hk, hq, hf, hf.parseFrom_eq, ho.parseFrom_eq⟩

-- What is read before and behind the option stays as it is.
theorem parseFrom_set_form_archive :
    ∃ s, archive.parse ["a", "-l", "3", "--force"] = .ok s ∧
      archive.parse ["a", "--level", "3", "--force"] = .ok s := by
  have h : archive.Reads [.positional ⟨2, by decide⟩ "a"] ["a", "-l", "3", "--force"]
      ["-l", "3", "--force"] := {
    words   := rfl
    proper  := List.forall_mem_singleton.mpr <| .positional (by decide) (by decide)
    once    := .nil
    inOrder := by decide }
  have hs : archive.parse ["a", "-l", "3", "--force"] = .ok [
      ("level", .text "3"), ("force", .flag true), ("source", .text "a"),
      ("target", .optional none), ("note", .text "")] := by
    decide +kernel
  have he := @parseFrom_set_form _ _ ⟨0, by decide⟩ _ "--level" _ _ archive_distinct
    (by decide) (by decide) (by decide) h archive.derivedDefault
  obtain he | ⟨_, _, _, _, he, _⟩ := he
  · exact ⟨_, hs, he.trans hs⟩
  · cases he.symm.trans hs

end Definition
end LoxTokens.Args
