import LoxTokens.Command.Options
import LoxTokens.Proofs.Args.Distinct
import LoxTokens.Proofs.Args.Order

/-!
The command line of the program. Every item of it is a single word, so the flag that makes the
program quiet can be added anywhere, and does nothing else.
-/

namespace LoxTokens.Command

attribute [ext] Options

namespace Options

open Args Args.Definition

def scriptIndex : definition.Index :=
  ⟨0, by decide⟩

def quietIndex : definition.Index :=
  ⟨1, by decide⟩

theorem definition_distinct : definition.Distinct :=
  ⟨by decide, by decide⟩

theorem eq_quietIndex_of_not_positional :
    ∀ i, ¬(definition.field i).positional → i = quietIndex := by
  decide

theorem owns_quietIndex {form : String} (h : form ∈ quietField.patterns) :
    definition.Owns quietIndex form :=
  definition_distinct.owns (by decide) h

theorem mem_patterns_of_owns {i : definition.Index} {form : String} (h : definition.Owns i form) :
    i = quietIndex ∧ form ∈ quietField.patterns := by
  have ⟨hp, hf⟩ := Field.listens_iff.mp h.listens
  obtain rfl := eq_quietIndex_of_not_positional i hp
  exact ⟨rfl, hf⟩

-- The word of an item. There is no option with a value.
def word : Item definition → String
  | .flag _ form       => form
  | .option _ form _   => form
  | .positional _ word => word

theorem words_eq {item : Item definition} (h : item.Proper) : item.words = [word item] := by
  cases h
  case option ho _ hk _ =>
    obtain ⟨rfl, _⟩ := mem_patterns_of_owns ho
    contradiction
  all_goals rfl

variable {items : List (Item definition)} {words before after : List String}

theorem map_word_eq (h : definition.Divides items words) : items.map word = words := by
  rw [← h.words, List.map_eq_flatMap]
  exact (List.flatMap_congr fun item hi => words_eq <| h.proper item hi).symm

-- Without its words, the flag is not given.
theorem quietIndex_not_mem (h : definition.Divides items words)
    (hn : ∀ form ∈ quietField.patterns, form ∉ words) : quietIndex ∉ items.map Item.index := by
  intro hq
  obtain ⟨item, hi, he⟩ := List.mem_map.mp hq
  have hw : word item ∈ words := map_word_eq h ▸ List.mem_map_of_mem hi
  cases h.proper item hi
  case flag ho _ _     => exact hn _ (mem_patterns_of_owns ho).right hw
  case option ho _ _ _ => exact hn _ (mem_patterns_of_owns ho).right hw
  case positional i _ _ =>
    have hp := positional_of_mem h.inOrder <| List.mem_filterMap.mpr ⟨_, hi, rfl⟩
    obtain rfl : i = quietIndex := he
    exact absurd hp <| by decide

section

variable (items : List (Item definition))

theorem values_eq :
    definition.values definition.derivedDefault items = [
      ("script", valueOf definition.derivedDefault items scriptIndex),
      ("quiet", valueOf definition.derivedDefault items quietIndex)] :=
  rfl

theorem quiet_ofValues :
    (ofValues (definition.values definition.derivedDefault items)).quiet =
      (valueOf definition.derivedDefault items quietIndex == .flag true) := by
  rw [values_eq]
  simp [ofValues, List.lookup_cons]

end

theorem script_ofValues {items' : List (Item definition)}
    (h : valueOf definition.derivedDefault items' scriptIndex =
      valueOf definition.derivedDefault items scriptIndex) :
    (ofValues (definition.values definition.derivedDefault items')).script =
      (ofValues (definition.values definition.derivedDefault items)).script := by
  rw [values_eq, values_eq, h]
  simp [ofValues, List.lookup_cons]

theorem parse_eq_ok_iff {options : Options} :
    parse words = .ok options ↔
      ∃ items, definition.Divides items words ∧
        ofValues (definition.values definition.derivedDefault items) = options := by
  have hp : ∀ s, definition.parse words = .ok s ↔ _ := fun _ => parseFrom_eq_ok_iff
  constructor
  case mp =>
    intro h
    unfold parse at h
    cases hs : definition.parse words <;> rw [hs] at h <;> cases h
    case ok s =>
      obtain ⟨items, hd, rfl⟩ := (hp s).mp hs
      exact ⟨items, hd, rfl⟩
  case mpr =>
    intro ⟨items, hd, ho⟩
    rw [parse, (hp _).mpr ⟨items, hd, rfl⟩, ← ho]
    rfl

theorem parse_insert {options : Options} {form : String}
    (h : parse (before ++ after) = .ok options) (hf : form ∈ quietField.patterns)
    (hn : ∀ form ∈ quietField.patterns, form ∉ before ++ after) :
    parse (before ++ form :: after) = .ok { options with quiet := true } := by
  obtain ⟨items, hd, rfl⟩ := parse_eq_ok_iff.mp h
  obtain ⟨l, r, rfl, hl, hr⟩ := List.map_eq_append_iff.mp <| map_word_eq hd
  have hq := quietIndex_not_mem hd hn
  have hp : (Item.flag quietIndex form).Proper :=
    .flag (owns_quietIndex hf)
      (definition_distinct.not_help quietIndex (by decide) form hf) rfl
  have hi := hd.insert hp rfl hq
  rw [← map_word_eq hi, List.map_append, List.map_cons, hl, hr] at hi
  refine parse_eq_ok_iff.mpr ⟨_, hi, Options.ext ?script ?quiet⟩
  case script =>
    refine script_ofValues ?_
    have hs : quietIndex ≠ scriptIndex := by decide
    simp [valueOf, List.find?_append, Item.index, hs]
  case quiet =>
    have hv : valueOf definition.derivedDefault _ quietIndex = .flag true :=
      hi.valueOf_eq <| List.mem_append_right _ List.mem_cons_self
    rw [quiet_ofValues, hv]
    rfl

end Options
end LoxTokens.Command
