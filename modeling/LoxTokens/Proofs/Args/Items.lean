import LoxTokens.Args.Parser
import Mathlib.Data.List.FinRange
import Mathlib.Data.List.Nodup

/-!
Reading the items of a command line. An item can be read after others if it is proper by itself
and fits to those that are given.
-/

namespace LoxTokens.Args

namespace Definition

variable {d : Definition}

theorem map_fields (f : Field → α) : d.fields.map f = (List.finRange _).map fun i => f (d.field i) :=
  List.ext_getElem (by simp) (by simp [field])

-- The option field that a word stands for is the first that lists it.
structure Owns (d : Definition) (i : d.Index) (word : String) : Prop where
  listens : (d.field i).listens word
  first   : ∀ j < i, ¬(d.field j).listens word

theorem owner?_eq_some_iff {word : String} {i : d.Index} :
    d.owner? word = some i ↔ d.Owns i word := by
  unfold owner?
  rw [List.findFinIdx?_eq_some_iff]
  exact ⟨fun h => ⟨h.1, h.2⟩, fun h => ⟨h.1, h.2⟩⟩

theorem owner?_eq_none_iff {word : String} :
    d.owner? word = none ↔ ∀ i : d.Index, ¬(d.field i).listens word := by
  unfold owner?
  rw [List.findFinIdx?_eq_none_iff]
  constructor
  case mp  => exact fun h i => h _ <| List.getElem_mem i.isLt
  case mpr =>
    intro h f hf
    have ⟨i, hi, he⟩ := List.getElem_of_mem hf
    exact he ▸ h ⟨i, hi⟩

theorem Owns.not_positional {word : String} {i : d.Index} (h : d.Owns i word) :
    ¬(d.field i).positional := by
  have := h.listens
  simp_all [Field.listens]

-- The positional fields in their order.
def positionals (d : Definition) : List d.Index :=
  (List.finRange _).filter fun i => (d.field i).positional

end Definition

namespace Item

variable {d : Definition}

-- The field of an option, with a value or without.
def option? : Item d → Option d.Index
  | flag i _       => some i
  | option i _ _   => some i
  | positional _ _ => none

def positional? : Item d → Option d.Index
  | positional i _ => some i
  | _              => none

theorem index_of_option? {item : Item d} {i : d.Index} (h : item.option? = some i) :
    item.index = i := by
  cases item <;> cases h <;> rfl

theorem mem_index_of_mem_option? {items : List (Item d)} {i : d.Index}
    (h : i ∈ items.filterMap option?) : i ∈ items.map index := by
  obtain ⟨item, hm, ho⟩ := List.mem_filterMap.mp h
  exact List.mem_map.mpr ⟨item, hm, index_of_option? ho⟩

theorem exists_words_append (item : Item d) (after : List String) :
    ∃ word rest, item.words ++ after = word :: rest := by
  cases item <;> exact ⟨_, _, rfl⟩

-- What can be said of an item without regard to others. Words for help start none.
inductive Proper : Item d → Prop
  | flag       : d.Owns i form → ¬isHelp form → (d.field i).kind = .flag → Proper (.flag i form)
  | option     : d.Owns i form → ¬isHelp form → (d.field i).kind ≠ .flag → ¬isDashed word →
                 Proper (.option i form word)
  | positional : ¬isDashed word → (∀ j, ¬(d.field j).listens word) → Proper (.positional i word)

def Fits (given : List (Item d)) : Item d → Prop
  | flag i _       => i ∉ given.map index
  | option i _ _   => i ∉ given.map index
  | positional i _ => d.nextPositional? given = some i

theorem Fits.index_not_mem {given : List (Item d)} {item : Item d} (h : item.Fits given) :
    item.index ∉ given.map Item.index := by
  cases item
  case positional =>
    have := List.find?_some h
    simp_all [Item.index]
  all_goals exact h

end Item

namespace Definition

variable {d : Definition} {given : List (Item d)}

theorem not_isHelp_of_not_isDashed {word : String} (h : ¬isDashed word) : ¬isHelp word := by
  simp only [isHelp, Bool.or_eq_true, beq_iff_eq]
  rintro (rfl | rfl)
  all_goals exact h (by decide)

theorem readItem_eq_ok_iff {word : String} {rest : List String} {item : Item d} :
    d.readItem given word rest = .ok item ↔
      item.Proper ∧ item.Fits given ∧ item.words <+: word :: rest := by
  constructor
  case mp =>
    intro h
    unfold readItem at h
    split at h
    case isTrue => cases h
    case isFalse hh =>
      split at h
      case h_1 i ho =>
        have ho := owner?_eq_some_iff.mp ho
        split at h
        case isTrue => cases h
        case isFalse hg =>
          split at h
          case isTrue hk =>
            cases h
            exact ⟨.flag ho hh hk, hg, by simp [Item.words]⟩
          case isFalse hk =>
            split at h
            case h_1 => cases h
            case h_2 =>
              split at h <;> cases h
              case isFalse hd => exact ⟨.option ho hh hk hd, hg, by simp [Item.words]⟩
      case h_2 ho =>
        split at h
        case isTrue => cases h
        case isFalse hd =>
          split at h <;> cases h
          case h_1 hn => exact ⟨.positional hd (owner?_eq_none_iff.mp ho), hn, by simp [Item.words]⟩
  case mpr =>
    rintro ⟨hp, hf, hw⟩
    cases hp <;> simp only [Item.words, List.cons_prefix_cons] at hw <;> simp only [Item.Fits] at hf
    case flag ho hh hk =>
      obtain ⟨rfl, _⟩ := hw
      simp [readItem, hh, owner?_eq_some_iff.mpr ho, hf, hk]
    case option ho hh hk hd =>
      obtain ⟨rfl, _, rfl⟩ := hw
      simp [readItem, hh, owner?_eq_some_iff.mpr ho, hf, hk, hd]
    case positional hd ho =>
      obtain ⟨rfl, _⟩ := hw
      simp [readItem, not_isHelp_of_not_isDashed hd, owner?_eq_none_iff.mpr ho, hf, hd]

-- Whether items fit, each to the given ones and those before it.
def FitInTurn (given : List (Item d)) : List (Item d) → Prop
  | []            => True
  | item :: items => item.Fits given ∧ FitInTurn (item :: given) items

theorem drop_words {item : Item d} {word : String} {rest after : List String}
    (h : item.words ++ after = word :: rest) : rest.drop (item.words.length - 1) = after := by
  cases item <;> cases h <;> rfl

theorem readItem_eq_ok {item : Item d} {word : String} {rest after : List String}
    (hp : item.Proper) (hf : item.Fits given) (hw : item.words ++ after = word :: rest) :
    d.readItem given word rest = .ok item :=
  readItem_eq_ok_iff.mpr ⟨hp, hf, hw ▸ List.prefix_append ..⟩

theorem readItems_words_append {item : Item d} (hp : item.Proper) (hf : item.Fits given)
    (after : List String) :
    d.readItems given (item.words ++ after) =
      (d.readItems (item :: given) after).map (item :: ·) := by
  have ⟨word, rest, hw⟩ := item.exists_words_append after
  rw [hw, readItems, readItem_eq_ok hp hf hw]
  simp only [drop_words hw]

theorem readItems_eq_ok_iff {words : List String} {items : List (Item d)} :
    d.readItems given words = .ok items ↔
      items.flatMap Item.words = words ∧ (∀ item ∈ items, item.Proper) ∧ FitInTurn given items := by
  constructor
  case mp =>
    intro h
    fun_induction readItems d given words generalizing items
    case case1 => cases h; exact ⟨rfl, by simp, trivial⟩
    case case2 => cases h
    case case3 given word rest item hr hi =>
      have ⟨hp, hf, after, hw⟩ := readItem_eq_ok_iff.mp hr
      rw [drop_words hw] at hi h
      cases hs : d.readItems (item :: given) after <;> rw [hs] at h <;> cases h
      case ok items =>
        have ⟨hws, hps, hfs⟩ := hi hs
        exact ⟨by simp [hws, hw], List.forall_mem_cons.mpr ⟨hp, hps⟩, hf, hfs⟩
  case mpr =>
    rintro ⟨rfl, hp, hf⟩
    induction items generalizing given
    case nil => simp [readItems]
    case cons item items hi =>
      have ⟨hp, hps⟩ := List.forall_mem_cons.mp hp
      have ⟨hf, hfs⟩ := hf
      rw [List.flatMap_cons, readItems_words_append hp hf, hi hps hfs]
      rfl

-- Positional items have positional fields as soon as they come in the order of the declaration.
theorem positional_of_mem {i : d.Index} {is : List d.Index} (h : is <+: d.positionals)
    (hi : i ∈ is) : (d.field i).positional := by
  simpa [positionals] using h.subset hi

theorem mem_index_iff_of_positional {i : d.Index} (h : ∀ item ∈ given, item.Proper)
    (hi : (d.field i).positional) :
    i ∈ given.map Item.index ↔ i ∈ given.filterMap Item.positional? := by
  simp only [List.mem_map, List.mem_filterMap]
  refine ⟨fun ⟨item, hm, he⟩ => ⟨item, hm, ?_⟩, fun ⟨item, hm, he⟩ => ⟨item, hm, ?_⟩⟩
  case refine_1 =>
    cases h item hm <;> cases he
    case positional => rfl
    all_goals exact absurd hi <| Owns.not_positional ‹_›
  case refine_2 => cases item <;> cases he; rfl

theorem mem_index_iff_of_option {i : d.Index} (hi : ¬(d.field i).positional)
    (h : (given.filterMap Item.positional?).reverse <+: d.positionals) :
    i ∈ given.map Item.index ↔ i ∈ given.filterMap Item.option? := by
  simp only [List.mem_map, List.mem_filterMap]
  refine ⟨fun ⟨item, hm, he⟩ => ⟨item, hm, ?_⟩, fun ⟨item, hm, he⟩ => ⟨item, hm, ?_⟩⟩
  case refine_1 =>
    cases item <;> cases he
    case positional =>
      refine absurd (positional_of_mem h ?_) hi
      exact List.mem_reverse.mpr <| List.mem_filterMap.mpr ⟨_, hm, rfl⟩
    all_goals rfl
  case refine_2 => cases item <;> cases he <;> rfl

theorem nextPositional?_eq_head? {rest : List d.Index} (hg : ∀ item ∈ given, item.Proper)
    (h : (given.filterMap Item.positional?).reverse ++ rest = d.positionals) :
    d.nextPositional? given = rest.head? := by
  have hn : d.positionals.Nodup := (List.nodup_finRange _).filter _
  have hf : d.nextPositional? given = (d.positionals.filter (· ∉ given.map Item.index)).head? := by
    simp [nextPositional?, positionals, List.head?_filter, Bool.and_comm]
  have hp : ∀ i ∈ d.positionals, (d.field i).positional := by simp [positionals]
  rw [← h] at hn hf hp
  -- The fields of the given items fall away, the others are left as they are.
  have hl : (given.filterMap Item.positional?).reverse.filter (· ∉ given.map Item.index) = [] := by
    refine List.filter_eq_nil_iff.mpr fun i hi => ?_
    have := mem_index_iff_of_positional hg <| hp i <| List.mem_append_left rest hi
    simp only [this.mpr <| List.mem_reverse.mp hi, not_true, decide_false, Bool.false_eq_true,
      not_false_eq_true]
  have hr : rest.filter (· ∉ given.map Item.index) = rest := by
    refine List.filter_eq_self.mpr fun i hi => decide_eq_true fun hm => ?_
    have := mem_index_iff_of_positional hg <| hp i <| List.mem_append_right _ hi
    exact List.disjoint_of_nodup_append hn (List.mem_reverse.mpr <| this.mp hm) hi
  rw [hf, List.filter_append, hl, hr, List.nil_append]

theorem fits_iff {item : Item d} (hg : ∀ item ∈ given, item.Proper) (hi : item.Proper)
    (ho : (given.filterMap Item.option?).Nodup)
    (hp : (given.filterMap Item.positional?).reverse <+: d.positionals) :
    item.Fits given ↔
      ((item :: given).filterMap Item.option?).Nodup ∧
      ((item :: given).filterMap Item.positional?).reverse <+: d.positionals := by
  cases hi
  case positional =>
    have ⟨rest, hr⟩ := hp
    simp only [Item.Fits, Item.option?, Item.positional?, List.filterMap_cons, List.reverse_cons]
    rw [nextPositional?_eq_head? hg hr, ← hr, List.prefix_append_right_inj]
    cases rest <;> simp [ho, eq_comm]
  all_goals
    have := mem_index_iff_of_option (Owns.not_positional ‹_›) hp
    simp only [Item.Fits, Item.option?, Item.positional?, List.filterMap_cons, List.nodup_cons]
    rw [this]
    simp [ho, hp]

theorem fitInTurn_iff {items : List (Item d)} (hg : ∀ item ∈ given, item.Proper)
    (hi : ∀ item ∈ items, item.Proper) (ho : (given.filterMap Item.option?).Nodup)
    (hp : (given.filterMap Item.positional?).reverse <+: d.positionals) :
    FitInTurn given items ↔
      ((given.reverse ++ items).filterMap Item.option?).Nodup ∧
      (given.reverse ++ items).filterMap Item.positional? <+: d.positionals := by
  induction items generalizing given
  case nil => simp [FitInTurn, List.filterMap_reverse, ho, hp]
  case cons item items hi' =>
    have ⟨hi, his⟩ := List.forall_mem_cons.mp hi
    have hg' := List.forall_mem_cons.mpr ⟨hi, hg⟩
    have he : given.reverse ++ item :: items = (item :: given).reverse ++ items := by simp
    rw [FitInTurn, fits_iff hg hi ho hp, he]
    constructor
    case mp  => exact fun ⟨⟨ho, hp⟩, hf⟩ => (hi' hg' his ho hp).mp hf
    case mpr =>
      intro ⟨hos, hps⟩
      -- What holds of all items holds of those up to this one.
      have ho : ((item :: given).filterMap Item.option?).Nodup := by
        rw [List.filterMap_append, List.filterMap_reverse] at hos
        exact List.nodup_reverse.mp <| List.Nodup.of_append_left hos
      have hp : ((item :: given).filterMap Item.positional?).reverse <+: d.positionals := by
        rw [List.filterMap_append, List.filterMap_reverse] at hps
        exact (List.prefix_append _ _).trans hps
      exact ⟨⟨ho, hp⟩, (hi' hg' his ho hp).mpr ⟨hos, hps⟩⟩

theorem FitInTurn.index_nodup {items : List (Item d)} (h : FitInTurn given items)
    (hg : (given.map Item.index).Nodup) : ((given.reverse ++ items).map Item.index).Nodup := by
  induction items generalizing given
  case nil => simpa using hg
  case cons item items hi =>
    have ⟨hf, hfs⟩ := h
    have := hi hfs <| List.nodup_cons.mpr ⟨Item.Fits.index_not_mem hf, hg⟩
    simpa using this

end Definition
end LoxTokens.Args
