import LoxTokens.Proofs.Args.Items

/-!
The words of a command line are accepted if they divide into items: words of flags, options with
their values, and positional words. The items then decide the values of all fields.
-/

namespace LoxTokens.Args

-- How a field holds a word that was given to it. A flag holds no word.
inductive Kind.Wraps : Kind → String → Value → Prop
  | value         : Wraps .value word (.text word)
  | optionalValue : Wraps .optionalValue word (.optional <| some word)

inductive Item.Holds {d : Definition} : Item d → Value → Prop
  | flag       : Holds (.flag i form) (.flag true)
  | option     : (d.field i).kind.Wraps word v → Holds (.option i form word) v
  | positional : (d.field i).kind.Wraps word v → Holds (.positional i word) v

theorem Kind.wraps_ofWord {k : Kind} (word : String) (h : k ≠ .flag) :
    k.Wraps word (k.ofWord word) := by
  cases k
  case flag          => contradiction
  case value         => exact .value
  case optionalValue => exact .optionalValue

theorem Item.Proper.holds_value {d : Definition} {item : Item d} (h : item.Proper)
    (hp : ∀ i, item.positional? = some i → (d.field i).positional) : item.Holds item.value := by
  cases h
  case flag hk =>
    rw [Item.value, hk]
    exact .flag
  case option hk _ => exact .option <| Kind.wraps_ofWord _ hk
  case positional => exact .positional <| Kind.wraps_ofWord _ <| (d.field _).not_flag <| hp _ rfl

namespace Definition

-- A positional word goes to the positional field with the same place among its kind.
structure Divides (d : Definition) (items : List (Item d)) (words : List String) : Prop where
  words    : items.flatMap Item.words = words
  proper   : ∀ item ∈ items, item.Proper
  once     : (items.filterMap Item.option?).Nodup
  inOrder  : items.filterMap Item.positional? <+: d.positionals
  required : ∀ i, (d.field i).required → i ∈ items.map Item.index

structure Fills (d : Definition) (default : d.Index → Value) (items : List (Item d)) (s : Values) :
    Prop where
  names   : s.map Prod.fst = d.fields.map Field.name
  given   : ∀ item ∈ items, ∃ v, (s.map Prod.snd)[item.index]? = some v ∧ item.Holds v
  omitted : ∀ i, i ∉ items.map Item.index → (s.map Prod.snd)[i]? = some (default i)

variable {d : Definition} {default : d.Index → Value} {items : List (Item d)} {words : List String}

theorem isComplete_iff :
    d.isComplete items ↔ ∀ i, (d.field i).required → i ∈ items.map Item.index := by
  simp only [isComplete, List.all_eq_true, List.mem_finRange, true_implies, decide_eq_true_iff]

theorem readItems_nil_eq_ok_iff :
    d.readItems [] words = .ok items ↔
      items.flatMap Item.words = words ∧ (∀ item ∈ items, item.Proper) ∧
      (items.filterMap Item.option?).Nodup ∧
      items.filterMap Item.positional? <+: d.positionals := by
  rw [readItems_eq_ok_iff]
  refine and_congr_right fun _ => and_congr_right fun hp => ?_
  simpa using @fitInTurn_iff d [] items nofun hp .nil d.positionals.nil_prefix

theorem Divides.readItems_eq (h : d.Divides items words) : d.readItems [] words = .ok items :=
  readItems_nil_eq_ok_iff.mpr ⟨h.words, h.proper, h.once, h.inOrder⟩

theorem parseFrom_eq_ok_iff {s : Values} :
    d.parseFrom default words = .ok s ↔
      ∃ items, d.Divides items words ∧ d.values default items = s := by
  constructor
  case mp =>
    intro h
    unfold parseFrom at h
    split at h
    case h_1 => cases h
    case h_2 items hr =>
      split at h <;> cases h
      case isTrue hc =>
        have ⟨hw, hp, ho, hi⟩ := readItems_nil_eq_ok_iff.mp hr
        exact ⟨items, ⟨hw, hp, ho, hi, isComplete_iff.mp hc⟩, rfl⟩
  case mpr =>
    intro ⟨items, h, hs⟩
    simp [parseFrom, h.readItems_eq, isComplete_iff.mpr h.required, hs]

namespace Divides

theorem unique {items' : List (Item d)} (h : d.Divides items words) (h' : d.Divides items' words) :
    items = items' :=
  Except.ok.inj <| h.readItems_eq ▸ h'.readItems_eq

theorem index_nodup (h : d.Divides items words) : (items.map Item.index).Nodup := by
  have ⟨_, _, hf⟩ := readItems_eq_ok_iff.mp h.readItems_eq
  simpa using hf.index_nodup (by simp)

theorem find?_eq {item : Item d} (h : d.Divides items words) (hi : item ∈ items) :
    items.find? (·.index = item.index) = some item := by
  have hs : (items.find? (·.index = item.index)).isSome := List.find?_isSome.mpr ⟨item, hi, by simp⟩
  have ⟨other, ho⟩ := Option.isSome_iff_exists.mp hs
  have he : other.index = item.index := by simpa using List.find?_some ho
  rw [ho, List.inj_on_of_nodup_map h.index_nodup (List.mem_of_find?_eq_some ho) hi he]

theorem holds_value {item : Item d} (h : d.Divides items words) (hi : item ∈ items) :
    item.Holds item.value :=
  (h.proper item hi).holds_value fun _ hp =>
    positional_of_mem h.inOrder <| List.mem_filterMap.mpr ⟨item, hi, hp⟩

theorem fills_values (h : d.Divides items words) :
    d.Fills default items (d.values default items) where
  names := List.ext_getElem (by simp [values]) (by simp [values, field])
  given item hi := by
    refine ⟨item.value, ?_, h.holds_value hi⟩
    simp [values, h.find?_eq hi]
  omitted i hi := by
    have hn : items.find? (·.index = i) = none := by simpa using hi
    simp [values, hn]

end Divides

-- The words are parsed if they divide into items, and these state what is parsed.
theorem parseFrom_ok_iff_divides :
    ((∃ s, d.parseFrom default words = .ok s) ↔ ∃ items, d.Divides items words) ∧
    ∀ s items, d.parseFrom default words = .ok s → d.Divides items words →
      d.Fills default items s := by
  constructor
  case left =>
    constructor
    case mp  =>
      intro ⟨s, hs⟩
      have ⟨items, h, _⟩ := parseFrom_eq_ok_iff.mp hs
      exact ⟨items, h⟩
    case mpr => exact fun ⟨items, h⟩ => ⟨_, parseFrom_eq_ok_iff.mpr ⟨items, h, rfl⟩⟩
  case right =>
    intro s items hs h
    have ⟨items', h', he⟩ := parseFrom_eq_ok_iff.mp hs
    rw [← he, h'.unique h]
    exact h.fills_values

-- The second option lists a word of the first, by which it is never reached. The forms of a
-- positional field stand for nothing.
def copy : Definition where
  description   := "Copies a file"
  usageExitCode := 1
  fields        := [
    ⟨"level", "-l", "--level", "", true, false, .optionalValue, by decide, by decide⟩,
    ⟨"loud", "-l", "loud", "", false, false, .flag, by decide, by decide⟩,
    ⟨"source", none, "from", "", true, true, .value, by decide, by decide⟩,
    ⟨"target", none, "to", "", false, true, .value, by decide, by decide⟩]

def copyItems : List (Item copy) :=
  [.positional ⟨2, by decide⟩ "to", .option ⟨0, by decide⟩ "-l" "3", .flag ⟨1, by decide⟩ "loud"]

theorem copyItems_proper : ∀ item ∈ copyItems, item.Proper := by
  simp only [copyItems, List.forall_mem_cons]
  refine ⟨.positional ?_ ?_, .option ⟨?_, ?_⟩ ?_ ?_ ?_, .flag ⟨?_, ?_⟩ ?_ rfl, nofun⟩
  all_goals decide +kernel

theorem copyItems_fill :
    ∃ s, copy.parseFrom copy.derivedDefault ["to", "-l", "3", "loud"] = .ok s ∧
      copy.Fills copy.derivedDefault copyItems s :=
  have h : copy.Divides copyItems ["to", "-l", "3", "loud"] :=
    ⟨rfl, copyItems_proper, by decide, by decide, by decide⟩
  have ⟨s, hs⟩ := parseFrom_ok_iff_divides.left.mpr ⟨_, h⟩
  ⟨s, hs, parseFrom_ok_iff_divides.right s _ hs h⟩

end Definition
end LoxTokens.Args
