import LoxTokens.Proofs.Args.Loop

/-!
The rounds of the loop over the words. What the loop knows at the head of a round is told by the rounds
before it: which fields they gave values to, and which words they took for that.
-/

namespace LoxTokens.Args

structure Round where
  place  : Nat          -- of the word that it starts with
  index? : Option Nat   -- of the field that it assigns, if there is an arm for it
  taken? : Option Nat   -- the place of the word that the field holds from then on, if it is no flag
  deriving DecidableEq

-- The round that reads an item whose words start at the place.
def Item.round {d : Definition} (place : Nat) : Item d → Round
  | flag i _       => ⟨place, some i, none⟩
  | option i _ _   => ⟨place, some i, some <| place + 1⟩
  | positional i _ => ⟨place, some i, some place⟩

namespace Progress

def start {d : Definition} (default : d.Index → Value) : Progress where
  place     := 0
  processed := d.fields.map fun _ => false
  filled    := 0
  values    := (List.finRange _).map default

def IsProcessed (s : Progress) (index : Nat) : Prop :=
  s.processed[index]? = some true

end Progress

namespace Definition

def rounds {d : Definition} (place : Nat) : List (Item d) → List Round
  | []            => []
  | item :: items => item.round place :: rounds (place + item.words.length) items

-- All that a round can do, other than to halt.
inductive Step (d : Definition) (words : List String) (s : Progress) : Round → Progress → Prop
  | flag :
    words[s.place]? = some form → ¬isHelp form → d.optionArms.find? (form ∈ ·.forms) = some arm →
    s.processed[arm.index]? = some false → arm.kind = .flag →
    s.assign arm.index (.flag true) = .ok s' →
    Step d words s ⟨s.place, some arm.index, none⟩ (s'.skip 1)
  | option :
    words[s.place]? = some form → ¬isHelp form → d.optionArms.find? (form ∈ ·.forms) = some arm →
    s.processed[arm.index]? = some false → arm.kind ≠ .flag →
    words[s.place + 1]? = some word → ¬isDashed word →
    s.assign arm.index (arm.kind.ofWord word) = .ok s' →
    Step d words s ⟨s.place, some arm.index, some <| s.place + 1⟩ (s'.skip 2)
  | positional :
    words[s.place]? = some word → ¬isHelp word → d.optionArms.find? (word ∈ ·.forms) = none →
    ¬isDashed word → s.filled < d.positionalArms.length →
    d.positionalArms.find? (·.position = s.filled) = some arm →
    s.assign arm.index (arm.kind.ofWord word) = .ok s' →
    Step d words s ⟨s.place, some arm.index, some s.place⟩
      ({ s' with filled := s'.filled + 1 }.skip 1)
  | idle :
    words[s.place]? = some word → ¬isHelp word → d.optionArms.find? (word ∈ ·.forms) = none →
    ¬isDashed word → s.filled < d.positionalArms.length →
    d.positionalArms.find? (·.position = s.filled) = none →
    Step d words s ⟨s.place, none, none⟩ ({ s with filled := s.filled + 1 }.skip 1)

-- The states at the heads of rounds, each with the rounds before it.
inductive Heads (d : Definition) (default : d.Index → Value) (words : List String) :
    List Round → Progress → Prop
  | start : Heads d default words [] (.start default)
  | round : Heads d default words rs s → s.place < words.length → d.Step words s r s' →
            Heads d default words (rs ++ [r]) s'

-- The round starts with a form of the field. Words for help are forms of none.
def Opens (d : Definition) (words : List String) (i : d.Index) (r : Round) : Prop :=
  ∃ form, words[r.place]? = some form ∧ ¬isHelp form ∧ d.Owns i form

-- The field holds what the round has given to it.
inductive HoldsFrom (d : Definition) (words : List String) (s : Progress) (i : d.Index) (r : Round) :
    Prop
  | flag : (d.field i).kind = .flag → r.taken? = none → s.values[i.val]? = some (.flag true) →
           HoldsFrom d words s i r
  | word : r.taken? = some n → n < s.place → words[n]? = some word → ¬isDashed word →
           (d.field i).kind.Wraps word v → s.values[i.val]? = some v → HoldsFrom d words s i r

-- What is known at the head of a round, after other rounds.
structure Knows (d : Definition) (default : d.Index → Value) (words : List String)
    (rs : List Round) (s : Progress) : Prop where
  place      : s.place ≤ words.length
  increasing : (rs.map Round.place ++ [s.place]).Pairwise (· < ·)
  processed  : s.processed.length = d.fields.length
  values     : s.values.length = d.fields.length
  filled     : s.filled ≤ d.positionals.length
  -- an arm is at hand for each word that the loop takes for a positional field
  arm        : s.filled < d.positionalArms.length →
               ∃ arm, d.positionalArms.find? (·.position = s.filled) = some arm
  positional : ∀ i, (d.field i).positional →
               (s.IsProcessed i ↔ i ∈ d.positionals.take s.filled)
  option     : ∀ i, ¬(d.field i).positional →
               (s.IsProcessed i ↔ ∃! r, r ∈ rs ∧ d.Opens words i r)
  unassigned : ∀ i : d.Index, ¬s.IsProcessed i →
               s.values[i.val]? = some (default i) ∧ ∀ r ∈ rs, r.index? ≠ some i.val
  assigned   : ∀ i : d.Index, s.IsProcessed i →
               ∃ r ∈ rs, d.HoldsFrom words s i r ∧ ∀ r' ∈ rs, r'.index? = some i.val ↔ r' = r
  apart      : (rs.filterMap Round.taken?).Nodup
  busy       : ∀ r ∈ rs, ∃ i : d.Index, r.index? = some i.val

section

variable {d : Definition} {s s' : Progress} {words : List String} {word : String}
  {arm : OptionArm} {r : Round} {n : Nat}

theorem lookup_eq_ok_iff {l : List α} {n : Nat} {x : α} : lookup l n = .ok x ↔ l[n]? = some x := by
  unfold lookup
  split <;> simp_all

theorem exists_owns_of_find?_optionArms (h : d.optionArms.find? (word ∈ ·.forms) = some arm) :
    ∃ i, d.Owns i word ∧ optionArm i = arm := by
  rw [find?_optionArms] at h
  have ⟨i, ho, ha⟩ := Option.map_eq_some_iff.mp h
  exact ⟨i, owner?_eq_some_iff.mp ho, ha⟩

theorem forall_not_listens_of_find?_optionArms (h : d.optionArms.find? (word ∈ ·.forms) = none) :
    ∀ i, ¬(d.field i).listens word := by
  rw [find?_optionArms, Option.map_eq_none_iff] at h
  exact owner?_eq_none_iff.mp h

theorem exists_positionalArm (h : n < d.positionalArms.length) :
    ∃ arm, d.positionalArms.find? (·.position = n) = some arm := by
  rw [length_positionalArms] at h
  rw [find?_positionalArms, List.getElem?_eq_getElem h]
  exact ⟨_, rfl⟩

theorem exists_step_of_take (hw : words[s.place]? = some word) (hh : ¬isHelp word)
    (ha : d.optionArms.find? (word ∈ ·.forms) = some arm) (h : arm.take words word s = .ok s') :
    ∃ r, d.Step words s r s' := by
  obtain ⟨isProcessed, hp, h⟩ := bind_eq_ok_iff.mp h
  split at h
  case isTrue => cases h
  case isFalse hf =>
    have hp : s.processed[arm.index]? = some false :=
      Bool.not_eq_true _ |>.mp hf ▸ lookup_eq_ok_iff.mp hp
    split at h
    case isTrue hk =>
      obtain ⟨t, ht, rfl⟩ := map_eq_ok_iff.mp h
      exact ⟨_, .flag hw hh ha hp hk ht⟩
    case isFalse hk =>
      split at h
      case h_1 => cases h
      case h_2 hv =>
        split at h
        case isTrue     => cases h
        case isFalse hd =>
          obtain ⟨t, ht, rfl⟩ := map_eq_ok_iff.mp h
          exact ⟨_, .option hw hh ha hp hk hv hd ht⟩

theorem exists_step_of_fillNext (hw : words[s.place]? = some word) (hh : ¬isHelp word)
    (ha : d.optionArms.find? (word ∈ ·.forms) = none) (hd : ¬isDashed word)
    (h : d.fillNext word s = .ok s') : ∃ r, d.Step words s r s' := by
  unfold fillNext at h
  split at h
  case isFalse   => cases h
  case isTrue hl =>
    obtain ⟨t, ht, rfl⟩ := map_eq_ok_iff.mp h
    unfold assignNext at ht
    split at ht
    case h_1 hn => exact ⟨_, .positional hw hh ha hd hl hn ht⟩
    case h_2 hn => cases ht; exact ⟨_, .idle hw hh ha hd hl hn⟩

theorem advance_eq_ok_iff : d.advance words s = .ok s' ↔ ∃ r, d.Step words s r s' := by
  constructor
  case mp =>
    intro h
    obtain ⟨word, hw, h⟩ := bind_eq_ok_iff.mp h
    have hw := lookup_eq_ok_iff.mp hw
    split at h
    case isTrue     => cases h
    case isFalse hh =>
      split at h
      case h_1 ha => exact exists_step_of_take hw hh ha h
      case h_2 ha =>
        split at h
        case isTrue     => cases h
        case isFalse hd => exact exists_step_of_fillNext hw hh ha hd h
  case mpr =>
    rintro ⟨r, h⟩
    cases h
    case flag hw hh ha hp hk ht =>
      simp [advance, OptionArm.take, lookup, hw, hh, ha, hp, hk, ht, bind, Except.bind, Except.map]
    case option hw hh ha hp hk hv hd ht =>
      simp [advance, OptionArm.take, lookup, hw, hh, ha, hp, hk, hv, hd, ht, bind, Except.bind,
        Except.map]
    case positional hw hh ha hd hl hn ht =>
      simp [advance, fillNext, assignNext, lookup, hw, hh, ha, hd, hl, hn, ht, bind, Except.bind,
        Except.map]
    case idle hw hh ha hd hl hn =>
      simp [advance, fillNext, assignNext, lookup, hw, hh, ha, hd, hl, hn, bind, Except.bind,
        Except.map]

end

variable {d : Definition} {default : d.Index → Value} {items : List (Item d)} {item : Item d}
  {i : d.Index} {word : String} {words rest : List String} {s s' : Progress} {rs : List Round}
  {r : Round} {place n : Nat}

-- The rounds that read items.

theorem rounds_append (place : Nat) (items items' : List (Item d)) :
    rounds place (items ++ items') =
      rounds place items ++ rounds (place + (items.flatMap Item.words).length) items' := by
  induction items generalizing place
  case nil               => simp [rounds]
  case cons item items hi => simp [rounds, hi, Nat.add_assoc]

theorem exists_of_mem_rounds (h : r ∈ rounds place items) :
    ∃ before item after, items = before ++ item :: after ∧
      r = item.round (place + (before.flatMap Item.words).length) := by
  induction items generalizing place
  case nil => cases h
  case cons item items hi =>
    cases h
    case head   => exact ⟨[], item, items, rfl, by simp⟩
    case tail h =>
      have ⟨before, other, after, hs, hr⟩ := hi h
      exact ⟨item :: before, other, after, hs ▸ rfl, by simp [hr, Nat.add_assoc]⟩

theorem index?_round (item : Item d) (place : Nat) :
    (item.round place).index? = some item.index.val := by
  cases item <;> rfl

theorem place_round (item : Item d) (place : Nat) : (item.round place).place = place := by
  cases item <;> rfl

theorem taken?_round (h : n ∈ (item.round place).taken?) :
    place ≤ n ∧ n < place + item.words.length := by
  cases item <;> cases h <;> simp [Item.words]

theorem map_index?_rounds :
    (rounds place items).map Round.index? = items.map fun item => some item.index.val := by
  induction items generalizing place
  case nil     => rfl
  case cons hi => simp [rounds, index?_round, hi]

theorem mem_index_iff_exists_round (place : Nat) :
    i ∈ items.map Item.index ↔ ∃ r ∈ rounds place items, r.index? = some i.val := by
  rw [← List.mem_map, map_index?_rounds]
  simp [Fin.val_inj]

theorem length_words_pos (item : Item d) : 0 < item.words.length := by
  cases item <;> exact Nat.succ_pos _

theorem le_of_mem_rounds (h : r ∈ rounds place items) :
    place ≤ r.place ∧ ∀ n ∈ r.taken?, place ≤ n := by
  obtain ⟨before, item, after, rfl, rfl⟩ := exists_of_mem_rounds h
  refine ⟨place_round item _ ▸ Nat.le_add_right .., fun n hn => ?_⟩
  exact Nat.le_trans (Nat.le_add_right ..) (taken?_round hn).left

theorem rounds_increasing :
    ((rounds place items).map Round.place ++ [place + (items.flatMap Item.words).length]).Pairwise
      (· < ·) := by
  induction items generalizing place
  case nil => simp [rounds]
  case cons item items hi =>
    have hp := length_words_pos item
    have hi := @hi (place + item.words.length)
    simp only [rounds, List.map_cons, place_round, List.cons_append, List.pairwise_cons,
      List.flatMap_cons, List.length_append, ← Nat.add_assoc]
    refine ⟨fun n hn => ?_, hi⟩
    obtain hn | hn := List.mem_append.mp hn
    case inl =>
      obtain ⟨r, hr, rfl⟩ := List.mem_map.mp hn
      have := (le_of_mem_rounds hr).left
      omega
    case inr =>
      cases List.mem_singleton.mp hn
      omega

theorem rounds_apart : ((rounds place items).filterMap Round.taken?).Nodup := by
  induction items generalizing place
  case nil => exact .nil
  case cons item items hi =>
    cases ht : (item.round place).taken?
    case none   => simpa [rounds, ht] using hi
    case some n =>
      rw [rounds, List.filterMap_cons_some ht]
      refine List.nodup_cons.mpr ⟨fun hn => ?_, hi⟩
      obtain ⟨r, hr, hn⟩ := List.mem_filterMap.mp hn
      have := (le_of_mem_rounds hr).right n hn
      have := (taken?_round ht).right
      omega

-- The states behind items, at the fields.

theorem isProcessed_after : (Progress.after default items).IsProcessed i ↔ i ∈ items.map Item.index := by
  have := lookup_eq_ok_iff.mp <| lookup_processed default items i
  rw [Progress.IsProcessed, this, Option.some_inj, decide_eq_true_iff]

theorem getElem?_values_after :
    (Progress.after default items).values[i.val]? = some (valueOf default items i) := by
  simp [Progress.after]

theorem valueOf_append_cons {before after : List (Item d)}
    (h : ((before ++ item :: after).map Item.index).Nodup) :
    valueOf default (before ++ item :: after) item.index = item.value := by
  rw [List.map_append, List.map_cons] at h
  have hn : item.index ∉ before.map Item.index := fun hm =>
    List.disjoint_of_nodup_append h hm List.mem_cons_self
  have hf : before.find? (·.index = item.index) = none := by simpa using hn
  rw [valueOf, List.find?_append, hf]
  simp

namespace Reads

theorem index_nodup (h : d.Reads items words rest) : (items.map Item.index).Nodup := by
  simpa using h.fitInTurn.index_nodup .nil

theorem holds_value (h : d.Reads items words rest) (hi : item ∈ items) : item.Holds item.value :=
  (h.proper item hi).holds_value fun _ hp =>
    positional_of_mem h.inOrder <| List.mem_filterMap.mpr ⟨item, hi, hp⟩

-- The words of an item are found from the place on where its round starts.
theorem getElem?_words_of_lt {before after : List (Item d)}
    (h : d.Reads (before ++ item :: after) words rest) (hn : n < item.words.length) :
    words[(before.flatMap Item.words).length + n]? = item.words[n]? := by
  rw [← h.words, List.flatMap_append, List.flatMap_cons, List.append_assoc, List.append_assoc,
    List.getElem?_append_right (Nat.le_add_right ..), Nat.add_sub_cancel_left,
    List.getElem?_append_left hn]

theorem opens_iff (h : d.Reads items words rest) (hi : ¬(d.field i).positional)
    (hr : r ∈ rounds 0 items) : d.Opens words i r ↔ r.index? = some i.val := by
  obtain ⟨before, item, after, rfl, rfl⟩ := exists_of_mem_rounds hr
  have hm : item ∈ before ++ item :: after := List.mem_append_right _ List.mem_cons_self
  have hw := h.getElem?_words_of_lt (length_words_pos item)
  rw [Opens, index?_round, place_round, Nat.zero_add, Option.some_inj, Fin.val_inj]
  rw [Nat.add_zero] at hw
  cases h.proper item hm
  case positional j hd hl =>
    have hj : (d.field j).positional :=
      positional_of_mem h.inOrder <| List.mem_filterMap.mpr ⟨_, hm, rfl⟩
    refine iff_of_false ?_ fun he => hi <| he ▸ hj
    rintro ⟨form, hf, _, ho⟩
    cases hw.symm.trans hf
    exact hl i ho.listens
  all_goals
    constructor
    case mp =>
      rintro ⟨form, hf, _, ho⟩
      cases hw.symm.trans hf
      exact Owns.unique ‹_› ho
    case mpr =>
      rintro rfl
      exact ⟨_, hw, ‹_›, ‹_›⟩

theorem holdsFrom_after {before after : List (Item d)}
    (h : d.Reads (before ++ item :: after) words rest) :
    d.HoldsFrom words (.after default (before ++ item :: after)) item.index
      (item.round (before.flatMap Item.words).length) := by
  have hm : item ∈ before ++ item :: after := List.mem_append_right _ List.mem_cons_self
  have hv := (@getElem?_values_after d default (before ++ item :: after) item.index).trans <|
    congrArg some <| valueOf_append_cons h.index_nodup
  have hl : (before.flatMap Item.words).length + item.words.length ≤
      (Progress.after default (before ++ item :: after)).place := by
    simp [Progress.after, ← Nat.add_assoc]
  have hw (n : Nat) (hn : n < item.words.length) := h.getElem?_words_of_lt hn
  have hh := h.holds_value hm
  generalize item.value = v at hv hh
  cases h.proper item hm <;> cases hh
  case flag hf                => exact .flag hf rfl hv
  case option _ _ _ hd hk     => exact .word rfl hl (hw 1 Nat.one_lt_two) hd hk hv
  case positional hd _ hk     => exact .word rfl hl (hw 0 Nat.one_pos) hd hk hv

theorem index?_nodup (h : d.Reads items words rest) : ((rounds 0 items).map Round.index?).Nodup := by
  have hj : Function.Injective fun i : d.Index => some i.val :=
    (Option.some_injective _).comp Fin.val_injective
  simpa [map_index?_rounds, Function.comp_def] using h.index_nodup.map hj

theorem exists_holdsFrom (h : d.Reads items words rest) (default : d.Index → Value)
    (hi : i ∈ items.map Item.index) :
    ∃ r ∈ rounds 0 items, r.index? = some i.val ∧ d.HoldsFrom words (.after default items) i r := by
  obtain ⟨item, hm, rfl⟩ := List.mem_map.mp hi
  obtain ⟨before, after, rfl⟩ := List.append_of_mem hm
  refine ⟨_, ?_, index?_round item _, h.holdsFrom_after⟩
  rw [rounds_append, rounds, Nat.zero_add]
  exact List.mem_append_right _ List.mem_cons_self

theorem knows_after (h : d.Reads items words rest) :
    d.Knows default words (rounds 0 items) (.after default items) where
  place := by
    rw [← h.words, List.length_append]
    exact Nat.le_add_right ..
  increasing := by
    have := @rounds_increasing d items 0
    rwa [Nat.zero_add] at this
  processed := by simp [Progress.after]
  values    := by simp [Progress.after]
  filled    := h.inOrder.length_le
  arm       := exists_positionalArm
  positional i hi := by
    rw [isProcessed_after, mem_index_iff_of_positional h.proper hi]
    exact iff_of_eq <| congrArg (i ∈ ·) <| List.prefix_iff_eq_take.mp h.inOrder
  option i hi := by
    rw [isProcessed_after, mem_index_iff_exists_round 0]
    constructor
    case mp =>
      rintro ⟨r, hr, he⟩
      refine ⟨r, ⟨hr, (h.opens_iff hi hr).mpr he⟩, ?_⟩
      rintro r' ⟨hr', ho⟩
      exact List.inj_on_of_nodup_map h.index?_nodup hr' hr <|
        ((h.opens_iff hi hr').mp ho).trans he.symm
    case mpr =>
      rintro ⟨r, ⟨hr, ho⟩, _⟩
      exact ⟨r, hr, (h.opens_iff hi hr).mp ho⟩
  unassigned i hi := by
    rw [isProcessed_after] at hi
    refine ⟨getElem?_values_after.trans <| congrArg some <| valueOf_of_not_mem hi, fun r hr he => ?_⟩
    exact hi <| mem_index_iff_exists_round 0 |>.mpr ⟨r, hr, he⟩
  assigned i hi := by
    obtain ⟨r, hr, he, hv⟩ := h.exists_holdsFrom default <| isProcessed_after.mp hi
    refine ⟨r, hr, hv, fun r' hr' => ⟨fun he' => ?_, fun hs => hs ▸ he⟩⟩
    exact List.inj_on_of_nodup_map h.index?_nodup hr' hr <| he'.trans he.symm
  apart := rounds_apart
  busy r hr := by
    obtain ⟨_, item, _, _, rfl⟩ := exists_of_mem_rounds hr
    exact ⟨item.index, index?_round item _⟩

-- A round behind items reads the next one. There is always an arm for it.
theorem exists_readItem_of_step (h : d.Reads items words (word :: rest))
    (hs : d.Step words (.after default items) r s') :
    ∃ item, d.readItem items.reverse word rest = .ok item ∧
      r = item.round (items.flatMap Item.words).length := by
  have hl := lookup_eq_ok_iff.mp <| @lookup_words d default items word words rest h
  have hn : words[(Progress.after default items).place + 1]? = rest.head? := by
    rw [h.getElem?_words, List.getElem?_cons_succ, List.head?_eq_getElem?]
  have hg {i : d.Index} (hp : (Progress.after default items).processed[i.val]? = some false) :
      i ∉ items.reverse.map Item.index := by
    have := (lookup_eq_ok_iff.mp <| lookup_processed default items i).symm.trans hp
    simpa using this
  cases hs
  case flag hw hh ha hp hk _ =>
    cases hw.symm.trans hl
    obtain ⟨i, ho, rfl⟩ := exists_owns_of_find?_optionArms ha
    have hk : (d.field i).kind = .flag := hk
    exact ⟨.flag i word, by rw [readItem_of_owns hh ho, if_neg (hg hp), if_pos hk], rfl⟩
  case option value _ hw hh ha hp hk hv hd _ =>
    cases hw.symm.trans hl
    obtain ⟨i, ho, rfl⟩ := exists_owns_of_find?_optionArms ha
    obtain ⟨rest', rfl⟩ := List.head?_eq_some_iff.mp <| hn.symm.trans hv
    have hk : (d.field i).kind ≠ .flag := hk
    refine ⟨.option i word value, ?_, rfl⟩
    rw [readItem_of_owns hh ho, if_neg (hg hp), if_neg hk, value?, if_neg hd, Option.elim_some]
  case positional hw hh ha hd _ hp _ =>
    cases hw.symm.trans hl
    rw [find?_positionalArms] at hp
    obtain ⟨i, hi, rfl⟩ := Option.map_eq_some_iff.mp hp
    have hi : d.positionals[(items.filterMap Item.positional?).length]? = some i := hi
    refine ⟨.positional i word, ?_, rfl⟩
    rw [readItem_of_forall_not_listens hh (forall_not_listens_of_find?_optionArms ha), if_neg hd,
      h.nextPositional?_eq, hi, Option.elim_some]
  case idle hf hp =>
    obtain ⟨arm, ha⟩ := exists_positionalArm hf
    cases ha.symm.trans hp

theorem exists_cons_of_lt (h : d.Reads items words rest)
    (hl : (Progress.after default items).place < words.length) : ∃ word after, rest = word :: after := by
  refine List.exists_cons_of_ne_nil fun hn => hl.ne ?_
  rw [← h.words, hn, List.append_nil]
  rfl

end Reads

-- The loop is behind items that are read whenever it comes to a head.
theorem Heads.exists_reads (h : d.Heads default words rs s) :
    ∃ items rest, d.Reads items words rest ∧ rs = rounds 0 items ∧ s = .after default items := by
  induction h
  case start => exact ⟨[], words, ⟨rfl, nofun, .nil, List.nil_prefix⟩, rfl, after_nil.symm⟩
  case round hl hs hi =>
    obtain ⟨items, rest, h, rfl, rfl⟩ := hi
    obtain ⟨word, rest, rfl⟩ := h.exists_cons_of_lt hl
    have ⟨item, hr, hi⟩ := h.exists_readItem_of_step hs
    have ha : d.advance words (.after default items) = _ := h.advance_after
    rw [hr, advance_eq_ok_iff.mpr ⟨_, hs⟩] at ha
    cases ha
    refine ⟨items ++ [item], _, h.concat hr, ?_, rfl⟩
    rw [hi, rounds_append, Nat.zero_add]
    rfl

theorem Heads.knows (h : d.Heads default words rs s) : d.Knows default words rs s := by
  obtain ⟨items, rest, hr, rfl, rfl⟩ := h.exists_reads
  exact hr.knows_after

-- A round that does not go on has come to an error of the parser.
theorem Heads.advance_eq_error (h : d.Heads default words rs s) (hl : s.place < words.length)
    {halt : Halt} (ha : d.advance words s = .error halt) : ∃ e, halt = .error e := by
  obtain ⟨items, rest, hr, rfl, rfl⟩ := h.exists_reads
  obtain ⟨word, rest, rfl⟩ := hr.exists_cons_of_lt hl
  rw [hr.advance_after] at ha
  cases he : d.readItem items.reverse word rest <;> rw [he] at ha <;> cases ha
  exact ⟨_, rfl⟩

-- From a head on, the loop comes to a last one, where it is through or halts.
theorem Heads.exists_last (h : d.Heads default words rs s) :
    ∃ rs' s', d.Heads default words rs' s' ∧
      (s'.place = words.length ∧ d.loop words s = .ok s' ∨
       s'.place < words.length ∧ ∃ e, d.advance words s' = .error (.error e) ∧
         d.loop words s = .error (.error e)) := by
  fun_induction loop d words s generalizing rs
  case case1 s hl s' ha hi =>
    have ⟨r, hs⟩ := advance_eq_ok_iff.mp ha
    exact hi <| h.round hl hs
  case case2 s hl halt ha =>
    obtain ⟨e, rfl⟩ := h.advance_eq_error hl ha
    exact ⟨rs, s, h, .inr ⟨hl, e, ha, rfl⟩⟩
  case case3 s hl =>
    exact ⟨rs, s, h, .inl ⟨h.knows.place.antisymm <| Nat.not_lt.mp hl, rfl⟩⟩

-- What is known at each head holds for any defaults. The loop ends at one, so the same is known of
-- all that the last check and the values are made from.
theorem loop_in_rounds (d : Definition) (default : d.Index → Value) (words : List String) :
    (∀ rs s, d.Heads default words rs s → d.Knows default words rs s) ∧
    (∀ s s', d.advance words s = .ok s' ↔ ∃ r, d.Step words s r s') ∧
    (∀ s r s', d.Step words s r s' → s.place < s'.place) ∧
    ∃ rs s, d.Heads default words rs s ∧
      (s.place = words.length ∧ d.loop words (.start default) = .ok s ∧
         d.finish s = (d.parseFrom default words).mapError .error ∨
       s.place < words.length ∧ ∃ e, d.advance words s = .error (.error e) ∧
         d.parseFrom default words = .error e) := by
  refine ⟨fun _ _ => Heads.knows, fun _ _ => advance_eq_ok_iff,
    fun _ r _ hs => lt_place_of_advance <| advance_eq_ok_iff.mpr ⟨r, hs⟩, ?ends⟩
  case ends =>
    have hp : (d.loop words (.start default)).bind d.finish =
        (d.parseFrom default words).mapError .error := parseByLoop_eq default words
    have ⟨rs, s, h, he⟩ := (@Heads.start d default words).exists_last
    refine ⟨rs, s, h, ?_⟩
    obtain ⟨hl, hr⟩ | ⟨hl, e, ha, hr⟩ := he <;> rw [hr] at hp
    case inl => exact .inl ⟨hl, hr, hp⟩
    case inr =>
      refine .inr ⟨hl, e, ha, ?_⟩
      cases hs : d.parseFrom default words <;> rw [hs] at hp <;> cases hp
      rfl

-- The last head of a parse that has come across a flag given by a bare word, behind an option.
example :
    copy.loop ["to", "-l", "3", "loud"] (.start copy.derivedDefault) = .ok {
      place     := 4
      processed := [true, true, true, false]
      filled    := 1
      values    := [.optional (some "3"), .flag true, .text "to", .text ""] } := by
  cbv

end Definition

end LoxTokens.Args
