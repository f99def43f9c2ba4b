import LoxTokens.Proofs.Args.Fault
import LoxTokens.Proofs.Args.Order

/-!
Parsing as a loop over the places of the words. The loop chooses among arms, one for each field, which
know their field by its index. What is kept about the fields is looked up by that index, and the loop
halts if an index is out of range. That never happens, and the loop ends as the parser does.
-/

namespace LoxTokens.Args

-- Why the loop does not come to its end.
inductive Halt
  | outOfRange
  | error (e : ParseError)
  deriving DecidableEq

def lookup (l : List α) (index : Nat) : Except Halt α :=
  match l[index]? with
  | some x => .ok x
  | none   => .error .outOfRange

structure Progress where
  place     : Nat        -- of the next word
  processed : List Bool
  filled    : Nat        -- how many positional fields have a word
  values    : List Value
  deriving DecidableEq

namespace Progress

-- The field of the index is processed and holds the value.
def assign (s : Progress) (index : Nat) (value : Value) : Except Halt Progress :=
  if index < s.processed.length ∧ index < s.values.length then
    .ok { s with processed := s.processed.set index true, values := s.values.set index value }
  else
    .error .outOfRange

def skip (s : Progress) (words : Nat) : Progress :=
  { s with place := s.place + words }

end Progress

structure OptionArm where
  index : Nat
  forms : List String
  kind  : Kind
  deriving DecidableEq

-- The arm for the field that is next when as many positional fields are filled as its position says.
structure PositionalArm where
  position : Nat
  index    : Nat
  kind     : Kind
  deriving DecidableEq

def OptionArm.take (arm : OptionArm) (words : List String) (word : String) (s : Progress) :
    Except Halt Progress := do
  if ← lookup s.processed arm.index then
    throw <| .error <| .repeatedOption word
  else if arm.kind = .flag then
    (s.assign arm.index <| .flag true).map (·.skip 1)
  else
    match words[s.place + 1]? with
    | none       => throw <| .error <| .missingValue word
    | some value =>
      if isDashed value then
        throw <| .error <| .missingValue word
      else
        (s.assign arm.index <| arm.kind.ofWord value).map (·.skip 2)

namespace Definition

section

variable (d : Definition)

-- The indices count all fields, the positions only the positional ones.

def optionArms : List OptionArm :=
  (d.fields.zipIdx.filter fun p => !p.1.positional).map fun p => ⟨p.2, p.1.patterns, p.1.kind⟩

def positionalArms : List PositionalArm :=
  (d.fields.zipIdx.filter fun p => p.1.positional).zipIdx.map fun p => ⟨p.2, p.1.2, p.1.1.kind⟩

-- A position without an arm changes nothing.
def assignNext (word : String) (s : Progress) : Except Halt Progress :=
  match d.positionalArms.find? (·.position = s.filled) with
  | some arm => s.assign arm.index <| arm.kind.ofWord word
  | none     => .ok s

def fillNext (word : String) (s : Progress) : Except Halt Progress :=
  if s.filled < d.positionalArms.length then
    (d.assignNext word s).map fun s' => { s' with filled := s'.filled + 1 }.skip 1
  else
    .error <| .error <| .invalidOption word

-- One round of the loop.
def advance (words : List String) (s : Progress) : Except Halt Progress := do
  let word ← lookup words s.place
  if isHelp word then
    throw <| .error .helpRequested
  else
    match d.optionArms.find? (word ∈ ·.forms) with
    | some arm => arm.take words word s
    | none     =>
      if isDashed word then throw <| .error <| .invalidOption word else d.fillNext word s

end

end Definition

theorem bind_eq_ok_iff {x : Except ε α} {f : α → Except ε β} {b : β} :
    (x >>= f) = .ok b ↔ ∃ a, x = .ok a ∧ f a = .ok b := by
  cases x
  case error => simp [bind, Except.bind]
  case ok a  => simp [bind, Except.bind]

theorem map_eq_ok_iff {x : Except ε α} {f : α → β} {b : β} :
    x.map f = .ok b ↔ ∃ a, x = .ok a ∧ f a = b := by
  cases x <;> simp [Except.map]

section

-- Each round goes on by at least a word.

variable {d : Definition} {s s' : Progress} {words : List String} {word : String}

theorem Progress.place_of_assign {index : Nat} {value : Value} (h : s.assign index value = .ok s') :
    s'.place = s.place := by
  unfold assign at h
  split at h <;> cases h
  rfl

theorem Progress.lt_place_of_assign_skip {index n : Nat} {value : Value}
    (h : (s.assign index value).map (·.skip (n + 1)) = .ok s') : s.place < s'.place := by
  obtain ⟨t, ht, rfl⟩ := map_eq_ok_iff.mp h
  simp [skip, place_of_assign ht]

theorem OptionArm.lt_place_of_take {arm : OptionArm} (h : arm.take words word s = .ok s') :
    s.place < s'.place := by
  obtain ⟨isProcessed, _, h⟩ := bind_eq_ok_iff.mp h
  split at h
  case isTrue => cases h
  split at h
  case isTrue => exact Progress.lt_place_of_assign_skip h
  split at h
  case h_1 => cases h
  split at h
  case isTrue  => cases h
  case isFalse => exact Progress.lt_place_of_assign_skip h

namespace Definition

theorem place_of_assignNext (h : d.assignNext word s = .ok s') : s'.place = s.place := by
  unfold assignNext at h
  split at h
  case h_1 => exact Progress.place_of_assign h
  case h_2 => cases h; rfl

theorem lt_place_of_fillNext (h : d.fillNext word s = .ok s') : s.place < s'.place := by
  unfold fillNext at h
  split at h
  case isTrue =>
    obtain ⟨t, ht, rfl⟩ := map_eq_ok_iff.mp h
    simp [Progress.skip, place_of_assignNext ht]
  case isFalse => cases h

theorem lt_place_of_advance (h : d.advance words s = .ok s') : s.place < s'.place := by
  obtain ⟨word, _, h⟩ := bind_eq_ok_iff.mp h
  split at h
  case isTrue => cases h
  split at h
  case h_1 => exact OptionArm.lt_place_of_take h
  split at h
  case isTrue  => cases h
  case isFalse => exact lt_place_of_fillNext h

variable (d)

def loop (words : List String) (s : Progress) : Except Halt Progress :=
  if s.place < words.length then
    match _h : d.advance words s with
    | .ok s'   => loop words s'
    | .error e => .error e
  else
    .ok s
termination_by words.length - s.place
decreasing_by
  have := lt_place_of_advance ‹_›
  omega

-- Whether a required field is not processed, by one look at each index.
def isIncomplete (s : Progress) : Except Halt Bool :=
  (List.range d.fields.length).anyM fun index => do
    let required  ← lookup (d.fields.map Field.required) index
    let processed ← lookup s.processed index
    return required && !processed

def finish (s : Progress) : Except Halt Values := do
  if ← d.isIncomplete s then
    throw <| .error .missingRequired
  else
    return (d.fields.map Field.name).zip s.values

def parseByLoop (default : d.Index → Value) (words : List String) : Except Halt Values := do
  let start : Progress := ⟨0, d.fields.map fun _ => false, 0, (List.finRange _).map default⟩
  d.finish (← d.loop words start)

end Definition

end

namespace Definition

variable {d : Definition} {default : d.Index → Value} {items : List (Item d)} {item : Item d}
  {i : d.Index} {word : String} {words rest : List String}

-- The arms, told by the fields themselves.

theorem zipIdx_fields : d.fields.zipIdx = (List.finRange _).map fun i => (d.field i, i.val) :=
  List.ext_getElem (by simp) (by simp [field])

def optionArm (i : d.Index) : OptionArm :=
  ⟨i, (d.field i).patterns, (d.field i).kind⟩

theorem optionArms_eq : d.optionArms = d.optionFields.map optionArm := by
  rw [optionArms, zipIdx_fields, List.filter_map, List.map_map]
  rfl

theorem positionalArms_eq :
    d.positionalArms = d.positionals.zipIdx.map fun p => ⟨p.2, p.1, (d.field p.1).kind⟩ := by
  rw [positionalArms, zipIdx_fields, List.filter_map, List.zipIdx_map, List.map_map]
  rfl

theorem length_positionalArms : d.positionalArms.length = d.positionals.length := by
  simp [positionalArms_eq]

theorem find?_listens : (List.finRange _).find? (fun i => (d.field i).listens word) = d.owner? word := by
  cases ho : d.owner? word
  case none   => exact List.find?_eq_none.mpr fun i _ => owner?_eq_none_iff.mp ho i
  case some i =>
    have ⟨hl, hf⟩ := owner?_eq_some_iff.mp ho
    refine List.find?_eq_some_iff_getElem.mpr ⟨hl, i, by simp, by simp, fun j hj => ?_⟩
    simpa using hf ⟨j, by omega⟩ hj

-- The arm that lists a word first is the one of the field that the word stands for.
theorem find?_optionArms : d.optionArms.find? (word ∈ ·.forms) = (d.owner? word).map optionArm := by
  rw [optionArms_eq, List.find?_map, optionFields, List.find?_filter, ← find?_listens]
  congr! 3 with i
  rw [Bool.eq_iff_iff, Field.listens_iff]
  simp only [optionArm, Function.comp_apply, decide_eq_true_iff, Bool.not_eq_true', Bool.not_eq_true]
  exact and_congr_right fun _ => decide_eq_true_iff

theorem find?_positionalArms {n : Nat} :
    d.positionalArms.find? (·.position = n) =
      d.positionals[n]?.map fun i => ⟨n, i, (d.field i).kind⟩ := by
  have hp : d.positionals.zipIdx.find? (·.2 = n) = d.positionals[n]?.map (·, n) := by
    cases hn : d.positionals[n]?
    case none =>
      have := List.getElem?_eq_none_iff.mp hn
      refine List.find?_eq_none.mpr fun p hp => ?_
      have := List.snd_lt_of_mem_zipIdx hp
      simp
      omega
    case some i =>
      have ⟨hl, hi⟩ := List.getElem?_eq_some_iff.mp hn
      exact List.find?_eq_some_iff_getElem.mpr
        ⟨by simp, n, by simpa, by simp [hi], fun j hj => by simpa using hj.ne⟩
  rw [positionalArms_eq, List.find?_map]
  refine (congrArg _ hp).trans ?_
  cases d.positionals[n]? <;> rfl

end Definition

-- Where the loop is after items, and what it knows of the fields then.
def Progress.after {d : Definition} (default : d.Index → Value) (items : List (Item d)) :
    Progress where
  place     := (items.flatMap Item.words).length
  processed := (List.finRange _).map fun i => items.any (·.index = i)
  filled    := (items.filterMap Item.positional?).length
  values    := (List.finRange _).map (Definition.valueOf default items)

namespace Definition

variable {d : Definition} {default : d.Index → Value} {items : List (Item d)} {item : Item d}
  {i : d.Index} {word : String} {words rest : List String}

theorem lookup_map_finRange (f : d.Index → α) (i : d.Index) :
    lookup ((List.finRange _).map f) i = .ok (f i) := by
  simp [lookup]

theorem lookup_processed (default : d.Index → Value) (items : List (Item d)) (i : d.Index) :
    lookup (Progress.after default items).processed i = .ok (decide (i ∈ items.map Item.index)) := by
  have hd : items.any (·.index = i) = decide (i ∈ items.map Item.index) := by
    rw [Bool.eq_iff_iff]
    simp
  exact hd ▸ lookup_map_finRange _ i

theorem set_map_finRange {f g : d.Index → α} {x : α} (hi : g i = x) (h : ∀ j ≠ i, g j = f j) :
    ((List.finRange _).map f).set i x = (List.finRange _).map g := by
  subst hi
  refine List.ext_getElem (by simp) fun j hj _ => ?_
  by_cases he : i.val = j
  case pos => simp [← he]
  case neg =>
    have : g ⟨j, by simpa using hj⟩ = f ⟨j, by simpa using hj⟩ := h _ fun hi => he <| hi ▸ rfl
    simpa [List.getElem_set, he] using this.symm

theorem valueOf_concat_index (h : item.index ∉ items.map Item.index) :
    valueOf default (items ++ [item]) item.index = item.value := by
  have : items.find? (·.index = item.index) = none := by simpa using h
  rw [valueOf, List.find?_append, this]
  simp

theorem valueOf_concat_of_ne (h : i ≠ item.index) :
    valueOf default (items ++ [item]) i = valueOf default items i := by
  simp [valueOf, List.find?_append, h.symm]

-- An item whose field has not been given makes its field processed and gives it a value.
theorem assign_after (h : item.index ∉ items.map Item.index) :
    (Progress.after default items).assign item.index item.value = .ok {
      Progress.after default items with
      processed := (Progress.after default (items ++ [item])).processed
      values    := (Progress.after default (items ++ [item])).values } := by
  have hp : (Progress.after default items).processed.set item.index true =
      (Progress.after default (items ++ [item])).processed :=
    set_map_finRange (by simp) fun j hj => by simp [hj.symm]
  have hv : (Progress.after default items).values.set item.index item.value =
      (Progress.after default (items ++ [item])).values :=
    set_map_finRange (valueOf_concat_index h) fun j hj => valueOf_concat_of_ne hj
  rw [Progress.assign, if_pos, hp, hv]
  simp [Progress.after]

theorem assign_skip_after (default : d.Index → Value) (h : item.index ∉ items.map Item.index)
    (hp : item.positional? = none) :
    ((Progress.after default items).assign item.index item.value).map (·.skip item.words.length) =
      .ok (.after default <| items ++ [item]) := by
  rw [assign_after h]
  simp [Progress.skip, Progress.after, Except.map, hp]

namespace Reads

variable (h : d.Reads items words (word :: rest))

include h

theorem getElem?_words (n : Nat) :
    words[(Progress.after default items).place + n]? = (word :: rest)[n]? := by
  have : (Progress.after default items).place = (items.flatMap Item.words).length := rfl
  rw [← h.words, this, List.getElem?_append_right (Nat.le_add_right ..), Nat.add_sub_cancel_left]

theorem lookup_words : lookup words (Progress.after default items).place = .ok word := by
  rw [lookup, ← Nat.add_zero (Progress.place _), h.getElem?_words]
  rfl

theorem take_after (i : d.Index) :
    (optionArm i).take words word (.after default items) =
      if i ∈ items.map Item.index then .error (.error <| .repeatedOption word)
      else if (d.field i).kind = .flag then .ok (.after default <| items ++ [.flag i word])
      else (value? rest).elim (.error <| .error <| .missingValue word)
        (.ok <| .after default <| items ++ [.option i word ·]) := by
  have hp := lookup_processed default items i
  have hv : words[(Progress.after default items).place + 1]? = rest.head? := by
    rw [h.getElem?_words, List.getElem?_cons_succ, List.head?_eq_getElem?]
  simp only [OptionArm.take, optionArm, hp, hv, bind, Except.bind, decide_eq_true_iff]
  split
  case isTrue => rfl
  case isFalse hi =>
    split
    case isTrue hk =>
      rw [← assign_skip_after default hi rfl, Item.value, hk]
      rfl
    case isFalse hk =>
      cases rest
      case nil             => rfl
      case cons value rest =>
        simp only [List.head?_cons, value?]
        split
        case isTrue  => rfl
        case isFalse =>
          have hi : (Item.option i word value).index ∉ items.map Item.index := hi
          exact assign_skip_after default hi rfl

theorem fillNext_after :
    d.fillNext word (.after default items) =
      (d.nextPositional? items.reverse).elim (.error <| .error <| .invalidOption word)
        (.ok <| .after default <| items ++ [.positional · word]) := by
  have hf : (Progress.after default items).filled = (items.filterMap Item.positional?).length := rfl
  rw [fillNext, assignNext, hf, find?_positionalArms, length_positionalArms, ← h.nextPositional?_eq]
  cases hn : d.nextPositional? items.reverse
  case none => rw [if_neg <| Nat.not_lt.mpr <| h.nextPositional?_eq_none_iff.mp hn]; rfl
  case some i =>
    have hl := h.nextPositional?_eq_none_iff.not.mp <| by simp [hn]
    have hi : (Item.positional i word).index ∉ items.map Item.index := by
      have : (Item.positional i word).Fits items.reverse := hn
      simpa using this.index_not_mem
    have ha := @assign_after d default items _ hi
    rw [if_pos <| Nat.lt_of_not_le hl]
    refine (congrArg _ ha).trans ?_
    simp [Progress.skip, Progress.after, Except.map, Item.words, Item.positional?]

-- What one round does behind items is to read the next item.
theorem advance_after :
    d.advance words (.after default items) =
      ((d.readItem items.reverse word rest).mapError .error).map fun item =>
        .after default (items ++ [item]) := by
  rw [advance, h.lookup_words]
  simp only [bind, Except.bind]
  by_cases hh : isHelp word
  case pos => rw [if_pos hh, readItem, if_pos hh]; rfl
  case neg =>
    rw [if_neg hh, find?_optionArms]
    cases ho : d.owner? word
    case some i =>
      rw [readItem_of_owns hh <| owner?_eq_some_iff.mp ho, List.map_reverse]
      simp only [List.mem_reverse]
      refine (h.take_after i).trans ?_
      repeat' split
      case isFalse.isFalse => cases value? rest <;> rfl
      all_goals rfl
    case none =>
      rw [readItem_of_forall_not_listens hh <| owner?_eq_none_iff.mp ho]
      simp only [Option.map_none, h.fillNext_after]
      split
      case isTrue  => rfl
      case isFalse => cases d.nextPositional? items.reverse <;> rfl

end Reads

theorem loop_of_lt {s : Progress} (h : s.place < words.length) :
    d.loop words s = (d.advance words s).bind (d.loop words) := by
  rw [loop, if_pos h]
  split
  case h_1 ha => rw [ha]; rfl
  case h_2 ha => rw [ha]; rfl

theorem Reads.loop_eq {given : List (Item d)} (h : d.Reads given.reverse words (word :: rest)) :
    d.loop words (.after default given.reverse) =
      (((d.readItem given word rest).mapError .error).map fun item =>
        Progress.after default (item :: given).reverse).bind (d.loop words) := by
  have hl : (Progress.after default given.reverse).place < words.length := by
    rw [← h.words, List.length_append]
    exact Nat.lt_add_of_pos_right <| Nat.succ_pos _
  rw [loop_of_lt hl, h.advance_after, List.reverse_reverse]
  simp only [List.reverse_cons]

-- From items on, the loop does with the rest of the words as the parser does.
theorem loop_after {given : List (Item d)} (h : d.Reads given.reverse words rest) :
    d.loop words (.after default given.reverse) =
      ((d.readItems given rest).mapError .error).map fun items =>
        .after default (given.reverse ++ items) := by
  fun_induction readItems d given rest
  case case1 given =>
    have hl : (Progress.after default given.reverse).place = words.length := by
      rw [← h.words, List.append_nil]
      rfl
    rw [loop, if_neg <| hl ▸ Nat.lt_irrefl _]
    simp [Except.map, Except.mapError]
  case case2 given word rest e hr =>
    rw [h.loop_eq, hr]
    rfl
  case case3 given word rest item hr hi =>
    have hs := h.concat <| (List.reverse_reverse given).symm ▸ hr
    rw [← List.reverse_cons] at hs
    have hi := hi hs
    rw [h.loop_eq, hr]
    refine hi.trans ?_
    cases d.readItems (item :: given) (rest.drop (item.words.length - 1))
    case error => rfl
    case ok    => simp [Except.map, Except.mapError]

theorem anyM_map_eq_ok {l : List α} {g : α → β} {f : β → Except ε Bool} {p : α → Bool}
    (h : ∀ x ∈ l, f (g x) = .ok (p x)) : (l.map g).anyM f = .ok (l.any p) := by
  induction l
  case nil => rfl
  case cons x l hi =>
    have ⟨hx, hl⟩ := List.forall_mem_cons.mp h
    rw [List.map_cons, List.anyM_cons, hx, List.any_cons]
    cases p x
    case true  => rfl
    case false => exact hi hl

theorem isIncomplete_after (items : List (Item d)) :
    d.isIncomplete (.after default items) = .ok (!d.isComplete items) := by
  let misses (i : d.Index) : Bool := (d.field i).required && !decide (i ∈ items.map Item.index)
  have hm : ∀ i ∈ List.finRange d.fields.length, (do
      let required  ← lookup (d.fields.map Field.required) i
      let processed ← lookup (Progress.after default items).processed i
      return required && !processed) = Except.ok (misses i) := by
    intro i _
    rw [map_fields, lookup_map_finRange, lookup_processed]
    rfl
  have hc : (List.finRange d.fields.length).any misses = !d.isComplete items := by
    rw [isComplete, List.not_all_eq_any_not]
    congr! with i
    simp [misses]
  rw [isIncomplete, ← List.map_coe_finRange_eq_range, ← hc]
  exact anyM_map_eq_ok hm

theorem finish_after (items : List (Item d)) :
    d.finish (.after default items) =
      if d.isComplete items then .ok (d.values default items) else .error (.error .missingRequired) := by
  have hn : (d.fields.map Field.name).zip (Progress.after default items).values =
      d.values default items := by
    rw [map_fields]
    exact List.zip_map' ..
  rw [finish, isIncomplete_after, hn]
  cases d.isComplete items <;> rfl

theorem after_nil :
    (Progress.after default ([] : List (Item d))) =
      ⟨0, d.fields.map fun _ => false, 0, (List.finRange _).map default⟩ := by
  rw [map_fields]
  rfl

-- No index is out of range, and the loop comes to the end that the parser comes to.
theorem parseByLoop_eq (default : d.Index → Value) (words : List String) :
    d.parseByLoop default words = (d.parseFrom default words).mapError .error := by
  have hr : d.Reads [] words words := ⟨rfl, nofun, .nil, List.nil_prefix⟩
  have hl := @loop_after d default words words [] hr
  rw [List.reverse_nil] at hl
  rw [parseByLoop, ← after_nil, hl, parseFrom]
  cases d.readItems [] words
  case error    => rfl
  case ok items =>
    refine (finish_after items).trans ?_
    by_cases hc : d.isComplete items <;> simp [hc, Except.mapError]

end Definition

end LoxTokens.Args
