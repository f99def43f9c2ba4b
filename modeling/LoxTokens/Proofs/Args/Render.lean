import LoxTokens.Proofs.Args.Distinct
import LoxTokens.Proofs.Args.Order
import Mathlib.Data.List.DropRight

/-!
Writing values as the words of a command line, the options first and each by its first form. What
has been parsed can be written, and parses again to the same values.
-/

namespace LoxTokens.Args

-- A flag holds no word, and an optional value may hold none.
def Value.word? : Value → Option String
  | flag _        => none
  | text word     => some word
  | optional word => word

theorem Kind.word?_ofWord {k : Kind} (word : String) (h : k ≠ .flag) :
    (k.ofWord word).word? = some word := by
  cases k
  case flag => contradiction
  all_goals rfl

def Values.value? (s : Values) (i : Nat) : Option Value :=
  s[i]?.map Prod.snd

def Values.word? (s : Values) (i : Nat) : Option String :=
  (s.value? i).bind Value.word?

theorem rdropWhile_append_of_forall {p : α → Bool} {l m : List α} (h : ∀ x ∈ m, p x) :
    (l ++ m).rdropWhile p = l.rdropWhile p := by
  have hm : ∀ x ∈ m.reverse, p x := by simpa using h
  rw [List.rdropWhile, List.rdropWhile, List.reverse_append, List.dropWhile_append_of_pos hm]

theorem mem_rdropWhile {p : α → Bool} {l : List α} {x : α} (hx : x ∈ l) (h : ¬p x) :
    x ∈ l.rdropWhile p := by
  have hm : x ∈ l.reverse.takeWhile p ++ l.reverse.dropWhile p := by
    rw [List.takeWhile_append_dropWhile]
    exact List.mem_reverse.mpr hx
  cases List.mem_append.mp hm
  case inl hm => exact absurd (List.mem_takeWhile_imp hm) h
  case inr hm => exact List.mem_reverse.mpr hm

theorem mapM_eq_some_map {f : α → Option β} {g : α → β} {l : List α}
    (h : ∀ x ∈ l, f x = some (g x)) : l.mapM f = some (l.map g) := by
  induction l
  case nil => rfl
  case cons x l hi =>
    have ⟨hx, hl⟩ := List.forall_mem_cons.mp h
    simp [hx, hi hl]

namespace Definition

section

variable (d : Definition) (s : Values)

-- A field that cannot be left out.
def isNeeded (i : d.Index) : Bool :=
  (d.field i).required || s.value? i ≠ some (d.derivedDefault i)

-- A positional field can only be left out if all that follow are.
def written : List d.Index :=
  d.optionFields.filter (d.isNeeded s) ++ d.positionals.rdropWhile (!d.isNeeded s ·)

def writeField (i : d.Index) : Option (List String) :=
  if (d.field i).positional then (s.word? i).map ([·])
  else if (d.field i).kind = .flag then some [(d.field i).form]
  else (s.word? i).map ([(d.field i).form, ·])

/-- The words that stand for values, if there are any. -/
def render : Option (List String) :=
  ((d.written s).mapM (d.writeField s)).map List.flatten

def writtenItems : List (Item d) :=
  (d.written s).map fun i => itemOf i <| (s.word? i).getD ""

end

variable {d : Definition} {default : d.Index → Value} {items : List (Item d)}
  {words : List String} {s : Values} {i : d.Index}

theorem value?_values :
    (d.values default items).value? i = some (valueOf default items i) := by
  simp [Values.value?, values, valueOf]

theorem mem_written_of_isNeeded (h : d.isNeeded s i) : i ∈ d.written s := by
  by_cases hi : (d.field i).positional
  case pos =>
    exact List.mem_append_right _ <| mem_rdropWhile (mem_positionals.mpr hi) (by simp [h])
  case neg =>
    exact List.mem_append_left _ <| List.mem_filter.mpr ⟨mem_optionFields.mpr hi, h⟩

theorem writeField_eq {word : String} (h : (d.field i).kind ≠ .flag → s.word? i = some word) :
    d.writeField s i = some (itemOf i word).words := by
  rw [writeField, words_itemOf]
  split
  case isTrue hp => rw [h <| (d.field i).not_flag hp, Option.map_some]
  case isFalse =>
    split
    case isTrue     => rfl
    case isFalse hk => rw [h hk, Option.map_some]

theorem not_positional_of_mem_written (h : i ∈ d.optionFields.filter (d.isNeeded s)) :
    ¬(d.field i).positional :=
  mem_optionFields.mp (List.mem_filter.mp h).left

theorem positional_of_mem_written (h : i ∈ d.positionals.rdropWhile (!d.isNeeded s ·)) :
    (d.field i).positional :=
  mem_positionals.mp <| (List.rdropWhile_prefix _ _).subset h

theorem filter_written_options :
    (d.written s).filter (fun i => !(d.field i).positional) =
      d.optionFields.filter (d.isNeeded s) := by
  have ho : (d.optionFields.filter (d.isNeeded s)).filter (fun i => !(d.field i).positional) =
      d.optionFields.filter (d.isNeeded s) :=
    List.filter_eq_self.mpr fun _ hi => by simpa using not_positional_of_mem_written hi
  have hp : (d.positionals.rdropWhile (!d.isNeeded s ·)).filter
      (fun i => !(d.field i).positional) = [] :=
    List.filter_eq_nil_iff.mpr fun _ hi => by simpa using positional_of_mem_written hi
  rw [written, List.filter_append, ho, hp, List.append_nil]

theorem filter_written_positionals :
    (d.written s).filter (fun i => (d.field i).positional) =
      d.positionals.rdropWhile (!d.isNeeded s ·) := by
  have ho : (d.optionFields.filter (d.isNeeded s)).filter (fun i => (d.field i).positional) = [] :=
    List.filter_eq_nil_iff.mpr fun _ => not_positional_of_mem_written
  have hp : (d.positionals.rdropWhile (!d.isNeeded s ·)).filter (fun i => (d.field i).positional) =
      d.positionals.rdropWhile (!d.isNeeded s ·) :=
    List.filter_eq_self.mpr fun _ => positional_of_mem_written
  rw [written, List.filter_append, ho, hp, List.nil_append]

namespace Divides

theorem mem_index_of_isNeeded (h : d.Divides items words)
    (hi : d.isNeeded (d.values d.derivedDefault items) i) : i ∈ items.map Item.index := by
  simp only [isNeeded, value?_values, Bool.or_eq_true, decide_eq_true_eq, ne_eq, Option.some.injEq]
    at hi
  cases hi
  case inl hi => exact h.required i hi
  case inr hi => exact not_imp_comm.mp valueOf_of_not_mem hi

-- No positional field is given after one that is not.
theorem mem_index_of_mem_written (h : d.Divides items words)
    (hi : i ∈ d.written (d.values d.derivedDefault items)) : i ∈ items.map Item.index := by
  cases List.mem_append.mp hi
  case inl hi => exact h.mem_index_of_isNeeded (List.mem_filter.mp hi).right
  case inr hi =>
    have ⟨rest, hr⟩ := h.inOrder
    have hn : d.positionals.Nodup := (List.nodup_finRange _).filter _
    have hp : ∀ j ∈ d.positionals, (d.field j).positional := fun _ => mem_positionals.mp
    rw [← hr] at hi hn hp
    have hl : ∀ j ∈ rest, !d.isNeeded (d.values d.derivedDefault items) j := by
      intro j hj
      have hm := mem_index_iff_of_positional h.proper <| hp j <| List.mem_append_right _ hj
      rw [Bool.not_eq_true']
      refine eq_false_of_ne_true fun hj' => ?_
      exact List.disjoint_of_nodup_append hn (hm.mp <| h.mem_index_of_isNeeded hj') hj
    rw [rdropWhile_append_of_forall hl] at hi
    have hi := (List.rdropWhile_prefix _ _).subset hi
    exact (mem_index_iff_of_positional h.proper <| hp i <| List.mem_append_left _ hi).mpr hi

-- What a given field holds can be given to it by its first form.
theorem exists_itemOf (h : d.Divides items words) (hd : d.Distinct)
    (hi : i ∈ items.map Item.index) :
    ∃ word, (itemOf i word).Proper ∧
      valueOf d.derivedDefault items i = (d.field i).kind.ofWord word := by
  obtain ⟨item, hm, rfl⟩ := List.mem_map.mp hi
  rw [h.valueOf_eq hm]
  cases h.proper item hm
  case flag i form ho _ hk =>
    exact ⟨form, hd.proper_itemOf (absurd hk) (absurd · ho.not_positional), rfl⟩
  case option i form word ho _ hk hw =>
    exact ⟨word, hd.proper_itemOf (fun _ => hw) (absurd · ho.not_positional), rfl⟩
  case positional word i hw hn =>
    exact ⟨word, hd.proper_itemOf (fun _ => hw) (fun _ => ⟨hw, hn⟩), rfl⟩

-- The word that is written for a given field is the one it was given, but a flag has none.
theorem itemOf_word? (h : d.Divides items words) (hd : d.Distinct)
    (hi : i ∈ items.map Item.index) :
    let s := d.values d.derivedDefault items
    let word := (s.word? i).getD ""
    (itemOf i word).Proper ∧ valueOf d.derivedDefault items i = (d.field i).kind.ofWord word ∧
      d.writeField s i = some (itemOf i word).words := by
  intro s word
  have ⟨given, hp, hv⟩ := h.exists_itemOf hd hi
  have hs : s.word? i = ((d.field i).kind.ofWord given).word? := by
    rw [Values.word?, value?_values, hv, Option.bind_some]
  by_cases hk : (d.field i).kind = .flag
  case pos =>
    have hi := mt ((d.field i).not_flag ·) (not_not_intro hk)
    refine ⟨hd.proper_itemOf (absurd hk) (absurd · hi), ?_, writeField_eq (absurd hk)⟩
    rw [hv, hk]
    rfl
  case neg =>
    rw [Kind.word?_ofWord _ hk] at hs
    have hw : word = given := congrArg (Option.getD · "") hs
    exact ⟨hw ▸ hp, hw ▸ hv, hw ▸ writeField_eq fun _ => hs⟩

theorem writtenItems (h : d.Divides items words) (hd : d.Distinct) :
    let written := d.writtenItems (d.values d.derivedDefault items)
    d.Divides written (written.flatMap Item.words) where
  words := rfl
  proper := by
    simp only [Definition.writtenItems, List.forall_mem_map]
    exact fun i hi => (h.itemOf_word? hd <| h.mem_index_of_mem_written hi).left
  once := by
    rw [Definition.writtenItems, filterMap_option?_itemOf, filter_written_options]
    exact ((List.nodup_finRange _).filter _).filter _
  inOrder := by
    rw [Definition.writtenItems, filterMap_positional?_itemOf, filter_written_positionals]
    exact List.rdropWhile_prefix _ _
  required i hi := by
    rw [Definition.writtenItems, map_index_itemOf]
    exact mem_written_of_isNeeded <| by simp [isNeeded, hi]

theorem render_eq (h : d.Divides items words) (hd : d.Distinct) :
    let s := d.values d.derivedDefault items
    d.render s = some ((d.writtenItems s).flatMap Item.words) := by
  intro s
  have hm : (d.written s).mapM (d.writeField s) = some _ :=
    mapM_eq_some_map fun i hi => (h.itemOf_word? hd <| h.mem_index_of_mem_written hi).right.right
  rw [render, hm, Option.map_some, Definition.writtenItems, List.flatMap_map]
  rfl

theorem valueOf_writtenItems (h : d.Divides items words) (hd : d.Distinct) (i : d.Index) :
    let s := d.values d.derivedDefault items
    valueOf d.derivedDefault (d.writtenItems s) i = valueOf d.derivedDefault items i := by
  intro s
  by_cases hi : i ∈ d.written s
  case pos =>
    have ⟨_, hv, _⟩ := h.itemOf_word? hd <| h.mem_index_of_mem_written hi
    have hm : itemOf i ((s.word? i).getD "") ∈ d.writtenItems s := List.mem_map_of_mem hi
    have hw : valueOf d.derivedDefault _ _ = _ := (h.writtenItems hd).valueOf_eq hm
    rwa [index_itemOf, value_itemOf, ← hv] at hw
  case neg =>
    have hn : i ∉ (d.writtenItems s).map Item.index := by
      rwa [Definition.writtenItems, map_index_itemOf]
    have := mt mem_written_of_isNeeded hi
    simp [isNeeded, value?_values, s] at this
    rw [valueOf_of_not_mem hn, this.right]

end Divides

theorem parse_render (hd : d.Distinct) (h : d.parse words = .ok s) :
    ∃ written, d.render s = some written ∧ d.parse written = .ok s := by
  obtain ⟨items, hi, rfl⟩ := parseFrom_eq_ok_iff.mp h
  refine ⟨_, hi.render_eq hd, parseFrom_eq_ok_iff.mpr ⟨_, hi.writtenItems hd, ?_⟩⟩
  exact values_congr <| hi.valueOf_writtenItems hd

-- The empty words of an option and of the last field stand for what they hold by default, that of
-- the optional field does not.
def archive : Definition where
  description   := "Archives a file"
  usageExitCode := 2
  fields        := [
    .ofForms "level" "-l" "--level" .value false,
    .ofForms "force" none "--force" .flag true,
    .ofPosition "source" false true,
    .ofPosition "target" true false,
    .ofPosition "note" false false]

def archived : Values := [
  ("level", .text ""), ("force", .flag true), ("source", .text "a"),
  ("target", .optional (some "")), ("note", .text "")]

theorem archive_distinct : archive.Distinct :=
  ⟨by decide, by decide⟩

theorem parse_render_archive :
    archive.parse ["a", "--level", "", "", "--force", ""] = .ok archived ∧
    archive.render archived = some ["--force", "a", ""] ∧
    archive.parse ["--force", "a", ""] = .ok archived := by
  have h : archive.parse ["a", "--level", "", "", "--force", ""] = .ok archived := by
    decide +kernel
  have hw : archive.render archived = some ["--force", "a", ""] := by decide
  have ⟨written, hr, hp⟩ := parse_render archive_distinct h
  obtain rfl : written = _ := Option.some.inj <| hr.symm.trans hw
  exact ⟨h, hw, hp⟩

end Definition
end LoxTokens.Args
