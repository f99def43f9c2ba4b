import LoxTokens.Args.Help
import LoxTokens.Proofs.Args.Distinct
import LoxTokens.Proofs.Args.Division
import Mathlib.Data.List.Perm.Subperm

/-!
The usage line as a command line: with words in place of its names, the parts of the required
fields can be parsed. Words are given to positional fields in their order, so this needs that the
required ones come first.
-/

namespace LoxTokens.Args

-- What the usage line shows of a field.
inductive UsagePart
  | optional (name : String)
  | placeholder (name : String)
  | option (form name : String)

namespace UsagePart

def text : UsagePart → String
  | optional name    => " [" ++ name ++ "]"
  | placeholder name => " <" ++ name ++ ">"
  | option form name => " " ++ form ++ " " ++ name

-- The words of a part, with one in place of the name or with none. Optional parts are dropped.
def fill (word : Option String) : UsagePart → List String
  | optional _    => []
  | placeholder _ => word.toList
  | option form _ => form :: word.toList

end UsagePart

namespace Field

def usagePart? (f : Field) : Option UsagePart :=
  match f.positional, f.required with
  | true,  true  => some <| .placeholder <| Text.uppercase f.name
  | true,  false => some <| .optional <| Text.uppercase f.name
  | false, true  => some <| .option f.form f.name
  | false, false => none

theorem usage_eq (f : Field) : f.usage = f.usagePart?.elim "" UsagePart.text := by
  have ht : " " ++ f.placeholder = (UsagePart.placeholder <| Text.uppercase f.name).text := by
    simp only [placeholder, UsagePart.text, ← String.append_assoc]
    rfl
  unfold usage usagePart?
  cases f.positional <;> cases f.required
  case true.true => exact ht
  all_goals rfl

end Field

-- Elements with a property that holds of all that are smaller than one with it come first.

theorem filter_isPrefix_of_pairwise {p : α → Bool} {l : List α}
    (h : l.Pairwise fun x y => p y → p x) : l.filter p <+: l := by
  induction l
  case nil => exact List.prefix_rfl
  case cons x l hi =>
    have ⟨hx, hl⟩ := List.pairwise_cons.mp h
    by_cases hp : p x
    case pos => rw [List.filter_cons_of_pos hp]; exact (List.prefix_cons_inj x).mpr (hi hl)
    case neg =>
      have : l.filter p = [] := List.filter_eq_nil_iff.mpr fun y hy => mt (hx y hy) hp
      rw [List.filter_cons_of_neg hp, this]
      exact List.nil_prefix

theorem mem_take_of_lt [LinearOrder α] {l : List α} {n : Nat} {x y : α}
    (hl : l.Pairwise (· < ·)) (hx : x ∈ l) (hy : y ∈ l.take n) (h : x < y) : x ∈ l.take n := by
  rw [← List.take_append_drop n l] at hl hx
  cases List.mem_append.mp hx
  case inl hx => exact hx
  case inr hx => exact absurd ((List.pairwise_append.mp hl).right.right y hy x hx) h.not_gt

theorem filter_mem_take_iff [LinearOrder α] {p : α → Bool} {l : List α}
    (hl : l.Pairwise (· < ·)) :
    (∀ x ∈ l.filter p, x ∈ l.take (l.filter p).length) ↔
      ∀ x ∈ l, ∀ y ∈ l, x < y → p y → p x := by
  constructor
  case mp =>
    intro h x hx y hy hlt hp
    have hn : (l.filter p).Nodup := (hl.imp ne_of_lt).filter _
    have hm : (l.filter p).Perm (l.take (l.filter p).length) :=
      (List.Nodup.subperm hn h).perm_of_length_le <| List.length_take_le ..
    have hy := h y <| List.mem_filter.mpr ⟨hy, hp⟩
    exact List.mem_filter.mp (hm.mem_iff.mpr <| mem_take_of_lt hl hx hy hlt) |>.right
  case mpr =>
    intro h
    have hp : l.Pairwise fun x y => p y → p x :=
      hl.imp_of_mem fun hx hy hlt => h _ hx _ hy hlt
    intro x hx
    rwa [← List.prefix_iff_eq_take.mp <| filter_isPrefix_of_pairwise hp]

theorem flatMap_filter_of_eq_nil {p : α → Bool} {f : α → List β} {l : List α}
    (h : ∀ x ∈ l, ¬p x → f x = []) : (l.filter p).flatMap f = l.flatMap f := by
  induction l
  case nil => rfl
  case cons x l hi =>
    have ⟨hx, hl⟩ := List.forall_mem_cons.mp h
    by_cases hp : p x
    case pos => rw [List.filter_cons_of_pos hp, List.flatMap_cons, List.flatMap_cons, hi hl]
    case neg => rw [List.filter_cons_of_neg hp, List.flatMap_cons, hi hl, hx hp, List.nil_append]

namespace Definition

section

variable (d : Definition)

def usageWords (fill : d.Index → Option String) : List String :=
  (List.finRange _).flatMap fun i => (d.field i).usagePart?.elim [] (UsagePart.fill <| fill i)

-- A flag has no value, so nothing stands for the name that is shown after it.
def wordOfValue (word : d.Index → String) (i : d.Index) : Option String :=
  if (d.field i).kind = .flag then none else some (word i)

def RequiredFirst : Prop :=
  ∀ i j, i < j → (d.field i).positional → (d.field j).positional →
    (d.field j).required → (d.field i).required

def requiredFields : List d.Index :=
  (List.finRange _).filter fun i => (d.field i).required

end

variable {d : Definition}

instance : Decidable d.RequiredFirst :=
  inferInstanceAs <| Decidable <| ∀ i j, i < j → _ → _ → _ → _

theorem usageLine_eq :
    d.usageLine = "Usage: EXEC_NAME [OPTIONS]" ++ String.join ((List.finRange _).map fun i =>
      (d.field i).usagePart?.elim "" UsagePart.text) := by
  have hf : d.fields.map Field.usage = (List.finRange d.fields.length).map fun i =>
      (d.field i).usagePart?.elim "" UsagePart.text :=
    (d.map_fields _).trans <| List.map_congr_left fun i _ => (d.field i).usage_eq
  rw [← hf]
  rfl

theorem fill_eq_nil_of_not_required {i : d.Index} {word : Option String}
    (h : ¬(d.field i).required) :
    (d.field i).usagePart?.elim [] (UsagePart.fill word) = [] := by
  have h : (d.field i).required = false := by simpa using h
  rw [Field.usagePart?, h]
  cases (d.field i).positional <;> rfl

-- The items that words for fields make. The word for a positional field goes to the next one.
def usageItems (word : d.Index → String) : List d.Index → List d.Index → List (Item d)
  | [],      _    => []
  | i :: is, next =>
    if (d.field i).positional then
      .positional (next.headD i) (word i) :: usageItems word is next.tail
    else
      itemOf i (word i) :: usageItems word is next

section

variable {word : d.Index → String} (is next : List d.Index)

theorem flatMap_words_usageItems :
    (usageItems word is next).flatMap Item.words =
      is.flatMap fun i => (itemOf i (word i)).words := by
  fun_induction usageItems word is next
  case case1 => rfl
  case case2 hp hi => rw [List.flatMap_cons, List.flatMap_cons, hi, words_itemOf, if_pos hp]; rfl
  case case3 hi    => rw [List.flatMap_cons, List.flatMap_cons, hi]

theorem proper_of_mem_usageItems (hd : d.Distinct)
    (h : ∀ i ∈ is, (d.field i).kind ≠ .flag → d.Plain (word i)) :
    ∀ item ∈ usageItems word is next, item.Proper := by
  fun_induction usageItems word is next
  case case1 => exact List.forall_mem_nil _
  case case2 i is next hp hi =>
    have ⟨hw, hs⟩ := List.forall_mem_cons.mp h
    have hw := hw <| (d.field i).not_flag hp
    exact List.forall_mem_cons.mpr ⟨.positional hw.not_dashed hw.not_pattern, hi hs⟩
  case case3 i is next hp hi =>
    have ⟨hw, hs⟩ := List.forall_mem_cons.mp h
    refine List.forall_mem_cons.mpr ⟨?_, hi hs⟩
    exact hd.proper_itemOf (fun hk => (hw hk).not_dashed) (absurd · hp)

theorem filterMap_option?_usageItems :
    (usageItems word is next).filterMap Item.option? =
      is.filter fun i => !(d.field i).positional := by
  fun_induction usageItems word is next
  case case1 => rfl
  case case2 hp hi =>
    rw [List.filterMap_cons_none rfl, hi, List.filter_cons_of_neg (by simp [hp])]
  case case3 i is next hp hi =>
    have ho : (itemOf i (word i)).option? = some i := by rw [option?_itemOf, if_neg hp]
    rw [List.filterMap_cons_some ho, hi, List.filter_cons_of_pos (by simp [hp])]

theorem filterMap_positional?_usageItems
    (h : (is.filter fun i => (d.field i).positional).length ≤ next.length) :
    (usageItems word is next).filterMap Item.positional? =
      next.take (is.filter fun i => (d.field i).positional).length := by
  fun_induction usageItems word is next
  case case1 => rfl
  case case2 i is next hp hi =>
    rw [List.filter_cons, if_pos hp, List.length_cons] at h ⊢
    cases next
    case nil         => exact absurd h <| Nat.not_succ_le_zero _
    case cons j next =>
      have ho : (Item.positional j (word i)).positional? = some j := rfl
      rw [List.headD_cons, List.filterMap_cons_some ho, hi <| Nat.le_of_succ_le_succ h]
      rfl
  case case3 i is next hp hi =>
    have ho : (itemOf i (word i)).positional? = none := by rw [positional?_itemOf, if_neg hp]
    rw [List.filter_cons, if_neg hp] at h ⊢
    rw [List.filterMap_cons_none ho, hi h]

end

theorem filter_requiredFields :
    d.requiredFields.filter (fun i => (d.field i).positional) =
      d.positionals.filter fun i => (d.field i).required := by
  rw [requiredFields, positionals, List.filter_filter, List.filter_filter]
  exact List.filter_congr fun i _ => Bool.and_comm ..

theorem requiredFirst_iff :
    d.RequiredFirst ↔
      ∀ i ∈ d.positionals.filter fun i => (d.field i).required,
        i ∈ d.positionals.take (d.positionals.filter fun i => (d.field i).required).length := by
  have hs : d.positionals.Pairwise (· < ·) := (List.pairwise_lt_finRange _).filter _
  rw [filter_mem_take_iff hs]
  simp only [mem_positionals]
  exact ⟨fun h i hi j hj hlt => h i j hlt hi hj, fun h i j hlt hi hj => h i hi j hj hlt⟩

variable {word : d.Index → String}

theorem fill_usagePart? {i : d.Index} (h : (d.field i).required) :
    (d.field i).usagePart?.elim [] (UsagePart.fill <| d.wordOfValue word i) =
      (itemOf i (word i)).words := by
  have hn := (d.field i).not_flag
  rw [words_itemOf, Field.usagePart?, wordOfValue, h]
  by_cases hk : (d.field i).kind = .flag
  case pos =>
    have hp := mt hn (not_not_intro hk)
    simp [hk, hp, UsagePart.fill]
  case neg =>
    cases (d.field i).positional
    all_goals simp [hk, UsagePart.fill]

theorem usageWords_eq :
    d.usageWords (d.wordOfValue word) =
      d.requiredFields.flatMap fun i => (itemOf i (word i)).words := by
  have hr : d.usageWords (d.wordOfValue word) = d.requiredFields.flatMap _ := Eq.symm <|
    flatMap_filter_of_eq_nil fun i _ hi => fill_eq_nil_of_not_required hi
  rw [hr]
  exact List.flatMap_congr fun i hi => fill_usagePart? <| (List.mem_filter.mp hi).right

def requiredItems (word : d.Index → String) : List (Item d) :=
  usageItems word d.requiredFields d.positionals

theorem positionals_requiredItems (word : d.Index → String) :
    (requiredItems word).filterMap Item.positional? =
      d.positionals.take (d.positionals.filter fun i => (d.field i).required).length := by
  have hl : (d.requiredFields.filter fun i => (d.field i).positional).length ≤
      d.positionals.length := filter_requiredFields ▸ List.length_filter_le ..
  rw [requiredItems, filterMap_positional?_usageItems _ _ hl, filter_requiredFields]

section

variable (hd : d.Distinct)
  (hw : ∀ i, (d.field i).required → (d.field i).kind ≠ .flag → d.Plain (word i))

include hd hw

theorem proper_of_mem_requiredItems : ∀ item ∈ requiredItems word, item.Proper :=
  proper_of_mem_usageItems _ _ hd fun i hi => hw i (List.mem_filter.mp hi).right

theorem readItems_usageWords :
    d.readItems [] (d.usageWords <| d.wordOfValue word) = .ok (requiredItems word) := by
  refine readItems_nil_eq_ok_iff.mpr ⟨?words, proper_of_mem_requiredItems hd hw, ?once, ?inOrder⟩
  case words   => rw [requiredItems, flatMap_words_usageItems, usageWords_eq]
  case inOrder => exact positionals_requiredItems word ▸ List.take_prefix ..
  case once =>
    rw [requiredItems, filterMap_option?_usageItems]
    exact ((List.nodup_finRange _).filter _).filter _

-- Options are given in any case, and positional fields as far as there are words.
theorem isComplete_requiredItems_iff : d.isComplete (requiredItems word) ↔ d.RequiredFirst := by
  have hm {i : d.Index} (hi : (d.field i).positional) := positionals_requiredItems word ▸
    mem_index_iff_of_positional (proper_of_mem_requiredItems hd hw) hi
  rw [isComplete_iff, requiredFirst_iff]
  simp only [List.mem_filter, mem_positionals]
  constructor
  case mp  => exact fun hc i ⟨hp, hr⟩ => (hm hp).mp <| hc i hr
  case mpr =>
    intro hf i hr
    by_cases hp : (d.field i).positional
    case pos => exact (hm hp).mpr <| hf i ⟨hp, hr⟩
    case neg =>
      refine Item.mem_index_of_mem_option? ?_
      rw [requiredItems, filterMap_option?_usageItems]
      simp [requiredFields, hr, hp]

end

-- The word that is left goes to the optional field.
def shifted : Definition where
  description   := ""
  usageExitCode := 1
  fields        := [.ofPosition "target" true false, .ofPosition "source" false true]

-- A name is shown after the flag, but a word there is one too many.
def confirmed : Definition where
  description   := ""
  usageExitCode := 255
  fields        := [
    .ofForms "yes" none "--yes" .flag true, .ofForms "number" "-n" "--number" .optionalValue true]

theorem usageWords_refused :
    (shifted.Distinct ∧ shifted.Plain "x" ∧
      shifted.usageLine = "Usage: EXEC_NAME [OPTIONS] [TARGET] <SOURCE>" ∧
      shifted.usageWords (fun _ => some "x") = ["x"] ∧
      shifted.parse ["x"] = .error .missingRequired) ∧
    (confirmed.Distinct ∧ confirmed.Plain "x" ∧
      confirmed.usageLine = "Usage: EXEC_NAME [OPTIONS] --yes yes -n number" ∧
      confirmed.usageWords (fun _ => some "x") = ["--yes", "x", "-n", "x"] ∧
      confirmed.parse ["--yes", "x", "-n", "x"] = .error (.invalidOption "x")) := by
  refine ⟨⟨⟨?_, ?_⟩, ?_, ?_, ?_, ?_⟩, ⟨⟨?_, ?_⟩, ?_, ?_, ?_, ?_⟩⟩
  all_goals decide +kernel

-- With a word for the name of each required value, the usage line is parsed if the required
-- positional fields come before the others. Otherwise the words are too few.
theorem parseFrom_usageWords (hd : d.Distinct) (word : d.Index → String)
    (hw : ∀ i, (d.field i).required → (d.field i).kind ≠ .flag → d.Plain (word i))
    (default : d.Index → Value) :
    let words := d.usageWords <| d.wordOfValue word
    d.usageLine = "Usage: EXEC_NAME [OPTIONS]" ++ String.join ((List.finRange _).map fun i =>
      (d.field i).usagePart?.elim "" UsagePart.text) ∧
    ((∃ s, d.parseFrom default words = .ok s) ↔ d.RequiredFirst) ∧
    (¬d.RequiredFirst → d.parseFrom default words = .error .missingRequired) := by
  intro words
  have hr : d.readItems [] words = _ := readItems_usageWords hd hw
  have hc := isComplete_requiredItems_iff hd hw
  refine ⟨usageLine_eq, ?parsed, fun hn => ?missing⟩
  all_goals rw [parseFrom, hr]
  case parsed  => by_cases hf : d.RequiredFirst <;> simp [hc, hf]
  case missing => simp [hc, hn]

-- An optional field may stand between required ones, as long as it is not positional.
def delivery : Definition where
  description   := ""
  usageExitCode := 1
  fields        := [
    .ofForms "yes" none "--yes" .flag true,
    .ofPosition "source" false true,
    .ofForms "level" "-l" "--level" .value false,
    .ofForms "number" "-n" "--number" .optionalValue true,
    .ofPosition "target" true false]

theorem delivery_distinct : delivery.Distinct :=
  ⟨by decide, by decide⟩

theorem shifted_distinct : shifted.Distinct :=
  ⟨by decide, by decide⟩

theorem parseFrom_usageWords_delivery :
    (∃ s, delivery.parse ["--yes", "1", "-n", "3"] = .ok s) ∧
    shifted.parse ["1"] = .error .missingRequired := by
  have hd := parseFrom_usageWords delivery_distinct (toString ·.val) (by decide)
    delivery.derivedDefault
  have hs := parseFrom_usageWords shifted_distinct (toString ·.val) (by decide)
    shifted.derivedDefault
  exact ⟨hd.right.left.mpr <| by decide, hs.right.right <| by decide⟩

end Definition
end LoxTokens.Args
