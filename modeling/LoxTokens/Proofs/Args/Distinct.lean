import LoxTokens.Proofs.Args.Items
import Mathlib.Data.List.Pairwise

/-!
Definitions of which all forms are distinct, and none of them is a word for help. There each
option can be given by its first form.
-/

namespace LoxTokens.Args

namespace Field

-- The form of an option that stands first.
def form (f : Field) : String :=
  f.patterns.headD ""

theorem form_mem_patterns {f : Field} (h : ¬f.positional) : f.form ∈ f.patterns := by
  have ⟨first, rest, hp⟩ := List.exists_cons_of_ne_nil <| patterns_ne_nil h
  rw [form, hp]
  exact List.mem_cons_self

theorem listens_iff {f : Field} {word : String} :
    f.listens word ↔ ¬f.positional ∧ word ∈ f.patterns := by
  simp [listens]

def ofForms (name : String) (short : Option String) (long : String) (kind : Kind)
    (required : Bool) : Field where
  name        := name
  short       := short
  long        := long
  description := ""
  required    := required
  positional  := false
  kind        := kind
  not_flag    := nofun
  has_form    := fun _ => .inr nofun

-- A field that is found by its position holds a word, or may hold none. Its form stands for
-- nothing.
def ofPosition (name : String) (isOptional required : Bool) : Field where
  name        := name
  short       := none
  long        := name
  description := ""
  required    := required
  positional  := true
  kind        := if isOptional then .optionalValue else .value
  not_flag    := fun _ => by cases isOptional <;> decide
  has_form    := fun _ => .inr nofun

end Field

namespace Definition

variable {d : Definition} {i : d.Index} {word : String}

def optionFields (d : Definition) : List d.Index :=
  (List.finRange _).filter fun i => !(d.field i).positional

theorem mem_optionFields : i ∈ d.optionFields ↔ ¬(d.field i).positional := by
  simp [optionFields]

theorem mem_positionals : i ∈ d.positionals ↔ (d.field i).positional := by
  simp [positionals]

structure Distinct (d : Definition) : Prop where
  forms    : (d.optionFields.flatMap fun i => (d.field i).patterns).Nodup
  not_help : ∀ i ∈ d.optionFields, ∀ form ∈ (d.field i).patterns, ¬isHelp form

-- A word that can be given to a positional field. Only options have forms that words can be
-- taken for.
structure Plain (d : Definition) (word : String) : Prop where
  not_dashed  : ¬isDashed word
  not_pattern : ∀ i, ¬(d.field i).listens word

instance : Decidable (d.Plain word) :=
  decidable_of_iff (¬isDashed word ∧ ∀ i, ¬(d.field i).listens word)
    ⟨fun ⟨hd, hp⟩ => ⟨hd, hp⟩, fun ⟨hd, hp⟩ => ⟨hd, hp⟩⟩

-- The item that gives a word to a field. A flag is given without one.
def itemOf (i : d.Index) (word : String) : Item d :=
  if (d.field i).positional then .positional i word
  else if (d.field i).kind = .flag then .flag i (d.field i).form
  else .option i (d.field i).form word

section

variable (i : d.Index) (word : String)

theorem words_itemOf :
    (itemOf i word).words =
      if (d.field i).positional then [word]
      else if (d.field i).kind = .flag then [(d.field i).form]
      else [(d.field i).form, word] := by
  unfold itemOf
  repeat' split
  all_goals rfl

theorem index_itemOf : (itemOf i word).index = i := by
  unfold itemOf
  repeat' split
  all_goals rfl

theorem value_itemOf : (itemOf i word).value = (d.field i).kind.ofWord word := by
  unfold itemOf
  repeat' split
  case isFalse.isTrue hk => rw [Item.value, hk]; rfl
  all_goals rfl

theorem option?_itemOf :
    (itemOf i word).option? = if (d.field i).positional then none else some i := by
  unfold itemOf
  repeat' split
  all_goals rfl

theorem positional?_itemOf :
    (itemOf i word).positional? = if (d.field i).positional then some i else none := by
  unfold itemOf
  repeat' split
  all_goals rfl

end

section

variable (is : List d.Index) (word : d.Index → String)

theorem map_index_itemOf : (is.map fun i => itemOf i (word i)).map Item.index = is := by
  simp [Function.comp_def, index_itemOf]

theorem filterMap_itemOf {f : Item d → Option d.Index} {p : d.Index → Bool}
    (h : ∀ i word, f (itemOf i word) = if p i then some i else none) :
    (is.map fun i => itemOf i (word i)).filterMap f = is.filter p := by
  rw [List.filterMap_map, ← List.filterMap_eq_filter]
  exact List.filterMap_congr fun i _ => h i (word i)

theorem filterMap_option?_itemOf :
    (is.map fun i => itemOf i (word i)).filterMap Item.option? =
      is.filter fun i => !(d.field i).positional :=
  filterMap_itemOf is word fun i word => by
    rw [option?_itemOf]
    cases (d.field i).positional <;> rfl

theorem filterMap_positional?_itemOf :
    (is.map fun i => itemOf i (word i)).filterMap Item.positional? =
      is.filter fun i => (d.field i).positional :=
  filterMap_itemOf is word positional?_itemOf

end

namespace Distinct

theorem owns {form : String} (h : d.Distinct) (hi : ¬(d.field i).positional)
    (hf : form ∈ (d.field i).patterns) : d.Owns i form where
  listens := Field.listens_iff.mpr ⟨hi, hf⟩
  first j hj hl := by
    have ⟨hn, hl⟩ := Field.listens_iff.mp hl
    have hd : List.Disjoint (d.field j).patterns (d.field i).patterns := by
      have hs := List.nodup_flatMap.mp h.forms |>.right
      have : Std.Symm (Function.onFun List.Disjoint fun i => (d.field i).patterns) :=
        ⟨fun _ _ h _ hr hl => h hl hr⟩
      exact hs.forall (mem_optionFields.mpr hn) (mem_optionFields.mpr hi) (ne_of_lt hj)
    exact hd hl hf

theorem proper_itemOf (h : d.Distinct) (hd : (d.field i).kind ≠ .flag → ¬isDashed word)
    (hp : (d.field i).positional → d.Plain word) : (itemOf i word).Proper := by
  unfold itemOf
  split
  case isTrue hi =>
    have hw := hp hi
    exact .positional hw.not_dashed hw.not_pattern
  case isFalse hi =>
    have hf := Field.form_mem_patterns hi
    have hh := h.not_help i (mem_optionFields.mpr hi) _ hf
    split
    case isTrue hk  => exact .flag (h.owns hi hf) hh hk
    case isFalse hk => exact .option (h.owns hi hf) hh hk <| hd hk

end Distinct
end Definition
end LoxTokens.Args
