import LoxTokens.Args.Help
import LoxTokens.Proofs.Args.Distinct
import LoxTokens.Proofs.Args.Loop

/-!
The analysis of a declared structure. It finds the first field that breaks a rule. Otherwise each
field becomes an argument, and no lookup of a field or of a form goes wrong later on.
-/

namespace LoxTokens.Args

def TypeExpr.EndsIn (t : TypeExpr) (name : String) : Prop :=
  ∃ names, t = .path names ∧ names.getLast? = some name

theorem Kind.ofType_eq_flag_iff {t : TypeExpr} : Kind.ofType t = .flag ↔ t.EndsIn "bool" := by
  unfold ofType TypeExpr.EndsIn
  repeat' split
  all_goals simp_all

theorem Kind.ofType_eq_optionalValue_iff {t : TypeExpr} :
    Kind.ofType t = .optionalValue ↔ t.EndsIn "Option" := by
  unfold ofType TypeExpr.EndsIn
  repeat' split
  all_goals simp_all

namespace FieldDeclaration

inductive Breaks (f : FieldDeclaration) : DefinitionError → Prop
  | positionalFlag    : f.positional → f.type.EndsIn "bool" → Breaks f .positionalFlag
  | optionWithoutForm : ¬f.positional → f.short = "" → f.long = "" → Breaks f .optionWithoutForm

-- The argument that a declared field becomes.
structure Gives (f : FieldDeclaration) (field : Field) : Prop where
  name          : field.name = f.name
  short         : ∀ form, field.short = some form ↔ f.short = form ∧ form ≠ ""
  long          : ∀ form, field.long = some form ↔ f.long = form ∧ form ≠ ""
  description   : field.description = f.description
  required      : field.required = f.required
  positional    : field.positional = f.positional
  flag          : field.kind = .flag ↔ f.type.EndsIn "bool"
  optionalValue : field.kind = .optionalValue ↔ f.type.EndsIn "Option"

def forms (f : FieldDeclaration) : List String :=
  (form? f.short).toList ++ (form? f.long).toList

-- The part of the usage line for a field. A required option must have a form to be shown there.
def usage? (f : FieldDeclaration) : Option String :=
  let name := Text.uppercase f.name
  if f.positional then
    if f.required then some (" <" ++ name ++ ">") else some (" [" ++ name ++ "]")
  else
    if f.required then f.forms[0]?.map fun form => " " ++ form ++ " " ++ f.name else some ""

variable {f : FieldDeclaration} {field : Field} {e : DefinitionError}

theorem form?_eq_none_iff {text : String} : form? text = none ↔ text = "" := by
  simp [form?]

theorem form?_eq_some_iff {text form : String} : form? text = some form ↔ text = form ∧ form ≠ "" := by
  unfold form?
  split <;> grind

theorem toField_eq_error_iff : f.toField = .error e ↔ f.Breaks e := by
  unfold toField
  constructor
  case mp =>
    intro h
    split at h
    case isTrue hk =>
      cases h
      exact .positionalFlag hk.left <| Kind.ofType_eq_flag_iff.mp hk.right
    case isFalse =>
      split at h <;> cases h
      case isTrue hf =>
        exact .optionWithoutForm hf.left (form?_eq_none_iff.mp hf.right.left)
          (form?_eq_none_iff.mp hf.right.right)
  case mpr =>
    rintro (⟨hp, ht⟩ | ⟨hp, hs, hl⟩)
    case positionalFlag => rw [dif_pos ⟨hp, Kind.ofType_eq_flag_iff.mpr ht⟩]
    case optionWithoutForm =>
      rw [dif_neg fun h => hp h.left,
        dif_pos ⟨hp, form?_eq_none_iff.mpr hs, form?_eq_none_iff.mpr hl⟩]

theorem gives_of_toField (h : f.toField = .ok field) : f.Gives field := by
  unfold toField at h
  split at h
  case isTrue => cases h
  split at h <;> cases h
  exact ⟨rfl, fun _ => form?_eq_some_iff, fun _ => form?_eq_some_iff, rfl, rfl, rfl,
    Kind.ofType_eq_flag_iff, Kind.ofType_eq_optionalValue_iff⟩

theorem Gives.patterns_eq (h : f.Gives field) : field.patterns = f.forms := by
  have hs : field.short = form? f.short :=
    Option.ext fun form => (h.short form).trans form?_eq_some_iff.symm
  have hl : field.long = form? f.long :=
    Option.ext fun form => (h.long form).trans form?_eq_some_iff.symm
  rw [Field.patterns, forms, hs, hl]

-- A field that is accepted has the form that its usage shows.
theorem Gives.usage?_eq (h : f.Gives field) : f.usage? = some field.usage := by
  unfold usage? Field.usage Field.placeholder
  rw [← h.patterns_eq, ← h.name, ← h.required, ← h.positional]
  by_cases hp : field.positional
  case pos =>
    have ha : " <" ++ Text.uppercase field.name = " " ++ ("<" ++ Text.uppercase field.name) :=
      @String.append_assoc " " "<" _
    cases field.required <;> simp [hp, ha, String.append_assoc]
  case neg =>
    have ⟨form, forms, hc⟩ := List.exists_cons_of_ne_nil <| Field.patterns_ne_nil hp
    cases field.required <;> simp [hp, hc]

theorem mapM_usage? {fs : List FieldDeclaration} {fields : List Field}
    (h : List.Forall₂ Gives fs fields) : fs.mapM usage? = some (fields.map Field.usage) := by
  induction h
  case nil => rfl
  case cons hg _ hi => simp [hg.usage?_eq, hi]

end FieldDeclaration

theorem mapM_eq_ok_iff {f : α → Except ε β} {l : List α} {bs : List β} :
    l.mapM f = .ok bs ↔ List.Forall₂ (f · = .ok ·) l bs := by
  induction l generalizing bs
  case nil => simp [pure, Except.pure, eq_comm]
  case cons x l hi =>
    rw [List.mapM_cons, List.forall₂_cons_left_iff, bind_eq_ok_iff]
    refine exists_congr fun b => ?_
    simp only [bind_eq_ok_iff, hi]
    constructor
    case mp =>
      intro ⟨hb, bs', hbs, h⟩
      cases h
      exact ⟨bs', hb, hbs, rfl⟩
    case mpr =>
      rintro ⟨bs', hb, hbs, rfl⟩
      exact ⟨hb, bs', hbs, rfl⟩

-- The first element that fails decides the error.
theorem mapM_eq_error_iff {f : α → Except ε β} {l : List α} {e : ε} :
    l.mapM f = .error e ↔
      ∃ before x after, l = before ++ x :: after ∧ (∀ y ∈ before, ∀ e, f y ≠ .error e) ∧
        f x = .error e := by
  constructor
  case mp =>
    intro h
    induction l
    case nil => cases h
    case cons x l hi =>
      rw [List.mapM_cons] at h
      cases hx : f x <;> rw [hx] at h
      case error =>
        cases h
        exact ⟨[], x, l, rfl, nofun, hx⟩
      case ok =>
        cases hl : l.mapM f <;> rw [hl] at h <;> cases h
        have ⟨before, y, after, hs, hb, hy⟩ := hi hl
        exact ⟨x :: before, y, after, hs ▸ rfl, List.forall_mem_cons.mpr ⟨by simp [hx], hb⟩, hy⟩
  case mpr =>
    rintro ⟨before, x, after, rfl, hb, hx⟩
    induction before
    case nil =>
      rw [List.nil_append, List.mapM_cons, hx]
      rfl
    case cons y before hi =>
      have ⟨hy, hb⟩ := List.forall_mem_cons.mp hb
      cases hc : f y
      case error e => exact absurd hc <| hy e
      case ok      =>
        rw [List.cons_append, List.mapM_cons, hc, hi hb]
        rfl

namespace Declaration

def declared (d : Declaration) : List FieldDeclaration :=
  match d.body with
  | .named fields => fields
  | _             => []

structure WellFormed (d : Declaration) : Prop where
  isStructure : d.body ≠ .noStructure
  named       : ∀ count, d.body = .unnamed count → count = 0
  not_flag    : ∀ f ∈ d.declared, f.positional → ¬f.type.EndsIn "bool"
  has_form    : ∀ f ∈ d.declared, ¬f.positional → f.short ≠ "" ∨ f.long ≠ ""

-- The error tells what is wrong with the first field that breaks a rule.
inductive Breaks (d : Declaration) : DefinitionError → Prop
  | notStructure : d.body = .noStructure → Breaks d .notStructure
  | unnamedField : d.body = .unnamed (count + 1) → Breaks d .unnamedField
  | field        : d.body = .named (before ++ f :: after) → (∀ g ∈ before, ∀ e, ¬g.Breaks e) →
                   f.Breaks e → Breaks d e

variable {d : Declaration} {s : Definition} {e : DefinitionError}

theorem define_eq_error_iff : d.define = .error e ↔ d.Breaks e := by
  have hm : d.define = .error e ↔ d.fields = .error e := by
    cases h : d.fields <;> simp [define, h, Except.map]
  rw [hm, fields]
  constructor
  case mp =>
    intro h
    split at h
    case h_1 fields hb =>
      obtain ⟨before, f, after, rfl, hg, hf⟩ := mapM_eq_error_iff.mp h
      have hg : ∀ g ∈ before, ∀ e, ¬g.Breaks e := fun g hm e he =>
        hg g hm e <| FieldDeclaration.toField_eq_error_iff.mpr he
      exact .field hb hg <| FieldDeclaration.toField_eq_error_iff.mp hf
    case h_2 => cases h
    case h_3 hb => cases h; exact .unnamedField hb
    case h_4 hb => cases h; exact .notStructure hb
  case mpr =>
    rintro (hb | hb | ⟨hb, hg, hf⟩)
    case notStructure => rw [hb]
    case unnamedField => rw [hb]
    case field =>
      rw [hb]
      have hg := fun g hm e he => hg g hm e <| FieldDeclaration.toField_eq_error_iff.mp he
      exact mapM_eq_error_iff.mpr
        ⟨_, _, _, rfl, hg, FieldDeclaration.toField_eq_error_iff.mpr hf⟩

theorem toField_of_define (h : d.define = .ok s) :
    List.Forall₂ (·.toField = .ok ·) d.declared s.fields := by
  obtain ⟨fields, hf, rfl⟩ := map_eq_ok_iff.mp h
  unfold Declaration.fields at hf
  unfold declared
  split at hf
  case h_1 hb => rw [hb]; exact mapM_eq_ok_iff.mp hf
  case h_2 hb => rw [hb]; cases hf; exact .nil
  all_goals cases hf

theorem WellFormed.not_breaks (h : d.WellFormed) : ¬d.Breaks e := by
  rintro (hb | hb | ⟨hb, -, hf⟩)
  case notStructure => exact h.isStructure hb
  case unnamedField => cases h.named _ hb
  case field before f after =>
    have hm : f ∈ d.declared := by simp [declared, hb]
    cases hf
    case positionalFlag hp ht => exact h.not_flag f hm hp ht
    case optionWithoutForm hp hs hl =>
      obtain hn | hn := h.has_form f hm hp
      case inl => exact hn hs
      case inr => exact hn hl

theorem wellFormed_of_define (h : d.define = .ok s) : d.WellFormed := by
  have hn : ∀ e, ¬d.Breaks e := fun e he => by rw [define_eq_error_iff.mpr he] at h; cases h
  have hf : ∀ f ∈ d.declared, ∀ e, ¬f.Breaks e := by
    refine (@List.forall₂_and_left _ _ (·.toField = .ok ·) _ _ s.fields).mp ?_ |>.left
    refine (toField_of_define h).imp fun f field hf => ⟨fun e he => ?_, hf⟩
    rw [FieldDeclaration.toField_eq_error_iff.mpr he] at hf
    cases hf
  refine ⟨?isStructure, ?named, ?not_flag, ?has_form⟩
  case isStructure => exact fun hb => hn _ <| .notStructure hb
  case named =>
    intro count hb
    cases count
    case zero   => rfl
    case succ n => exact absurd (.unnamedField hb) <| hn _
  case not_flag => exact fun f hm hp ht => hf f hm _ <| .positionalFlag hp ht
  case has_form =>
    intro f hm hp
    by_contra hc
    have ⟨hs, hl⟩ := not_or.mp hc
    exact hf f hm _ <| .optionWithoutForm hp (not_not.mp hs) (not_not.mp hl)

end Declaration

namespace Definition

-- The arms are those of the fields. The positional arms come in the order of their fields.
structure ArmsFit (d : Definition) : Prop where
  index      : (d.optionArms.map OptionArm.index ++ d.positionalArms.map PositionalArm.index).Perm
                 (List.range d.fields.length)
  option     : ∀ arm ∈ d.optionArms, ∃ f, d.fields[arm.index]? = some f ∧ ¬f.positional ∧
                 arm.forms = f.patterns ∧ arm.forms ≠ [] ∧ arm.kind = f.kind
  positional : ∀ arm ∈ d.positionalArms, ∃ f, d.fields[arm.index]? = some f ∧ f.positional ∧
                 arm.kind = f.kind
  inOrder    : (d.positionalArms.map PositionalArm.index).Pairwise (· < ·)
  position   : d.positionalArms.map PositionalArm.position = List.range d.positionalArms.length

theorem getElem?_fields {d : Definition} (i : d.Index) : d.fields[i.val]? = some (d.field i) :=
  List.getElem?_eq_getElem i.isLt

theorem map_index_optionArms (d : Definition) :
    d.optionArms.map OptionArm.index = d.optionFields.map Fin.val := by
  rw [optionArms_eq, List.map_map]
  rfl

theorem map_index_positionalArms (d : Definition) :
    d.positionalArms.map PositionalArm.index = d.positionals.map Fin.val := by
  have hz : d.positionals.zipIdx.map (fun p => p.1.val) = d.positionals.map Fin.val := by
    rw [← Function.comp_def, ← List.map_map, List.zipIdx_map_fst]
  rwa [positionalArms_eq, List.map_map]

theorem armsFit (d : Definition) : d.ArmsFit := by
  refine ⟨?index, ?option, ?positional, ?inOrder, ?position⟩
  case index =>
    rw [map_index_optionArms, map_index_positionalArms, ← List.map_append,
      ← List.map_coe_finRange_eq_range]
    refine .map _ <| .trans List.perm_append_comm ?_
    exact List.filter_append_perm (fun i => (d.field i).positional) _
  case option =>
    intro arm ha
    rw [optionArms_eq] at ha
    obtain ⟨i, hi, rfl⟩ := List.mem_map.mp ha
    have hp := mem_optionFields.mp hi
    exact ⟨d.field i, getElem?_fields i, hp, rfl, Field.patterns_ne_nil hp, rfl⟩
  case positional =>
    intro arm ha
    rw [positionalArms_eq] at ha
    obtain ⟨⟨i, n⟩, hi, rfl⟩ := List.mem_map.mp ha
    exact ⟨d.field i, getElem?_fields i, mem_positionals.mp <| List.fst_mem_of_mem_zipIdx hi, rfl⟩
  case inOrder =>
    rw [map_index_positionalArms, List.pairwise_map]
    exact (List.pairwise_lt_finRange _).filter _
  case position =>
    rw [length_positionalArms, positionalArms_eq, List.map_map, List.range_eq_range']
    exact List.zipIdx_map_snd ..

end Definition

-- The analysis accepts a structure just if all its fields keep the rules. The loop over the words
-- then ends as the parser does, so it looks up nothing that is out of range.
theorem Declaration.define_sound (d : Declaration) :
    ((∃ s, d.define = .ok s) ↔ d.WellFormed) ∧
    (∀ e, d.define = .error e ↔ d.Breaks e) ∧
    ∀ s, d.define = .ok s →
      s.description = d.description ∧ s.usageExitCode = d.usageExitCode ∧
      List.Forall₂ FieldDeclaration.Gives d.declared s.fields ∧
      s.ArmsFit ∧
      d.declared.mapM FieldDeclaration.usage? = some (s.fields.map Field.usage) ∧
      ∀ default words, s.parseByLoop default words = (s.parseFrom default words).mapError .error := by
  refine ⟨⟨fun ⟨s, h⟩ => wellFormed_of_define h, fun h => ?accepted⟩, fun e => define_eq_error_iff, ?found⟩
  case accepted =>
    cases hd : d.define
    case error e => exact absurd (define_eq_error_iff.mp hd) h.not_breaks
    case ok s    => exact ⟨s, rfl⟩
  case found =>
    intro s h
    have hg := (toField_of_define h).imp fun _ _ => FieldDeclaration.gives_of_toField
    obtain ⟨fields, _, rfl⟩ := map_eq_ok_iff.mp h
    exact ⟨rfl, rfl, hg, Definition.armsFit _, FieldDeclaration.mapM_usage? hg,
      Definition.parseByLoop_eq⟩

-- Of the two fields that break a rule, the one without a form comes first.
example :
    let f : FieldDeclaration := { name := "all", type := .path ["bool"] }
    let fs := [{ f with long := "--all" }, f, { f with positional := true }]
    Declaration.define { body := .named fs } = .error .optionWithoutForm := by
  decide

end LoxTokens.Args
