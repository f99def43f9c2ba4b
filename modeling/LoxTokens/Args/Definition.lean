import LoxTokens.Args.TypeExpr

/-!
Definitions of command lines. A definition is read off the declaration of a structure, one
argument for each field: a flag, an option with a value, or a positional word.
-/

namespace LoxTokens.Args

inductive Kind
  | flag
  | value
  | optionalValue
  deriving DecidableEq

def Kind.ofType : TypeExpr → Kind
  | .path names =>
    match names.getLast? with
    | some "bool"   => flag
    | some "Option" => optionalValue
    | _             => value
  | .other => value

structure Field where
  name        : String
  short       : Option String
  long        : Option String
  description : String
  required    : Bool
  positional  : Bool
  kind        : Kind
  not_flag    : positional → kind ≠ .flag
  has_form    : ¬positional → short ≠ none ∨ long ≠ none
  deriving DecidableEq

namespace Field

/-- The words that stand for an option. -/
def patterns (f : Field) : List String :=
  f.short.toList ++ f.long.toList

theorem patterns_ne_nil {f : Field} (h : ¬f.positional) : f.patterns ≠ [] := by
  have := f.has_form h
  unfold patterns
  cases hs : f.short <;> cases hl : f.long <;> simp_all

-- The field is given by one of its patterns.
def listens (f : Field) (word : String) : Bool :=
  !f.positional && word ∈ f.patterns

end Field

structure Definition where
  description   : String
  usageExitCode : Int32
  fields        : List Field
  deriving DecidableEq

-- What is written at a named field. An empty form is none.
structure FieldDeclaration where
  name        : String
  type        : TypeExpr
  short       : String := ""
  long        : String := ""
  description : String := ""
  required    : Bool   := false
  positional  : Bool   := false

inductive Body
  | named (fields : List FieldDeclaration)
  | unnamed (count : Nat)
  -- an enumeration, a union
  | noStructure

structure Declaration where
  body          : Body
  description   : String := ""
  usageExitCode : Int32  := 1

inductive DefinitionError
  | notStructure
  | unnamedField
  | positionalFlag
  | optionWithoutForm
  deriving DecidableEq

def DefinitionError.message : DefinitionError → String
  | notStructure      => "CmdArgs only supports structs"
  | unnamedField      => "CmdArgs requires named fields"
  | positionalFlag    => "a positional argument cannot be a bool"
  | optionWithoutForm => "an option needs `short` or `long`"

namespace FieldDeclaration

def form? (text : String) : Option String :=
  if text = "" then none else some text

def toField (f : FieldDeclaration) : Except DefinitionError Field :=
  if hk : f.positional ∧ Kind.ofType f.type = .flag then
    .error .positionalFlag
  else if hf : ¬f.positional ∧ form? f.short = none ∧ form? f.long = none then
    .error .optionWithoutForm
  else
    .ok {
      name        := f.name
      short       := form? f.short
      long        := form? f.long
      description := f.description
      required    := f.required
      positional  := f.positional
      kind        := .ofType f.type
      not_flag    := by simp_all
      has_form    := by grind }

end FieldDeclaration

namespace Declaration

/-- The fields in their order, or what is wrong with the first one that is no argument. -/
def fields (d : Declaration) : Except DefinitionError (List Field) :=
  match d.body with
  | .named fields      => fields.mapM FieldDeclaration.toField
  | .unnamed 0         => .ok []
  | .unnamed (_ + 1)   => .error .unnamedField
  | .noStructure       => .error .notStructure

def define (d : Declaration) : Except DefinitionError Definition :=
  d.fields.map fun fields => ⟨d.description, d.usageExitCode, fields⟩

end Declaration
end LoxTokens.Args
