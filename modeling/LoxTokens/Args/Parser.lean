import LoxTokens.Args.Definition

/-!
Parsing the words of a command line. They are taken from left to right and cut into items, each
of which gives a value to a field: a flag, an option with the word after it, or a positional
word. The first word that cannot start an item decides the error.
-/

namespace LoxTokens.Args

inductive Value
  | flag (on : Bool)
  | text (word : String)
  | optional (word : Option String)
  deriving DecidableEq

namespace Kind

def default : Kind → Value
  | flag          => .flag false
  | value         => .text ""
  | optionalValue => .optional none

def ofWord : Kind → String → Value
  | flag,          _    => .flag true
  | value,         word => .text word
  | optionalValue, word => .optional word

end Kind

inductive ParseError
  | helpRequested
  | repeatedOption (word : String)
  | missingValue (word : String)
  | invalidOption (word : String)
  | missingRequired
  deriving DecidableEq

def ParseError.message : ParseError → String
  | helpRequested       => ""
  | repeatedOption word => "[ERROR] Option '" ++ word ++ "' has already been processed"
  | missingValue word   => "[ERROR] '" ++ word ++ "' requires an argument to be passed"
  | invalidOption word  => "[ERROR] '" ++ word ++ "' is not a valid option"
  | missingRequired     => "[ERROR] not all required options have been provided."

def isHelp (word : String) : Bool :=
  word == "-h" || word == "--help"

def isDashed (word : String) : Bool :=
  word.toList.head? == some '-'

-- The values of all fields in their order.
abbrev Values := List (String × Value)

namespace Definition

variable (d : Definition)

abbrev Index := Fin d.fields.length

def field (i : d.Index) : Field :=
  d.fields[i]

/-- The option field that a word stands for: the first one that lists it. -/
def owner? (word : String) : Option d.Index :=
  d.fields.findFinIdx? (·.listens word)

end Definition

inductive Item (d : Definition)
  | flag (index : d.Index) (form : String)
  | option (index : d.Index) (form value : String)
  | positional (index : d.Index) (word : String)
  deriving DecidableEq

namespace Item

variable {d : Definition}

def index : Item d → d.Index
  | flag i _       => i
  | option i _ _   => i
  | positional i _ => i

def words : Item d → List String
  | flag _ form         => [form]
  | option _ form value => [form, value]
  | positional _ word   => [word]

def value : Item d → Value
  | flag i form       => (d.field i).kind.ofWord form
  | option i _ value  => (d.field i).kind.ofWord value
  | positional i word => (d.field i).kind.ofWord word

end Item

namespace Definition

variable (d : Definition)

-- A field is given at most once, so positional fields are filled in their order.
def nextPositional? (given : List (Item d)) : Option d.Index :=
  (List.finRange _).find? fun i => (d.field i).positional && i ∉ given.map Item.index

/-- The item that starts with the word, after the given items and before the other words. -/
def readItem (given : List (Item d)) (word : String) (rest : List String) :
    Except ParseError (Item d) :=
  if isHelp word then
    .error .helpRequested
  else
    match d.owner? word with
    | some i =>
      if i ∈ given.map Item.index then
        .error <| .repeatedOption word
      else if (d.field i).kind = .flag then
        .ok <| .flag i word
      else
        match rest with
        | []         => .error <| .missingValue word
        | value :: _ =>
          if isDashed value then .error (.missingValue word) else .ok (.option i word value)
    | none =>
      if isDashed word then
        .error <| .invalidOption word
      else
        match d.nextPositional? given with
        | some i => .ok <| .positional i word
        | none   => .error <| .invalidOption word

def readItems (given : List (Item d)) : List String → Except ParseError (List (Item d))
  | []           => .ok []
  | word :: rest =>
    match d.readItem given word rest with
    | .error e => .error e
    | .ok item =>
      (readItems (item :: given) (rest.drop (item.words.length - 1))).map (item :: ·)
termination_by words => words.length
decreasing_by simp only [List.length_drop, List.length_cons]; omega

def isComplete (items : List (Item d)) : Bool :=
  (List.finRange _).all fun i => (d.field i).required → i ∈ items.map Item.index

-- The defaults of a structure that does not state its own.
def derivedDefault (i : d.Index) : Value :=
  (d.field i).kind.default

-- A field without an item keeps its default.
def values (default : d.Index → Value) (items : List (Item d)) : Values :=
  (List.finRange _).map fun i =>
    ((d.field i).name, (items.find? (·.index = i)).elim (default i) Item.value)

def parseFrom (default : d.Index → Value) (words : List String) : Except ParseError Values :=
  match d.readItems [] words with
  | .error e  => .error e
  | .ok items =>
    if d.isComplete items then .ok (d.values default items) else .error .missingRequired

def parse (words : List String) : Except ParseError Values :=
  d.parseFrom d.derivedDefault words

end Definition
end LoxTokens.Args
