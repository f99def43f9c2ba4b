/-!
The layout of structured values: a name with its fields between braces, and lists between
brackets.
-/

namespace LoxTokens.Text

/-- A value without fields is its name alone. -/
def record (name : String) : List (String × String) → String
  | []     => name
  | fields =>
    let entries := fields.map fun (key, value) => key ++ ": " ++ value
    name ++ " \x7b " ++ ", ".intercalate entries ++ " \x7d"

def list (items : List String) : String :=
  "[" ++ ", ".intercalate items ++ "]"

end LoxTokens.Text
