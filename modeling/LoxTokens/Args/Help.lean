import LoxTokens.Args.Definition
import LoxTokens.Text.Column
import LoxTokens.Text.Uppercase

/-!
The help of a command line: the usage line with the description, and a table with a line for
each field. The name of the program is filled in where the usage holds a place for it.
-/

namespace LoxTokens.Args

namespace Field

def placeholder (f : Field) : String :=
  "<" ++ Text.uppercase f.name ++ ">"

-- Options that may be left out are not part of the usage line.
def usage (f : Field) : String :=
  if f.positional then
    if f.required then " " ++ f.placeholder else " [" ++ Text.uppercase f.name ++ "]"
  else
    if f.required then " " ++ f.patterns.headD "" ++ " " ++ f.name else ""

end Field

def optionRow (short long parameter description : String) : String :=
  "   " ++ Text.column 3 short ++ " " ++ Text.column 20 long ++ " " ++ Text.column 20 parameter ++
  " " ++ description

def positionalRow (placeholder description : String) : String :=
  "   " ++ Text.column 45 placeholder ++ " " ++ description

def Field.row (f : Field) : String :=
  let row :=
    if f.positional then
      positionalRow f.placeholder f.description
    else
      let parameter := if f.kind = .flag then "" else f.placeholder
      optionRow (f.short.getD "") (f.long.getD "") parameter f.description
  if f.required then row ++ " (Required)" else row

namespace Definition

def usageLine (d : Definition) : String :=
  "Usage: EXEC_NAME [OPTIONS]" ++ String.join (d.fields.map Field.usage)

def usage (d : Definition) : String :=
  if d.description = "" then d.usageLine else d.usageLine ++ "\n\n" ++ d.description

def helpRow : String :=
  optionRow "-h" "--help" "" "Displays help"

def optionRows (d : Definition) : List String :=
  d.fields.map Field.row ++ [helpRow]

def options (d : Definition) : String :=
  "\n".intercalate d.optionRows

/-- The lines that are printed for the program of the given name. -/
def help (d : Definition) (program : String) : List String :=
  [d.usage.replace "EXEC_NAME" program, "\nOptions:", d.options]

end Definition
end LoxTokens.Args
