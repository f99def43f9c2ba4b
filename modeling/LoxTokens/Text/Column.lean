/-!
Columns of a table: a cell is filled up with spaces on the right and never cut. Widths count
characters.
-/

namespace LoxTokens.Text

def column (width : Nat) (cell : String) : String :=
  cell ++ String.ofList (List.replicate (width - cell.length) ' ')

end LoxTokens.Text
