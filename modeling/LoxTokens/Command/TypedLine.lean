import LoxTokens.Text.Cluster

/-!
Lines in which backspaces were typed. A backspace takes back the last cluster that is left, one
at the start of a line does nothing. Main statement: a line without backspaces stays as it is.
-/

namespace LoxTokens.Command

-- The characters so far, last first, and the number of bytes of each cluster, as far as eight
-- bits hold it. Of a cluster of 256 bytes or more a backspace leaves a part.
structure TypedLine where
  text  : List Char
  sizes : List UInt8

namespace TypedLine

def empty : TypedLine :=
  ⟨[], []⟩

def add (line : TypedLine) (cluster : List Char) : TypedLine where
  text  := cluster.reverse ++ line.text
  sizes := UInt8.ofNat (String.ofList cluster).utf8ByteSize :: line.sizes

-- Takes bytes off the front, if they make whole characters.
def dropBytes? : Nat → List Char → Option (List Char)
  | 0,     text      => some text
  | n + 1, c :: text => if c.utf8Size ≤ n + 1 then dropBytes? (n + 1 - c.utf8Size) text else none
  | _ + 1, []        => none

def takeBack? (line : TypedLine) : Option TypedLine :=
  match line.sizes with
  | []            => some line
  | size :: sizes => (dropBytes? size.toNat line.text).map (⟨·, sizes⟩)

def backspace : Char :=
  '\x08'

def press? (line : TypedLine) (cluster : List Char) : Option TypedLine :=
  if cluster = [backspace] then line.takeBack? else some (line.add cluster)

theorem foldlM_press?_eq_foldl_add {clusters : List (List Char)} (line : TypedLine)
    (h : [backspace] ∉ clusters) :
    clusters.foldlM press? line = some (clusters.foldl add line) := by
  induction clusters generalizing line with
  | nil => rfl
  | cons c cs ih =>
    obtain ⟨hc, hcs⟩ : c ≠ [backspace] ∧ [backspace] ∉ cs := by grind
    simp [press?, hc, ih _ hcs]

theorem text_foldl_add (clusters : List (List Char)) (line : TypedLine) :
    (clusters.foldl add line).text = clusters.flatten.reverse ++ line.text := by
  induction clusters generalizing line with
  | nil          => rfl
  | cons c cs ih => simp [ih, add]

end TypedLine

/-- The line that stays, if no backspace leaves a part of a character. -/
def withoutBackspaces? (line : List Char) : Option (List Char) :=
  ((Text.clusters line).foldlM TypedLine.press? TypedLine.empty).map (·.text.reverse)

theorem withoutBackspaces?_of_notMem {line : List Char} (h : TypedLine.backspace ∉ line) :
    withoutBackspaces? line = some line := by
  have : [TypedLine.backspace] ∉ Text.clusters line := fun h' =>
    h <| Text.flatten_clusters line ▸ List.mem_flatten.mpr ⟨_, h', by simp⟩
  simp [withoutBackspaces?, TypedLine.foldlM_press?_eq_foldl_add _ this, TypedLine.text_foldl_add,
    TypedLine.empty, Text.flatten_clusters]

end LoxTokens.Command
