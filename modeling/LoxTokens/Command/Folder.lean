import LoxTokens.Command.Input

/-!
A folder held in memory, with files and empty folders in it, and reading from it by path.
-/

namespace LoxTokens.Command

structure Folder where
  files   : List (String × ByteArray)
  folders : List String

namespace Folder

inductive Place
  | top
  | inside (folder : String)
  -- somewhere above, of which nothing is known
  | above
  | file (content : ByteArray)

def enter (f : Folder) (place : Place) (name : String) : Except ReadError Place :=
  match place, name with
  | .file _, _ => .error .notDirectory
  | _, "" | _, "." => .ok place
  | .inside _, ".." => .ok .top
  | _, ".." => .ok .above
  | .top, _ =>
    if 255 < name.utf8ByteSize then
      .error .nameTooLong
    else
      match f.files.lookup name with
      | some content => .ok <| .file content
      | none         => if name ∈ f.folders then .ok (.inside name) else .error .notFound
  | _, _ => .error <| if 255 < name.utf8ByteSize then .nameTooLong else .notFound

def read (f : Folder) (path : String) : Except ReadError ByteArray :=
  if path = "" then
    .error .notFound
  else if 4096 ≤ path.utf8ByteSize then
    .error .nameTooLong
  else
    let start := if path.toList.head? = some '/' then Place.above else .top
    match (path.splitOn "/").foldlM f.enter start with
    | .ok (.file content) => .ok content
    | .ok _               => .error .isDirectory
    | .error e            => .error e

end Folder
end LoxTokens.Command
