import LoxTokens.Command.TypedLine

/-!
The texts that the command reads: a file as a whole, or lines typed at the prompt. Both have to
be well-formed UTF-8.
-/

namespace LoxTokens.Command

inductive ReadError
  -- an error of the system, with its number and description
  | system (code : Nat) (description : String)
  | malformedText
  deriving DecidableEq

namespace ReadError

def notFound : ReadError :=
  system 2 "No such file or directory"

def permissionDenied : ReadError :=
  system 13 "Permission denied"

def notDirectory : ReadError :=
  system 20 "Not a directory"

def isDirectory : ReadError :=
  system 21 "Is a directory"

def nameTooLong : ReadError :=
  system 36 "File name too long"

def known : List (Nat × ReadError) := [
  (2, notFound), (13, permissionDenied), (20, notDirectory), (21, isDirectory), (36, nameTooLong)]

-- An error by its number, which may come with a minus sign in 32 bits.
def ofNumber (number : UInt32) (description : String) : ReadError :=
  let code := number.toInt32.toInt.natAbs
  (known.lookup code).getD <| system code description

def message : ReadError → String
  | system code description => description ++ " (os error " ++ toString code ++ ")"
  | malformedText           => "stream did not contain valid UTF-8"

end ReadError

def decode (bytes : ByteArray) : Except ReadError String :=
  match String.fromUTF8? bytes with
  | some text => .ok text
  | none      => .error .malformedText

-- The lines with the line feeds that end them.
def cutLines (bytes : List UInt8) : List (List UInt8) :=
  bytes.foldr add []
where
  add (b : UInt8) (lines : List (List UInt8)) : List (List UInt8) :=
    match lines with
    | line :: rest => if b = 10 then [b] :: lines else (b :: line) :: rest
    | []           => [[b]]

-- A line feed at the end goes, and with it a carriage return before it.
def withoutEnd (line : List Char) : List Char :=
  if line.getLast? = some '\n' then
    let line := line.dropLast
    if line.getLast? = some '\r' then line.dropLast else line
  else
    line

def readLine (bytes : List UInt8) : Except ReadError String := do
  let line ← decode ⟨bytes.toArray⟩
  match withoutBackspaces? (withoutEnd line.toList) with
  | some line => return String.ofList line
  -- part of a character is left
  | none      => throw .malformedText

/-- The lines typed at the prompt, each of which may fail to be read. -/
def readLines (bytes : ByteArray) : List (Except ReadError String) :=
  (cutLines bytes.toList).map readLine

end LoxTokens.Command
