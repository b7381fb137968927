/-! Files: why one cannot be read, and the text files of a working directory, found by their
paths. -/

namespace AnalystQuery

inductive FileError where
  | missing
  /-- something on the way is no directory -/
  | notDirectory
  | isDirectory
  | nameTooLong
  | notText
  | system (text : String) (code : Nat)
  deriving DecidableEq, Repr

namespace FileError

private def withCode (text : String) (code : Nat) : String :=
  text ++ " (os error " ++ toString code ++ ")"

def message : FileError → String
  | missing => withCode "No such file or directory" 2
  | notDirectory => withCode "Not a directory" 20
  | isDirectory => withCode "Is a directory" 21
  | nameTooLong => withCode "File name too long" 36
  | notText => "stream did not contain valid UTF-8"
  | system text code => withCode text code

def meansAbsence : FileError → Bool
  | missing | notDirectory | isDirectory | nameTooLong => true
  | notText | system _ _ => false

end FileError

/-- Text files by their places. A place is the list of names on the way to it, the last one first,
from the working directory or from the root, which has the name `/`. -/
structure Files where
  texts : List (List String × String)
  deriving Repr

namespace Files

/-- The names in a path. A path from the root begins with its name. -/
def namesOf (path : String) : List String :=
  match path.splitOn "/" with
  | "" :: name :: rest => "/" :: name :: rest
  | names => names

private def standsStill (name : String) : Bool := name == "" || name == "."

def ofList (entries : List (String × String)) : Files :=
  ⟨entries.map fun (path, text) =>
    (((namesOf path).filter (!standsStill ·)).reverse, text)⟩

def text? (files : Files) (place : List String) : Option String := files.texts.lookup place

/-- The root and all directories around the working directory are there; any other holds a
file. -/
def isDirectory (files : Files) (place : List String) : Bool :=
  place == ["/"] || place.all (· == "..") ||
    files.texts.any fun (file, _) => place != file && place.isSuffixOf file

def parent : List String → List String
  | [] => [".."]
  | ["/"] => ["/"]
  | name :: rest => if name = ".." then name :: name :: rest else rest

def nameLimit : Nat := 255

def pathLimit : Nat := 4095

def follow (files : Files) (place : List String) : List String → Except FileError (List String)
  | [] => .ok place
  | name :: rest =>
    let next := name :: place
    if !files.isDirectory place then .error .notDirectory
    else if standsStill name then follow files place rest
    else if name = ".." then follow files (parent place) rest
    else if nameLimit < name.utf8ByteSize then .error .nameTooLong
    else if (files.text? next).isNone && !files.isDirectory next then .error .missing
    else follow files next rest

def read (files : Files) (path : String) : Except FileError String := do
  if path = "" then throw .missing
  if pathLimit < path.utf8ByteSize then throw .nameTooLong
  let place ← match namesOf path with
    | "/" :: names => follow files ["/"] names
    | names => follow files [] names
  match files.text? place with
  | some text => pure text
  | none => throw .isDirectory

end Files

end AnalystQuery
