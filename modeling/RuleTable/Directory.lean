import RuleTable.Utf8

/-!
Reading a file by its path. A directory is given by its files, each with the names that lead to
it; the directories below it are those that hold a file. A path is followed name by name: empty
names and `.` stay, `..` goes up and no higher than the directory itself, and a name leads on only
from a directory.
-/
namespace RuleTable

inductive ReadError
  | notFound
  | notDirectory
  | isDirectory
  | nameTooLong
  | nulInPath
  /-- Any other failure, by its number and text. -/
  | other (code : Nat) (text : Text)
deriving DecidableEq

namespace ReadError

def numbered (text : Text) (code : Nat) : Text :=
  text ++ " (os error " ++ Text.decimal code ++ ")"

def message : ReadError → Text
  | .notFound => numbered "No such file or directory" 2
  | .notDirectory => numbered "Not a directory" 20
  | .isDirectory => numbered "Is a directory" 21
  | .nameTooLong => numbered "File name too long" 36
  | .nulInPath => "file name contained an unexpected NUL byte"
  | .other code text => numbered text code

/-- The failure with this number; the text serves where the number has no name of its own. -/
def ofCode (code : Nat) (text : Text) : ReadError :=
  match code with
  | 2 => .notFound
  | 20 => .notDirectory
  | 21 => .isDirectory
  | 36 => .nameTooLong
  | _ => .other code text

end ReadError

/-- The names that a path is made of, some of which may be empty. -/
def pathNames (path : Text) : List Text := path.splitOn '/'

/-- Whether a name stays where it is. -/
def isStay (name : Text) : Bool := name.isEmpty || name == ['.']

structure Directory where
  files : List (List Text × Bytes)

namespace Directory

/-- Most bytes of a path and of a single name in it. -/
def maxPath : Nat := 4095

def maxName : Nat := 255

def ofFiles (files : List (Text × Bytes)) : Directory where
  files := files.map (fun (path, bytes) => ((pathNames path).filter (fun n => !isStay n), bytes))

def file? (d : Directory) (place : List Text) : Option Bytes :=
  (d.files.find? (fun f => f.1 == place)).map Prod.snd

def hasDirectory (d : Directory) (place : List Text) : Bool :=
  place.isEmpty || d.files.any (fun f => place.isPrefixOf f.1 && f.1 != place)

/-- Follows names from the directory at the place `here`. -/
def follow (d : Directory) (here : List Text) : List Text → Except ReadError Bytes
  | [] => .error .isDirectory
  | name :: rest =>
    if isStay name then follow d here rest
    else if name = "..".toList then follow d here.dropLast rest
    else if maxName < (Utf8.encode name).length then .error .nameTooLong
    else
      let next := here ++ [name]
      match d.file? next with
      | some bytes => if rest.isEmpty then .ok bytes else .error .notDirectory
      | none => if d.hasDirectory next then follow d next rest else .error .notFound

def read (d : Directory) (path : Text) : Except ReadError Bytes :=
  if '\x00' ∈ path then .error .nulInPath
  else if path.isEmpty then .error .notFound
  else if maxPath < (Utf8.encode path).length then .error .nameTooLong
  else d.follow [] (pathNames path)

end Directory

end RuleTable
