set_option autoImplicit false

namespace SqlReader

inductive Input
  | standard
  | file (path : String)
deriving DecidableEq

inductive ReadFailure
  | system (code : Nat) (description : String)
  | notText
deriving DecidableEq

namespace ReadFailure

def ofCode (code : Nat) (otherwise : String) : ReadFailure :=
  system code <|
    match code with
    | 2 => "No such file or directory"
    | 5 => "Input/output error"
    | 13 => "Permission denied"
    | 20 => "Not a directory"
    | 21 => "Is a directory"
    | 36 => "File name too long"
    | 40 => "Too many levels of symbolic links"
    | _ => otherwise

def missing : ReadFailure := ofCode 2 ""

def notDirectory : ReadFailure := ofCode 20 ""

def isDirectory : ReadFailure := ofCode 21 ""

def message : ReadFailure → String
  | system code description => description ++ " (os error " ++ toString code ++ ")"
  | notText => "stream did not contain valid UTF-8"

end ReadFailure

def pathParts (path : String) : List String := path.splitOn "/"

def pathNames (path : String) : List String :=
  (pathParts path).filter fun part => part ≠ "" && part ≠ "."

def fileName (path : String) : String :=
  match (pathNames path).getLast? with
  | some part => if part = ".." then path else part
  | none => path

def Input.name : Input → String
  | standard => "stdin"
  | file path => fileName path

end SqlReader
