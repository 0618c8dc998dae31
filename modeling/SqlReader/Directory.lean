import SqlReader.Input

set_option autoImplicit false

namespace SqlReader

-- The files, each with the names on the way to it.
structure Directory where
  files : List (List String × ByteArray)

namespace Directory

inductive Entry
  | file (contents : ByteArray)
  | folder

-- A place reached from the directory. Nothing is known of what lies beside it or above.
inductive Place
  | below (names : List String)
  | above

def ofFiles (files : List (String × ByteArray)) : Directory :=
  ⟨files.map fun file => (pathNames file.1, file.2)⟩

def entry? (d : Directory) (names : List String) : Option Entry :=
  match d.files.lookup names with
  | some contents => some (.file contents)
  | none =>
    if names.isEmpty || d.files.any (fun file => names.isPrefixOf file.1) then some .folder
    else none

def Place.parent : Place → Place
  | below [] => above
  | below names => below names.dropLast
  | above => above

def follow (d : Directory) : Place → List String → Except ReadFailure ByteArray
  | _, [] => .error .isDirectory
  | place, part :: parts =>
    if part = "" || part = "." then d.follow place parts
    else if part = ".." then d.follow place.parent parts
    else
      match place with
      | .above => .error .missing
      | .below names =>
        match d.entry? (names ++ [part]) with
        | none => .error .missing
        | some .folder => d.follow (.below (names ++ [part])) parts
        | some (.file contents) => if parts.isEmpty then .ok contents else .error .notDirectory

def read (d : Directory) (path : String) : Except ReadFailure ByteArray :=
  if path = "" then .error .missing
  else d.follow (if path.startsWith "/" then .above else .below []) (pathParts path)

end Directory
end SqlReader
