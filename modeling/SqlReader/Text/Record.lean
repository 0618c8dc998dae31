set_option autoImplicit false

namespace SqlReader

def commaSeparated (items : List String) : String := ", ".intercalate items

def listing (items : List String) : String := "[" ++ commaSeparated items ++ "]"

def applied (name : String) (arguments : List String) : String :=
  name ++ "(" ++ commaSeparated arguments ++ ")"

def record (name : String) (fields : List (String × String)) : String :=
  name ++ " \x7b " ++ commaSeparated (fields.map fun field => field.1 ++ ": " ++ field.2) ++ " \x7d"

end SqlReader
