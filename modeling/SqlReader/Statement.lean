import SqlReader.Literal
import SqlReader.Text.Record

set_option autoImplicit false

namespace SqlReader

-- Each of `names` is declared with the type that stands at the same place in `types`.
structure CreateTable where
  start : Position
  table : Token
  names : List Token
  types : List Token
deriving DecidableEq

-- Without `names` the values go by place.
structure Insert where
  start : Position
  table : Token
  names : List Token
  values : List Token
deriving DecidableEq

-- A star stands for all columns.
structure Select where
  start : Position
  columns : List Token
  table : Token
deriving DecidableEq

inductive Statement
  | createTable (statement : CreateTable)
  | insert (statement : Insert)
  | select (statement : Select)
deriving DecidableEq

def joinValues (tokens : List Token) : String := commaSeparated (tokens.map Token.value)

namespace CreateTable

def columns (s : CreateTable) : List (Token × Token) := s.names.zip s.types

def render (s : CreateTable) : String :=
  "CREATE TABLE " ++ s.table.value ++ " ("
    ++ commaSeparated (s.columns.map fun column => column.1.value ++ " " ++ column.2.value) ++ ")"

end CreateTable

namespace Insert

def isPositional (s : Insert) : Bool := s.names.isEmpty

def literals (s : Insert) : List Literal := s.values.filterMap Literal.ofToken?

def render (s : Insert) : String :=
  "INSERT INTO " ++ s.table.value
    ++ (if s.isPositional then "" else " (" ++ joinValues s.names ++ ")")
    ++ " VALUES (" ++ joinValues s.values ++ ")"

end Insert

namespace Select

def isWildcard (s : Select) : Bool :=
  match s.columns with
  | [only] => only.kind = .star
  | _ => false

def render (s : Select) : String :=
  "SELECT " ++ joinValues s.columns ++ " FROM " ++ s.table.value

end Select

namespace Statement

def start : Statement → Position
  | createTable s => s.start
  | insert s => s.start
  | select s => s.start

def render : Statement → String
  | createTable s => s.render
  | insert s => s.render
  | select s => s.render

end Statement
end SqlReader
