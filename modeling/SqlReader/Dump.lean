import SqlReader.Statement
import SqlReader.SyntaxError

set_option autoImplicit false

namespace SqlReader

def Position.dump (p : Position) : String :=
  applied "Position" [toString p.offset.toNat, quoted p.source]

def Span.dump (s : Span) : String :=
  record "Span" [("start", s.start.dump), ("end", s.stop.dump)]

def Token.dump (t : Token) : String :=
  record "Token" [("kind", t.kind.name), ("value", quoted t.value), ("span", t.span.dump)]

def dumpTokens (tokens : List Token) : String := listing (tokens.map Token.dump)

def dumpKinds (kinds : List Kind) : String := listing (kinds.map Kind.name)

def CreateTable.dump (s : CreateTable) : String :=
  record "CreateTableStatement"
    [("start", s.start.dump), ("table_name", s.table.dump), ("column_names", dumpTokens s.names),
      ("column_types", dumpTokens s.types)]

def Insert.dump (s : Insert) : String :=
  record "InsertStatement"
    [("start", s.start.dump), ("table_name", s.table.dump), ("column_names", dumpTokens s.names),
      ("column_values", dumpTokens s.values)]

def Select.dump (s : Select) : String :=
  record "SelectStatement"
    [("start", s.start.dump), ("columns", dumpTokens s.columns), ("table_name", s.table.dump)]

def Statement.dump : Statement → String
  | createTable s => applied "CreateTable" [s.dump]
  | insert s => applied "Insert" [s.dump]
  | select s => applied "Select" [s.dump]

def LiteralForm.name : LiteralForm → String
  | number => "Number"
  | text => "Text"
  | boolean => "Boolean"

def Literal.dump (l : Literal) : String :=
  applied l.form.name
    [record (l.form.name ++ "Value") [("start", l.start.dump), ("token", l.token.dump)]]

def Cause.dump (c : Cause) : String :=
  record c.name <|
    match c with
    | unrecognised text => [("token", quoted text)]
    | unexpected expected found => [("expected", dumpKinds expected), ("found", found.dump)]
    | unexpectedEnd expected => [("expected", dumpKinds expected)]
    | countMismatch columns values =>
      [("expected", toString columns), ("actual", toString values)]
    | unknownType found => [("token", found.dump)]
    | trailing found => [("token", found.dump)]

def SyntaxError.dump (e : SyntaxError) : String :=
  record "Error" [("internal_error", e.cause.dump), ("position", e.position.dump)]

def dumpReturned (s : Statement) : String := record "Statement" [("content", s.dump)]

def dumpResult {α : Type} (dump : α → String) : Except SyntaxError α → String
  | .ok a => applied "Ok" [dump a]
  | .error e => applied "Err" [e.dump]

end SqlReader
