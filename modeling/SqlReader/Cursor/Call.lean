import SqlReader.Cursor

set_option autoImplicit false

namespace SqlReader

-- Calls as values, so that a run of a cursor is a list of them.
inductive Call
  | current
  | advance
  | expect (kind : Kind)
  | expectOneOf (kinds : List Kind)
  | columnType
  | read (forms : List Form)
  | dispatch
  | name
deriving DecidableEq

inductive Answer
  | token (t : Token)
  | expected (result : Except SyntaxError Token)
  | statement (result : Except SyntaxError Statement)
  | nothing
  | name (name : String)

def Cursor.perform (c : Cursor) : Call → Answer × Cursor
  | .current => (.token c.current, c)
  | .advance => (.token c.current, c.advance)
  | .expect kind => let (result, later) := c.expect kind; (.expected result, later)
  | .expectOneOf kinds => let (result, later) := c.expectOneOf kinds; (.expected result, later)
  | .columnType => let (result, later) := c.columnType; (.expected result, later)
  | .read forms => let (result, later) := c.read forms; (.statement result, later)
  | .dispatch =>
    match Form.ofKind? c.current.kind with
    | none => (.nothing, c)
    | some form => let (result, later) := c.read [form]; (.statement result, later)
  | .name => (.name c.name, c)

def Cursor.run (c : Cursor) : List Call → List (Answer × Cursor)
  | [] => []
  | call :: calls =>
    let step := c.perform call
    step :: step.2.run calls

end SqlReader
