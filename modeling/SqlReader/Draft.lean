import SqlReader.Statement
import SqlReader.SyntaxError

set_option autoImplicit false

namespace SqlReader

inductive Form
  | createTable
  | insert
  | select
deriving DecidableEq

namespace Form

def all : List Form := [.createTable, .insert, .select]

def keyword : Form → Kind
  | createTable => .createKeyword
  | insert => .insertKeyword
  | select => .selectKeyword

def ofKind? : Kind → Option Form
  | .createKeyword => some .createTable
  | .insertKeyword => some .insert
  | .selectKeyword => some .select
  | _ => none

theorem ofKind?_eq_some_iff {k : Kind} {f : Form} : ofKind? k = some f ↔ k = f.keyword := by
  cases k <;> cases f <;> decide

theorem keyword_inj {f g : Form} (same : f.keyword = g.keyword) : f = g :=
  Option.some.inj ((ofKind?_eq_some_iff.2 rfl).symm.trans (ofKind?_eq_some_iff.2 same))

theorem mem_all (f : Form) : f ∈ all := by cases f <;> decide

end Form

-- Stages are named for what is due.
inductive CreateStage
  | tableKeyword
  | tableName
  | opening (table : Token)
  | column (table : Token) (names types : List Token)
  | type (table : Token) (names types : List Token)
  | separator (table : Token) (names types : List Token)

inductive InsertStage
  | intoKeyword
  | tableName
  | columnsOrValues (table : Token)
  | column (table : Token) (names : List Token)
  | columnSeparator (table : Token) (names : List Token)
  | valuesKeyword (table : Token) (names : List Token)
  | opening (table : Token) (names : List Token) (valuesAt : Position)
  | value (table : Token) (names : List Token) (valuesAt : Position) (values : List Token)
  | valueSeparator (table : Token) (names : List Token) (valuesAt : Position) (values : List Token)

inductive SelectStage
  | firstColumn
  | column (columns : List Token)
  | separator (columns : List Token)
  | fromKeyword (columns : List Token)
  | tableName (columns : List Token)

-- A statement under construction. What is behind the token that it is given, a draft cannot see.
inductive Draft
  | opening (forms : List Form)
  | createTable (start : Position) (stage : CreateStage)
  | insert (start : Position) (stage : InsertStage)
  | select (start : Position) (stage : SelectStage)

inductive Advance
  | next (draft : Draft)
  | done (result : Except SyntaxError Statement)

def Insert.checked (s : Insert) (valuesAt : Position) : Except SyntaxError Statement :=
  if !s.isPositional && s.names.length ≠ s.values.length then
    .error ⟨.countMismatch s.names.length s.values.length, valuesAt⟩
  else .ok (.insert s)

def CreateStage.take? (start : Position) (t : Token) : CreateStage → Option Advance
  | tableKeyword => if t.kind = .tableKeyword then next .tableName else none
  | tableName => if t.kind = .identifier then next (.opening t) else none
  | opening table => if t.kind = .openParen then next (.column table [] []) else none
  | column table names types =>
    if t.kind = .identifier then next (.type table (t :: names) types) else none
  | type table names types =>
    if t.kind.isColumnType then next (.separator table names (t :: types)) else none
  | separator table names types =>
    if t.kind = .comma then next (.column table names types)
    else if t.kind = .closeParen then
      some (.done (.ok (.createTable ⟨start, table, names.reverse, types.reverse⟩)))
    else none
where
  next (stage : CreateStage) : Option Advance := some (.next (.createTable start stage))

def InsertStage.take? (start : Position) (t : Token) : InsertStage → Option Advance
  | intoKeyword => if t.kind = .intoKeyword then next .tableName else none
  | tableName => if t.kind = .identifier then next (.columnsOrValues t) else none
  | columnsOrValues table =>
    if t.kind = .openParen then next (.column table [])
    else if t.kind = .valuesKeyword then next (.opening table [] t.start)
    else none
  | column table names =>
    if t.kind = .identifier then next (.columnSeparator table (t :: names)) else none
  | columnSeparator table names =>
    if t.kind = .comma then next (.column table names)
    else if t.kind = .closeParen then next (.valuesKeyword table names)
    else none
  | valuesKeyword table names =>
    if t.kind = .valuesKeyword then next (.opening table names t.start) else none
  | opening table names valuesAt =>
    if t.kind = .openParen then next (.value table names valuesAt []) else none
  | value table names valuesAt values =>
    if t.kind.isLiteral then next (.valueSeparator table names valuesAt (t :: values)) else none
  | valueSeparator table names valuesAt values =>
    if t.kind = .comma then next (.value table names valuesAt values)
    else if t.kind = .closeParen then
      some (.done (Insert.checked ⟨start, table, names.reverse, values.reverse⟩ valuesAt))
    else none
where
  next (stage : InsertStage) : Option Advance := some (.next (.insert start stage))

def SelectStage.take? (start : Position) (t : Token) : SelectStage → Option Advance
  | firstColumn =>
    if t.kind = .star then next (.fromKeyword [t])
    else if t.kind = .identifier then next (.separator [t])
    else none
  | column columns => if t.kind = .identifier then next (.separator (t :: columns)) else none
  | separator columns =>
    if t.kind = .comma then next (.column columns)
    else if t.kind = .fromKeyword then next (.tableName columns)
    else none
  | fromKeyword columns => if t.kind = .fromKeyword then next (.tableName columns) else none
  | tableName columns =>
    if t.kind = .identifier then some (.done (.ok (.select ⟨start, columns.reverse, t⟩))) else none
where
  next (stage : SelectStage) : Option Advance := some (.next (.select start stage))

def CreateStage.expected : CreateStage → List Kind
  | tableKeyword => [.tableKeyword]
  | tableName => [.identifier]
  | opening _ => [.openParen]
  | column .. => [.identifier]
  | type .. => Kind.columnTypes
  | separator .. => [.comma, .closeParen]

def InsertStage.expected : InsertStage → List Kind
  | intoKeyword => [.intoKeyword]
  | tableName => [.identifier]
  | columnsOrValues _ => [.openParen, .valuesKeyword]
  | column .. => [.identifier]
  | columnSeparator .. => [.comma, .closeParen]
  | valuesKeyword .. => [.valuesKeyword]
  | opening .. => [.openParen]
  | value .. => Kind.literals
  | valueSeparator .. => [.comma, .closeParen]

-- A comma may follow a column, but a message asks for `FROM` alone.
def SelectStage.expected : SelectStage → List Kind
  | firstColumn => [.identifier, .star]
  | column _ => [.identifier]
  | separator _ => [.fromKeyword]
  | fromKeyword _ => [.fromKeyword]
  | tableName _ => [.identifier]

namespace Draft

def empty : Draft := .opening Form.all

def begin (start : Position) : Form → Draft
  | .createTable => .createTable start .tableKeyword
  | .insert => .insert start .intoKeyword
  | .select => .select start .firstColumn

def take? (t : Token) : Draft → Option Advance
  | opening forms =>
    (forms.find? fun form => form.keyword = t.kind).map fun form => .next (begin t.start form)
  | createTable start stage => stage.take? start t
  | insert start stage => stage.take? start t
  | select start stage => stage.take? start t

def expected : Draft → List Kind
  | opening forms => forms.map Form.keyword
  | createTable _ stage => stage.expected
  | insert _ stage => stage.expected
  | select _ stage => stage.expected

def refusal (t : Token) : Draft → SyntaxError
  | createTable _ (.type ..) => .notAType t
  | draft => .unexpected draft.expected t

theorem refusal_of_isEnd {t : Token} (ends : t.isEnd = true) (d : Draft) :
    d.refusal t = ⟨.unexpectedEnd d.expected, t.start⟩ := by
  have unexpected (kinds : List Kind) :
      SyntaxError.unexpected kinds t = ⟨.unexpectedEnd kinds, t.start⟩ := by
    simp [SyntaxError.unexpected, ends]
  have kind : t.kind = .endOfInput := by simpa [Token.isEnd] using ends
  cases d with
  | opening forms => exact unexpected _
  | createTable start stage =>
    cases stage with
    | type table names types =>
      simp only [refusal, SyntaxError.notAType, kind]
      exact unexpected _
    | _ => exact unexpected _
  | insert start stage => cases stage <;> exact unexpected _
  | select start stage => cases stage <;> exact unexpected _

structure Reading where
  result : Except SyntaxError Statement
  behind : List Token
  ahead : List Token

def read (stop : Position) (behind : List Token) : Draft → List Token → Reading
  | draft, [] => ⟨.error (draft.refusal (Token.ending stop)), behind, []⟩
  | draft, t :: ahead =>
    match draft.take? t with
    | none => ⟨.error (draft.refusal t), behind, t :: ahead⟩
    | some (.done result) => ⟨result, t :: behind, ahead⟩
    | some (.next draft) => draft.read stop (t :: behind) ahead

theorem read_ahead_length (stop : Position) (behind : List Token) (draft : Draft)
    (ahead : List Token) : (draft.read stop behind ahead).ahead.length ≤ ahead.length := by
  induction ahead generalizing draft behind with
  | nil => simp [read]
  | cons t ahead ih =>
    unfold read
    split
    · simp
    · simp
    · exact Nat.le_succ_of_le (ih _ _)

theorem read_tokens (stop : Position) (behind : List Token) (draft : Draft) (ahead : List Token) :
    (draft.read stop behind ahead).behind.reverse ++ (draft.read stop behind ahead).ahead =
      behind.reverse ++ ahead := by
  induction ahead generalizing draft behind with
  | nil => simp [read]
  | cons t ahead ih =>
    unfold read
    split
    · simp
    · simp
    · simpa using ih (t :: behind) _

end Draft
end SqlReader
