import SqlReader.Proofs.Relabelling
import SqlReader.Proofs.Script.Steps

set_option autoImplicit false

namespace SqlReader

def CreateStage.relabel (m : Relabelling) : CreateStage → CreateStage
  | tableKeyword => tableKeyword
  | tableName => tableName
  | opening table => opening (table.relabel m)
  | column table names types =>
    column (table.relabel m) (names.map (Token.relabel m)) (types.map (Token.relabel m))
  | type table names types =>
    type (table.relabel m) (names.map (Token.relabel m)) (types.map (Token.relabel m))
  | separator table names types =>
    separator (table.relabel m) (names.map (Token.relabel m)) (types.map (Token.relabel m))

def InsertStage.relabel (m : Relabelling) : InsertStage → InsertStage
  | intoKeyword => intoKeyword
  | tableName => tableName
  | columnsOrValues table => columnsOrValues (table.relabel m)
  | column table names => column (table.relabel m) (names.map (Token.relabel m))
  | columnSeparator table names => columnSeparator (table.relabel m) (names.map (Token.relabel m))
  | valuesKeyword table names => valuesKeyword (table.relabel m) (names.map (Token.relabel m))
  | opening table names valuesAt =>
    opening (table.relabel m) (names.map (Token.relabel m)) (m.position valuesAt)
  | value table names valuesAt values =>
    value (table.relabel m) (names.map (Token.relabel m)) (m.position valuesAt)
      (values.map (Token.relabel m))
  | valueSeparator table names valuesAt values =>
    valueSeparator (table.relabel m) (names.map (Token.relabel m)) (m.position valuesAt)
      (values.map (Token.relabel m))

def SelectStage.relabel (m : Relabelling) : SelectStage → SelectStage
  | firstColumn => firstColumn
  | column columns => column (columns.map (Token.relabel m))
  | separator columns => separator (columns.map (Token.relabel m))
  | fromKeyword columns => fromKeyword (columns.map (Token.relabel m))
  | tableName columns => tableName (columns.map (Token.relabel m))

def Draft.relabel (m : Relabelling) : Draft → Draft
  | opening forms => opening forms
  | createTable start stage => createTable (m.position start) (stage.relabel m)
  | insert start stage => insert (m.position start) (stage.relabel m)
  | select start stage => select (m.position start) (stage.relabel m)

def Advance.relabel (m : Relabelling) : Advance → Advance
  | next draft => next (draft.relabel m)
  | done result => done (relabelResult m (Statement.relabel m) result)

def Draft.Reading.relabel (m : Relabelling) (r : Draft.Reading) : Draft.Reading :=
  ⟨relabelResult m (Statement.relabel m) r.result, r.behind.map (Token.relabel m),
    r.ahead.map (Token.relabel m)⟩

variable (m : Relabelling)

theorem SyntaxError.relabel_unexpected (expected : List Kind) (t : Token) :
    SyntaxError.unexpected expected (t.relabel m) =
      (SyntaxError.unexpected expected t).relabel m := by
  cases ends : t.isEnd <;>
    simp [SyntaxError.unexpected, SyntaxError.relabel, Cause.relabel, ends]

theorem SyntaxError.relabel_notAType (t : Token) :
    SyntaxError.notAType (t.relabel m) = (SyntaxError.notAType t).relabel m := by
  simp only [notAType, Token.relabel_kind, relabel_unexpected, apply_ite (relabel m)]
  rfl

theorem Insert.checked_relabel (i : Insert) (valuesAt : Position) :
    (i.relabel m).checked (m.position valuesAt) =
      relabelResult m (Statement.relabel m) (i.checked valuesAt) := by
  have names : (i.relabel m).names.length = i.names.length := List.length_map _
  have values : (i.relabel m).values.length = i.values.length := List.length_map _
  simp only [checked, isPositional_relabel, names, values,
    apply_ite (relabelResult m (Statement.relabel m))]
  rfl

theorem CreateStage.take?_relabel (start : Position) (t : Token) (stage : CreateStage) :
    (stage.relabel m).take? (m.position start) (t.relabel m) =
      (stage.take? start t).map (Advance.relabel m) := by
  cases stage with
  | separator table names types =>
    simp only [relabel, take?, Token.relabel_kind, apply_ite (Option.map (Advance.relabel m)),
      ← List.map_reverse]
    rfl
  | _ =>
    simp only [relabel, take?, Token.relabel_kind, apply_ite (Option.map (Advance.relabel m))]
    rfl

theorem InsertStage.take?_relabel (start : Position) (t : Token) (stage : InsertStage) :
    (stage.relabel m).take? (m.position start) (t.relabel m) =
      (stage.take? start t).map (Advance.relabel m) := by
  cases stage with
  | valueSeparator table names valuesAt values =>
    have checked := Insert.checked_relabel m ⟨start, table, names.reverse, values.reverse⟩ valuesAt
    simp only [Insert.relabel, List.map_reverse] at checked
    simp only [relabel, take?, Token.relabel_kind, apply_ite (Option.map (Advance.relabel m)),
      checked]
    rfl
  | _ =>
    simp only [relabel, take?, Token.relabel_kind, apply_ite (Option.map (Advance.relabel m))]
    rfl

theorem SelectStage.take?_relabel (start : Position) (t : Token) (stage : SelectStage) :
    (stage.relabel m).take? (m.position start) (t.relabel m) =
      (stage.take? start t).map (Advance.relabel m) := by
  cases stage with
  | tableName columns =>
    simp only [relabel, take?, Token.relabel_kind, apply_ite (Option.map (Advance.relabel m)),
      ← List.map_reverse]
    rfl
  | _ =>
    simp only [relabel, take?, Token.relabel_kind, apply_ite (Option.map (Advance.relabel m))]
    rfl

namespace Draft

theorem take?_relabel (t : Token) (d : Draft) :
    (d.relabel m).take? (t.relabel m) = (d.take? t).map (Advance.relabel m) := by
  cases d with
  | opening forms =>
    simp only [relabel, take?, Token.relabel_kind, Option.map_map]
    refine congrArg (Option.map · _) (funext fun form => ?_)
    cases form <;> rfl
  | createTable start stage => exact stage.take?_relabel m start t
  | insert start stage => exact stage.take?_relabel m start t
  | select start stage => exact stage.take?_relabel m start t

theorem expected_relabel (d : Draft) : (d.relabel m).expected = d.expected := by
  cases d with
  | opening forms => rfl
  | createTable start stage => cases stage <;> rfl
  | insert start stage => cases stage <;> rfl
  | select start stage => cases stage <;> rfl

theorem refusal_relabel (t : Token) (d : Draft) :
    (d.relabel m).refusal (t.relabel m) = (d.refusal t).relabel m := by
  have unexpected := SyntaxError.relabel_unexpected m
  cases d with
  | opening forms => exact unexpected _ t
  | createTable start stage =>
    cases stage with
    | type table names types => exact SyntaxError.relabel_notAType m t
    | _ => exact unexpected _ t
  | insert start stage => cases stage <;> exact unexpected _ t
  | select start stage => cases stage <;> exact unexpected _ t

theorem read_relabel (stop : Position) (behind ahead : List Token) (d : Draft) :
    (d.relabel m).read (m.position stop) (behind.map (Token.relabel m))
        (ahead.map (Token.relabel m)) =
      (d.read stop behind ahead).relabel m := by
  induction ahead generalizing d behind with
  | nil =>
    have refused := refusal_of_isEnd (Token.ending_isEnd stop) d
    have other := refusal_of_isEnd (Token.ending_isEnd (m.position stop)) (d.relabel m)
    rw [expected_relabel] at other
    simp only [List.map_nil, read, refused, other]
    rfl
  | cons t ahead ih =>
    simp only [List.map_cons, read, take?_relabel, refusal_relabel]
    cases d.take? t with
    | none => rfl
    | some a =>
      cases a with
      | done result => rfl
      | next later => exact ih (t :: behind) later

end Draft

theorem trailing?_relabel (tokens : List Token) :
    trailing? (skipSemicolon (tokens.map (Token.relabel m))) =
      (trailing? (skipSemicolon tokens)).map (SyntaxError.relabel m) := by
  have first (tokens : List Token) : trailing? (tokens.map (Token.relabel m)) =
      (trailing? tokens).map (SyntaxError.relabel m) := by
    cases tokens with
    | nil => rfl
    | cons t rest =>
      simp only [List.map_cons, trailing?, Token.relabel_isEnd, apply_ite (Option.map _)]
      rfl
  cases tokens with
  | nil => rfl
  | cons t rest =>
    by_cases semicolon : t.kind = .semicolon
    · simpa [skipSemicolon, semicolon] using first rest
    · simpa [skipSemicolon, semicolon] using first (t :: rest)

theorem readOne_relabel (stop : Position) (tokens : List Token) :
    (readOne (m.position stop) (tokens.map (Token.relabel m))).result =
      relabelResult m (Statement.relabel m) (readOne stop tokens).result := by
  have read := Draft.read_relabel m stop [] tokens Draft.empty
  have started : Draft.empty.relabel m = Draft.empty := rfl
  rw [started, List.map_nil] at read
  simp only [readOne, read, Draft.Reading.relabel, trailing?_relabel]
  cases (Draft.empty.read stop [] tokens).result with
  | error e => rfl
  | ok statement =>
    cases trailing? (skipSemicolon (Draft.empty.read stop [] tokens).ahead) with
    | none => rfl
    | some e => rfl

theorem afterStatement_relabel (stop : Position) (events others : List Event)
    (statement : Statement) (ahead : List Token)
    (later : ∀ u rest, ahead = u :: rest →
      (readMany (m.position stop) (rest.map (Token.relabel m))).result =
        relabelResult m (List.map (Statement.relabel m)) (readMany stop rest).result) :
    (afterStatement (m.position stop) others (statement.relabel m)
        (ahead.map (Token.relabel m))).result =
      relabelResult m (List.map (Statement.relabel m))
        (afterStatement stop events statement ahead).result := by
  cases ahead with
  | nil => rfl
  | cons u rest =>
    cases ends : u.isEnd with
    | true => simp [afterStatement, ends, relabelResult]
    | false =>
      by_cases parts : u.kind = .semicolon
      · simp only [List.map_cons, afterStatement, Token.relabel_isEnd, Token.relabel_kind, ends,
          parts, if_true, continueScript, later u rest rfl]
        cases (readMany stop rest).result <;> rfl
      · simp only [List.map_cons, afterStatement, Token.relabel_isEnd, Token.relabel_kind, ends,
          parts]
        rfl

theorem readMany_relabel (stop : Position) (tokens : List Token) :
    (readMany (m.position stop) (tokens.map (Token.relabel m))).result =
      relabelResult m (List.map (Statement.relabel m)) (readMany stop tokens).result := by
  -- What stands behind a statement or a semicolon is shorter.
  induction h : tokens.length using Nat.strongRecOn generalizing tokens with
  | ind n ih =>
    cases tokens with
    | nil =>
      rw [List.map_nil, readMany_nil, readMany_nil]
      rfl
    | cons t rest =>
      rw [List.map_cons]
      cases ends : t.isEnd with
      | true =>
        rw [readMany_of_isEnd ends, readMany_of_isEnd (t := t.relabel m) ends]
        rfl
      | false =>
        by_cases semicolon : t.kind = .semicolon
        · rw [readMany_of_semicolon semicolon, readMany_of_semicolon (t := t.relabel m) semicolon]
          exact ih rest.length (by simp [← h]) rest rfl
        · have read := Draft.read_relabel m stop [] (t :: rest) Draft.empty
          have started : Draft.empty.relabel m = Draft.empty := rfl
          have shorter := Draft.read_ahead_length stop [] Draft.empty (t :: rest)
          rw [started, List.map_nil, List.map_cons] at read
          rw [readMany_of_statement ends semicolon,
            readMany_of_statement (t := t.relabel m) ends semicolon, read]
          simp only [Draft.Reading.relabel]
          cases (Draft.empty.read stop [] (t :: rest)).result with
          | error e => rfl
          | ok statement =>
            refine afterStatement_relabel m stop _ _ statement _ ?_
            intro u later ahead
            rw [ahead, h, List.length_cons] at shorter
            exact ih later.length (by omega) later rfl

end SqlReader
