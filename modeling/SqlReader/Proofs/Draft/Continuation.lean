import SqlReader.Proofs.Draft.Progress
import SqlReader.Proofs.Relabelling.Reading

set_option autoImplicit false

namespace SqlReader

def Token.ofKind (k : Kind) : Token := ⟨k, "", ⟨⟨0, ""⟩, ⟨0, ""⟩⟩⟩

def Relabelling.bare : Relabelling := ⟨fun _ => ⟨0, ""⟩, fun _ => ""⟩

@[simp] theorem Token.ofKind_kind (k : Kind) : (ofKind k).kind = k := rfl

@[simp] theorem Token.relabel_bare (t : Token) : t.relabel .bare = .ofKind t.kind := rfl

theorem map_relabel_bare (w : List Token) :
    w.map (Token.relabel .bare) = (w.map Token.kind).map .ofKind := by
  simp

namespace Draft

variable {d e : Draft} {t : Token} {w : List Token} {r : Except SyntaxError Statement}

theorem Completes.relabel (h : d.Completes w r) (m : Relabelling) :
    (d.relabel m).Completes (w.map (Token.relabel m))
      (relabelResult m (Statement.relabel m) r) := by
  induction h with
  | done taken =>
    apply Completes.done
    rw [take?_relabel, taken]
    rfl
  | next taken later ih =>
    apply Completes.next _ ih
    rw [take?_relabel, taken]
    rfl

theorem Reaches.relabel (h : d.Reaches w e) (m : Relabelling) :
    (d.relabel m).Reaches (w.map (Token.relabel m)) (e.relabel m) := by
  induction h with
  | refl => exact .refl
  | step taken later ih =>
    apply Reaches.step _ ih
    rw [take?_relabel, taken]
    rfl

theorem Completes.bare (h : empty.Completes w r) :
    ∃ q, empty.Completes ((w.map Token.kind).map .ofKind) q := by
  rw [← map_relabel_bare]
  exact ⟨_, h.relabel .bare⟩

theorem Reaches.bare (h : empty.Reaches w e) :
    empty.Reaches ((w.map Token.kind).map .ofKind) (e.relabel .bare) := by
  rw [← map_relabel_bare]
  exact h.relabel .bare

theorem awaitsType_relabel (d : Draft) (m : Relabelling) :
    (d.relabel m).awaitsType = d.awaitsType := by
  cases d with
  | createTable start stage => cases stage <;> rfl
  | opening | insert | select => rfl

-- No message asks for the comma behind a column of a selection.
def allowed : Draft → List Kind
  | select _ (.separator _) => [.comma, .fromKeyword]
  | d => d.expected

theorem allowed_relabel (d : Draft) (m : Relabelling) : (d.relabel m).allowed = d.allowed := by
  cases d with
  | opening forms => rfl
  | createTable start stage => cases stage <;> rfl
  | insert start stage => cases stage <;> rfl
  | select start stage => cases stage <;> rfl

theorem take?_isSome_iff : (d.take? t).isSome = true ↔ t.kind ∈ d.allowed := by
  have one (k : Kind) (a : Advance) :
      (if t.kind = k then some a else none).isSome = true ↔ t.kind ∈ [k] := by
    simp
  have among (kinds : List Kind) (a : Advance) :
      (if decide (t.kind ∈ kinds) then some a else none).isSome = true ↔ t.kind ∈ kinds := by
    simp
  have either (k l : Kind) (a b : Advance) :
      (if t.kind = k then some a else if t.kind = l then some b else none).isSome = true ↔
        t.kind ∈ [k, l] := by
    by_cases first : t.kind = k <;> simp [first]
  cases d with
  | opening forms =>
    simp only [take?, Option.isSome_map, List.find?_isSome, decide_eq_true_eq, allowed, expected,
      List.mem_map]
  | createTable start stage =>
    cases stage with
    | tableKeyword | tableName | opening | column => exact one _ _
    | type => exact among _ _
    | separator => exact either _ _ _ _
  | insert start stage =>
    cases stage with
    | intoKeyword | tableName | column | valuesKeyword | opening => exact one _ _
    | value => exact among _ _
    | columnsOrValues | columnSeparator | valueSeparator => exact either _ _ _ _
  | select start stage =>
    cases stage with
    | column | fromKeyword | tableName => exact one _ _
    | separator => exact either _ _ _ _
    | firstColumn =>
      have swapped : t.kind ∈ [Kind.star, .identifier] ↔ t.kind ∈ [Kind.identifier, .star] := by
        simp [or_comm]
      exact (either _ _ _ _).trans swapped

theorem take?_eq_none_iff : d.take? t = none ↔ t.kind ∉ d.allowed := by
  rw [← take?_isSome_iff, Bool.not_eq_true, Option.isSome_eq_false_iff, Option.isNone_iff_eq_none]

theorem mem_allowed_of_expected {k : Kind} (asked : k ∈ d.expected) : k ∈ d.allowed := by
  cases d with
  | select start stage =>
    cases stage with
    | separator columns => exact List.mem_cons_of_mem _ asked
    | firstColumn | column | fromKeyword | tableName => exact asked
  | opening | createTable | insert => exact asked

theorem mem_expected_of_allowed {k : Kind} (allows : k ∈ d.allowed) :
    k ∈ d.expected ∨ (k = .comma ∧ d.expected = [.fromKeyword]) := by
  cases d with
  | select start stage =>
    cases stage with
    | separator columns =>
      rcases List.mem_cons.1 allows with comma | asked
      · exact .inr ⟨comma, rfl⟩
      · exact .inl asked
    | firstColumn | column | fromKeyword | tableName => exact .inl allows
  | opening | createTable | insert => exact .inl allows

theorem awaitsType_iff : d.awaitsType = true ↔ ∀ k, k ∈ d.allowed ↔ k.isColumnType = true := by
  constructor
  · intro awaits k
    cases d with
    | createTable start stage =>
      cases stage with
      | type => simp [allowed, expected, CreateStage.expected, Kind.isColumnType]
      | tableKeyword | tableName | opening | column | separator => cases awaits
    | opening | insert | select => cases awaits
  · intro types
    have typed : Kind.numberType ∈ d.allowed := (types .numberType).2 rfl
    cases d with
    | opening forms =>
      obtain ⟨form, -, keyword⟩ := List.mem_map.1 typed
      cases form <;> cases keyword
    | createTable start stage =>
      cases stage with
      | type => rfl
      | tableKeyword | tableName | opening | column | separator =>
        exact absurd typed (by simp [allowed, expected, CreateStage.expected])
    | insert start stage =>
      cases stage <;>
        exact absurd typed (by simp [allowed, expected, InsertStage.expected, Kind.literals])
    | select start stage =>
      cases stage <;> exact absurd typed (by simp [allowed, expected, SelectStage.expected])

def Completable (d : Draft) : Prop :=
  ∃ (kinds : List Kind) (r : Except SyntaxError Statement), d.Completes (kinds.map .ofKind) r

theorem Completable.of_take {k : Kind} (taken : d.take? (.ofKind k) = some (.next e))
    (later : e.Completable) : d.Completable := by
  obtain ⟨kinds, r, complete⟩ := later
  exact ⟨k :: kinds, r, .next taken complete⟩

-- Each stage is completed by way of the one behind it.
theorem completable_createTable (start : Position) (stage : CreateStage) :
    (createTable start stage).Completable := by
  have separator (table : Token) (names types : List Token) :
      (createTable start (.separator table names types)).Completable :=
    ⟨[.closeParen], _, .done rfl⟩
  have type (table : Token) (names types : List Token) :
      (createTable start (.type table names types)).Completable :=
    .of_take (k := .numberType) rfl (separator _ _ _)
  have column (table : Token) (names types : List Token) :
      (createTable start (.column table names types)).Completable :=
    .of_take (k := .identifier) rfl (type _ _ _)
  have opening (table : Token) : (createTable start (.opening table)).Completable :=
    .of_take (k := .openParen) rfl (column _ _ _)
  have tableName : (createTable start .tableName).Completable :=
    .of_take (k := .identifier) rfl (opening _)
  cases stage with
  | tableKeyword => exact .of_take (k := .tableKeyword) rfl tableName
  | tableName => exact tableName
  | opening table => exact opening table
  | column table names types => exact column table names types
  | type table names types => exact type table names types
  | separator table names types => exact separator table names types

theorem completable_insert (start : Position) (stage : InsertStage) :
    (insert start stage).Completable := by
  have valueSeparator (table : Token) (names : List Token) (place : Position) (values : List Token) :
      (insert start (.valueSeparator table names place values)).Completable :=
    ⟨[.closeParen], _, .done rfl⟩
  have value (table : Token) (names : List Token) (place : Position) (values : List Token) :
      (insert start (.value table names place values)).Completable :=
    .of_take (k := .number) rfl (valueSeparator _ _ _ _)
  have opening (table : Token) (names : List Token) (place : Position) :
      (insert start (.opening table names place)).Completable :=
    .of_take (k := .openParen) rfl (value _ _ _ _)
  have valuesKeyword (table : Token) (names : List Token) :
      (insert start (.valuesKeyword table names)).Completable :=
    .of_take (k := .valuesKeyword) rfl (opening _ _ _)
  have columnSeparator (table : Token) (names : List Token) :
      (insert start (.columnSeparator table names)).Completable :=
    .of_take (k := .closeParen) rfl (valuesKeyword _ _)
  have column (table : Token) (names : List Token) :
      (insert start (.column table names)).Completable :=
    .of_take (k := .identifier) rfl (columnSeparator _ _)
  have columnsOrValues (table : Token) : (insert start (.columnsOrValues table)).Completable :=
    .of_take (k := .valuesKeyword) rfl (opening _ _ _)
  have tableName : (insert start .tableName).Completable :=
    .of_take (k := .identifier) rfl (columnsOrValues _)
  cases stage with
  | intoKeyword => exact .of_take (k := .intoKeyword) rfl tableName
  | tableName => exact tableName
  | columnsOrValues table => exact columnsOrValues table
  | column table names => exact column table names
  | columnSeparator table names => exact columnSeparator table names
  | valuesKeyword table names => exact valuesKeyword table names
  | opening table names valuesAt => exact opening table names valuesAt
  | value table names valuesAt values => exact value table names valuesAt values
  | valueSeparator table names valuesAt values => exact valueSeparator table names valuesAt values

theorem completable_select (start : Position) (stage : SelectStage) :
    (select start stage).Completable := by
  have tableName (columns : List Token) : (select start (.tableName columns)).Completable :=
    ⟨[.identifier], _, .done rfl⟩
  have fromKeyword (columns : List Token) : (select start (.fromKeyword columns)).Completable :=
    .of_take (k := .fromKeyword) rfl (tableName _)
  have separator (columns : List Token) : (select start (.separator columns)).Completable :=
    .of_take (k := .fromKeyword) rfl (tableName _)
  cases stage with
  | firstColumn => exact .of_take (k := .star) rfl (fromKeyword _)
  | column columns => exact .of_take (k := .identifier) rfl (separator _)
  | separator columns => exact separator columns
  | fromKeyword columns => exact fromKeyword columns
  | tableName columns => exact tableName columns

-- A draft that still takes the first word of a statement takes any of them.
def Whole : Draft → Prop
  | opening forms => forms = Form.all
  | createTable .. | insert .. | select .. => True

theorem Whole.completable (h : d.Whole) : d.Completable := by
  cases d with
  | opening forms =>
    obtain rfl : forms = Form.all := h
    exact .of_take (k := .selectKeyword) rfl (completable_select _ .firstColumn)
  | createTable start stage => exact completable_createTable start stage
  | insert start stage => exact completable_insert start stage
  | select start stage => exact completable_select start stage

theorem whole_of_take (taken : d.take? t = some (.next e)) : e.Whole := by
  cases d with
  | opening forms =>
    obtain ⟨form, -, begun⟩ := Option.map_eq_some_iff.1 taken
    cases form <;> cases begun <;> trivial
  | createTable start stage =>
    cases stage <;> grind [take?, CreateStage.take?, CreateStage.take?.next, Whole]
  | insert start stage =>
    cases stage <;> grind [take?, InsertStage.take?, InsertStage.take?.next, Whole]
  | select start stage =>
    cases stage <;> grind [take?, SelectStage.take?, SelectStage.take?.next, Whole]

theorem Reaches.whole (h : d.Reaches w e) (start : d.Whole) : e.Whole := by
  induction h with
  | refl => exact start
  | step taken later ih => exact ih (whole_of_take taken)

theorem Reaches.completable (h : empty.Reaches w e) : e.Completable := (h.whole rfl).completable

end Draft
end SqlReader
