import SqlReader.Proofs.Draft.Completion

set_option autoImplicit false

namespace SqlReader
namespace Draft

variable {start : Position} {w : List Token} {r : Except SyntaxError Statement}

theorem take?_opening_iff {forms : List Form} {t : Token} {a : Advance} :
    (opening forms).take? t = some a ↔
      ∃ form ∈ forms, t.kind = form.keyword ∧ a = .next (begin t.start form) := by
  simp only [take?, Option.map_eq_some_iff]
  constructor
  · intro h
    rcases h with ⟨form, found, rfl⟩
    have member := List.mem_of_find?_eq_some found
    have kind := List.find?_some found
    exact ⟨form, member, by simpa using (of_decide_eq_true kind).symm, rfl⟩
  · intro h
    rcases h with ⟨form, member, kind, rfl⟩
    cases found : forms.find? fun form => form.keyword = t.kind with
    | none =>
      have refused := List.find?_eq_none.1 found form member
      simp [kind] at refused
    | some other =>
      have same : other.keyword = form.keyword := by
        rw [← kind]
        simpa using List.find?_some found
      exact ⟨form, by rw [Form.keyword_inj same], rfl⟩

theorem completes_columns (table : Token) :
    (createTable start (.column table [] [])).Completes w r ↔
      ∃ columns, ListUntil IsColumn .closeParen columns w ∧
        .ok (.createTable ⟨start, table, columns.map Prod.fst, columns.map Prod.snd⟩) = r := by
  let separator (acc : List (Token × Token)) : Draft :=
    createTable start (.separator table (acc.map Prod.fst) (acc.map Prod.snd))
  have takes_name (names types w : List Token) :
      (createTable start (.column table names types)).Completes w r ↔
        ∃ t u, w = t :: u ∧ t.kind = .identifier ∧
          (createTable start (.type table (t :: names) types)).Completes u r :=
    completes_of_due fun _ => rfl
  have takes_type (names types w : List Token) :
      (createTable start (.type table names types)).Completes w r ↔
        ∃ t u, w = t :: u ∧ t.kind.isColumnType ∧
          (createTable start (.separator table names (t :: types))).Completes u r :=
    completes_of_due fun _ => rfl
  have takes_item (acc : List (Token × Token)) (w : List Token) :
      (createTable start (.column table (acc.map Prod.fst) (acc.map Prod.snd))).Completes w r ↔
        ∃ a v u, w = v ++ u ∧ IsColumn a v ∧ (separator (a :: acc)).Completes u r := by
    rw [takes_name]
    constructor
    · intro h
      rcases h with ⟨name, v, rfl, named, later⟩
      obtain ⟨type, u, rfl, typed, later⟩ := (takes_type _ _ v).1 later
      exact ⟨(name, type), [name, type], u, rfl, ⟨named, typed, rfl⟩, later⟩
    · intro h
      rcases h with ⟨⟨name, type⟩, v, u, rfl, ⟨named, typed, rfl⟩, later⟩
      exact ⟨name, type :: u, rfl, named, (takes_type _ _ _).2 ⟨type, u, rfl, typed, later⟩⟩
  have split := completes_listUntil _ separator
    (fun acc => .done (.ok (.createTable
      ⟨start, table, (acc.map Prod.fst).reverse, (acc.map Prod.snd).reverse⟩)))
    (by decide) takes_item (fun _ _ => rfl) [] w
  refine split.trans ⟨?_, ?_⟩
  · intro h
    rcases h with ⟨columns, v, u, rfl, list, rfl, rfl⟩
    exact ⟨columns, by rw [List.append_nil]; exact list, by simp⟩
  · intro h
    rcases h with ⟨columns, list, rfl⟩
    exact ⟨columns, w, [], by simp, list, rfl, by simp⟩

theorem completes_names (table : Token) :
    (insert start (.column table [])).Completes w r ↔
      ∃ names v u, w = v ++ u ∧ ListUntil IsName .closeParen names v ∧
        (insert start (.valuesKeyword table names.reverse)).Completes u r := by
  have split := completes_tokens (r := r) (fun acc => insert start (.column table acc))
    (fun acc => insert start (.columnSeparator table acc))
    (fun acc => .next (insert start (.valuesKeyword table acc)))
    (by decide) (fun _ _ => rfl) (fun _ _ => rfl) [] w
  simp only [List.append_nil] at split
  exact split

theorem completes_values (table : Token) (names : List Token) (valuesAt : Position) :
    (insert start (.value table names valuesAt [])).Completes w r ↔
      ∃ literals, ListUntil IsLiteral .closeParen literals w ∧
        Insert.checked ⟨start, table, names.reverse, literals⟩ valuesAt = r := by
  have split := completes_tokens (r := r)
    (fun acc => insert start (.value table names valuesAt acc))
    (fun acc => insert start (.valueSeparator table names valuesAt acc))
    (fun acc => .done (Insert.checked ⟨start, table, names.reverse, acc.reverse⟩ valuesAt))
    (by decide) (fun _ _ => rfl) (fun _ _ => rfl) [] w
  refine split.trans ⟨?_, ?_⟩
  · intro h
    rcases h with ⟨literals, v, u, rfl, list, rfl, rfl⟩
    exact ⟨literals, by rw [List.append_nil]; exact list, by simp⟩
  · intro h
    rcases h with ⟨literals, list, rfl⟩
    exact ⟨literals, w, [], by simp, list, rfl, by simp⟩

theorem completes_selected :
    (select start (.column [])).Completes w r ↔
      ∃ columns v u, w = v ++ u ∧ ListUntil IsName .fromKeyword columns v ∧
        (select start (.tableName columns.reverse)).Completes u r := by
  have split := completes_tokens (r := r) (fun acc => select start (.column acc))
    (fun acc => select start (.separator acc))
    (fun acc => .next (select start (.tableName acc)))
    (by decide) (fun _ _ => rfl) (fun _ _ => rfl) [] w
  simp only [List.append_nil] at split
  exact split

theorem completes_createTable :
    (createTable start .tableKeyword).Completes w r ↔
      ∃ table name opening columns v, w = table :: name :: opening :: v ∧
        table.kind = .tableKeyword ∧ name.kind = .identifier ∧ opening.kind = .openParen ∧
        ListUntil IsColumn .closeParen columns v ∧
        .ok (.createTable ⟨start, name, columns.map Prod.fst, columns.map Prod.snd⟩) = r := by
  have takes_table (w : List Token) :
      (createTable start .tableKeyword).Completes w r ↔ ∃ t u, w = t :: u ∧
        t.kind = .tableKeyword ∧ (createTable start .tableName).Completes u r :=
    completes_of_due fun _ => rfl
  have takes_name (w : List Token) :
      (createTable start .tableName).Completes w r ↔ ∃ t u, w = t :: u ∧
        t.kind = .identifier ∧ (createTable start (.opening t)).Completes u r :=
    completes_of_due fun _ => rfl
  have takes_opening (table : Token) (w : List Token) :
      (createTable start (.opening table)).Completes w r ↔ ∃ t u, w = t :: u ∧
        t.kind = .openParen ∧ (createTable start (.column table [] [])).Completes u r :=
    completes_of_due fun _ => rfl
  simp only [takes_table, takes_name, takes_opening, completes_columns]
  constructor
  · intro h
    rcases h with
      ⟨table, _, rfl, second, name, _, rfl, named, opening, v, rfl, opens, columns, rest⟩
    exact ⟨table, name, opening, columns, v, rfl, second, named, opens, rest⟩
  · intro h
    rcases h with ⟨table, name, opening, columns, v, rfl, second, named, opens, rest⟩
    exact ⟨table, _, rfl, second, name, _, rfl, named, opening, v, rfl, opens, columns, rest⟩

theorem completes_valuesKeyword (table : Token) (names : List Token) :
    (insert start (.valuesKeyword table names)).Completes w r ↔ ∃ t u, w = t :: u ∧
      t.kind = .valuesKeyword ∧ (insert start (.opening table names t.start)).Completes u r :=
  completes_of_due fun _ => rfl

theorem completes_columnsOrValues (table : Token) :
    (insert start (.columnsOrValues table)).Completes w r ↔ ∃ names u v, w = u ++ v ∧
      ColumnList names u ∧ (insert start (.valuesKeyword table names.reverse)).Completes v r := by
  rw [completes_of_either (l := .valuesKeyword) (by decide) (fun _ => rfl)]
  constructor
  · intro h
    rcases h with ⟨t, u, rfl, ⟨opens, rest⟩ | ⟨announces, rest⟩⟩
    · obtain ⟨names, x, y, rfl, list, rest⟩ := (completes_names table).1 rest
      exact ⟨names, t :: x, y, rfl, .present opens list, rest⟩
    · have announced := (completes_valuesKeyword table []).2 ⟨t, u, rfl, announces, rest⟩
      exact ⟨[], [], t :: u, rfl, .absent, announced⟩
  · intro h
    rcases h with ⟨names, u, v, rfl, absent | ⟨opens, list⟩, rest⟩
    · obtain ⟨t, u, rfl, announces, rest⟩ := (completes_valuesKeyword table _).1 rest
      exact ⟨t, u, rfl, .inr ⟨announces, rest⟩⟩
    · have listed := (completes_names table).2 ⟨names, _, v, rfl, list, rest⟩
      exact ⟨_, _, rfl, .inl ⟨opens, listed⟩⟩

theorem completes_insert :
    (insert start .intoKeyword).Completes w r ↔
      ∃ into name names literals values opening u v,
        w = into :: name :: (u ++ values :: opening :: v) ∧ into.kind = .intoKeyword ∧
        name.kind = .identifier ∧ ColumnList names u ∧ values.kind = .valuesKeyword ∧
        opening.kind = .openParen ∧ ListUntil IsLiteral .closeParen literals v ∧
        Insert.checked ⟨start, name, names, literals⟩ values.start = r := by
  have takes_into (w : List Token) :
      (insert start .intoKeyword).Completes w r ↔ ∃ t u, w = t :: u ∧
        t.kind = .intoKeyword ∧ (insert start .tableName).Completes u r :=
    completes_of_due fun _ => rfl
  have takes_name (w : List Token) :
      (insert start .tableName).Completes w r ↔ ∃ t u, w = t :: u ∧
        t.kind = .identifier ∧ (insert start (.columnsOrValues t)).Completes u r :=
    completes_of_due fun _ => rfl
  have takes_opening (table : Token) (names : List Token) (valuesAt : Position) (w : List Token) :
      (insert start (.opening table names valuesAt)).Completes w r ↔ ∃ t u, w = t :: u ∧
        t.kind = .openParen ∧ (insert start (.value table names valuesAt [])).Completes u r :=
    completes_of_due fun _ => rfl
  simp only [takes_into, takes_name, takes_opening, completes_columnsOrValues,
    completes_valuesKeyword, completes_values, List.reverse_reverse]
  constructor
  · intro h
    rcases h with
      ⟨into, _, rfl, second, name, _, rfl, named, names, u, _, rfl, columns, values, _, rfl,
        announces, opening, v, rfl, opens, literals, rest⟩
    exact ⟨into, name, names, literals, values, opening, u, v, rfl, second, named, columns,
      announces, opens, rest⟩
  · intro h
    rcases h with ⟨into, name, names, literals, values, opening, u, v, rfl, second, named, columns,
      announces, opens, rest⟩
    exact ⟨into, _, rfl, second, name, _, rfl, named, names, u, _, rfl, columns, values, _, rfl,
      announces, opening, v, rfl, opens, literals, rest⟩

theorem completes_selectedTable (columns : List Token) :
    (select start (.tableName columns)).Completes w r ↔ ∃ t, w = [t] ∧ t.kind = .identifier ∧
      .ok (.select ⟨start, columns.reverse, t⟩) = r := by
  rw [completes_iff]
  constructor
  · intro h
    rcases h with ⟨t, u, a, rfl, taken, rest⟩
    simp only [take?, SelectStage.take?] at taken
    split at taken
    next named =>
      cases taken
      obtain ⟨rfl, rest⟩ := rest
      exact ⟨t, rfl, named, rest⟩
    next => cases taken
  · intro h
    rcases h with ⟨t, rfl, named, rest⟩
    have taken : (select start (.tableName columns)).take? t =
        some (.done (.ok (.select ⟨start, columns.reverse, t⟩))) := by
      simp [take?, SelectStage.take?, named]
    exact ⟨t, [], _, rfl, taken, rfl, rest⟩

theorem completes_select :
    (select start .firstColumn).Completes w r ↔
      (∃ star origin name, w = [star, origin, name] ∧ star.kind = .star ∧
        origin.kind = .fromKeyword ∧ name.kind = .identifier ∧
        .ok (.select ⟨start, [star], name⟩) = r) ∨
      ∃ columns name v, w = v ++ [name] ∧ ListUntil IsName .fromKeyword columns v ∧
        name.kind = .identifier ∧ .ok (.select ⟨start, columns, name⟩) = r := by
  have takes_from (columns w : List Token) :
      (select start (.fromKeyword columns)).Completes w r ↔ ∃ t u, w = t :: u ∧
        t.kind = .fromKeyword ∧ (select start (.tableName columns)).Completes u r :=
    completes_of_due fun _ => rfl
  have takes_column (w : List Token) :
      (select start (.column [])).Completes w r ↔ ∃ t u, w = t :: u ∧
        t.kind = .identifier ∧ (select start (.separator [t])).Completes u r :=
    completes_of_due fun _ => rfl
  rw [completes_of_either (l := .identifier) (by decide) (fun _ => rfl)]
  constructor
  · intro h
    rcases h with ⟨t, u, rfl, ⟨star, rest⟩ | ⟨named, rest⟩⟩
    · obtain ⟨origin, _, rfl, follows, rest⟩ := (takes_from _ _).1 rest
      obtain ⟨name, rfl, named, rest⟩ := (completes_selectedTable _).1 rest
      exact .inl ⟨t, origin, name, rfl, star, follows, named, rest⟩
    · have listed := (takes_column (t :: u)).2 ⟨t, u, rfl, named, rest⟩
      obtain ⟨columns, v, _, split, list, rest⟩ := completes_selected.1 listed
      obtain ⟨name, rfl, named, rest⟩ := (completes_selectedTable _).1 rest
      exact .inr ⟨columns, name, v, split, list, named, by simpa using rest⟩
  · intro h
    rcases h with
      ⟨star, origin, name, rfl, all, follows, named, rest⟩ | ⟨columns, name, v, rfl, list, rest⟩
    · have last := (completes_selectedTable [star]).2 ⟨name, rfl, named, rest⟩
      exact ⟨star, _, rfl, .inl ⟨all, (takes_from _ _).2 ⟨origin, _, rfl, follows, last⟩⟩⟩
    · have last := (completes_selectedTable columns.reverse).2 ⟨name, rfl, by simpa using rest⟩
      have listed := completes_selected.2 ⟨columns, v, [name], rfl, list, last⟩
      obtain ⟨t, u, split, named, rest⟩ := (takes_column _).1 listed
      exact ⟨t, u, split, .inr ⟨named, rest⟩⟩

theorem checked_of_balanced {i : Insert} (h : (Statement.insert i).Balanced)
    (valuesAt : Position) : i.checked valuesAt = .ok (.insert i) := by
  have agree : (!i.isPositional && i.names.length ≠ i.values.length) = false := by
    by_cases positional : i.names = []
    · simp [Insert.isPositional, positional]
    · have same := h positional
      simp [same]
  simp only [Insert.checked, agree]
  rfl

theorem checked_of_unbalanced {i : Insert} (h : ¬ (Statement.insert i).Balanced)
    (valuesAt : Position) :
    i.checked valuesAt = .error ⟨.countMismatch i.names.length i.values.length, valuesAt⟩ := by
  have differ : i.names ≠ [] ∧ i.names.length ≠ i.values.length := by
    simpa [Statement.Balanced] using h
  simp [Insert.checked, Insert.isPositional, differ.1, differ.2]

theorem checked_eq_ok_iff {i : Insert} {valuesAt : Position} {s : Statement} :
    i.checked valuesAt = .ok s ↔ .insert i = s ∧ s.Balanced := by
  constructor
  · intro h
    by_cases balanced : (Statement.insert i).Balanced
    · rw [checked_of_balanced balanced] at h
      cases h
      exact ⟨rfl, balanced⟩
    · rw [checked_of_unbalanced balanced] at h
      cases h
  · intro h
    rcases h with ⟨rfl, balanced⟩
    exact checked_of_balanced balanced valuesAt

theorem completes_opening {forms : List Form} : (opening forms).Completes w r ↔ ∃ t u form,
    w = t :: u ∧ form ∈ forms ∧ t.kind = form.keyword ∧ (begin t.start form).Completes u r := by
  rw [completes_iff]
  constructor
  · intro h
    rcases h with ⟨t, u, a, rfl, taken, rest⟩
    obtain ⟨form, member, kind, rfl⟩ := take?_opening_iff.1 taken
    exact ⟨t, u, form, rfl, member, kind, rest⟩
  · intro h
    rcases h with ⟨t, u, form, rfl, member, kind, rest⟩
    exact ⟨t, u, _, rfl, take?_opening_iff.2 ⟨form, member, kind, rfl⟩, rest⟩

theorem completes_empty : empty.Completes w r ↔ ∃ t u form, w = t :: u ∧
    t.kind = Form.keyword form ∧ (begin t.start form).Completes u r := by
  rw [empty, completes_opening]
  simp only [Form.mem_all, true_and]

theorem completes_empty_iff {s : Statement} : empty.Completes w (.ok s) ↔ Sentence w s := by
  rw [completes_empty]
  constructor
  · intro h
    rcases h with ⟨t, u, form, rfl, leads, rest⟩
    cases form with
    | createTable =>
      obtain ⟨table, name, opening, columns, v, rfl, second, named, opens, list, ⟨⟩⟩ :=
        completes_createTable.1 rest
      exact ⟨.createTable leads second named opens list, trivial⟩
    | insert =>
      obtain ⟨into, name, names, literals, values, opening, u, v, rfl, second, named, columns,
        announces, opens, list, checked⟩ := completes_insert.1 rest
      obtain ⟨rfl, balanced⟩ := checked_eq_ok_iff.1 checked
      exact ⟨.insert leads second named columns announces opens list, balanced⟩
    | select =>
      obtain ⟨star, origin, name, rfl, all, follows, named, ⟨⟩⟩ |
        ⟨columns, name, v, rfl, list, named, ⟨⟩⟩ := completes_select.1 rest
      · exact ⟨.selectAll leads all follows named, trivial⟩
      · exact ⟨.select leads list named, trivial⟩
  · intro h
    rcases h with ⟨phrase, balanced⟩
    cases phrase with
    | createTable leads second named opens list =>
      exact ⟨_, _, .createTable, rfl, leads, completes_createTable.2
        ⟨_, _, _, _, _, rfl, second, named, opens, list, rfl⟩⟩
    | insert leads second named columns announces opens list =>
      exact ⟨_, _, .insert, rfl, leads, completes_insert.2
        ⟨_, _, _, _, _, _, _, _, rfl, second, named, columns, announces, opens, list,
          checked_eq_ok_iff.2 ⟨rfl, balanced⟩⟩⟩
    | selectAll leads all follows named =>
      exact ⟨_, _, .select, rfl, leads, completes_select.2
        (.inl ⟨_, _, _, rfl, all, follows, named, rfl⟩)⟩
    | select leads list named =>
      exact ⟨_, _, .select, rfl, leads, completes_select.2 (.inr ⟨_, _, _, rfl, list, named, rfl⟩)⟩

theorem completes_of_phrase {s : Statement} (h : Phrase w s) : ∃ r, empty.Completes w r := by
  by_cases balanced : s.Balanced
  · exact ⟨.ok s, completes_empty_iff.2 ⟨h, balanced⟩⟩
  · cases h with
    | insert leads second named columns announces opens list =>
      exact ⟨_, completes_empty.2 ⟨_, _, .insert, rfl, leads, completes_insert.2
        ⟨_, _, _, _, _, _, _, _, rfl, second, named, columns, announces, opens, list, rfl⟩⟩⟩
    | createTable | selectAll | select => exact absurd trivial balanced

end Draft

-- The mistake is at the keyword in front of the values.
def Miscounted (w : List Token) (e : SyntaxError) : Prop :=
  ∃ before values after i, w = before ++ values :: after ∧ Phrase w (.insert i) ∧
    values.kind = .valuesKeyword ∧ i.names ≠ [] ∧ i.names.length ≠ i.values.length ∧
    e = ⟨.countMismatch i.names.length i.values.length, values.start⟩

theorem Draft.miscounted_of_completes {w : List Token} {e : SyntaxError}
    (h : Draft.empty.Completes w (.error e)) : Miscounted w e := by
  obtain ⟨t, v, form, rfl, leads, rest⟩ := Draft.completes_empty.1 h
  cases form with
  | createTable =>
    obtain ⟨_, _, _, _, _, _, _, _, _, _, ⟨⟩⟩ := Draft.completes_createTable.1 rest
  | insert =>
    obtain ⟨into, name, names, literals, values, opening, u, v, rfl, second, named, columns,
      announces, opens, list, checked⟩ := Draft.completes_insert.1 rest
    let i : Insert := ⟨t.start, name, names, literals⟩
    have unbalanced : ¬ (Statement.insert i).Balanced := by
      intro balanced
      rw [Draft.checked_of_balanced balanced] at checked
      cases checked
    rw [Draft.checked_of_unbalanced unbalanced] at checked
    cases checked
    obtain ⟨listed, differ⟩ : names ≠ [] ∧ names.length ≠ literals.length := by
      simpa [Statement.Balanced, i] using unbalanced
    exact ⟨t :: into :: name :: u, values, opening :: v, i, rfl,
      .insert leads second named columns announces opens list, announces, listed, differ, rfl⟩
  | select =>
    obtain ⟨_, _, _, _, _, _, _, ⟨⟩⟩ | ⟨_, _, _, _, _, _, ⟨⟩⟩ := Draft.completes_select.1 rest

theorem Draft.phrase_of_completes {w : List Token} {r : Except SyntaxError Statement}
    (h : Draft.empty.Completes w r) : ∃ s, Phrase w s := by
  cases r with
  | ok s => exact ⟨s, (Draft.completes_empty_iff.1 h).phrase⟩
  | error e =>
    obtain ⟨_, _, _, i, _, phrase, _⟩ := Draft.miscounted_of_completes h
    exact ⟨.insert i, phrase⟩

theorem Sentence.not_isEnd {w : List Token} {s : Statement} (h : Sentence w s) :
    ∀ t ∈ w, t.isEnd = false :=
  (Draft.completes_empty_iff.2 h).not_isEnd

end SqlReader
