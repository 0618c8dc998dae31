import SqlReader.Proofs.Grammar

set_option autoImplicit false

namespace SqlReader

structure CreateTable.WellFormed (s : CreateTable) : Prop where
  named : s.table.kind = .identifier
  nonempty : s.names ≠ []
  paired : s.names.length = s.types.length
  names : ∀ t ∈ s.names, t.kind = .identifier
  types : ∀ t ∈ s.types, t.kind.isColumnType

structure Insert.WellFormed (s : Insert) : Prop where
  named : s.table.kind = .identifier
  names : ∀ t ∈ s.names, t.kind = .identifier
  nonempty : s.values ≠ []
  values : ∀ t ∈ s.values, t.kind.isLiteral
  balanced : s.names ≠ [] → s.names.length = s.values.length

structure Select.WellFormed (s : Select) : Prop where
  named : s.table.kind = .identifier
  columns : (∃ star, s.columns = [star] ∧ star.kind = .star) ∨
    (s.columns ≠ [] ∧ ∀ t ∈ s.columns, t.kind = .identifier)

def Statement.WellFormed : Statement → Prop
  | .createTable s => s.WellFormed
  | .insert s => s.WellFormed
  | .select s => s.WellFormed

def Statement.tokens : Statement → List Token
  | .createTable s => s.table :: (s.names ++ s.types)
  | .insert s => s.table :: (s.names ++ s.values)
  | .select s => s.table :: s.columns

def Token.fixed (place : Position) (kind : Kind) (value : String) : Token :=
  ⟨kind, value, ⟨place, place⟩⟩

def commaParted (place : Position) (items : List (List Token)) : List Token :=
  [Token.fixed place .comma ","].intercalate items

def enclosed (place : Position) (w : List Token) : List Token :=
  Token.fixed place .openParen "(" :: (w ++ [Token.fixed place .closeParen ")"])

def CreateTable.layout (s : CreateTable) : List Token :=
  .fixed s.start .createKeyword "CREATE" :: .fixed s.start .tableKeyword "TABLE" :: s.table ::
    enclosed s.start (commaParted s.start (s.columns.map fun column => [column.1, column.2]))

def Insert.layout (s : Insert) : List Token :=
  .fixed s.start .insertKeyword "INSERT" :: .fixed s.start .intoKeyword "INTO" :: s.table ::
    ((if s.isPositional then [] else
        enclosed s.start (commaParted s.start (s.names.map fun t => [t]))) ++
      .fixed s.start .valuesKeyword "VALUES" ::
        enclosed s.start (commaParted s.start (s.values.map fun t => [t])))

def Select.layout (s : Select) : List Token :=
  .fixed s.start .selectKeyword "SELECT" :: (commaParted s.start (s.columns.map fun t => [t]) ++
    [.fixed s.start .fromKeyword "FROM", s.table])

def Statement.layout : Statement → List Token
  | .createTable s => s.layout
  | .insert s => s.layout
  | .select s => s.layout

namespace ListUntil

variable {α : Type} {item : α → List Token → Prop} {stop : Kind} {items : List α} {w : List Token}

theorem ne_nil (h : ListUntil item stop items w) : items ≠ [] := by
  cases h <;> simp

theorem item_of_mem (h : ListUntil item stop items w) {a : α} (member : a ∈ items) :
    ∃ v, item a v ∧ ∀ t ∈ v, t ∈ w := by
  induction h with
  | @last b v t first stops =>
    obtain rfl := List.mem_singleton.1 member
    exact ⟨v, first, fun t inside => List.mem_append_left _ inside⟩
  | @more b rest v w comma first separates later ih =>
    rcases List.mem_cons.1 member with rfl | behind
    · exact ⟨v, first, fun t inside => List.mem_append_left _ inside⟩
    · obtain ⟨u, found, within⟩ := ih behind
      refine ⟨u, found, fun t inside => ?_⟩
      exact List.mem_append_right v (List.mem_cons_of_mem comma (within t inside))

theorem commaParted {write : α → List Token} (nonempty : items ≠ [])
    (each : ∀ a ∈ items, item a (write a)) {t : Token} (stops : t.kind = stop) (place : Position) :
    ListUntil item stop items (commaParted place (items.map write) ++ [t]) := by
  induction items with
  | nil => contradiction
  | cons a rest ih =>
    have first := each a List.mem_cons_self
    cases rest with
    | nil => simpa [SqlReader.commaParted] using ListUntil.last first stops
    | cons b rest =>
      have later := ih (by simp) fun c member => each c (List.mem_cons_of_mem a member)
      have whole : SqlReader.commaParted place ((a :: b :: rest).map write) ++ [t] =
          write a ++ Token.fixed place .comma "," ::
            (SqlReader.commaParted place ((b :: rest).map write) ++ [t]) := by
        simp [SqlReader.commaParted, List.intercalate_cons_cons]
      rw [whole]
      exact .more first rfl later

end ListUntil

theorem Phrase.mem_of_mem_tokens {w : List Token} {s : Statement} (h : Phrase w s) {t : Token}
    (member : t ∈ s.tokens) : t ∈ w := by
  cases h with
  | @createTable create table name opening columns w leads second named opens list =>
    have column {a : Token × Token} (inside : a ∈ columns) : a.1 ∈ w ∧ a.2 ∈ w := by
      obtain ⟨v, ⟨-, -, rfl⟩, within⟩ := list.item_of_mem inside
      exact ⟨within _ (by simp), within _ (by simp)⟩
    simp only [Statement.tokens, List.mem_cons, List.mem_append, List.mem_map] at member
    rcases member with rfl | ⟨a, inside, rfl⟩ | ⟨a, inside, rfl⟩
    · simp
    · simp [(column inside).1]
    · simp [(column inside).2]
  | @insert insert into name values opening names literals v w leads second named columns announces
      opens list =>
    have value (inside : t ∈ literals) : t ∈ w := by
      obtain ⟨v, ⟨-, rfl⟩, within⟩ := list.item_of_mem inside
      exact within t (by simp)
    have name (inside : t ∈ names) : t ∈ v := by
      cases columns with
      | absent => cases inside
      | present opens list =>
        obtain ⟨v, ⟨-, rfl⟩, within⟩ := list.item_of_mem inside
        exact List.mem_cons_of_mem _ (within t (by simp))
    simp only [Statement.tokens, List.mem_cons, List.mem_append] at member
    rcases member with rfl | inside | inside
    · simp
    · simp [name inside]
    · simp [value inside]
  | selectAll leads all origin named =>
    simp only [Statement.tokens, List.mem_cons] at member
    rcases member with rfl | rfl | inside
    · simp
    · simp
    · cases inside
  | @select select name columns w leads list named =>
    simp only [Statement.tokens, List.mem_cons] at member
    rcases member with rfl | inside
    · simp
    · obtain ⟨v, ⟨-, rfl⟩, within⟩ := list.item_of_mem inside
      simp [within t (by simp)]

theorem Sentence.wellFormed {w : List Token} {s : Statement} (h : Sentence w s) :
    s.WellFormed := by
  obtain ⟨phrase, balanced⟩ := h
  cases phrase with
  | @createTable _ _ name _ columns w leads second named opens list =>
    have column {a : Token × Token} (inside : a ∈ columns) :
        a.1.kind = .identifier ∧ a.2.kind.isColumnType := by
      obtain ⟨v, ⟨identifier, type, -⟩, -⟩ := list.item_of_mem inside
      exact ⟨identifier, type⟩
    constructor
    · exact named
    · simpa using list.ne_nil
    · simp
    · intro t member
      obtain ⟨a, inside, rfl⟩ := List.mem_map.1 member
      exact (column inside).1
    · intro t member
      obtain ⟨a, inside, rfl⟩ := List.mem_map.1 member
      exact (column inside).2
  | @insert _ _ name _ _ names literals v w leads second named columns announces opens list =>
    constructor
    · exact named
    · intro t member
      cases columns with
      | absent => cases member
      | present opens list =>
        obtain ⟨v, ⟨identifier, -⟩, -⟩ := list.item_of_mem member
        exact identifier
    · exact list.ne_nil
    · intro t member
      obtain ⟨v, ⟨literal, -⟩, -⟩ := list.item_of_mem member
      exact literal
    · exact balanced
  | @selectAll _ star _ name leads all origin named =>
    exact ⟨named, .inl ⟨star, rfl, all⟩⟩
  | @select _ name columns w leads list named =>
    refine ⟨named, .inr ⟨list.ne_nil, ?_⟩⟩
    intro t member
    obtain ⟨v, ⟨identifier, -⟩, -⟩ := list.item_of_mem member
    exact identifier

theorem listUntil_tokens {p : Token → Prop} {stop : Kind} {tokens : List Token}
    (nonempty : tokens ≠ []) (each : ∀ t ∈ tokens, p t) {t : Token} (stops : t.kind = stop)
    (place : Position) :
    ListUntil (fun t v => p t ∧ v = [t]) stop tokens
      (commaParted place (tokens.map fun t => [t]) ++ [t]) :=
  ListUntil.commaParted nonempty (fun t member => ⟨each t member, rfl⟩) stops place

theorem CreateTable.WellFormed.sentence {s : CreateTable} (h : s.WellFormed) :
    Sentence s.layout (.createTable s) := by
  have names : s.columns.map Prod.fst = s.names := List.map_fst_zip (Nat.le_of_eq h.paired)
  have types : s.columns.map Prod.snd = s.types :=
    List.map_snd_zip (Nat.le_of_eq h.paired.symm)
  have nonempty : s.columns ≠ [] := by
    intro empty
    rw [empty, List.map_nil] at names
    exact h.nonempty names.symm
  have each : ∀ a ∈ s.columns, IsColumn a [a.1, a.2] := by
    intro a member
    have name : a.1 ∈ s.names := names ▸ List.mem_map_of_mem member
    have type : a.2 ∈ s.types := types ▸ List.mem_map_of_mem member
    exact ⟨h.names a.1 name, h.types a.2 type, rfl⟩
  have list := ListUntil.commaParted nonempty each (t := .fixed s.start .closeParen ")") rfl s.start
  have phrase : Phrase s.layout
      (.createTable ⟨s.start, s.table, s.columns.map Prod.fst, s.columns.map Prod.snd⟩) :=
    .createTable rfl rfl h.named rfl list
  rw [names, types] at phrase
  exact ⟨phrase, trivial⟩

theorem Insert.WellFormed.sentence {s : Insert} (h : s.WellFormed) :
    Sentence s.layout (.insert s) := by
  have columns : ColumnList s.names (if s.isPositional then [] else
      enclosed s.start (commaParted s.start (s.names.map fun t => [t]))) := by
    by_cases none : s.names = []
    · have empty : s.isPositional = true := List.isEmpty_iff.2 none
      rw [if_pos empty, none]
      exact .absent
    · have listed : ¬ s.isPositional = true := fun empty => none (List.isEmpty_iff.1 empty)
      have list := listUntil_tokens none h.names (t := .fixed s.start .closeParen ")") rfl s.start
      rw [if_neg listed]
      exact .present rfl list
  have list :=
    listUntil_tokens h.nonempty h.values (t := .fixed s.start .closeParen ")") rfl s.start
  exact ⟨.insert rfl rfl h.named columns rfl rfl list, h.balanced⟩

theorem Select.WellFormed.sentence {s : Select} (h : s.WellFormed) :
    Sentence s.layout (.select s) := by
  obtain ⟨start, columns, table⟩ := s
  obtain ⟨named, ⟨star, rfl, all⟩ | ⟨nonempty, names⟩⟩ := h
  · exact ⟨.selectAll rfl all rfl named, trivial⟩
  · have list := listUntil_tokens nonempty names (t := .fixed start .fromKeyword "FROM") rfl start
    have whole : Select.layout ⟨start, columns, table⟩ =
        .fixed start .selectKeyword "SELECT" ::
          (commaParted start (columns.map fun t => [t]) ++ [.fixed start .fromKeyword "FROM"] ++
            [table]) := by
      simp [Select.layout]
    rw [whole]
    exact ⟨.select rfl list named, trivial⟩

theorem Statement.WellFormed.sentence {s : Statement} (h : s.WellFormed) : Sentence s.layout s := by
  cases s with
  | createTable s => exact CreateTable.WellFormed.sentence h
  | insert s => exact Insert.WellFormed.sentence h
  | select s => exact Select.WellFormed.sentence h

end SqlReader
