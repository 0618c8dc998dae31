import SqlReader.Proofs.Render.Writing

set_option autoImplicit false

namespace SqlReader

theorem toList_commaSeparated (items : List String) :
    (commaSeparated items).toList = [',', ' '].intercalate (items.map String.toList) := by
  rw [commaSeparated, String.toList_intercalate]
  rfl

theorem Token.lexical_of_reserved (place : Position) {entry : String × Kind}
    (h : entry ∈ Kind.reserved) : (Token.fixed place entry.2 entry.1).Lexical := by
  have each : ∀ entry ∈ Kind.reserved,
      LexicalClass.word.munch entry.1.toList = entry.1.toList ∧ entry.1.toList ≠ [] ∧
        Kind.ofWord entry.1.toList = entry.2 := by decide
  obtain ⟨whole, nonempty, same⟩ := each entry h
  rw [← whole] at nonempty
  have holds := LexicalClass.munch_holds nonempty
  rw [whole] at holds
  exact ⟨.word, holds, congrArg some same⟩

theorem Writes.keyword (place : Position) (entry : String × Kind) (h : entry ∈ Kind.reserved) :
    Writes [.fixed place entry.2 entry.1] entry.1.toList :=
  .token (Token.lexical_of_reserved place h)

theorem Writes.values {tokens : List Token} (nonempty : tokens ≠ [])
    (lexical : ∀ t ∈ tokens, t.Lexical) (place : Position) :
    Writes (SqlReader.commaParted place (tokens.map fun t => [t])) (joinValues tokens).toList := by
  have each : ∀ t ∈ tokens, Writes [t] t.value.toList := fun t member => .token (lexical t member)
  rw [joinValues, toList_commaSeparated, List.map_map]
  exact .commaParted nonempty each place

theorem CreateTable.render_eq (s : CreateTable) :
    s.render = "CREATE TABLE " ++ s.table.value ++ " ("
      ++ commaSeparated (s.columns.map fun column => column.1.value ++ " " ++ column.2.value)
      ++ ")" := rfl

theorem Insert.render_eq (s : Insert) :
    s.render = "INSERT INTO " ++ s.table.value
      ++ (if s.isPositional then "" else " (" ++ joinValues s.names ++ ")")
      ++ " VALUES (" ++ joinValues s.values ++ ")" := rfl

theorem CreateTable.writes {s : CreateTable} (h : s.WellFormed)
    (lexical : ∀ t ∈ (Statement.createTable s).tokens, t.Lexical) :
    Writes s.layout s.render.toList := by
  simp only [Statement.tokens, List.mem_cons, List.mem_append] at lexical
  have types : s.types ≠ [] := by
    rw [← List.length_pos_iff, ← h.paired, List.length_pos_iff]
    exact h.nonempty
  have nonempty : s.columns ≠ [] := by simp [columns, List.zip_eq_nil_iff, h.nonempty, types]
  have each : ∀ column ∈ s.columns, Writes [column.1, column.2]
      (column.1.value.toList ++ ' ' :: column.2.value.toList) := by
    intro column member
    have members := List.of_mem_zip member
    have name := Writes.token (lexical column.1 (.inr (.inl members.1)))
    have type := Writes.token (lexical column.2 (.inr (.inr members.2)))
    exact name.spaced type
  have create := Writes.keyword s.start ("CREATE", .createKeyword) (by decide)
  have table := Writes.keyword s.start ("TABLE", .tableKeyword) (by decide)
  have name := Writes.token (lexical s.table (.inl rfl))
  have list := (Writes.commaParted nonempty each s.start).enclosed s.start
  have whole := create.spaced (table.spaced (name.spaced list))
  simpa [layout, render_eq, toList_commaSeparated, Function.comp_def] using whole

theorem Insert.writes {s : Insert} (h : s.WellFormed)
    (lexical : ∀ t ∈ (Statement.insert s).tokens, t.Lexical) : Writes s.layout s.render.toList := by
  simp only [Statement.tokens, List.mem_cons, List.mem_append] at lexical
  have insert := Writes.keyword s.start ("INSERT", .insertKeyword) (by decide)
  have into := Writes.keyword s.start ("INTO", .intoKeyword) (by decide)
  have name := Writes.token (lexical s.table (.inl rfl))
  have announce := Writes.keyword s.start ("VALUES", .valuesKeyword) (by decide)
  have values : ∀ t ∈ s.values, t.Lexical := fun t member => lexical t (.inr (.inr member))
  have list := (Writes.values h.nonempty values s.start).enclosed s.start
  by_cases none : s.names = []
  · have positional : s.isPositional = true := List.isEmpty_iff.2 none
    have whole := insert.spaced (into.spaced (name.spaced (announce.spaced list)))
    simpa [layout, render_eq, positional] using whole
  · have listed : ¬ s.isPositional = true := fun empty => none (List.isEmpty_iff.1 empty)
    have names : ∀ t ∈ s.names, t.Lexical := fun t member => lexical t (.inr (.inl member))
    have columns := (Writes.values none names s.start).enclosed s.start
    have whole := insert.spaced (into.spaced (name.spaced (columns.spaced (announce.spaced list))))
    simpa [layout, render_eq, listed] using whole

theorem Select.writes {s : Select} (h : s.WellFormed)
    (lexical : ∀ t ∈ (Statement.select s).tokens, t.Lexical) : Writes s.layout s.render.toList := by
  simp only [Statement.tokens, List.mem_cons] at lexical
  have nonempty : s.columns ≠ [] := by
    rcases h.columns with ⟨star, only, -⟩ | ⟨nonempty, -⟩
    · simp [only]
    · exact nonempty
  have select := Writes.keyword s.start ("SELECT", .selectKeyword) (by decide)
  have columns := Writes.values nonempty (fun t member => lexical t (.inr member)) s.start
  have origin := Writes.keyword s.start ("FROM", .fromKeyword) (by decide)
  have name := Writes.token (lexical s.table (.inl rfl))
  have whole := select.spaced (columns.spaced (origin.spaced name))
  simpa [layout, render] using whole

theorem Statement.writes {s : Statement} (h : s.WellFormed) (lexical : ∀ t ∈ s.tokens, t.Lexical) :
    Writes s.layout s.render.toList := by
  cases s with
  | createTable s => exact CreateTable.writes h lexical
  | insert s => exact Insert.writes h lexical
  | select s => exact Select.writes h lexical

end SqlReader
