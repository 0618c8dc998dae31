import SqlReader.Proofs.Render.RoundTrip

set_option autoImplicit false

namespace SqlReader

def quote (s : String) : String := String.ofList (Apostrophe.enclose s.toList)

theorem doubled_double (s : List Char) : Doubled (Apostrophe.double s) := by
  induction s with
  | nil => exact .nil
  | cons c s ih =>
    rw [Apostrophe.double]
    by_cases same : c = '\''
    · rw [if_pos same]
      exact .pair ih
    · rw [if_neg same]
      exact .plain same ih

theorem Doubled.exists_double {s : List Char} (h : Doubled s) : ∃ x, s = Apostrophe.double x := by
  induction h with
  | nil => exact ⟨[], rfl⟩
  | @plain c s other rest ih =>
    obtain ⟨x, rfl⟩ := ih
    exact ⟨c :: x, by rw [Apostrophe.double, if_neg other]⟩
  | @pair s rest ih =>
    obtain ⟨x, rfl⟩ := ih
    exact ⟨'\'' :: x, by rw [Apostrophe.double, if_pos rfl]⟩

theorem text_holds_iff {s : List Char} :
    LexicalClass.text.Holds s ↔ ∃ x, s = Apostrophe.enclose x := by
  constructor
  · intro h
    obtain ⟨inner, rfl, doubled⟩ := h
    obtain ⟨x, rfl⟩ := doubled.exists_double
    exact ⟨x, rfl⟩
  · intro h
    obtain ⟨x, rfl⟩ := h
    exact ⟨Apostrophe.double x, rfl, doubled_double x⟩

theorem Token.Lexical.exists_quote {t : Token} (h : t.Lexical) (text : t.kind = .text) :
    ∃ x, t.value = quote x := by
  have holds := (h.of_kind (c := .text) (by rw [text]; rfl)).1
  obtain ⟨x, whole⟩ := text_holds_iff.1 holds
  refine ⟨String.ofList x, ?_⟩
  simp [quote, ← whole]

theorem Literal.text_of_quote {l : Literal} {x : String} (h : l.token.value = quote x) :
    l.text = x := by
  simp [text, h, quote, Apostrophe.content_enclose]

theorem Literal.ofToken?_text {t : Token} (text : t.kind = .text) :
    Literal.ofToken? t = some ⟨.text, t.start, t⟩ := by
  rw [ofToken?, text]
  rfl

theorem literals_of_quotes {i : Insert} {texts : List String}
    (h : i.values.map (fun t => (t.kind, t.value)) = texts.map fun x => (Kind.text, quote x)) :
    i.literals.map (fun l => (l.form, l.text)) = texts.map fun x => (LiteralForm.text, x) := by
  rw [Insert.literals]
  generalize i.values = values at h ⊢
  induction values generalizing texts with
  | nil =>
    cases texts with
    | nil => rfl
    | cons x texts => cases h
  | cons t values ih =>
    cases texts with
    | nil => cases h
    | cons x texts =>
      obtain ⟨first, rest⟩ := List.cons.inj h
      obtain ⟨kind, value⟩ := Prod.mk.inj first
      have literal : Literal.text ⟨.text, t.start, t⟩ = x := Literal.text_of_quote value
      simp only [List.filterMap_cons, Literal.ofToken?_text kind, List.map_cons, literal, ih rest]

def quotedInsert (texts : List String) : Insert :=
  let place : Position := ⟨0, ""⟩
  ⟨place, .fixed place .identifier "t", [], texts.map fun x => .fixed place .text (quote x)⟩

theorem quotedInsert_wellFormed {texts : List String} (nonempty : texts ≠ []) :
    (quotedInsert texts).WellFormed := by
  constructor
  · rfl
  · intro t member
    cases member
  · simpa [quotedInsert] using nonempty
  · intro t member
    obtain ⟨x, -, rfl⟩ := List.mem_map.1 member
    rfl
  · intro listed
    contradiction

theorem quotedInsert_lexical (texts : List String) :
    ∀ t ∈ (Statement.insert (quotedInsert texts)).tokens, t.Lexical := by
  intro t member
  simp only [Statement.tokens, quotedInsert, List.nil_append, List.mem_cons, List.mem_map] at member
  rcases member with rfl | ⟨x, -, rfl⟩
  · exact ⟨.word, ⟨'t', [], by simp [Token.fixed], by decide, by simp⟩, by decide⟩
  · have holds : LexicalClass.text.Holds (quote x).toList :=
      text_holds_iff.2 ⟨x.toList, by simp [quote]⟩
    exact ⟨.text, holds, rfl⟩

theorem quotedInsert_render (texts : List String) :
    (quotedInsert texts).render =
      "INSERT INTO t VALUES (" ++ commaSeparated (texts.map quote) ++ ")" := by
  have values : joinValues (quotedInsert texts).values = commaSeparated (texts.map quote) := by
    simp [joinValues, quotedInsert, Token.fixed, Function.comp_def]
  have positional : (quotedInsert texts).isPositional = true := rfl
  have table : (quotedInsert texts).table.value = "t" := rfl
  rw [Insert.render_eq, values, if_pos positional, table]
  rfl

theorem insert_quoted {texts : List String} (nonempty : texts ≠ []) (name : String) :
    ∃ i : Insert,
      (⟨name, "INSERT INTO t VALUES (" ++ commaSeparated (texts.map quote) ++ ")"⟩ :
        Source).statement = .ok (.insert i) ∧ i.isPositional = true ∧
      i.values.map (fun t => (t.kind, t.value)) = texts.map fun x => (Kind.text, quote x) := by
  have wellFormed := quotedInsert_wellFormed nonempty
  obtain ⟨again, read, alike⟩ := statement_of_render (s := .insert (quotedInsert texts)) wellFormed
    (quotedInsert_lexical texts) name
  rw [Statement.render, quotedInsert_render] at read
  cases again with
  | createTable s => cases alike
  | select s => cases alike
  | insert i =>
    have same : i.relabel .unplaced = (quotedInsert texts).relabel .unplaced :=
      Statement.insert.inj alike
    have positional := i.isPositional_relabel .unplaced
    rw [same, Insert.isPositional_relabel] at positional
    have values := congrArg (fun j => j.values.map fun t => (t.kind, t.value)) same
    simp only [Insert.relabel, List.map_map, Function.comp_def] at values
    refine ⟨i, read, positional.symm, ?_⟩
    simpa [quotedInsert, Token.fixed, Function.comp_def] using values

/-- Any texts, quoted, are the values of a statement and are read back; and any text token, also one
in front of a character that is refused, is what its own text is quoted to. -/
theorem quote_round_trip :
    (∀ (name : String) (texts : List String), texts ≠ [] →
      ∃ i : Insert,
        (⟨name, "INSERT INTO t VALUES (" ++ commaSeparated (texts.map quote) ++ ")"⟩ :
          Source).statement = .ok (.insert i) ∧ i.isPositional = true ∧
        i.values.map (fun t => (t.kind, t.value)) = texts.map (fun x => (Kind.text, quote x)) ∧
        i.literals.map (fun l => (l.form, l.text)) = texts.map fun x => (LiteralForm.text, x)) ∧
    ∀ (source : Source), ∀ t ∈ source.scan.tokens source.name, t.kind = .text →
      ∃ l, Literal.ofToken? t = some l ∧ l.form = .text ∧ quote l.text = t.value := by
  constructor
  · intro name texts nonempty
    obtain ⟨i, read, positional, values⟩ := insert_quoted nonempty name
    exact ⟨i, read, positional, values, literals_of_quotes values⟩
  · intro source t member text
    obtain ⟨x, value⟩ := (Source.lexical member).exists_quote text
    have content : Literal.text ⟨.text, t.start, t⟩ = x := Literal.text_of_quote value
    exact ⟨_, Literal.ofToken?_text text, rfl, by rw [content, value]⟩

theorem quote_round_trip_apostrophes :
    (∃ i : Insert,
      (⟨"shell", "INSERT INTO t VALUES (" ++ commaSeparated (["'", "); --"].map quote) ++ ")"⟩ :
        Source).statement = .ok (.insert i) ∧ i.isPositional = true ∧
      i.values.map (fun t => (t.kind, t.value)) =
        ["'", "); --"].map (fun x => (Kind.text, quote x)) ∧
      i.literals.map (fun l => (l.form, l.text)) =
        ["'", "); --"].map fun x => (LiteralForm.text, x)) ∧
    ∃ l, Literal.ofToken? ⟨.text, "'it''s'", ⟨⟨0, "shell"⟩, ⟨7, "shell"⟩⟩⟩ = some l ∧
      l.form = .text ∧ quote l.text = "'it''s'" := by
  have found : ⟨.text, "'it''s'", ⟨⟨0, "shell"⟩, ⟨7, "shell"⟩⟩⟩ ∈
      (⟨"shell", "'it''s' ?"⟩ : Source).scan.tokens "shell" := by
    decide +kernel
  exact ⟨quote_round_trip.1 "shell" ["'", "); --"] (by decide),
    quote_round_trip.2 ⟨"shell", "'it''s' ?"⟩ _ found rfl⟩

end SqlReader
