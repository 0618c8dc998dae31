import SqlReader.Proofs.Relabelling.Reading
import SqlReader.Proofs.Render.Statement
import SqlReader.Proofs.Script.Sentences

set_option autoImplicit false

namespace SqlReader

def renderScript (body : List Statement) : String :=
  String.join (body.map fun s => s.render ++ ";\n")

theorem Statement.render_unplaced (s : Statement) : (s.relabel .unplaced).render = s.render := by
  have values (tokens : List Token) :
      joinValues (tokens.map (Token.relabel .unplaced)) = joinValues tokens := by
    simp [joinValues, Function.comp_def]
  cases s with
  | createTable s =>
    simp [render, relabel, CreateTable.relabel, CreateTable.render_eq, CreateTable.columns,
      List.zip_map, Function.comp_def]
  | insert s =>
    have positional := s.isPositional_relabel .unplaced
    simp only [render, relabel, Insert.render_eq, positional]
    simp [Insert.relabel, values]
  | select s => simp [render, relabel, Select.relabel, Select.render, values]

theorem lexical_of_sentence {source : Source} {tokens w : List Token} {s : Statement}
    (read : source.tokenize = .ok tokens) (sentence : Sentence w s)
    (within : ∀ t ∈ w, t ∈ tokens) : ∀ t ∈ s.tokens, t.Lexical := by
  intro t member
  have inside := sentence.phrase.mem_of_mem_tokens member
  have notEnd := sentence.not_isEnd t inside
  obtain ⟨-, rfl⟩ := Source.tokenize_eq_ok_iff.1 read
  rcases List.mem_append.1 (within t inside) with scanned | ending
  · exact Source.lexical scanned
  · obtain rfl := List.mem_singleton.1 ending
    cases notEnd

theorem statement_of_render {s : Statement} (h : s.WellFormed) (lexical : ∀ t ∈ s.tokens, t.Lexical)
    (name : String) : ∃ again, (⟨name, s.render⟩ : Source).statement = .ok again ∧
      again.relabel .unplaced = s.relabel .unplaced := by
  have written : Written s.layout s.render.toList := by
    simpa using (Statement.writes h lexical).before (by simp) .nil
  obtain ⟨tokens, read, same⟩ := written.tokenize name
  let stop := endPosition name tokens
  have layout : (readOne stop (s.layout ++ [Token.ending ⟨0, ""⟩])).result = .ok s :=
    readOne_eq_ok_iff.2 ⟨s.layout, _, rfl, h.sentence, rfl⟩
  have expected := readOne_relabel .unplaced stop (s.layout ++ [Token.ending ⟨0, ""⟩])
  have found := readOne_relabel .unplaced stop tokens
  rw [same, expected, layout] at found
  obtain ⟨again, parsed, alike⟩ := relabelResult_eq_ok found.symm
  refine ⟨again, ?_, alike⟩
  rw [Source.statement, read]
  exact parsed

def scriptLayout (body : List Statement) : List Token :=
  body.flatMap fun s => s.layout ++ [.fixed s.start .semicolon ";"]

theorem sentences_scriptLayout {body : List Statement} (h : ∀ s ∈ body, s.WellFormed)
    {rest : List Token} (ends : beforeEnd rest = []) :
    Sentences (scriptLayout body ++ rest) body := by
  induction body with
  | nil => exact .finish ends
  | cons s body ih =>
    have later := ih fun t member => h t (List.mem_cons_of_mem s member)
    have sentence := (h s List.mem_cons_self).sentence
    have whole := Sentences.more (t := .fixed s.start .semicolon ";") sentence rfl later
    simpa [scriptLayout] using whole

theorem written_renderScript {body : List Statement}
    (h : ∀ s ∈ body, s.WellFormed ∧ ∀ t ∈ s.tokens, t.Lexical) :
    Written (scriptLayout body) (renderScript body).toList := by
  induction body with
  | nil => exact .nil
  | cons s body ih =>
    have later := ih fun t member => h t (List.mem_cons_of_mem s member)
    obtain ⟨wellFormed, lexical⟩ := h s List.mem_cons_self
    have ends : LexicalClass.blank.Ends (renderScript body).toList := by
      cases body with
      | nil => simp [renderScript, LexicalClass.Ends]
      | cons t rest =>
        obtain ⟨wellFormed, lexical⟩ := h t (by simp)
        obtain ⟨d, text, first, solid⟩ := (Statement.writes wellFormed lexical).solid
        simp [renderScript, LexicalClass.Ends, LexicalClass.Continues, first, solid]
    have newline : LexicalClass.blank.Holds ['\n'] := LexicalClass.blank_holds (by decide)
    have gap : Written (scriptLayout body) ('\n' :: (renderScript body).toList) :=
      .silent newline rfl ends later
    have parts : ∀ d ∈ ('\n' :: (renderScript body).toList).head?, Parts d := by
      intro d next
      cases next
      exact .inl (by decide)
    have line : Writes (s.layout ++ [.fixed s.start .semicolon ";"]) (s.render.toList ++ [';']) :=
      (Statement.writes wellFormed lexical).closed (m := .semicolon)
        (by simp [Token.fixed, Mark.char]) rfl
    simpa [scriptLayout, renderScript] using line.before parts gap

theorem script_of_render {body : List Statement}
    (h : ∀ s ∈ body, s.WellFormed ∧ ∀ t ∈ s.tokens, t.Lexical) (name : String) :
    ∃ again, (⟨name, renderScript body⟩ : Source).script = .ok again ∧
      again.map (Statement.relabel .unplaced) = body.map (Statement.relabel .unplaced) := by
  have written := written_renderScript h
  obtain ⟨tokens, read, same⟩ := written.tokenize name
  let stop := endPosition name tokens
  have sentences : Sentences (scriptLayout body ++ [Token.ending ⟨0, ""⟩]) body :=
    sentences_scriptLayout (fun s member => (h s member).1) rfl
  have layout := readMany_of_sentences sentences stop
  have expected := readMany_relabel .unplaced stop (scriptLayout body ++ [Token.ending ⟨0, ""⟩])
  have found := readMany_relabel .unplaced stop tokens
  rw [same, expected, layout] at found
  obtain ⟨again, parsed, alike⟩ := relabelResult_eq_ok found.symm
  refine ⟨again, ?_, alike⟩
  rw [Source.script, read]
  exact (parseScript_eq name tokens).trans parsed

theorem wellFormed_of_statement {source : Source} {s : Statement} (h : source.statement = .ok s) :
    s.WellFormed ∧ ∀ t ∈ s.tokens, t.Lexical := by
  rw [Source.statement] at h
  cases read : source.tokenize with
  | error e => rw [read] at h; cases h
  | ok tokens =>
    rw [read] at h
    obtain ⟨w, rest, rfl, sentence, -⟩ := readOne_eq_ok_iff.1 h
    have lexical := lexical_of_sentence read sentence fun t => List.mem_append_left rest
    exact ⟨sentence.wellFormed, lexical⟩

theorem wellFormed_of_script {source : Source} {body : List Statement}
    (h : source.script = .ok body) :
    ∀ s ∈ body, s.WellFormed ∧ ∀ t ∈ s.tokens, t.Lexical := by
  intro s member
  rw [Source.script] at h
  cases read : source.tokenize with
  | error e => rw [read] at h; cases h
  | ok tokens =>
    rw [read] at h
    have sentences : Sentences tokens body :=
      sentences_of_readMany ((parseScript_eq source.name tokens).symm.trans h)
    obtain ⟨w, sentence, within⟩ := sentences.exists_sentence member
    have lexical := lexical_of_sentence read sentence fun t inside => within.subset inside
    exact ⟨sentence.wellFormed, lexical⟩

theorem render_round_trip (source : Source) :
    (∀ s, source.statement = .ok s →
      ∃ again, (⟨source.name, s.render⟩ : Source).statement = .ok again ∧
        again.relabel .unplaced = s.relabel .unplaced ∧ again.render = s.render) ∧
    ∀ body, source.script = .ok body →
      ∃ again, (⟨source.name, renderScript body⟩ : Source).script = .ok again ∧
        again.length = body.length ∧
        again.map (Statement.relabel .unplaced) = body.map (Statement.relabel .unplaced) := by
  constructor
  · intro s read
    obtain ⟨wellFormed, lexical⟩ := wellFormed_of_statement read
    obtain ⟨again, parsed, alike⟩ := statement_of_render wellFormed lexical source.name
    have same : again.render = s.render := by
      rw [← again.render_unplaced, alike, s.render_unplaced]
    exact ⟨again, parsed, alike, same⟩
  · intro body read
    obtain ⟨again, parsed, alike⟩ := script_of_render (wellFormed_of_script read) source.name
    have length : again.length = body.length := by simpa using congrArg List.length alike
    exact ⟨again, parsed, length, alike⟩

theorem render_round_trip_comment_in_text :
    (∃ s again, (⟨"shell", "insert into t values('a''--b')"⟩ : Source).statement = .ok s ∧
      (⟨"shell", s.render⟩ : Source).statement = .ok again ∧
      again.relabel .unplaced = s.relabel .unplaced ∧ again.render = s.render) ∧
    ∃ body again, (⟨"shell", "insert into t values('a''--b')"⟩ : Source).script = .ok body ∧
      (⟨"shell", renderScript body⟩ : Source).script = .ok again ∧ again.length = body.length ∧
      again.map (Statement.relabel .unplaced) = body.map (Statement.relabel .unplaced) := by
  let insert : Statement := .insert ⟨⟨0, "shell"⟩,
    ⟨.identifier, "t", ⟨⟨12, "shell"⟩, ⟨13, "shell"⟩⟩⟩, [],
    [⟨.text, "'a''--b'", ⟨⟨21, "shell"⟩, ⟨29, "shell"⟩⟩⟩]⟩
  have statement :
      (⟨"shell", "insert into t values('a''--b')"⟩ : Source).statement = .ok insert := by
    decide +kernel
  have script :
      (⟨"shell", "insert into t values('a''--b')"⟩ : Source).script = .ok [insert] := by
    decide +kernel
  obtain ⟨again, parsed⟩ := (render_round_trip _).1 insert statement
  obtain ⟨lines, read⟩ := (render_round_trip _).2 [insert] script
  exact ⟨⟨insert, again, statement, parsed⟩, ⟨[insert], lines, script, read⟩⟩

end SqlReader
