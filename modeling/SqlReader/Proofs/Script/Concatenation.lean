import SqlReader.Proofs.Relabelling.Places
import SqlReader.Proofs.Relabelling.Parsing
import SqlReader.Proofs.Scan.Appending
import SqlReader.Proofs.Scan.Written
import SqlReader.Proofs.Script.Sentences

set_option autoImplicit false

namespace SqlReader

variable {m : Relabelling} {stop : Position} {tokens rest : List Token} {t : Token}

theorem Sentences.readMany_append {body : List Statement} (h : Sentences tokens body)
    (semicolon : t.kind = .semicolon) :
    (readMany stop (beforeEnd tokens ++ t :: rest)).result =
      (readMany stop rest).result.map (body ++ ·) := by
  induction h with
  | finish ends =>
    rw [ends, List.nil_append, readMany_of_semicolon semicolon]
    cases (readMany stop rest).result <;> rfl
  | @semicolon u tokens body skipped later ih =>
    rw [beforeEnd_cons skipped, List.cons_append, readMany_of_semicolon skipped]
    exact ih
  | @last w tokens s sentence ends =>
    rw [beforeEnd_append sentence.not_isEnd, ends, List.append_nil, readMany_of_sentence sentence]
    exact afterStatement_of_semicolon semicolon _ s
  | @more w tokens s u body sentence separates later ih =>
    rw [beforeEnd_append sentence.not_isEnd, beforeEnd_cons separates, List.append_assoc,
      List.cons_append, readMany_of_sentence sentence, afterStatement_of_semicolon separates, ih]
    cases (readMany stop rest).result <;> rfl

theorem Source.relabel_script_eq_self {s : Source} (values : ∀ v, m.value v = v)
    (places : ∀ n ≤ s.text.utf8ByteSize, m.position (.ofNat s.name n) = .ofNat s.name n) :
    relabelResult m (List.map (Statement.relabel m)) s.script = s.script := by
  have same : s.tokenize = relabelResult m (List.map (Token.relabel m)) s.tokenize := by
    rw [tokenize_eq_outcome]
    apply outcome_relabel values (k := 0)
    intro n _ within
    rw [Nat.zero_add, byteLength_toList] at within
    exact places n within
  rw [relabel_script m s s.name, ← same]
  rfl

theorem Source.script_positions (s : Source) (keeps : Position → Bool)
    (places : ∀ n ≤ s.text.utf8ByteSize, keeps (.ofNat s.name n) = true) :
    (∀ body, s.script = .ok body → ∀ b ∈ body, ∀ p ∈ b.positions, keeps p = true) ∧
    ∀ e, s.script = .error e → ∀ p ∈ e.positions, keeps p = true := by
  -- The other places can be moved without a change in what is read.
  have same := Source.relabel_script_eq_self (m := .moving keeps) (fun _ => rfl) fun n within =>
    Relabelling.moving_eq_iff.2 (places n within)
  constructor
  · intro body read b member p here
    rw [read] at same
    have bodies : body.map (Statement.relabel (.moving keeps)) = body.map id := by
      rw [List.map_id]
      exact Except.ok.inj same
    have fixed := Statement.position_eq_of_relabel (List.map_inj_left.1 bodies b member) p here
    exact Relabelling.moving_eq_iff.1 fixed
  · intro e read p here
    rw [read] at same
    have fixed := SyntaxError.position_eq_of_relabel (Except.error.inj same) p here
    exact Relabelling.moving_eq_iff.1 fixed

theorem tokenize_append {name first : String}
    (read : (⟨name, first⟩ : Source).tokenize = .ok tokens) (second : String) :
    let raise := Relabelling.raise (first.utf8ByteSize + 3)
    ∃ t : Token, t.kind = .semicolon ∧
      (⟨name, first ++ "\n;\n" ++ second⟩ : Source).tokenize =
        (relabelResult raise (List.map (Token.relabel raise))
          (⟨name, second⟩ : Source).tokenize).map (beforeEnd tokens ++ t :: ·) := by
  intro raise
  obtain ⟨nothing, -⟩ := Source.tokenize_eq_ok_iff.1 read
  have covered := Lexeme.covers_split nothing
  obtain ⟨t, semicolon, whole⟩ := outcome_semicolon covered name second.toList
  have text : (first ++ "\n;\n" ++ second).toList =
      first.toList ++ '\n' :: ';' :: '\n' :: second.toList := by
    simp
  have farther : outcome name (0 + byteLength first.toList + 3) second.toList =
      relabelResult raise (List.map (Token.relabel raise)) (outcome name 0 second.toList) := by
    rw [byteLength_toList, Nat.add_assoc]
    exact outcome_relabel (fun _ => rfl) fun n _ _ => Relabelling.raise_ofNat _ name n
  refine ⟨t, semicolon, ?_⟩
  rw [Source.beforeEnd_tokens read, tokenize_eq_outcome, tokenize_eq_outcome, text, whole, farther]
  rfl

theorem parseScript_append (name : String) {before : List Token} {body : List Statement}
    (read : parseScript name before = .ok body) (semicolon : t.kind = .semicolon)
    (nonempty : tokens ≠ []) :
    parseScript name (beforeEnd before ++ t :: tokens) =
      (parseScript name tokens).map (body ++ ·) := by
  have stop : endPosition name (beforeEnd before ++ t :: tokens) = endPosition name tokens := by
    have last := List.getLast?_eq_some_getLast nonempty
    have split : beforeEnd before ++ t :: tokens = (beforeEnd before ++ [t]) ++ tokens := by simp
    rw [split, endPosition, endPosition, List.getLast?_append, last]
    rfl
  rw [parseScript_eq] at read ⊢
  rw [parseScript_eq, stop]
  exact (sentences_of_readMany read).readMany_append semicolon

theorem script_join {name first : String} {body : List Statement}
    (read : (⟨name, first⟩ : Source).script = .ok body) (second : String) :
    let raise := Relabelling.raise (first.utf8ByteSize + 3)
    (⟨name, first ++ "\n;\n" ++ second⟩ : Source).script =
      (relabelResult raise (List.map (Statement.relabel raise))
        (⟨name, second⟩ : Source).script).map (body ++ ·) := by
  intro raise
  rw [Source.script] at read
  cases before : (⟨name, first⟩ : Source).tokenize with
  | error e =>
    rw [before] at read
    cases read
  | ok tokens =>
    rw [before] at read
    obtain ⟨t, semicolon, whole⟩ := tokenize_append before second
    rw [Source.script, Source.script, whole]
    cases behind : (⟨name, second⟩ : Source).tokenize with
    | error e => rfl
    | ok later =>
      have nonempty := Source.tokens_ne_nil behind
      have raised := parseScript_relabel raise name name nonempty
      have moved : later.map (Token.relabel raise) ≠ [] := by simpa using nonempty
      have parsed := parseScript_append name read semicolon moved
      rw [raised] at parsed
      exact parsed

/-- A script behind another gives its statements behind those of the other, or its mistake, with all
places farther on and none past what an offset can count. -/
theorem script_append (name? : Option String) (first second : String) (body : List Statement)
    (read : (Source.ofText name? first).script = .ok body)
    (short : (first ++ "\n;\n" ++ second).utf8ByteSize < UInt32.size) :
    let k := first.utf8ByteSize + 3
    let whole := (Source.ofText name? (first ++ "\n;\n" ++ second)).script
    (∀ later, (Source.ofText name? second).script = .ok later →
      whole = .ok (body ++ later.map (Statement.relabel (.raise k))) ∧
      ∀ s ∈ later, ∀ p ∈ s.positions, p.offset.toNat + k < UInt32.size) ∧
    ∀ e, (Source.ofText name? second).script = .error e →
      whole = .error (e.relabel (.raise k)) ∧
      ∀ p ∈ e.positions, p.offset.toNat + k < UInt32.size := by
  intro k whole
  have joined : whole = (relabelResult (.raise k) (List.map (Statement.relabel (.raise k)))
      (Source.ofText name? second).script).map (body ++ ·) :=
    script_join read second
  let inside (p : Position) : Bool := p.offset.toNat + k < UInt32.size
  have places : ∀ n ≤ second.utf8ByteSize,
      inside (.ofNat (name?.getD defaultName) n) = true := by
    intro n within
    have size : (first ++ "\n;\n" ++ second).utf8ByteSize = k + second.utf8ByteSize := by
      simp only [String.utf8ByteSize_append]
      rfl
    rw [size] at short
    have offset : (UInt32.ofNat n).toNat = n := UInt32.toNat_ofNat_of_lt' (by omega)
    simp only [inside, Position.ofNat, offset, decide_eq_true_eq]
    omega
  have bound := Source.script_positions (.ofText name? second) inside places
  simp only [inside, decide_eq_true_eq] at bound
  constructor
  · intro later parsed
    rw [joined, parsed]
    exact ⟨rfl, bound.1 later parsed⟩
  · intro e parsed
    rw [joined, parsed]
    exact ⟨rfl, bound.2 e parsed⟩

theorem script_append_open_comment :
    let first := "select a from t --é"
    let script (text : String) := (Source.ofText none text).script
    let token (kind : Kind) (value : String) (start stop : UInt32) : Token :=
      ⟨kind, value, ⟨⟨start, "shell"⟩, ⟨stop, "shell"⟩⟩⟩
    let select : Statement :=
      .select ⟨⟨0, "shell"⟩, [token .identifier "a" 7 8], token .identifier "t" 14 15⟩
    script first = .ok [select] ∧
      script (first ++ "\n;\n" ++ "select * from u") =
        .ok [select,
          .select ⟨⟨23, "shell"⟩, [token .star "*" 30 31], token .identifier "u" 37 38⟩] ∧
      script (first ++ "\n;\n" ++ "select 'b'") =
        .error ⟨.unexpected [.identifier, .star] (token .text "'b'" 30 33), ⟨30, "shell"⟩⟩ ∧
      script (first ++ "\n;\n" ++ " 'b") = .error ⟨.unrecognised "'", ⟨24, "shell"⟩⟩ := by
  intro first script token select
  have read : script first = .ok [select] := by decide +kernel
  have statement : script "select * from u" =
      .ok [.select ⟨⟨0, "shell"⟩, [token .star "*" 7 8], token .identifier "u" 14 15⟩] := by
    decide +kernel
  have refused : script "select 'b'" =
      .error ⟨.unexpected [.identifier, .star] (token .text "'b'" 7 10), ⟨7, "shell"⟩⟩ := by
    decide +kernel
  have unread : script " 'b" = .error ⟨.unrecognised "'", ⟨1, "shell"⟩⟩ := by decide +kernel
  refine ⟨read, ?_, ?_, ?_⟩
  · exact ((script_append none first _ _ read (by decide +kernel)).1 _ statement).1
  · exact ((script_append none first _ _ read (by decide +kernel)).2 _ refused).1
  · exact ((script_append none first _ _ read (by decide +kernel)).2 _ unread).1

end SqlReader
