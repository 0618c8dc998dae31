import SqlReader.Proofs.Script.Sentences

set_option autoImplicit false

namespace SqlReader

-- The runs are statements read in full, each with its first token; the pending token leads the one
-- in which reading breaks off.
inductive Course (stop : Position) : List Token → List (Token × Statement) → Option Token →
    Except SyntaxError (List Statement) → Prop
  | finish {rest : List Token} (ends : beforeEnd rest = []) : Course stop rest [] none (.ok [])
  | semicolon {t : Token} {rest : List Token} {runs : List (Token × Statement)}
      {pending : Option Token} {r : Except SyntaxError (List Statement)}
      (skipped : t.kind = .semicolon) (later : Course stop rest runs pending r) :
      Course stop (t :: rest) runs pending r
  | stray {t : Token} {rest : List Token} (inside : t.isEnd = false) (other : t.kind ≠ .semicolon)
      (noForm : Form.ofKind? t.kind = none) :
      Course stop (t :: rest) [] none (.error (.unexpected (Form.all.map Form.keyword) t))
  | broken {lead : Token} {form : Form} {rest : List Token} {e : SyntaxError}
      (leads : lead.kind = form.keyword)
      (fails : ((Draft.begin lead.start form).read stop [lead] rest).result = .error e) :
      Course stop (lead :: rest) [] (some lead) (.error e)
  | last {lead : Token} {w rest : List Token} {s : Statement} (sentence : Sentence (lead :: w) s)
      (ends : beforeEnd rest = []) : Course stop (lead :: w ++ rest) [(lead, s)] none (.ok [s])
  | trailing {lead t : Token} {w rest : List Token} {s : Statement}
      (sentence : Sentence (lead :: w) s) (inside : t.isEnd = false)
      (other : t.kind ≠ .semicolon) :
      Course stop (lead :: w ++ t :: rest) [(lead, s)] none (.error (.trailing t))
  | more {lead t : Token} {w rest : List Token} {s : Statement} {runs : List (Token × Statement)}
      {pending : Option Token} {r : Except SyntaxError (List Statement)}
      (sentence : Sentence (lead :: w) s) (separates : t.kind = .semicolon)
      (later : Course stop rest runs pending r) :
      Course stop (lead :: w ++ t :: rest) ((lead, s) :: runs) pending (r.map (s :: ·))

def runEvents (run : Token × Statement) : List Event := [.dispatching run.1, .parsed run.2]

variable {stop : Position} {tokens rest w : List Token} {lead t : Token} {s : Statement}
  {form : Form} {runs : List (Token × Statement)} {pending : Option Token}
  {r : Except SyntaxError (List Statement)}

theorem Draft.read_empty_of_form (leads : lead.kind = form.keyword) (rest : List Token) :
    Draft.empty.read stop [] (lead :: rest) =
      (Draft.begin lead.start form).read stop [lead] rest := by
  have taken : Draft.empty.take? lead = some (.next (begin lead.start form)) :=
    take?_opening_iff.2 ⟨form, Form.mem_all form, leads, rfl⟩
  rw [read, taken]

theorem Draft.read_empty_of_stray (noForm : Form.ofKind? t.kind = none) (rest : List Token) :
    Draft.empty.read stop [] (t :: rest) =
      ⟨.error (.unexpected (Form.all.map Form.keyword) t), [], t :: rest⟩ := by
  have refused : Draft.empty.take? t = none := by
    cases taken : Draft.empty.take? t with
    | none => rfl
    | some a =>
      obtain ⟨form, -, kind, -⟩ := take?_opening_iff.1 taken
      rw [Form.ofKind?_eq_some_iff.2 kind] at noForm
      cases noForm
  rw [read, refused]
  rfl

theorem statementEvents_of_form (leads : lead.kind = form.keyword) (rest : List Token)
    (result : Except SyntaxError Statement) :
    statementEvents (lead :: rest) result =
      .dispatching lead :: match result with | .ok s => [.parsed s] | .error _ => [] := by
  have some : (Form.ofKind? lead.kind).isSome = true := by
    rw [Form.ofKind?_eq_some_iff.2 leads]
    rfl
  cases result <;> simp [statementEvents, some]

theorem Sentence.readMany (h : Sentence (lead :: w) s) (stop : Position) (rest : List Token) :
    readMany stop (lead :: w ++ rest) = afterStatement stop (runEvents (lead, s)) s rest := by
  obtain ⟨_, _, same, leads, -⟩ := h.phrase.spelled
  obtain ⟨rfl, rfl⟩ := List.cons.inj same
  rw [readMany_of_sentence h, List.cons_append, statementEvents_of_form leads]
  rfl

theorem Course.readMany (h : Course stop tokens runs pending r) :
    readMany stop tokens = ⟨runs.flatMap runEvents ++ pending.toList.map .dispatching, r⟩ := by
  induction h with
  | finish ends => exact readMany_of_beforeEnd ends
  | semicolon skipped later ih => exact (readMany_of_semicolon skipped).trans ih
  | stray inside other noForm =>
    rw [readMany_of_statement inside other, Draft.read_empty_of_stray noForm]
    simp [statementEvents, noForm]
  | @broken lead form rest e leads fails =>
    have inside : lead.isEnd = false := by
      rw [Token.isEnd, leads]
      cases form <;> rfl
    have other : lead.kind ≠ .semicolon := by
      rw [leads]
      cases form <;> decide
    rw [readMany_of_statement inside other, Draft.read_empty_of_form leads]
    simp [fails, statementEvents_of_form leads]
  | last sentence ends =>
    rw [sentence.readMany, afterStatement_of_beforeEnd ends]
    simp
  | @trailing lead t w rest s sentence inside other =>
    rw [sentence.readMany, afterStatement, if_neg (by simp [inside]), if_neg other]
    simp
  | @more lead t w rest s runs pending r sentence separates later ih =>
    have inside : ¬ t.isEnd = true := by simp [Token.isEnd, separates]
    rw [sentence.readMany, afterStatement, if_neg inside, if_pos separates, ih]
    simp [continueScript]

theorem exists_sentence_of_read (leads : lead.kind = form.keyword)
    (read : ((Draft.begin lead.start form).read stop [lead] rest).result = .ok s) :
    ∃ w ahead, rest = w ++ ahead ∧ Sentence (lead :: w) s := by
  rw [← Draft.read_empty_of_form leads] at read
  obtain ⟨whole, split, complete⟩ := Draft.completes_of_read_eq_ok read
  have sentence := Draft.completes_empty_iff.1 complete
  obtain ⟨lead', w, rfl, -⟩ := sentence.phrase.spelled
  obtain ⟨rfl, behind⟩ := List.cons.inj split
  exact ⟨w, _, behind, sentence⟩

theorem exists_course (stop : Position) (tokens : List Token) :
    ∃ runs pending r, Course stop tokens runs pending r := by
  -- The tokens behind a statement or a semicolon are fewer.
  induction size : tokens.length using Nat.strongRecOn generalizing tokens with
  | ind n ih =>
    cases tokens with
    | nil => exact ⟨_, _, _, .finish rfl⟩
    | cons t rest =>
      rw [List.length_cons] at size
      cases ends : t.isEnd with
      | true => exact ⟨_, _, _, .finish (by simp [beforeEnd, ends])⟩
      | false =>
        by_cases semicolon : t.kind = .semicolon
        · obtain ⟨runs, pending, r, later⟩ := ih rest.length (by omega) rest rfl
          exact ⟨_, _, _, .semicolon semicolon later⟩
        · cases kind : Form.ofKind? t.kind with
          | none => exact ⟨_, _, _, .stray ends semicolon kind⟩
          | some form =>
            have leads := Form.ofKind?_eq_some_iff.1 kind
            cases read : ((Draft.begin t.start form).read stop [t] rest).result with
            | error e => exact ⟨_, _, _, .broken leads read⟩
            | ok s =>
              obtain ⟨w, ahead, rfl, sentence⟩ := exists_sentence_of_read leads read
              cases ahead with
              | nil => exact ⟨_, _, _, .last sentence rfl⟩
              | cons u later =>
                rw [List.length_append, List.length_cons] at size
                cases closes : u.isEnd with
                | true => exact ⟨_, _, _, .last sentence (by simp [beforeEnd, closes])⟩
                | false =>
                  by_cases separates : u.kind = .semicolon
                  · obtain ⟨runs, pending, r, course⟩ := ih later.length (by omega) later rfl
                    exact ⟨_, _, _, .more sentence separates course⟩
                  · exact ⟨_, _, _, .trailing sentence closes separates⟩

theorem Course.body_eq (h : Course stop tokens runs pending r) {body : List Statement}
    (read : r = .ok body) : body = runs.map Prod.snd ∧ pending = none := by
  induction h generalizing body with
  | finish | last =>
    cases read
    exact ⟨rfl, rfl⟩
  | semicolon skipped later ih => exact ih read
  | stray | broken | trailing => cases read
  | @more lead t w rest s runs pending r sentence separates later ih =>
    cases r with
    | error e => cases read
    | ok body =>
      cases read
      obtain ⟨rfl, rfl⟩ := ih rfl
      exact ⟨rfl, rfl⟩

theorem Sentence.start_eq (h : Sentence (lead :: w) s) : s.start = lead.start := by
  obtain ⟨_, _, same, -, start, -⟩ := h.phrase.spelled
  obtain ⟨rfl, rfl⟩ := List.cons.inj same
  exact start

theorem Course.start_eq (h : Course stop tokens runs pending r) :
    ∀ run ∈ runs, run.2.start = run.1.start := by
  induction h with
  | finish | stray | broken => simp
  | semicolon skipped later ih => exact ih
  | last sentence | trailing sentence => simp [sentence.start_eq]
  | more sentence separates later ih => exact List.forall_mem_cons.2 ⟨sentence.start_eq, ih⟩

end SqlReader
