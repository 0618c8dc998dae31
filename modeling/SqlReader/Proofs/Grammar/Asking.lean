import SqlReader.Proofs.Grammar.Acceptance
import SqlReader.Proofs.Grammar.Viable

set_option autoImplicit false

namespace SqlReader

inductive NamedColumns : List Kind → Prop
  | first : NamedColumns [.selectKeyword, .identifier]
  | more {taken : List Kind} (before : NamedColumns taken) :
      NamedColumns (taken ++ [.comma, .identifier])

namespace Draft

variable {d e f : Draft} {w : List Token} {t : Token} {taken : List Kind} {k : Kind}

def behindColumn : Draft → Bool
  | select _ (.separator _) => true
  | _ => false

theorem behindColumn_relabel (d : Draft) (m : Relabelling) :
    (d.relabel m).behindColumn = d.behindColumn := by
  cases d with
  | select start stage => cases stage <;> rfl
  | opening | createTable | insert => rfl

theorem expected_of_behindColumn (behind : d.behindColumn = true) :
    d.expected = [.fromKeyword] := by
  cases d with
  | select start stage =>
    cases stage with
    | separator columns => rfl
    | firstColumn | column | fromKeyword | tableName => cases behind
  | opening | createTable | insert => cases behind

theorem mem_allowed_iff :
    k ∈ d.allowed ↔ k ∈ d.expected ∨ (k = .comma ∧ d.behindColumn = true) := by
  cases d with
  | select start stage =>
    cases stage with
    | separator columns => simp [allowed, expected, SelectStage.expected, behindColumn, or_comm]
    | firstColumn | column | fromKeyword | tableName => simp [allowed, behindColumn]
  | opening | createTable | insert => simp [allowed, behindColumn]

-- The kinds that a draft has taken, for those on the way to a named column.
def Took : Draft → List Kind → Prop
  | opening _, taken => taken = []
  | select _ .firstColumn, taken => taken = [.selectKeyword]
  | select _ (.column _), taken => ∃ before, NamedColumns before ∧ taken = before ++ [.comma]
  | select _ (.separator _), taken => NamedColumns taken
  | _, _ => True

theorem Took.step (h : d.Took taken) (takes : d.take? t = some (.next e)) :
    e.Took (taken ++ [t.kind]) := by
  cases d with
  | opening forms =>
    obtain ⟨form, -, kind, ⟨⟩⟩ := take?_opening_iff.1 takes
    have nothing : taken = [] := h
    cases form with
    | select => rw [nothing, kind]; rfl
    | createTable | insert => trivial
  | createTable start stage =>
    cases stage <;> grind [take?, CreateStage.take?, CreateStage.take?.next, Took]
  | insert start stage =>
    cases stage <;> grind [take?, InsertStage.take?, InsertStage.take?.next, Took]
  | select start stage =>
    cases stage with
    | firstColumn =>
      have led : taken = [.selectKeyword] := h
      simp only [take?, SelectStage.take?, SelectStage.take?.next] at takes
      split at takes
      next => cases takes; trivial
      next =>
        split at takes
        next named => cases takes; rw [led, named]; exact .first
        next => cases takes
    | column columns =>
      obtain ⟨before, named, rfl⟩ := h
      simp only [take?, SelectStage.take?, SelectStage.take?.next] at takes
      split at takes
      next kind => cases takes; rw [kind, List.append_assoc]; exact .more named
      next => cases takes
    | separator columns =>
      have named : NamedColumns taken := h
      simp only [take?, SelectStage.take?, SelectStage.take?.next] at takes
      split at takes
      next comma => cases takes; rw [comma]; exact ⟨taken, named, rfl⟩
      next =>
        split at takes
        next => cases takes; trivial
        next => cases takes
    | fromKeyword columns =>
      simp only [take?, SelectStage.take?, SelectStage.take?.next] at takes
      split at takes
      next => cases takes; trivial
      next => cases takes
    | tableName columns =>
      simp only [take?, SelectStage.take?] at takes
      split at takes <;> cases takes

theorem Reaches.took (h : d.Reaches w e) (start : d.Took taken) :
    e.Took (taken ++ w.map Token.kind) := by
  induction h generalizing taken with
  | refl => rwa [List.map_nil, List.append_nil]
  | step takes later ih =>
    rw [List.map_cons, ← List.singleton_append, ← List.append_assoc]
    exact ih (start.step takes)

theorem Reaches.unique (h : d.Reaches w e) (other : d.Reaches w f) : e = f := by
  induction h with
  | refl => cases other; rfl
  | step takes later ih =>
    cases other with
    | step also other =>
      rw [takes] at also
      cases also
      exact ih other

theorem reaches_of_namedColumns (h : NamedColumns taken) :
    ∃ start columns, empty.Reaches (taken.map .ofKind) (select start (.separator columns)) := by
  induction h with
  | first => exact ⟨_, _, .step rfl (.step rfl .refl)⟩
  | more before ih =>
    obtain ⟨start, columns, reached⟩ := ih
    have comma := reached.snoc (t := .ofKind .comma) rfl
    have column := comma.snoc (t := .ofKind .identifier) rfl
    rw [List.append_assoc] at column
    refine ⟨start, .ofKind .identifier :: columns, ?_⟩
    rw [List.map_append]
    exact column

theorem Reaches.behindColumn_iff (h : empty.Reaches w d) :
    d.behindColumn = true ↔ NamedColumns (w.map Token.kind) := by
  constructor
  · intro behind
    have start : empty.Took [] := rfl
    have took := h.took start
    cases d with
    | select start stage =>
      cases stage with
      | separator columns => exact took
      | firstColumn | column | fromKeyword | tableName => cases behind
    | opening | createTable | insert => cases behind
  · intro named
    obtain ⟨start, columns, reached⟩ := reaches_of_namedColumns named
    have same := h.bare.unique reached
    rw [← behindColumn_relabel d .bare, same]
    rfl

end Draft

variable {w rest tokens : List Token} {stop : Position} {e : SyntaxError} {expected : List Kind}
  {name : String}

def SyntaxError.Expects (e : SyntaxError) (expected : List Kind) : Prop :=
  e.cause = .unexpectedEnd expected ∨ ∃ t, e.cause = .unexpected expected t

theorem SyntaxError.Expects.eq {kinds : List Kind} {t : Token}
    (expects : (unexpected kinds t).Expects expected) : kinds = expected := by
  rcases expects with ended | ⟨u, found⟩
  · simp only [unexpected] at ended
    split at ended <;> cases ended
    rfl
  · simp only [unexpected] at found
    split at found <;> cases found
    rfl

theorem not_expects_of_completes {r : Except SyntaxError Statement}
    (complete : Draft.empty.Completes w r)
    (fails : (readOne stop (w ++ rest)).result = .error e) : ¬ e.Expects expected := by
  have read := Draft.read_of_completes complete stop [] rest
  simp only [readOne, read] at fails
  cases r with
  | error f =>
    obtain rfl : f = e := Except.error.inj fails
    obtain ⟨_, _, _, _, _, _, _, _, _, rfl⟩ := Draft.miscounted_of_completes complete
    simp [SyntaxError.Expects]
  | ok s =>
    have trails : trailing? (skipSemicolon rest) = some e := by
      cases trailing : trailing? (skipSemicolon rest) with
      | none => simp [trailing] at fails
      | some f => simpa [trailing] using fails
    cases left : skipSemicolon rest with
    | nil => rw [left] at trails; cases trails
    | cons t later =>
      rw [left, trailing?] at trails
      split at trails
      next => cases trails
      next => cases trails; simp [SyntaxError.Expects, SyntaxError.trailing]

theorem exists_refusing (fails : parse name tokens = .error e) (expects : e.Expects expected) :
    ∃ w rest d, beforeEnd tokens = w ++ rest ∧ Draft.empty.Reaches w d ∧
      d.take? (facing (endStart name tokens) rest) = none ∧ d.expected = expected ∧
      e = .unexpected expected (facing (endStart name tokens) rest) := by
  obtain ⟨behind, whole, ends, start⟩ := exists_beforeEnd name tokens
  have read : (readOne (endPosition name tokens) (beforeEnd tokens ++ behind)).result =
      .error e := by
    rw [← whole]
    exact fails
  rw [← start]
  generalize beforeEnd tokens = v at read ⊢
  generalize endPosition name tokens = stop at read ends ⊢
  cases Draft.empty.splits v with
  | complete complete =>
    rw [List.append_assoc] at read
    exact absurd expects (not_expects_of_completes complete read)
  | @refused w rest t d reached refuses =>
    have found := reached.read stop [] (t :: rest ++ behind)
    rw [← List.append_assoc, List.cons_append, Draft.read, refuses] at found
    simp only [readOne, found] at read
    obtain rfl : d.refusal t = e := Except.error.inj read
    rw [Draft.refusal_eq] at expects ⊢
    split at expects
    next => simp [SyntaxError.Expects] at expects
    next typed =>
      obtain rfl := expects.eq
      exact ⟨w, t :: rest, d, rfl, reached, refuses, rfl, by rw [if_neg typed]; rfl⟩
  | @short _ d reached =>
    have found := reached.read stop [] behind
    rw [Draft.read_of_separates rfl (.inl ends)] at found
    simp only [readOne, found] at read
    obtain rfl := Except.error.inj read
    obtain rfl := expects.eq
    have ending : (facing (facing stop behind).start []).isEnd = true := rfl
    refine ⟨v, [], d, (List.append_nil v).symm, reached,
      Draft.take?_eq_none_of_isEnd ending, rfl, ?_⟩
    simp [SyntaxError.unexpected, ends, ending]
    rfl

/-- A message that says what is expected says everything with which a sentence could go on there,
but for the comma behind a named column. -/
theorem viable_iff_expected_or_comma (name : String) (tokens : List Token) (e : SyntaxError)
    (expected : List Kind) (fails : parse name tokens = .error e) (expects : e.Expects expected) :
    ∃ w rest, beforeEnd tokens = w ++ rest ∧
      e = .unexpected expected (facing (endStart name tokens) rest) ∧
      Viable (w.map Token.kind) ∧
      ¬ Viable (w.map Token.kind ++ [(facing (endStart name tokens) rest).kind]) ∧
      (∀ k, Viable (w.map Token.kind ++ [k]) ↔
        k ∈ expected ∨ (k = .comma ∧ NamedColumns (w.map Token.kind))) ∧
      (NamedColumns (w.map Token.kind) → expected = [.fromKeyword]) := by
  obtain ⟨w, rest, d, split, reached, refuses, rfl, same⟩ := exists_refusing fails expects
  have follows (k : Kind) : Viable (w.map Token.kind ++ [k]) ↔ k ∈ d.allowed := by
    rw [viable_snoc_iff reached.bare, Draft.allowed_relabel]
  refine ⟨w, rest, split, same, viable_of_reaches reached.bare, ?_, fun k => ?_, fun named => ?_⟩
  · rw [follows]
    exact Draft.take?_eq_none_iff.1 refuses
  · rw [follows, Draft.mem_allowed_iff, reached.behindColumn_iff]
  · exact Draft.expected_of_behindColumn (reached.behindColumn_iff.2 named)

theorem viable_iff_expected_or_comma_early_end :
    let token (kind : Kind) (value : String) (offset : UInt32) : Token :=
      ⟨kind, value, ⟨⟨offset, "a"⟩, ⟨offset, "a"⟩⟩⟩
    let tokens := [token .insertKeyword "insert" 0, token .intoKeyword "into" 7,
      token .identifier "t" 12, token .endOfInput "EOF" 14, token .semicolon ";" 20]
    let expected := [Kind.openParen, .valuesKeyword]
    let e : SyntaxError := ⟨.unexpectedEnd expected, ⟨14, "a"⟩⟩
    parse "b" tokens = .error e ∧ e.Expects expected ∧
      ∃ w rest, beforeEnd tokens = w ++ rest ∧
        e = .unexpected expected (facing (endStart "b" tokens) rest) ∧
        Viable (w.map Token.kind) ∧
        ¬ Viable (w.map Token.kind ++ [(facing (endStart "b" tokens) rest).kind]) ∧
        (∀ k, Viable (w.map Token.kind ++ [k]) ↔
          k ∈ expected ∨ (k = .comma ∧ NamedColumns (w.map Token.kind))) ∧
        (NamedColumns (w.map Token.kind) → expected = [.fromKeyword]) := by
  intro token tokens expected e
  have fails : parse "b" tokens = .error e := by decide
  have expects : e.Expects expected := .inl rfl
  exact ⟨fails, expects, viable_iff_expected_or_comma "b" tokens e expected fails expects⟩

theorem comma_not_expected_behind_column :
    let source := Source.ofText none "SELECT a b"
    let token (kind : Kind) (value : String) (start stop : UInt32) : Token :=
      ⟨kind, value, ⟨⟨start, "shell"⟩, ⟨stop, "shell"⟩⟩⟩
    let taken := [token .selectKeyword "SELECT" 0 6, token .identifier "a" 7 8]
    let found := token .identifier "b" 9 10
    let tokens := taken ++ [found, token .endOfInput "EOF" 10 10]
    let e : SyntaxError := ⟨.unexpected [.fromKeyword] found, found.start⟩
    source.tokenize = .ok tokens ∧ parse "shell" tokens = .error e ∧
      Viable (taken.map Token.kind ++ [.comma]) ∧ Kind.comma ∉ [Kind.fromKeyword] := by
  intro source token taken found tokens e
  have named : NamedColumns (taken.map Token.kind) := .first
  obtain ⟨start, columns, reached⟩ := Draft.reaches_of_namedColumns named
  have viable : Viable (taken.map Token.kind ++ [.comma]) :=
    viable_of_allowed reached List.mem_cons_self
  exact ⟨by decide +kernel, by decide, viable, by decide⟩

end SqlReader
