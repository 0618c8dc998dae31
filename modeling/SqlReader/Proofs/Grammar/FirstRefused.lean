import SqlReader.Proofs.Grammar.Acceptance
import SqlReader.Proofs.Grammar.Viable

set_option autoImplicit false

namespace SqlReader

-- A comma may stand where no more than `FROM` is asked for.
structure AsksFor (taken expected : List Kind) : Prop where
  viable : ∀ k ∈ expected, Viable (taken ++ [k])
  complete : ∀ k, Viable (taken ++ [k]) →
    k ∈ expected ∨ (k = .comma ∧ expected = [.fromKeyword])

structure BrokenOff (taken : List Kind) (stop : Position) (e : SyntaxError) : Prop where
  unfinished : ¬ Accepted taken
  error : ∃ expected, e = ⟨.unexpectedEnd expected, stop⟩ ∧ AsksFor taken expected

def MistakenForType (taken : List Kind) (t : Token) : Prop :=
  TypeDue taken ∧ (t.kind = .identifier ∨ t.kind.isKeyword = true)

/-- No sentence goes on with the token `t`, and the mistake is that token. -/
structure FirstRefused (taken : List Kind) (t : Token) (e : SyntaxError) : Prop where
  refused : ¬ Viable (taken ++ [t.kind])
  position : e.position = t.start
  trailing : e.cause = .trailing t ↔ Accepted taken
  unknownType : e.cause = .unknownType t ↔ MistakenForType taken t
  otherwise : ¬ Accepted taken → ¬ MistakenForType taken t →
    ∃ expected, e.cause = .unexpected expected t ∧ AsksFor taken expected

/-- The mistake is in the number of the values of an `INSERT` that the tokens begin with, or at the
place where no sentence goes on with them. -/
inductive Located (stop : Position) : List Token → SyntaxError → Prop
  | miscounted {w rest : List Token} {e : SyntaxError} (mistake : Miscounted w e) :
      Located stop (w ++ rest) e
  | brokenOff {w : List Token} {e : SyntaxError} (viable : Viable (w.map Token.kind))
      (mistake : BrokenOff (w.map Token.kind) stop e) : Located stop w e
  | refused {w rest : List Token} {t : Token} {e : SyntaxError}
      (viable : Viable (w.map Token.kind)) (mistake : FirstRefused (w.map Token.kind) t e) :
      Located stop (w ++ t :: rest) e

variable {d : Draft} {w behind : List Token} {t : Token} {stop : Position}

section Reached

variable (reached : Draft.empty.Reaches w d)
include reached

theorem asksFor_expected : AsksFor (w.map Token.kind) d.expected := by
  have follows (k : Kind) : Viable (w.map Token.kind ++ [k]) ↔ k ∈ d.allowed := by
    rw [viable_snoc_iff reached.bare, Draft.allowed_relabel]
  constructor
  · intro k asked
    exact (follows k).2 (Draft.mem_allowed_of_expected asked)
  · intro k viable
    exact Draft.mem_expected_of_allowed ((follows k).1 viable)

theorem brokenOff_of_reaches (stop : Position) :
    BrokenOff (w.map Token.kind) stop ⟨.unexpectedEnd d.expected, stop⟩ :=
  ⟨not_accepted_of_reaches reached.bare, d.expected, rfl, asksFor_expected reached⟩

theorem firstRefused_of_refuses (refuses : d.take? t = none) (inside : t.isEnd = false) :
    FirstRefused (w.map Token.kind) t (d.refusal t) := by
  have unfinished := not_accepted_of_reaches reached.bare
  have due : MistakenForType (w.map Token.kind) t ↔
      d.awaitsType = true ∧ (t.kind = .identifier ∨ t.kind.isKeyword = true) := by
    rw [MistakenForType, typeDue_iff reached.bare, Draft.awaitsType_relabel]
  have refused : ¬ Viable (w.map Token.kind ++ [t.kind]) := by
    rw [viable_snoc_iff reached.bare, Draft.allowed_relabel]
    exact Draft.take?_eq_none_iff.1 refuses
  have unexpected : SyntaxError.unexpected d.expected t =
      ⟨.unexpected d.expected t, t.start⟩ := by
    simp [SyntaxError.unexpected, inside]
  rw [Draft.refusal_eq, unexpected]
  by_cases mistaken : MistakenForType (w.map Token.kind) t
  · rw [if_pos (due.1 mistaken)]
    exact {
      refused
      position := rfl
      trailing := by simp [unfinished]
      unknownType := by simp [mistaken]
      otherwise := fun _ other => absurd mistaken other }
  · rw [if_neg (mt due.2 mistaken)]
    exact {
      refused
      position := rfl
      trailing := by simp [unfinished]
      unknownType := by simp [mistaken]
      otherwise := fun _ _ => ⟨d.expected, rfl, asksFor_expected reached⟩ }

end Reached

theorem firstRefused_of_completes {body semicolons : List Kind} {r : Except SyntaxError Statement}
    (complete : Draft.empty.Completes (body.map .ofKind) r)
    (few : semicolons = [] ∨ semicolons = [.semicolon])
    (full : semicolons ++ [t.kind] ≠ [.semicolon]) :
    FirstRefused (body ++ semicolons) t (.trailing t) := by
  have accepted : Accepted (body ++ semicolons) :=
    accepted_iff.2 ⟨body, semicolons, r, rfl, complete, few⟩
  have room {k : Kind} (viable : Viable (body ++ semicolons ++ [k])) :
      semicolons ++ [k] = [.semicolon] := by
    rw [List.append_assoc] at viable
    have none_or_one := eq_of_viable_append complete viable
    simpa using none_or_one
  have noType : ¬ MistakenForType (body ++ semicolons) t := by
    intro mistaken
    have one := room ((mistaken.1 .numberType).2 rfl)
    rcases few with rfl | rfl <;> cases one
  exact {
    refused := fun viable => full (room viable)
    position := rfl
    trailing := by simp [SyntaxError.trailing, accepted]
    unknownType := by simp [SyntaxError.trailing, noType]
    otherwise := fun unfinished _ => absurd accepted unfinished }

-- What trails is the first token behind a statement, or the first behind its semicolon.
theorem exists_of_trailing {v : List Token} {e : SyntaxError}
    (inside : ∀ u ∈ v, u.isEnd = false) (ends : (facing stop behind).isEnd = true)
    (trails : trailing? (skipSemicolon (v ++ behind)) = some e) :
    ∃ semicolons t later, v = semicolons ++ t :: later ∧ e = .trailing t ∧
      (semicolons.map Token.kind = [] ∨ semicolons.map Token.kind = [.semicolon]) ∧
      semicolons.map Token.kind ++ [t.kind] ≠ [.semicolon] := by
  have nothing : trailing? behind = none := by
    cases behind with
    | nil => rfl
    | cons u behind => exact if_pos ends
  have first {u : Token} {later : List Token} (notEnd : u.isEnd = false) :
      trailing? (u :: later) = some (.trailing u) := by
    simp [trailing?, notEnd]
  cases v with
  | nil =>
    cases behind with
    | nil => cases trails
    | cons u behind =>
      have other : u.kind ≠ .semicolon := by
        intro semicolon
        have last : u.isEnd = true := ends
        simp [Token.isEnd, semicolon] at last
      rw [List.nil_append, skipSemicolon, if_neg other, nothing] at trails
      cases trails
  | cons u v =>
    obtain ⟨notEnd, later⟩ := List.forall_mem_cons.1 inside
    by_cases semicolon : u.kind = .semicolon
    · rw [List.cons_append, skipSemicolon, if_pos semicolon] at trails
      cases v with
      | nil =>
        rw [List.nil_append, nothing] at trails
        cases trails
      | cons t v =>
        rw [List.cons_append, first (later t List.mem_cons_self)] at trails
        exact ⟨[u], t, v, rfl, (Option.some.inj trails).symm, .inr (by simp [semicolon]), by simp⟩
    · rw [List.cons_append, skipSemicolon, if_neg semicolon, first notEnd] at trails
      exact ⟨[], u, v, rfl, (Option.some.inj trails).symm, .inl rfl, by simpa using semicolon⟩

section Located

variable {rest : List Token} {place : Position} {e : SyntaxError}

theorem located_of_completes {r : Except SyntaxError Statement}
    (complete : Draft.empty.Completes w r) (inside : ∀ u ∈ rest, u.isEnd = false)
    (ends : (facing stop behind).isEnd = true)
    (fails : (readOne stop (w ++ rest ++ behind)).result = .error e) :
    Located place (w ++ rest) e := by
  have found := Draft.read_of_completes complete stop [] (rest ++ behind)
  rw [← List.append_assoc] at found
  simp only [readOne, found] at fails
  cases r with
  | error f =>
    obtain rfl : f = e := Except.error.inj fails
    exact .miscounted (Draft.miscounted_of_completes complete)
  | ok s =>
    have trails : trailing? (skipSemicolon (rest ++ behind)) = some e := by
      cases trailing : trailing? (skipSemicolon (rest ++ behind)) with
      | none => simp [trailing] at fails
      | some f => simpa [trailing] using fails
    obtain ⟨semicolons, t, later, rfl, rfl, few, full⟩ := exists_of_trailing inside ends trails
    obtain ⟨q, bare⟩ := complete.bare
    have refused := firstRefused_of_completes bare few full
    rw [← List.map_append] at refused
    rw [← List.append_assoc]
    exact .refused (refused.trailing.1 rfl).viable refused

theorem located_of_refuses (reached : Draft.empty.Reaches w d) (refuses : d.take? t = none)
    (inside : t.isEnd = false)
    (fails : (readOne stop (w ++ t :: rest ++ behind)).result = .error e) :
    Located place (w ++ t :: rest) e := by
  have found := reached.read stop [] (t :: rest ++ behind)
  rw [← List.append_assoc, List.cons_append, Draft.read, refuses] at found
  simp only [readOne, found] at fails
  obtain rfl : d.refusal t = e := Except.error.inj fails
  have refused := firstRefused_of_refuses reached refuses inside
  exact .refused (viable_of_reaches reached.bare) refused

theorem located_of_reaches (reached : Draft.empty.Reaches w d)
    (ends : (facing stop behind).isEnd = true)
    (fails : (readOne stop (w ++ behind)).result = .error e) :
    Located (facing stop behind).start w e := by
  have found := reached.read stop [] behind
  rw [Draft.read_of_separates rfl (.inl ends)] at found
  simp only [readOne, found] at fails
  have broken : SyntaxError.unexpected d.expected (facing stop behind) =
      ⟨.unexpectedEnd d.expected, (facing stop behind).start⟩ := by
    simp [SyntaxError.unexpected, ends]
  rw [← Except.error.inj fails, broken]
  exact .brokenOff (viable_of_reaches reached.bare) (brokenOff_of_reaches reached _)

end Located

theorem parse_error_located (name : String) (tokens : List Token) (e : SyntaxError)
    (fails : parse name tokens = .error e) :
    Located (endStart name tokens) (beforeEnd tokens) e := by
  obtain ⟨behind, whole, ends, start⟩ := exists_beforeEnd name tokens
  have inside : ∀ t ∈ beforeEnd tokens, t.isEnd = false := not_isEnd_of_mem_beforeEnd
  have read :
      (readOne (endPosition name tokens) (beforeEnd tokens ++ behind)).result = .error e := by
    rw [← whole]
    exact fails
  rw [← start]
  generalize beforeEnd tokens = w at inside read ⊢
  cases Draft.empty.splits w with
  | @complete u rest r complete =>
    have later : ∀ t ∈ rest, t.isEnd = false := fun t member =>
      inside t (List.mem_append_right u member)
    exact located_of_completes complete later ends read
  | @refused u rest t d reached refuses =>
    exact located_of_refuses reached refuses (inside t (by simp)) read
  | short reached => exact located_of_reaches reached ends read

theorem parse_error_located_name_for_type :
    let token (kind : Kind) (value : String) (offset : UInt32) : Token :=
      ⟨kind, value, ⟨⟨offset, "a"⟩, ⟨offset, "a"⟩⟩⟩
    let column := [token .createKeyword "CREATE" 0, token .tableKeyword "TABLE" 7,
      token .identifier "t" 13, token .openParen "(" 15, token .identifier "b" 16]
    let name := token .identifier "date" 18
    let keyword := token .selectKeyword "SELECT" 18
    let e : SyntaxError := ⟨.unknownType name, ⟨18, "a"⟩⟩
    let f : SyntaxError := ⟨.unknownType keyword, ⟨18, "a"⟩⟩
    (parse "a" (column ++ [name]) = .error e ∧ Located ⟨18, "a"⟩ (column ++ [name]) e) ∧
      parse "a" (column ++ [keyword]) = .error f ∧ Located ⟨18, "a"⟩ (column ++ [keyword]) f := by
  intro token column name keyword e f
  have unnamed : parse "a" (column ++ [name]) = .error e := by decide
  have reserved : parse "a" (column ++ [keyword]) = .error f := by decide
  exact ⟨⟨unnamed, parse_error_located "a" (column ++ [name]) e unnamed⟩,
    reserved, parse_error_located "a" (column ++ [keyword]) f reserved⟩

end SqlReader
