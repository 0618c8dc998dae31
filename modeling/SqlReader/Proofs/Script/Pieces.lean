import SqlReader.Proofs.Script.Sentences

set_option autoImplicit false

namespace SqlReader

structure Piece where
  tokens : List Token
  semicolon? : Option Token
deriving DecidableEq

-- `current` is what the piece holds so far.
def cut (current : List Token) : List Token → List Piece
  | [] => [⟨current, none⟩]
  | t :: rest =>
    if t.kind = .semicolon then ⟨current, some t⟩ :: cut [] rest else cut (current ++ [t]) rest

def segments (tokens : List Token) : List Piece :=
  (cut [] tokens).filter fun p => !p.tokens.isEmpty

-- The same mistake where the text does not end, but goes on with `t`.
def SyntaxError.facing (t : Token) (e : SyntaxError) : SyntaxError :=
  match e.cause with
  | .unexpectedEnd expected => .unexpected expected t
  | _ => e

def readPieces (name : String) (last : Token) : List Piece → Except SyntaxError (List Statement)
  | [] => .ok []
  | p :: later =>
    match parse name p.tokens with
    | .error e => .error (e.facing (p.semicolon?.getD last))
    | .ok s => (readPieces name last later).map (s :: ·)

variable {stop place : Position} {w rest : List Token} {t : Token}

theorem Draft.facing_refusal {u : Token} (inside : u.isEnd = false) (d : Draft) (t : Token) :
    (d.refusal u).facing t = d.refusal u := by
  rw [refusal_eq]
  split
  · rfl
  · simp [SyntaxError.unexpected, inside, SyntaxError.facing]

theorem Draft.read_append (plain : ∀ u ∈ w, u.isEnd = false) (next : facing stop rest = t)
    (separates : t.isEnd = true ∨ t.kind = .semicolon) (place : Position) :
    Draft.empty.read stop [] (w ++ rest) =
      let alone := Draft.empty.read place [] w
      ⟨alone.result.mapError (SyntaxError.facing t), alone.behind, alone.ahead ++ rest⟩ := by
  cases Draft.empty.splits w with
  | @complete v ahead r whole =>
    rw [List.append_assoc, read_of_completes whole, read_of_completes whole]
    cases r with
    | ok s => rfl
    | error e =>
      obtain ⟨_, _, _, _, _, _, _, _, _, rfl⟩ := Draft.miscounted_of_completes whole
      rfl
  | @refused v ahead u e reached refuses =>
    have kept : (Except.error (e.refusal u) : Except SyntaxError Statement).mapError
        (SyntaxError.facing t) = .error (e.refusal u) :=
      congrArg Except.error (e.facing_refusal (plain u (by simp)) t)
    rw [List.append_assoc, List.cons_append, reached.read, reached.read, Draft.read, Draft.read,
      refuses]
    simp only [kept, List.cons_append]
  | @short _ e reached =>
    have alone := reached.read place [] []
    have stuck : e.read place (w.reverse ++ []) [] = _ :=
      read_of_separates (t := .ending place) rfl (.inl rfl) e _
    rw [stuck, List.append_nil] at alone
    rw [reached.read, read_of_separates next separates, alone]
    rfl

theorem readMany_piece (nonempty : w ≠ [])
    (plain : ∀ u ∈ w, u.isEnd = false ∧ u.kind ≠ .semicolon) (next : facing stop rest = t)
    (separates : t.isEnd = true ∨ t.kind = .semicolon) (place : Position) :
    (readMany stop (w ++ rest)).result =
      match (readOne place w).result with
      | .error e => .error (e.facing t)
      | .ok s => (afterStatement stop [] s rest).result := by
  have inside : ∀ u ∈ w, u.isEnd = false := fun u member => (plain u member).1
  have read := Draft.read_append inside next separates place
  have parts := Draft.read_tokens place [] Draft.empty w
  have started : (readMany stop (w ++ rest)).result =
      match (Draft.empty.read stop [] (w ++ rest)).result with
      | .error e => .error e
      | .ok s => (afterStatement stop [] s (Draft.empty.read stop [] (w ++ rest)).ahead).result := by
    cases w with
    | nil => contradiction
    | cons u w =>
      obtain ⟨notEnd, other⟩ := plain u List.mem_cons_self
      exact readMany_result notEnd other
  rw [started, read, readOne]
  simp only
  cases (Draft.empty.read place [] w).result with
  | error e => rfl
  | ok s =>
    cases ahead : (Draft.empty.read place [] w).ahead with
    | nil => rfl
    | cons u later =>
      rw [ahead] at parts
      have member : u ∈ [].reverse ++ w := parts ▸ List.mem_append_right _ List.mem_cons_self
      obtain ⟨notEnd, other⟩ := plain u member
      have kept : (Except.ok s).mapError (SyntaxError.facing t) = .ok s := rfl
      simp [kept, skipSemicolon, trailing?, afterStatement, notEnd, other, SyntaxError.trailing,
        SyntaxError.facing]

theorem readMany_of_facing_end (next : facing stop rest = t) (ends : t.isEnd = true) :
    (readMany stop rest).result = .ok [] := by
  cases rest with
  | nil => rw [readMany_nil]
  | cons u rest =>
    obtain rfl : u = t := next
    rw [readMany_of_isEnd ends]

theorem afterStatement_of_facing_end (next : facing stop rest = t) (ends : t.isEnd = true)
    (s : Statement) : (afterStatement stop [] s rest).result = .ok [s] := by
  cases rest with
  | nil => rfl
  | cons u rest =>
    obtain rfl : u = t := next
    rw [afterStatement, if_pos ends]

theorem readMany_cut (next : facing stop rest = t) (ends : t.isEnd = true) (name : String)
    (inside : ∀ u ∈ w, u.isEnd = false) (current : List Token)
    (plain : ∀ u ∈ current, u.isEnd = false ∧ u.kind ≠ .semicolon) :
    (readMany stop (current ++ (w ++ rest))).result =
      readPieces name t ((cut current w).filter fun p => !p.tokens.isEmpty) := by
  induction w generalizing current with
  | nil =>
    rw [List.nil_append, cut]
    by_cases empty : current = []
    · subst empty
      exact readMany_of_facing_end next ends
    · rw [readMany_piece empty plain next (.inl ends) (endPosition name current)]
      have kept : [Piece.mk current none].filter (fun p => !p.tokens.isEmpty) =
          [⟨current, none⟩] := by
        simp [empty]
      rw [kept]
      simp only [readPieces, parse, readStatement, afterStatement_of_facing_end next ends]
      rfl
  | cons u w ih =>
    obtain ⟨notEnd, later⟩ := List.forall_mem_cons.1 inside
    by_cases semicolon : u.kind = .semicolon
    · have rest := ih later [] (by simp)
      rw [List.nil_append] at rest
      rw [cut, if_pos semicolon, List.cons_append]
      by_cases empty : current = []
      · subst empty
        rw [List.nil_append, readMany_of_semicolon semicolon]
        exact rest
      · rw [readMany_piece empty plain (t := u) rfl (.inr semicolon) (endPosition name current)]
        have kept : (⟨current, some u⟩ :: cut [] w).filter (fun p => !p.tokens.isEmpty) =
            ⟨current, some u⟩ :: (cut [] w).filter fun p => !p.tokens.isEmpty := by
          simp [empty]
        rw [kept]
        simp only [readPieces, parse, readStatement, afterStatement_of_semicolon semicolon, rest]
        rfl
    · have longer : ∀ v ∈ current ++ [u], v.isEnd = false ∧ v.kind ≠ .semicolon :=
        List.forall_mem_append.2 ⟨plain, List.forall_mem_singleton.2 ⟨notEnd, semicolon⟩⟩
      rw [cut, if_neg semicolon, ← ih later _ longer, List.append_assoc]
      rfl

theorem cut_semicolon {current : List Token} {p : Piece} (member : p ∈ cut current w)
    (behind : p.semicolon? = some t) : t.kind = .semicolon := by
  induction w generalizing current with
  | nil =>
    obtain rfl := List.mem_singleton.1 member
    cases behind
  | cons u w ih =>
    rw [cut] at member
    split at member
    next semicolon =>
      rcases List.mem_cons.1 member with rfl | later
      · obtain rfl := Option.some.inj behind
        exact semicolon
      · exact ih later
    next => exact ih member

section Pieces

variable {name : String} {last : Token} {e : SyntaxError}

theorem readPieces_of_ok {pieces : List Piece} {body : List Statement}
    (each : pieces.map (fun p => parse name p.tokens) = body.map .ok) :
    readPieces name last pieces = .ok body := by
  induction pieces generalizing body with
  | nil =>
    obtain rfl := List.map_eq_nil_iff.1 each.symm
    rfl
  | cons p pieces ih =>
    cases body with
    | nil => cases each
    | cons s body =>
      obtain ⟨first, rest⟩ := List.cons.inj each
      simp only at first
      rw [readPieces, first, ih rest]
      rfl

theorem readPieces_of_error {before after : List Piece} {p : Piece}
    (read : ∀ q ∈ before, ∃ s, parse name q.tokens = .ok s)
    (fails : parse name p.tokens = .error e) :
    readPieces name last (before ++ p :: after) =
      .error (e.facing (p.semicolon?.getD last)) := by
  induction before with
  | nil => rw [List.nil_append, readPieces, fails]
  | cons q before ih =>
    obtain ⟨⟨s, first⟩, rest⟩ := List.forall_mem_cons.1 read
    rw [List.cons_append, readPieces, first, ih rest]
    rfl

theorem SyntaxError.facing_of_other (other : ∀ expected, e.cause ≠ .unexpectedEnd expected) :
    e.facing t = e := by
  rw [SyntaxError.facing]
  split
  next expected same => exact absurd same (other expected)
  next => rfl

theorem SyntaxError.facing_of_unexpectedEnd {expected : List Kind}
    (broken : e.cause = .unexpectedEnd expected) : e.facing t = .unexpected expected t := by
  rw [SyntaxError.facing, broken]

end Pieces

/-- Every piece that is a statement is read as such, and the first that is none decides what is
wrong with the script. -/
theorem parseScript_segments (name : String) (tokens : List Token) :
    (∀ body, (segments (beforeEnd tokens)).map (fun p => parse name p.tokens) = body.map .ok →
      parseScript name tokens = .ok body) ∧
    ∀ before p after e, segments (beforeEnd tokens) = before ++ p :: after →
      (∀ q ∈ before, ∃ s, parse name q.tokens = .ok s) → parse name p.tokens = .error e →
      ((∀ expected, e.cause ≠ .unexpectedEnd expected) → parseScript name tokens = .error e) ∧
      ∀ expected, e.cause = .unexpectedEnd expected →
        (∀ t, p.semicolon? = some t →
          parseScript name tokens = .error ⟨.unexpected expected t, t.start⟩) ∧
        (p.semicolon? = none →
          parseScript name tokens = .error ⟨.unexpectedEnd expected, endStart name tokens⟩) := by
  obtain ⟨rest, whole, ends, start⟩ := exists_beforeEnd name tokens
  generalize next : facing (endPosition name tokens) rest = last at ends start
  have pieces : parseScript name tokens =
      readPieces name last (segments (beforeEnd tokens)) := by
    rw [parseScript_eq]
    conv => lhs; arg 1; arg 2; rw [whole]
    exact readMany_cut next ends name not_isEnd_of_mem_beforeEnd [] (by simp)
  constructor
  · intro body each
    rw [pieces, readPieces_of_ok each]
  · intro before p after e split read fails
    rw [split, readPieces_of_error read fails] at pieces
    refine ⟨fun other => ?_, fun expected broken => ⟨fun t behind => ?_, fun none => ?_⟩⟩
    · rw [pieces, SyntaxError.facing_of_other other]
    · have member : p ∈ segments (beforeEnd tokens) := by simp [split]
      have semicolon := cut_semicolon (List.mem_filter.1 member).1 behind
      have notEnd : t.isEnd = false := by simp [Token.isEnd, semicolon]
      rw [pieces, SyntaxError.facing_of_unexpectedEnd broken, behind]
      simp [SyntaxError.unexpected, notEnd]
    · rw [pieces, SyntaxError.facing_of_unexpectedEnd broken, none]
      simp [SyntaxError.unexpected, ends, start]

theorem parseScript_segments_broken_insert :
    let token (kind : Kind) (value : String) (offset : UInt32) : Token :=
      ⟨kind, value, ⟨⟨offset, "a"⟩, ⟨offset, "a"⟩⟩⟩
    let table := token .identifier "t" 16
    let star := token .star "*" 9
    let select := [token .selectKeyword "SELECT" 2, star, token .fromKeyword "FROM" 11, table]
    let insert := token .insertKeyword "INSERT" 20
    let semicolon := token .semicolon ";" 27
    parseScript "a" (semicolon :: select) = .ok [.select ⟨⟨2, "a"⟩, [star], table⟩] ∧
      parseScript "a" (semicolon :: select ++ [semicolon, semicolon, insert, semicolon]) =
        .error ⟨.unexpected [.intoKeyword] semicolon, ⟨27, "a"⟩⟩ ∧
      parseScript "a" (select ++ [semicolon, insert]) =
        .error ⟨.unexpectedEnd [.intoKeyword], ⟨20, "a"⟩⟩ := by
  intro token table star select insert semicolon
  have read : parse "a" select = .ok (.select ⟨⟨2, "a"⟩, [star], table⟩) := by decide
  have fails : parse "a" [insert] = .error ⟨.unexpectedEnd [.intoKeyword], ⟨20, "a"⟩⟩ := by decide
  have before : ∀ q ∈ [(⟨select, some semicolon⟩ : Piece)], ∃ s, parse "a" q.tokens = .ok s :=
    List.forall_mem_singleton.2 ⟨_, read⟩
  refine ⟨?_, ?_, ?_⟩
  · exact (parseScript_segments "a" (semicolon :: select)).1 _ (by decide)
  · have segments := parseScript_segments "a"
      (semicolon :: select ++ [semicolon, semicolon, insert, semicolon])
    have broken := (segments.2 _ ⟨[insert], some semicolon⟩ [] _ (by decide) before fails).2 _ rfl
    exact broken.1 semicolon rfl
  · have segments := parseScript_segments "a" (select ++ [semicolon, insert])
    have broken := (segments.2 _ ⟨[insert], none⟩ [] _ (by decide) before fails).2 _ rfl
    exact broken.2 rfl

end SqlReader
