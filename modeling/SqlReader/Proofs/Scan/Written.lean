import SqlReader.Proofs.Grammar
import SqlReader.Proofs.Lexeme.Boundary
import SqlReader.Proofs.Relabelling
import SqlReader.Scan
import SqlReader.Text.UpperCase

set_option autoImplicit false

namespace SqlReader

def Token.Lexical (t : Token) : Prop :=
  ∃ c : LexicalClass, c.Holds t.value.toList ∧ c.kind? t.value.toList = some t.kind

def LexicalClass.ofKind? : Kind → Option LexicalClass
  | .endOfInput => none
  | .number => some .number
  | .text => some .text
  | .openParen => some (.mark .openParen)
  | .closeParen => some (.mark .closeParen)
  | .comma => some (.mark .comma)
  | .star => some (.mark .star)
  | .semicolon => some (.mark .semicolon)
  | _ => some .word

theorem LexicalClass.ofKind?_of_kind? {c : LexicalClass} {p : List Char} {kind : Kind}
    (kept : c.kind? p = some kind) : ofKind? kind = some c := by
  cases c with
  | blank | comment => cases kept
  | number | text =>
    cases kept
    rfl
  | mark m =>
    cases kept
    cases m <;> rfl
  | word =>
    have words : ∀ k ∈ Kind.identifier :: Kind.reserved.map Prod.snd, ofKind? k = some .word := by
      decide
    rw [← Option.some.inj kept]
    exact words _ (Kind.ofWord_mem p)

theorem LexicalClass.kind?_ne_end {c : LexicalClass} {p : List Char} {kind : Kind}
    (kept : c.kind? p = some kind) : kind ≠ .endOfInput := by
  rintro rfl
  cases ofKind?_of_kind? kept

theorem Token.Lexical.of_kind {t : Token} (h : t.Lexical) {c : LexicalClass}
    (sort : LexicalClass.ofKind? t.kind = some c) :
    c.Holds t.value.toList ∧ c.kind? t.value.toList = some t.kind := by
  obtain ⟨d, holds, kept⟩ := h
  rw [LexicalClass.ofKind?_of_kind? kept] at sort
  obtain rfl := Option.some.inj sort
  exact ⟨holds, kept⟩

theorem Token.Lexical.not_isEnd {t : Token} (h : t.Lexical) : t.isEnd = false := by
  obtain ⟨c, -, kept⟩ := h
  simpa [isEnd] using LexicalClass.kind?_ne_end kept

theorem Token.Lexical.reserved {t : Token} (h : t.Lexical)
    (member : t.kind ∈ Kind.reserved.map Prod.snd) :
    (t.value.toUpper, t.kind) ∈ Kind.reserved := by
  have words : ∀ k ∈ Kind.reserved.map Prod.snd,
      LexicalClass.ofKind? k = some .word ∧ k ≠ .identifier := by decide
  obtain ⟨sort, other⟩ := words t.kind member
  have kind : Kind.ofWord t.value.toList = t.kind := Option.some.inj (h.of_kind sort).2
  rw [toUpper_eq, ← kind]
  exact Kind.ofWord_reserved (kind ▸ other)

theorem Lexeme.lexical {l : Lexeme} {t : Token} {name : String} (holds : l.sort.Holds l.text)
    (h : l.token? name = some t) : t.Lexical := by
  obtain ⟨kind, sort, rfl⟩ := Option.map_eq_some_iff.1 h
  refine ⟨l.sort, ?_, ?_⟩
  · simpa using holds
  · simpa using sort

theorem Source.lexical {s : Source} {t : Token} (member : t ∈ s.scan.tokens s.name) :
    t.Lexical := by
  obtain ⟨l, inside, here⟩ := List.mem_filterMap.1 member
  exact l.lexical (Lexeme.holds_of_mem_split inside) here

theorem Source.tokenize_eq_ok_iff {s : Source} {tokens : List Token} :
    s.tokenize = .ok tokens ↔
      s.scan.rest = [] ∧ tokens = s.scan.tokens s.name ++ [s.scan.ending s.name] := by
  simp only [tokenize, Scan.result]
  cases s.scan.rest with
  | nil =>
    simp only [Except.ok.injEq, true_and]
    exact eq_comm
  | cons c rest => simp

theorem Source.tokens_ne_nil {s : Source} {tokens : List Token} (read : s.tokenize = .ok tokens) :
    tokens ≠ [] := by
  obtain ⟨-, rfl⟩ := Source.tokenize_eq_ok_iff.1 read
  simp

theorem Source.beforeEnd_tokens {s : Source} {tokens : List Token}
    (read : s.tokenize = .ok tokens) : beforeEnd tokens = s.scan.tokens s.name := by
  obtain ⟨-, rfl⟩ := Source.tokenize_eq_ok_iff.1 read
  have inside : ∀ t ∈ s.scan.tokens s.name, t.isEnd = false := fun t member =>
    (Source.lexical member).not_isEnd
  rw [beforeEnd_append inside]
  exact List.append_nil _

-- Lexemes that no token stands for may come between the tokens.
inductive Written : List Token → List Char → Prop
  | nil : Written [] []
  | silent {c : LexicalClass} {p s : List Char} {tokens : List Token} (holds : c.Holds p)
      (dropped : c.kind? p = none) (ends : c.Ends s) (later : Written tokens s) :
      Written tokens (p ++ s)
  | token {c : LexicalClass} {t : Token} {s : List Char} {tokens : List Token}
      (holds : c.Holds t.value.toList) (kept : c.kind? t.value.toList = some t.kind)
      (ends : c.Ends s) (later : Written tokens s) :
      Written (t :: tokens) (t.value.toList ++ s)

namespace Written

variable {tokens : List Token} {s : List Char}

theorem split (h : Written tokens s) (name : String) (offset : Nat) :
    (Lexeme.split offset s).2 = [] ∧
      ((Lexeme.split offset s).1.filterMap (Lexeme.token? name)).map (Token.relabel .unplaced) =
        tokens.map (Token.relabel .unplaced) := by
  induction h generalizing offset with
  | nil =>
    rw [Lexeme.split_of_none (Lexeme.next?_nil offset)]
    exact ⟨rfl, rfl⟩
  | @silent c p s tokens holds dropped ends _ ih =>
    obtain ⟨rest, same⟩ := ih (offset + byteLength p)
    have none : Lexeme.token? name ⟨c, p, offset⟩ = none := by simp [Lexeme.token?, dropped]
    rw [Lexeme.split_append holds ends offset]
    exact ⟨rest, by rw [List.filterMap_cons, none]; exact same⟩
  | @token c t s tokens holds kept ends _ ih =>
    obtain ⟨rest, same⟩ := ih (offset + byteLength t.value.toList)
    rw [Lexeme.split_append holds ends offset]
    refine ⟨rest, ?_⟩
    simp only [List.filterMap_cons, Lexeme.token?, kept, Option.map_some, List.map_cons]
    rw [← same]
    simp [Token.relabel, Relabelling.unplaced]

theorem tokenize {text : String} (h : Written tokens text.toList) (name : String) :
    ∃ found, (⟨name, text⟩ : Source).tokenize = .ok found ∧
      found.map (Token.relabel .unplaced) =
        (tokens ++ [Token.ending ⟨0, ""⟩]).map (Token.relabel .unplaced) := by
  obtain ⟨rest, same⟩ := h.split name 0
  refine ⟨_, Source.tokenize_eq_ok_iff.2 ⟨rest, rfl⟩, ?_⟩
  rw [List.map_append, List.map_append]
  exact congrArg (· ++ _) same

end Written
end SqlReader
