import SqlReader.Proofs.Lexeme.Covering
import SqlReader.Proofs.Relabelling
import SqlReader.Proofs.Scan.Selection

set_option autoImplicit false

namespace SqlReader

variable {name : String} {offset : Nat} {c : LexicalClass} {p s rest : List Char}

theorem LexicalClass.newline_ends (other : c ≠ .blank) : c.Ends ('\n' :: rest) := by
  intro d first goes
  cases first
  cases c with
  | blank => contradiction
  | comment => exact goes rfl
  | word => cases goes
  | number => rcases goes with goes | goes <;> cases goes
  | text => cases goes
  | mark m => exact goes

theorem LexicalClass.Ends.append (ends : c.Ends s) (behind : c.Ends rest) : c.Ends (s ++ rest) := by
  cases s with
  | nil => exact behind
  | cons d s => exact ends

theorem outcome_of_holds (holds : c.Holds p) (ends : c.Ends rest) :
    outcome name offset (p ++ rest) =
      (outcome name (offset + byteLength p) rest).map
        ((Lexeme.token? name ⟨c, p, offset⟩).toList ++ ·) := by
  have taken : Cut (p ++ rest) c p := ⟨(LexicalClass.munch_append holds ends).symm, holds.ne_nil⟩
  rw [outcome_of_some (taken.next?_eq_some offset), List.drop_left]
  rfl

theorem outcome_blanks (blanks : ∀ d ∈ p, isBlank d = true) :
    outcome name offset (p ++ s) = outcome name (offset + byteLength p) s := by
  let run := s.takeWhile isBlank
  let behind := s.dropWhile isBlank
  have whole : s = run ++ behind := List.takeWhile_append_dropWhile.symm
  have ends : LexicalClass.blank.Ends behind := by
    intro d first goes
    have stops := List.head?_dropWhile_not isBlank s
    rw [first] at stops
    rw [LexicalClass.Continues] at goes
    simp [goes] at stops
  have skip (q : List Char) (inside : ∀ d ∈ q, isBlank d = true) (offset : Nat) :
      outcome name offset (q ++ behind) = outcome name (offset + byteLength q) behind := by
    by_cases empty : q = []
    · subst empty
      rfl
    · rw [outcome_of_holds (c := .blank) ⟨empty, inside⟩ ends]
      cases outcome name (offset + byteLength q) behind <;> rfl
  have inside : ∀ d ∈ run, isBlank d = true := List.all_eq_true.1 List.all_takeWhile
  rw [whole, ← List.append_assoc, skip _ (List.forall_mem_append.2 ⟨blanks, inside⟩),
    skip run inside, byteLength_append, Nat.add_assoc]

theorem outcome_append {lexemes : List Lexeme} (covered : Lexeme.Covers offset lexemes s) :
    outcome name offset (s ++ '\n' :: rest) =
      (outcome name (offset + byteLength s) ('\n' :: rest)).map
        (lexemes.filterMap (Lexeme.token? name) ++ ·) := by
  induction covered with
  | @nil offset =>
    rw [List.nil_append, byteLength_nil, Nat.add_zero]
    cases outcome name offset ('\n' :: rest) <;> rfl
  | @cons offset l lexemes s here holds ends later ih =>
    obtain ⟨sort, text, place⟩ := l
    subst here
    have first : outcome name place (text ++ (s ++ '\n' :: rest)) =
        (outcome name (place + byteLength text) (s ++ '\n' :: rest)).map
          ((Lexeme.token? name ⟨sort, text, place⟩).toList ++ ·) := by
      by_cases blank : sort = .blank
      · subst blank
        rw [outcome_blanks holds.2]
        cases outcome name _ (s ++ '\n' :: rest) <;> rfl
      · exact outcome_of_holds holds (ends.append (LexicalClass.newline_ends blank))
    rw [List.append_assoc, first]
    rw [Lexeme.size] at ih
    rw [ih, byteLength_append, ← Nat.add_assoc]
    cases outcome name _ ('\n' :: rest) with
    | error e => rfl
    | ok tokens =>
      cases found : Lexeme.token? name ⟨sort, text, place⟩ <;> simp [Except.map, found]

theorem outcome_semicolon {lexemes : List Lexeme} (covered : Lexeme.Covers offset lexemes s)
    (name : String) (rest : List Char) :
    ∃ t : Token, t.kind = .semicolon ∧
      outcome name offset (s ++ '\n' :: ';' :: '\n' :: rest) =
        (outcome name (offset + byteLength s + 3) rest).map
          (lexemes.filterMap (Lexeme.token? name) ++ t :: ·) := by
  let start := offset + byteLength s + 1
  let t : Token := ⟨.semicolon, ";", ⟨.ofNat name start, .ofNat name (start + 1)⟩⟩
  have newline (offset : Nat) (rest : List Char) :
      outcome name offset ('\n' :: rest) = outcome name (offset + 1) rest :=
    outcome_blanks (p := ['\n']) (List.forall_mem_singleton.2 (by decide))
  have mark : outcome name start (';' :: '\n' :: rest) =
      (outcome name (start + 1) ('\n' :: rest)).map (t :: ·) :=
    outcome_of_holds (c := .mark .semicolon) (p := [';']) rfl fun _ _ => id
  refine ⟨t, rfl, ?_⟩
  rw [outcome_append covered, newline, mark, newline]
  cases outcome name (start + 1 + 1) rest <;> rfl

section Relabelling

variable {m : Relabelling} {k : Nat}

theorem Lexeme.next?_add (offset k : Nat) (s : List Char) :
    next? (offset + k) s = (next? offset s).map fun l => { l with offset := l.offset + k } := by
  cases found : next? offset s with
  | none => exact next?_eq_none_iff.2 (next?_eq_none_iff.1 found)
  | some l =>
    obtain ⟨here, text, nonempty⟩ := next?_eq_some_iff.1 found
    exact next?_eq_some_iff.2 ⟨congrArg (· + k) here, text, nonempty⟩

theorem outcome_relabel (values : ∀ v, m.value v = v)
    (places : ∀ n, offset ≤ n → n ≤ offset + byteLength s →
      m.position (.ofNat name n) = .ofNat name (n + k)) :
    outcome name (offset + k) s =
      relabelResult m (List.map (Token.relabel m)) (outcome name offset s) := by
  fun_induction Lexeme.split offset s with
  | case1 offset s none =>
    have here := places offset (Nat.le_refl _) (Nat.le_add_right _ _)
    have farther : Lexeme.next? (offset + k) s = Option.none := by rw [Lexeme.next?_add, none]; rfl
    rw [outcome_of_none none, outcome_of_none farther]
    cases s with
    | nil => simp [relabelResult, Token.relabel, Token.ending, values, here]
    | cons c s => simp [relabelResult, SyntaxError.relabel, Cause.relabel, here]
  | case2 offset s l found _ later ih =>
    obtain ⟨here, -, -⟩ := Lexeme.next?_eq_some_iff.1 found
    have farther : Lexeme.next? (offset + k) s = some { l with offset := l.offset + k } := by
      rw [Lexeme.next?_add, found]
      rfl
    have size : byteLength s = l.size + byteLength (s.drop l.text.length) := by
      rw [Lexeme.size, ← byteLength_append, Lexeme.next?_append_drop found]
    have rest := ih fun n low high => places n (by omega) (by omega)
    have start := places l.offset (by omega) (by omega)
    have stop := places (l.offset + l.size) (by omega) (by omega)
    have token : Lexeme.token? name { l with offset := l.offset + k } =
        (l.token? name).map (Token.relabel m) := by
      simp only [Lexeme.token?, Lexeme.size, Option.map_map] at stop ⊢
      refine congrArg (Option.map · _) (funext fun kind => ?_)
      simp [Token.relabel, values, start, stop, Nat.add_right_comm]
    rw [outcome_of_some found, outcome_of_some farther, token]
    rw [Nat.add_right_comm] at rest
    simp only [Lexeme.size] at rest ⊢
    rw [rest]
    cases outcome name (offset + byteLength l.text) (s.drop l.text.length) with
    | error e => rfl
    | ok tokens => cases l.token? name <;> rfl

end Relabelling
end SqlReader
