import SqlReader.Proofs.Lexeme.Cutting
import SqlReader.Proofs.Lexeme.Pattern
import SqlReader.Scan
import SqlReader.Text.UpperCase

set_option autoImplicit false

namespace SqlReader

-- What may be taken at the front of a text, and as what.
abbrev Choice := List Char → LexicalClass → List Char → Prop

def Longest : Choice := fun s c p =>
  c.Holds p ∧ p <+: s ∧ ∀ d q, LexicalClass.Holds d q → q <+: s → q.length ≤ p.length

def FirstMatch (order : List LexicalClass) : Choice := fun s c p =>
  (order.find? fun d => (d.pattern.matched? s).isSome) = some c ∧ c.pattern.matched? s = some p

def LexicalClass.emits? : LexicalClass → List Char → Option Kind
  | blank, _ | comment, _ => none
  | word, p => some ((Kind.ofReserved? (String.ofList (upperCase p))).getD .identifier)
  | number, _ => some .number
  | text, _ => some .text
  | mark m, _ => some m.kind

inductive Lexes (choice : Choice) (name : String) :
    Nat → List Char → Except SyntaxError (List Token) → Prop
  | finish {offset : Nat} :
      Lexes choice name offset [] (.ok [Token.ending (.ofNat name offset)])
  | skip {offset : Nat} {s p : List Char} {c : LexicalClass} {r : Except SyntaxError (List Token)}
      (chosen : choice s c p) (silent : c.emits? p = none)
      (later : Lexes choice name (offset + byteLength p) (s.drop p.length) r) :
      Lexes choice name offset s r
  | emit {offset : Nat} {s p : List Char} {c : LexicalClass} {kind : Kind}
      {r : Except SyntaxError (List Token)} (chosen : choice s c p)
      (emitted : c.emits? p = some kind)
      (later : Lexes choice name (offset + byteLength p) (s.drop p.length) r) :
      Lexes choice name offset s (r.map fun tokens =>
        { kind
          value := String.ofList p
          span := ⟨.ofNat name offset, .ofNat name (offset + byteLength p)⟩ } :: tokens)
  | refuse {offset : Nat} {c : Char} {s : List Char} (none : ∀ d p, ¬ choice (c :: s) d p) :
      Lexes choice name offset (c :: s)
        (.error ⟨.unrecognised (String.singleton c), .ofNat name offset⟩)

def Cut : Choice := fun s c p => p = c.munch s ∧ p ≠ []

theorem longest_iff_cut {s p : List Char} {c : LexicalClass} : Longest s c p ↔ Cut s c p := by
  constructor
  · intro h
    obtain ⟨holds, within, longest⟩ := h
    have taken := LexicalClass.isPrefix_munch within holds
    have nonempty : c.munch s ≠ [] := by
      intro empty
      rw [empty, List.prefix_nil] at taken
      exact holds.ne_nil taken
    have bound := longest c _ (LexicalClass.munch_holds nonempty) (c.munch_isPrefix s)
    exact ⟨taken.eq_of_length_le bound, holds.ne_nil⟩
  · intro h
    obtain ⟨rfl, nonempty⟩ := h
    have holds := LexicalClass.munch_holds nonempty
    refine ⟨holds, c.munch_isPrefix s, ?_⟩
    intro d q other within
    have same : d = c := other.unique holds within (c.munch_isPrefix s)
    subst same
    exact (LexicalClass.isPrefix_munch within other).length_le

theorem matched?_eq_some_iff {s p : List Char} {c : LexicalClass} :
    c.pattern.matched? s = some p ↔ Cut s c p := by
  rw [LexicalClass.matched?_pattern]
  by_cases empty : c.munch s = []
  · simp [Cut, empty]
  · rw [if_neg empty, Option.some_inj]
    constructor
    · intro same
      exact ⟨same.symm, same ▸ empty⟩
    · intro h
      exact h.1.symm

theorem firstMatch_iff_cut {order : List LexicalClass} (all : ∀ c, c ∈ order) {s p : List Char}
    {c : LexicalClass} : FirstMatch order s c p ↔ Cut s c p := by
  rw [FirstMatch, matched?_eq_some_iff]
  refine ⟨And.right, fun cut => ⟨?_, cut⟩⟩
  cases found : order.find? fun d => (d.pattern.matched? s).isSome with
  | none =>
    have refused := List.find?_eq_none.1 found c (all c)
    simp [matched?_eq_some_iff.2 cut] at refused
  | some d =>
    have matching := List.find?_some found
    obtain ⟨q, matched⟩ := Option.isSome_iff_exists.1 matching
    obtain ⟨rfl, nonempty⟩ := matched?_eq_some_iff.1 matched
    obtain ⟨rfl, some⟩ := cut
    have same : d = c := (LexicalClass.munch_holds nonempty).unique (LexicalClass.munch_holds some)
      (d.munch_isPrefix s) (c.munch_isPrefix s)
    rw [same]

theorem emits?_eq {c : LexicalClass} {p : List Char} (h : c.Holds p) : c.emits? p = c.kind? p := by
  cases c with
  | blank | comment | number | text | mark => rfl
  | word =>
    have ascii := LexicalClass.ascii_of_word h
    simp only [LexicalClass.emits?, LexicalClass.kind?, Kind.ofWord, upperCase_of_ascii ascii]

def outcome (name : String) (offset : Nat) (s : List Char) : Except SyntaxError (List Token) :=
  let cut := Lexeme.split offset s
  let stop := offset + byteLength (cut.1.flatMap Lexeme.text)
  match cut.2 with
  | [] => .ok (cut.1.filterMap (Lexeme.token? name) ++ [Token.ending (.ofNat name stop)])
  | c :: _ => .error ⟨.unrecognised (String.singleton c), .ofNat name stop⟩

theorem tokenize_eq_outcome (s : Source) : s.tokenize = outcome s.name 0 s.text.toList := by
  cases rest : (Lexeme.split 0 s.text.toList).2 <;>
    simp [Source.tokenize, Source.scan, Scan.ofText, Scan.result, Scan.stop, Scan.tokens,
      Scan.ending, outcome, rest]

variable {name : String} {offset : Nat} {s : List Char} {l : Lexeme}

theorem outcome_of_none (h : Lexeme.next? offset s = none) :
    outcome name offset s =
      match s with
      | [] => .ok [Token.ending (.ofNat name offset)]
      | c :: _ => .error ⟨.unrecognised (String.singleton c), .ofNat name offset⟩ := by
  rw [outcome, Lexeme.split_of_none h]
  cases s <;> rfl

theorem outcome_of_some (h : Lexeme.next? offset s = some l) :
    outcome name offset s =
      (outcome name (offset + l.size) (s.drop l.text.length)).map
        ((l.token? name).toList ++ ·) := by
  simp only [outcome, Lexeme.split_of_some h, List.flatMap_cons, byteLength_append,
    ← Nat.add_assoc]
  cases (Lexeme.split (offset + l.size) (s.drop l.text.length)).2 with
  | nil => cases found : l.token? name <;> simp [Except.map, found, Lexeme.size]
  | cons c rest => rfl

theorem Cut.next?_eq_some {p : List Char} {c : LexicalClass} (cut : Cut s c p) (offset : Nat) :
    Lexeme.next? offset s = some ⟨c, p, offset⟩ :=
  Lexeme.next?_eq_some_iff.2 ⟨rfl, cut⟩

theorem Cut.emits?_eq {p : List Char} {c : LexicalClass} (cut : Cut s c p) :
    c.emits? p = c.kind? p := by
  obtain ⟨rfl, nonempty⟩ := cut
  exact SqlReader.emits?_eq (LexicalClass.munch_holds nonempty)

variable {choice : Choice}

theorem outcome_eq_of_lexes (agrees : ∀ s c p, choice s c p ↔ Cut s c p)
    {r : Except SyntaxError (List Token)} (h : Lexes choice name offset s r) :
    outcome name offset s = r := by
  induction h with
  | finish => rw [outcome_of_none (Lexeme.next?_nil _)]
  | @skip offset s p c r chosen silent later ih =>
    have cut := (agrees s c p).1 chosen
    have dropped : Lexeme.token? name ⟨c, p, offset⟩ = none := by
      simp [Lexeme.token?, ← cut.emits?_eq, silent]
    rw [outcome_of_some (cut.next?_eq_some offset), Lexeme.size, ih, dropped]
    cases r <;> rfl
  | @emit offset s p c kind r chosen emitted later ih =>
    have cut := (agrees s c p).1 chosen
    have kept : Lexeme.token? name ⟨c, p, offset⟩ = some
        ⟨kind, String.ofList p, ⟨.ofNat name offset, .ofNat name (offset + byteLength p)⟩⟩ := by
      simp [Lexeme.token?, Lexeme.size, ← cut.emits?_eq, emitted]
    rw [outcome_of_some (cut.next?_eq_some offset), Lexeme.size, ih, kept]
    rfl
  | @refuse offset c s none =>
    have stuck : Lexeme.next? offset (c :: s) = Option.none := by
      rw [Lexeme.next?_eq_none_iff]
      intro d
      refine Decidable.byContradiction fun nonempty => ?_
      exact none d _ ((agrees _ _ _).2 ⟨rfl, nonempty⟩)
    rw [outcome_of_none stuck]

theorem lexes_outcome (agrees : ∀ s c p, choice s c p ↔ Cut s c p) (offset : Nat)
    (s : List Char) : Lexes choice name offset s (outcome name offset s) := by
  fun_induction Lexeme.split offset s with
  | case1 offset s none =>
    rw [outcome_of_none none]
    cases s with
    | nil => exact .finish
    | cons c s =>
      refine .refuse ?_
      intro d p chosen
      rw [((agrees _ _ _).1 chosen).next?_eq_some] at none
      cases none
  | case2 offset s l found _ later ih =>
    obtain ⟨here, cut⟩ := Lexeme.next?_eq_some_iff.1 found
    have chosen := (agrees s l.sort l.text).2 cut
    have emits := Cut.emits?_eq cut
    rw [outcome_of_some found]
    cases kind : l.sort.kind? l.text with
    | none =>
      have dropped : l.token? name = none := by simp [Lexeme.token?, kind]
      have same :
          (outcome name (offset + l.size) (s.drop l.text.length)).map ((l.token? name).toList ++ ·) =
            outcome name (offset + l.size) (s.drop l.text.length) := by
        rw [dropped]
        cases outcome name (offset + l.size) (s.drop l.text.length) <;> rfl
      rw [same]
      exact .skip chosen (emits.trans kind) ih
    | some k =>
      have kept : l.token? name = some
          ⟨k, String.ofList l.text, ⟨.ofNat name offset, .ofNat name (offset + l.size)⟩⟩ := by
        simp [Lexeme.token?, kind, here]
      rw [kept]
      exact .emit chosen (emits.trans kind) ih

theorem outcome_eq_iff_lexes (agrees : ∀ s c p, choice s c p ↔ Cut s c p)
    {r : Except SyntaxError (List Token)} :
    outcome name offset s = r ↔ Lexes choice name offset s r := by
  constructor
  · intro same
    exact same ▸ lexes_outcome agrees offset s
  · exact outcome_eq_of_lexes agrees

theorem tokenize_eq_iff_lexes (s : Source) (r : Except SyntaxError (List Token)) :
    (s.tokenize = r ↔ Lexes Longest s.name 0 s.text.toList r) ∧
      ∀ order : List LexicalClass, (∀ c, c ∈ order) →
        (s.tokenize = r ↔ Lexes (FirstMatch order) s.name 0 s.text.toList r) := by
  rw [tokenize_eq_outcome]
  constructor
  · exact outcome_eq_iff_lexes fun _ _ _ => longest_iff_cut
  · intro order all
    exact outcome_eq_iff_lexes fun _ _ _ => firstMatch_iff_cut all

theorem lexes_in_reverse_order :
    (∀ c, c ∈ LexicalClass.all.reverse) ∧
      Lexes (FirstMatch LexicalClass.all.reverse) "shell" 0 "-1;--2".toList
        (.ok [⟨.number, "-1", ⟨⟨0, "shell"⟩, ⟨2, "shell"⟩⟩⟩,
          ⟨.semicolon, ";", ⟨⟨2, "shell"⟩, ⟨3, "shell"⟩⟩⟩, .ending ⟨6, "shell"⟩]) := by
  have all : ∀ c, c ∈ LexicalClass.all.reverse := fun c => List.mem_reverse.2 c.mem_all
  refine ⟨all, ((tokenize_eq_iff_lexes ⟨"shell", "-1;--2"⟩ _).2 _ all).1 ?_⟩
  decide +kernel

end SqlReader
