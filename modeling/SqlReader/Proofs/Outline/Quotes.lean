import SqlReader.Proofs.Outline.Edits
import SqlReader.Proofs.Text.Escape

set_option autoImplicit false

namespace SqlReader.Outline

/-- Between quoted texts, inside one, or inside one and right behind a backslash. -/
inductive Mode
  | outside
  | inside
  | escaped
deriving DecidableEq

def Mode.next : Mode → Char → Mode
  | outside, c => if c = '"' then inside else outside
  | inside, c => if c = '"' then outside else if c = '\\' then escaped else inside
  | escaped, _ => inside

def spreadAround (mode : Mode) (depth : Nat) (skip : Bool) : List Char → List Char
  | [] => []
  | c :: s =>
    if mode ≠ .outside then c :: spreadAround (mode.next c) depth false s
    else if isOpener c then c :: (newLine (depth + 1) ++ spreadAround .outside (depth + 1) true s)
    else if isCloser c then newLine (depth - 1) ++ c :: spreadAround .outside (depth - 1) skip s
    else if c = ',' then c :: (newLine depth ++ spreadAround .outside depth true s)
    else if c = ' ' && skip then spreadAround .outside depth false s
    else c :: spreadAround (mode.next c) depth false s

inductive Quotes : List String → List Char → Prop
  | nil : Quotes [] []
  | char {c : Char} {strings : List String} {t : List Char} :
    c ≠ '"' → Quotes strings t → Quotes strings (c :: t)
  | string {v : String} {strings : List String} {t : List Char} :
    Quotes strings t → Quotes (v :: strings) ((quoted v).toList ++ t)

def IsPlain (c : Char) : Prop := isOpener c = false ∧ isCloser c = false ∧ c ≠ ','

instance (c : Char) : Decidable (IsPlain c) := inferInstanceAs (Decidable (_ ∧ _))

-- A line ends behind every mark, and one in front of every closer.
inductive Broken : List Char → Prop
  | nil : Broken []
  | plain {c : Char} {o : List Char} : IsPlain c → Broken o → Broken (c :: o)
  | mark {c : Char} {o : List Char} (n : Nat) :
    IsMark c → Broken o → Broken (c :: (newLine n ++ o))
  | closer {c : Char} {o : List Char} (n : Nat) :
    isCloser c = true → Broken o → Broken (newLine n ++ c :: o)

-- An escape can have brackets of its own.
def Unbroken (v : String) : Prop := ∀ c ∈ (quoted v).toList, IsPlain c

instance (v : String) : Decidable (Unbroken v) := List.decidableBAll IsPlain (quoted v).toList

section

variable {c : Char} {v : String} {strings more : List String} {s t x : List Char}

theorem Quotes.append (h : Quotes strings s) (h' : Quotes more t) :
    Quotes (strings ++ more) (s ++ t) := by
  induction h with
  | nil => exact h'
  | char noQuote _ ih => exact .char noQuote ih
  | string _ ih => simpa using Quotes.string ih

theorem quotes_of_noQuote (noQuote : ∀ c ∈ s, c ≠ '"') : Quotes [] s := by
  induction s with
  | nil => exact .nil
  | cons c s ih =>
    exact .char (noQuote c List.mem_cons_self) (ih fun d mem =>
      noQuote d (List.mem_cons_of_mem c mem))

theorem quotes_quoted (v : String) : Quotes [v] (quoted v).toList := by
  simpa using Quotes.string (v := v) .nil

theorem spread_plain (plain : IsPlain c) (solid : c ≠ ' ') (d : Nat) (skip : Bool)
    (t : List Char) : spread d skip (c :: t) = c :: spread d false t := by
  obtain ⟨noOpener, noCloser, noComma⟩ := plain
  simp [spread, noOpener, noCloser, noComma, solid]

theorem spread_all_plain (plain : ∀ c ∈ x, IsPlain c) (d : Nat) (t : List Char) :
    spread d false (x ++ t) = x ++ spread d false t := by
  induction x with
  | nil => rfl
  | cons c x ih =>
    obtain ⟨noOpener, noCloser, noComma⟩ := plain c List.mem_cons_self
    have rest := ih fun e mem => plain e (List.mem_cons_of_mem c mem)
    simp [spread, noOpener, noCloser, noComma, rest]

theorem exists_spread_cons (c : Char) (d : Nat) (skip : Bool) :
    ∃ front skip', (∀ t, spread d skip (c :: t) = front ++ spread (deepen d c) skip' t) ∧
      (c ≠ '"' → ∀ t, spreadAround .outside d skip (c :: t) =
        front ++ spreadAround .outside (deepen d c) skip' t) := by
  by_cases opens : isOpener c = true
  · refine ⟨c :: newLine (d + 1), true, fun t => ?_, fun _ t => ?_⟩
    all_goals simp [spread, spreadAround, deepen, opens]
  by_cases closes : isCloser c = true
  · refine ⟨newLine (d - 1) ++ [c], skip, fun t => ?_, fun _ t => ?_⟩
    all_goals simp [spread, spreadAround, deepen, opens, closes]
  have same : deepen d c = d := deepen_plain (by simpa using opens) (by simpa using closes) d
  by_cases comma : c = ','
  · subst comma
    exact ⟨',' :: newLine d, true, fun t => rfl, fun _ t => rfl⟩
  by_cases skipped : (c = ' ' && skip) = true
  · refine ⟨[], false, fun t => ?_, fun _ t => ?_⟩
    · rw [same, spread, if_neg opens, if_neg closes, if_neg comma, if_pos skipped]
      rfl
    · rw [same, spreadAround, if_neg (by simp), if_neg opens, if_neg closes, if_neg comma,
        if_pos skipped]
      rfl
  · refine ⟨[c], false, fun t => ?_, fun noQuote t => ?_⟩
    · rw [same, spread, if_neg opens, if_neg closes, if_neg comma, if_neg skipped]
      rfl
    · rw [same, spreadAround, if_neg (by simp), if_neg opens, if_neg closes, if_neg comma,
        if_neg skipped, Mode.next, if_neg noQuote]
      rfl

theorem exists_spread_append (x : List Char) (d : Nat) (skip : Bool) :
    ∃ front skip', ∀ t, spread d skip (x ++ t) = front ++ spread (x.foldl deepen d) skip' t := by
  induction x generalizing d skip with
  | nil => exact ⟨[], skip, fun _ => rfl⟩
  | cons c x ih =>
    obtain ⟨first, skip', step, -⟩ := exists_spread_cons c d skip
    obtain ⟨front, skip'', rest⟩ := ih (deepen d c) skip'
    exact ⟨first ++ front, skip'', fun t => by
      rw [List.cons_append, step, rest, List.append_assoc, List.foldl_cons]⟩

theorem exists_closing_line (closes : isCloser c = true) (x : List Char) :
    ∃ front, spread 0 false (x ++ [c]) = front ++ (newLine (depth (x ++ [c])) ++ [c]) := by
  obtain ⟨front, skip, step⟩ := exists_spread_append x 0 false
  refine ⟨front, ?_⟩
  rw [step, depth_snoc, deepen_closer closes, depth]
  simp [spread, not_isOpener_of_isCloser closes, closes]

theorem spreadAround_inside (h : IsInner c) (d : Nat) (t : List Char) :
    spreadAround .inside d false (c :: t) = c :: spreadAround .inside d false t := by
  simp [spreadAround, Mode.next, h.1, h.2.1]

theorem spreadAround_escape (c : Char) (d : Nat) (t : List Char) :
    spreadAround .inside d false (escape c ++ t) = escape c ++ spreadAround .inside d false t := by
  rcases escape_cases c with ⟨eq, inner⟩ | ⟨e, rest, eq, -, inner⟩
  · rw [eq]
    exact spreadAround_inside inner d t
  · have copied : spreadAround .inside d false (rest ++ t) =
        rest ++ spreadAround .inside d false t := by
      clear eq
      induction rest with
      | nil => rfl
      | cons x rest ih =>
        rw [List.cons_append, spreadAround_inside (inner x List.mem_cons_self),
          ih fun y mem => inner y (List.mem_cons_of_mem x mem), List.cons_append]
    rw [eq]
    simp [spreadAround, Mode.next, copied]

theorem spreadAround_quoted (v : String) (d : Nat) (skip : Bool) (t : List Char) :
    spreadAround .outside d skip ((quoted v).toList ++ t) =
      (quoted v).toList ++ spreadAround .outside d false t := by
  have copied (inner : List Char) :
      spreadAround .inside d false (inner.flatMap escape ++ '"' :: t) =
        inner.flatMap escape ++ '"' :: spreadAround .outside d false t := by
    induction inner with
    | nil => simp [spreadAround, Mode.next]
    | cons c inner ih =>
      rw [List.flatMap_cons, List.append_assoc, spreadAround_escape, ih, List.append_assoc]
  simp [toList_quoted, spreadAround, Mode.next, isOpener, isCloser, copied]

theorem spread_quoted (whole : Unbroken v) (d : Nat) (skip : Bool) (t : List Char) :
    spread d skip ((quoted v).toList ++ t) = (quoted v).toList ++ spread d false t := by
  rw [Unbroken, toList_quoted] at whole
  rw [toList_quoted, List.cons_append, List.cons_append,
    spread_plain (whole '"' List.mem_cons_self) (by decide),
    spread_all_plain fun c mem => whole c (List.mem_cons_of_mem _ mem)]

theorem Quotes.infix_spread (h : Quotes strings t) (mem : v ∈ strings) (whole : Unbroken v)
    (d : Nat) (skip : Bool) : (quoted v).toList <:+: spread d skip t := by
  induction h generalizing d skip with
  | nil => cases mem
  | @char c _ t _ _ ih =>
    obtain ⟨front, skip', step, -⟩ := exists_spread_cons c d skip
    rw [step]
    exact (ih mem (deepen d c) skip').trans (List.suffix_append front _).isInfix
  | @string w _ t _ ih =>
    rcases List.mem_cons.1 mem with rfl | mem
    · rw [spread_quoted whole]
      exact (List.prefix_append _ _).isInfix
    · obtain ⟨front, skip', step⟩ := exists_spread_append (quoted w).toList d skip
      rw [step]
      exact (ih mem _ skip').trans (List.suffix_append front _).isInfix

theorem broken_spread (d : Nat) (skip : Bool) (s : List Char) : Broken (spread d skip s) := by
  fun_induction spread d skip s with
  | case1 => exact .nil
  | case2 d skip c s opens ih => exact .mark _ (.inl opens) ih
  | case3 d skip c s _ closes ih => exact .closer _ closes ih
  | case4 d skip s _ _ ih => exact .mark _ (.inr rfl) ih
  | case5 d skip c s _ _ _ _ ih => exact ih
  | case6 d skip c s noOpener noCloser noComma _ ih =>
    exact .plain ⟨by simpa using noOpener, by simpa using noCloser, noComma⟩ ih

theorem Broken.isPlain_of_isPrefix {o q : List Char} (h : Broken o) (front : q <+: o)
    (single : '\n' ∉ q) (ends : ∀ c ∈ q.getLast?, IsPlain c) : ∀ c ∈ q, IsPlain c := by
  induction h generalizing q with
  | nil => simp [List.prefix_nil.1 front]
  | @plain c o plain _ ih =>
    rcases List.prefix_cons_iff.1 front with rfl | ⟨q, rfl, within⟩
    · simp
    · have rest := ih within (fun mem => single (List.mem_cons_of_mem c mem)) fun x last =>
        ends x (by rw [List.getLast?_cons, Option.mem_def.1 last]; rfl)
      simpa using ⟨plain, rest⟩
  | @mark c o n mark _ ih =>
    rcases List.prefix_cons_iff.1 front with rfl | ⟨q, rfl, within⟩
    · simp
    · -- The line ends behind the mark, and the text would end there.
      rcases List.prefix_cons_iff.1 within with rfl | ⟨q, rfl, -⟩
      · simpa using ends
      · simp at single
  | @closer c o n closes _ ih =>
    rcases List.prefix_cons_iff.1 front with rfl | ⟨q, rfl, -⟩
    · simp
    · simp at single

theorem infix_of_infix_append {q x o : List Char} (head : ∀ c ∈ q.head?, c ∉ x)
    (within : q <:+: x ++ o) : q <:+: o := by
  induction x with
  | nil => exact within
  | cons c x ih =>
    rcases List.infix_cons_iff.1 within with front | within
    · rcases List.prefix_cons_iff.1 front with rfl | ⟨q, rfl, -⟩
      · exact List.nil_infix
      · simp at head
    · exact ih (fun d mem inside => head d mem (List.mem_cons_of_mem c inside)) within

theorem quote_not_mem_newLine (n : Nat) : '"' ∉ newLine n := by
  simp [newLine]

theorem Broken.unbroken {o : List Char} (h : Broken o) (within : (quoted v).toList <:+: o) :
    Unbroken v := by
  have front {x : List Char} (quote : '"' ∉ x) : ∀ c ∈ (quoted v).toList.head?, c ∉ x := by
    rw [toList_quoted, List.head?_cons]
    rintro c ⟨⟩
    exact quote
  have ends : ∀ c ∈ (quoted v).toList.getLast?, IsPlain c := by
    rw [toList_quoted, ← List.cons_append, List.getLast?_concat]
    rintro c ⟨⟩
    decide
  induction h with
  | nil => simp [toList_quoted] at within
  | @plain c o plain rest ih =>
    rcases List.infix_cons_iff.1 within with start | within
    · exact (Broken.plain plain rest).isPlain_of_isPrefix start (newline_not_mem_quoted v) ends
    · exact ih within
  | @mark c o n mark _ ih =>
    have noQuote : '"' ∉ c :: newLine n := by
      rintro (_ | ⟨_, mem⟩)
      · simp [IsMark, isOpener] at mark
      · exact quote_not_mem_newLine n mem
    exact ih (infix_of_infix_append (front noQuote) within)
  | @closer c o n closes _ ih =>
    have noQuote : '"' ∉ newLine n ++ [c] := by
      rw [List.mem_append, List.mem_singleton]
      rintro (mem | rfl)
      · exact quote_not_mem_newLine n mem
      · cases closes
    exact ih (infix_of_infix_append (front noQuote) (by simpa using within))

theorem Quotes.spread_eq_iff (h : Quotes strings t) (d : Nat) (skip : Bool) :
    spread d skip t = spreadAround .outside d skip t ↔ ∀ v ∈ strings, Unbroken v := by
  induction h generalizing d skip with
  | nil => simp [spread, spreadAround]
  | @char c _ t noQuote _ ih =>
    obtain ⟨front, skip', step, around⟩ := exists_spread_cons c d skip
    rw [step, around noQuote, List.append_cancel_left_eq]
    exact ih (deepen d c) skip'
  | @string v _ t _ ih =>
    rw [spreadAround_quoted, List.forall_mem_cons]
    constructor
    · intro same
      -- The outline holds the quoted text in one piece, which it does of unbroken ones only.
      have whole : Unbroken v := (broken_spread d skip _).unbroken
        (same ▸ (List.prefix_append (quoted v).toList _).isInfix)
      rw [spread_quoted whole, List.append_cancel_left_eq] at same
      exact ⟨whole, (ih d false).1 same⟩
    · rintro ⟨whole, rest⟩
      rw [spread_quoted whole, (ih d false).2 rest]

end

end SqlReader.Outline
