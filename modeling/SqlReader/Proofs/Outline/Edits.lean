import Mathlib.Data.List.DropRight
import SqlReader.Proofs.Outline.Brackets

set_option autoImplicit false

namespace SqlReader.Outline

inductive Edit
  | keep (c : Char)
  | drop (c : Char)
  -- A newline with the spaces of this depth behind it.
  | newLine (depth : Nat)
deriving DecidableEq

namespace Edit

def source : Edit → List Char
  | keep c | drop c => [c]
  | newLine _ => []

def result : Edit → List Char
  | keep c => [c]
  | drop _ => []
  | newLine depth => Outline.newLine depth

end Edit

def sourceOf (edits : List Edit) : List Char := edits.flatMap Edit.source

def resultOf (edits : List Edit) : List Char := edits.flatMap Edit.result

def editsFrom (depth : Nat) (skip : Bool) : List Char → List Edit
  | [] => []
  | c :: s =>
    if isOpener c then .keep c :: .newLine (depth + 1) :: editsFrom (depth + 1) true s
    else if isCloser c then .newLine (depth - 1) :: .keep c :: editsFrom (depth - 1) skip s
    else if c = ',' then .keep c :: .newLine depth :: editsFrom depth true s
    else if c = ' ' && skip then .drop c :: editsFrom depth false s
    else .keep c :: editsFrom depth false s

def edits (s : String) : List Edit := editsFrom 0 false s.toList

def IsMark (c : Char) : Prop := isOpener c = true ∨ c = ','

-- The last character that is not a closer is a mark, and `front` is what is before it.
def Follows (front s : List Char) : Prop :=
  ∃ mark, s.rdropWhile isCloser = front ++ [mark] ∧ IsMark mark

-- Only a line put in begins a row.
def rowDepth (before : List Edit) : Nat :=
  before.foldl (fun row e => match e with | .newLine n => n | _ => row) 0

def Edit.Placed (before after : List Edit) : Edit → Prop
  | keep c =>
    (IsMark c → after.head? = some (newLine (depth (sourceOf before ++ [c])))) ∧
      (isCloser c = true → before.getLast? = some (newLine (depth (sourceOf before ++ [c])))) ∧
      (isCloser c = false → rowDepth before = depth (sourceOf before)) ∧
      (c = ' ' → ∀ front, ¬ Follows front (sourceOf before))
  | drop c => c = ' ' ∧ ∃ front, Follows front (sourceOf before)
  | newLine n =>
    (∃ c, before.getLast? = some (keep c) ∧ IsMark c ∧ n = depth (sourceOf before)) ∨
      ∃ c, after.head? = some (keep c) ∧ isCloser c = true ∧ n = depth (sourceOf before ++ [c])

-- The invariant of `editsFrom`: what its arguments say of the edits before it.
structure Agrees (d : Nat) (skip : Bool) (before : List Edit) : Prop where
  deep : depth (sourceOf before) = d
  row : rowDepth before = d
  loose : skip = true ↔ ∃ front, Follows front (sourceOf before)

def AllPlaced (before : List Edit) : List Edit → Prop
  | [] => True
  | e :: after => e.Placed before after ∧ AllPlaced (before ++ [e]) after

section

variable {c : Char} {e : Edit} {before after middle : List Edit} {front s t : List Char}

@[simp] theorem sourceOf_nil : sourceOf [] = [] := rfl

@[simp] theorem sourceOf_append (l m : List Edit) :
    sourceOf (l ++ m) = sourceOf l ++ sourceOf m :=
  List.flatMap_append

@[simp] theorem sourceOf_keep (c : Char) (l : List Edit) :
    sourceOf (.keep c :: l) = c :: sourceOf l := rfl

@[simp] theorem sourceOf_drop (c : Char) (l : List Edit) :
    sourceOf (.drop c :: l) = c :: sourceOf l := rfl

@[simp] theorem sourceOf_newLine (n : Nat) (l : List Edit) :
    sourceOf (.newLine n :: l) = sourceOf l := rfl

@[simp] theorem resultOf_keep (c : Char) (l : List Edit) :
    resultOf (.keep c :: l) = c :: resultOf l := rfl

@[simp] theorem resultOf_drop (c : Char) (l : List Edit) :
    resultOf (.drop c :: l) = resultOf l := rfl

@[simp] theorem resultOf_newLine (n : Nat) (l : List Edit) :
    resultOf (.newLine n :: l) = newLine n ++ resultOf l := rfl

@[simp] theorem sourceOf_editsFrom (depth : Nat) (skip : Bool) (s : List Char) :
    sourceOf (editsFrom depth skip s) = s := by
  fun_induction editsFrom depth skip s <;> simp [*]

theorem resultOf_editsFrom (depth : Nat) (skip : Bool) (s : List Char) :
    resultOf (editsFrom depth skip s) = spread depth skip s := by
  fun_induction editsFrom depth skip s with
  | case1 => rfl
  | case2 depth skip c s opens ih => simp [spread, opens, ih]
  | case3 depth skip c s noOpener closes ih => simp [spread, noOpener, closes, ih]
  | case4 depth skip s noOpener noCloser ih => simp [spread, noOpener, noCloser, ih]
  | case5 depth skip c s noOpener noCloser noComma skipped ih =>
    rw [spread, if_neg noOpener, if_neg noCloser, if_neg noComma, if_pos skipped]
    exact ih
  | case6 depth skip c s noOpener noCloser noComma kept ih =>
    rw [spread, if_neg noOpener, if_neg noCloser, if_neg noComma, if_neg kept, resultOf_keep, ih]

theorem not_isCloser_of_isMark (mark : IsMark c) : isCloser c = false := by
  rcases mark with opens | rfl
  · exact not_isCloser_of_isOpener opens
  · rfl

theorem follows_mark (mark : IsMark c) (s : List Char) : Follows s (s ++ [c]) :=
  ⟨c, List.rdropWhile_concat_neg _ _ _ (by rw [not_isCloser_of_isMark mark]; simp), mark⟩

theorem follows_closer (closes : isCloser c = true) :
    Follows front (s ++ [c]) ↔ Follows front s := by
  rw [Follows, Follows, List.rdropWhile_concat_pos _ _ _ closes]

theorem not_follows_plain (noMark : ¬ IsMark c) (noCloser : isCloser c = false) :
    ¬ Follows front (s ++ [c]) := by
  rintro ⟨mark, eq, isMark⟩
  rw [List.rdropWhile_concat_neg _ _ _ (by simp [noCloser])] at eq
  obtain ⟨-, same⟩ := List.append_inj' eq rfl
  rw [(List.cons.inj same).1] at noMark
  exact noMark isMark

namespace Agrees

variable {d : Nat} {skip : Bool}

theorem opener (h : Agrees d skip before) (opens : isOpener c = true) :
    Agrees (d + 1) true (before ++ [.keep c, .newLine (d + 1)]) where
  deep := by simp [depth_snoc, deepen_opener opens, h.deep]
  row := by simp [rowDepth]
  loose := ⟨fun _ => ⟨_, by simpa using follows_mark (.inl opens) (sourceOf before)⟩, fun _ => rfl⟩

theorem closer (h : Agrees d skip before) (closes : isCloser c = true) :
    Agrees (d - 1) skip (before ++ [.newLine (d - 1), .keep c]) where
  deep := by simp [depth_snoc, deepen_closer closes, h.deep]
  row := by simp [rowDepth]
  loose := by simpa [follows_closer closes] using h.loose

theorem comma (h : Agrees d skip before) :
    Agrees d true (before ++ [.keep ',', .newLine d]) where
  deep := by simp [depth_snoc, deepen, isOpener, isCloser, h.deep]
  row := by simp [rowDepth]
  loose := ⟨fun _ => ⟨_, by simpa using follows_mark (.inr rfl) (sourceOf before)⟩, fun _ => rfl⟩

theorem plain (h : Agrees d skip before) (noMark : ¬ IsMark c) (noCloser : isCloser c = false)
    (source : e.source = [c]) : Agrees d false (before ++ [e]) := by
  have noOpener : isOpener c = false := by
    cases opens : isOpener c with
    | false => rfl
    | true => exact absurd (.inl opens) noMark
  have grown : sourceOf (before ++ [e]) = sourceOf before ++ [c] := by
    simp [sourceOf, source]
  refine ⟨?_, ?_, ?_⟩
  · rw [grown, depth_snoc, deepen_plain noOpener noCloser, h.deep]
  · cases e with
    | keep | drop => simpa [rowDepth] using h.row
    | newLine => cases source
  · rw [grown]
    simp [not_follows_plain noMark noCloser]

theorem drop_placed (h : Agrees d true before) (after : List Edit) :
    (Edit.drop ' ').Placed before after :=
  ⟨rfl, h.loose.1 rfl⟩

theorem mark_placed (h : Agrees d skip before) (mark : IsMark c) (after : List Edit) :
    (Edit.keep c).Placed before (.newLine (deepen d c) :: after) := by
  refine ⟨fun _ => ?_, fun closes => ?_, fun _ => h.row.trans h.deep.symm, ?_⟩
  · rw [depth_snoc, h.deep]
    rfl
  · rw [not_isCloser_of_isMark mark] at closes
    cases closes
  · rintro rfl
    rcases mark with opens | comma
    · cases opens
    · cases comma

theorem closer_placed (h : Agrees d skip before) (closes : isCloser c = true)
    (after : List Edit) :
    (Edit.keep c).Placed (before ++ [.newLine (d - 1)]) after := by
  refine ⟨fun mark => ?_, fun _ => ?_, fun noCloser => ?_, ?_⟩
  · rw [not_isCloser_of_isMark mark] at closes
    cases closes
  · simp [depth_snoc, deepen_closer closes, h.deep]
  · rw [noCloser] at closes
    cases closes
  · rintro rfl
    cases closes

theorem plain_placed (h : Agrees d skip before) (noMark : ¬ IsMark c)
    (noCloser : isCloser c = false) (kept : c = ' ' → skip = false) (after : List Edit) :
    (Edit.keep c).Placed before after := by
  refine ⟨fun mark => absurd mark noMark, fun closes => ?_, fun _ => h.row.trans h.deep.symm, ?_⟩
  · rw [noCloser] at closes
    cases closes
  · intro space front follows
    have skips := h.loose.2 ⟨front, follows⟩
    rw [kept space] at skips
    cases skips

end Agrees

theorem allPlaced_editsFrom {d : Nat} {skip : Bool} (h : Agrees d skip before) (s : List Char) :
    AllPlaced before (editsFrom d skip s) := by
  fun_induction editsFrom d skip s generalizing before with
  | case1 => trivial
  | case2 d skip c s opens ih =>
    have rest := ih (h.opener opens)
    have first := h.mark_placed (.inl opens)
    rw [deepen_opener opens] at first
    refine ⟨first _, .inl ⟨c, ?_⟩, ?_⟩
    · simp [IsMark, opens, depth_snoc, deepen_opener, h.deep]
    · simpa using rest
  | case3 d skip c s noOpener closes ih =>
    have rest := ih (h.closer closes)
    refine ⟨.inr ⟨c, ?_⟩, h.closer_placed closes _, ?_⟩
    · simp [closes, depth_snoc, deepen_closer, h.deep]
    · simpa using rest
  | case4 d skip s noOpener noCloser ih =>
    refine ⟨h.mark_placed (.inr rfl) _, .inl ⟨',', ?_⟩, ?_⟩
    · simp [IsMark, depth_snoc, deepen, isOpener, isCloser, h.deep]
    · simpa using ih h.comma
  | case5 d skip c s noOpener noCloser noComma skipped ih =>
    simp only [Bool.and_eq_true, decide_eq_true_eq] at skipped
    obtain ⟨rfl, rfl⟩ := skipped
    exact ⟨h.drop_placed _, ih (h.plain (c := ' ') (by simp [IsMark, isOpener]) rfl rfl)⟩
  | case6 d skip c s noOpener noCloser noComma kept ih =>
    have noMark : ¬ IsMark c := by simp [IsMark, noOpener, noComma]
    have plain : isCloser c = false := by simpa using noCloser
    refine ⟨h.plain_placed noMark plain (fun space => ?_) _, ih (h.plain noMark plain rfl)⟩
    simpa [space] using kept

theorem AllPlaced.placed {l : List Edit} (h : AllPlaced before l)
    (split : l = middle ++ e :: after) : e.Placed (before ++ middle) after := by
  subst split
  induction middle generalizing before with
  | nil => simpa using h.1
  | cons first middle ih => simpa using ih h.2

theorem placed_edits {s : String} (split : edits s = before ++ e :: after) :
    e.Placed before after := by
  have start : Agrees 0 false [] := ⟨rfl, rfl, by simp [Follows]⟩
  simpa using (allPlaced_editsFrom start s.toList).placed split

@[simp] theorem sourceOf_edits (s : String) : sourceOf (edits s) = s.toList :=
  sourceOf_editsFrom 0 false s.toList

@[simp] theorem resultOf_edits (s : String) : resultOf (edits s) = (outline s).toList := by
  simp [edits, outline, resultOf_editsFrom]

end

end SqlReader.Outline
