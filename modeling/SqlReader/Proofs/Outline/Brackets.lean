import Mathlib.Data.List.Infix
import SqlReader.Text.Outline

set_option autoImplicit false

namespace SqlReader.Outline

def deepen (depth : Nat) (c : Char) : Nat :=
  if isOpener c then depth + 1 else if isCloser c then depth - 1 else depth

-- Closers without an opener do not count.
def depth (s : List Char) : Nat := s.foldl deepen 0

structure Balanced (s : List Char) : Prop where
  opened : ∀ t, t <+: s → t.countP isCloser ≤ t.countP isOpener
  closed : s.countP isCloser = s.countP isOpener

variable {c : Char} {s t : List Char}

instance (s : List Char) : Decidable (Balanced s) :=
  decidable_of_iff
    ((∀ t ∈ s.inits, t.countP isCloser ≤ t.countP isOpener) ∧
      s.countP isCloser = s.countP isOpener)
    ⟨fun h => ⟨fun t front => h.1 t (List.mem_inits t s |>.2 front), h.2⟩,
      fun h => ⟨fun t mem => h.opened t (List.mem_inits t s |>.1 mem), h.closed⟩⟩

theorem not_isCloser_of_isOpener (opens : isOpener c = true) : isCloser c = false := by
  simp only [isOpener, Bool.or_eq_true, decide_eq_true_eq] at opens
  rcases opens with (rfl | rfl) | rfl <;> rfl

theorem not_isOpener_of_isCloser (closes : isCloser c = true) : isOpener c = false := by
  cases opens : isOpener c with
  | false => rfl
  | true =>
    rw [not_isCloser_of_isOpener opens] at closes
    cases closes

theorem deepen_opener (opens : isOpener c = true) (n : Nat) : deepen n c = n + 1 := if_pos opens

theorem deepen_closer (closes : isCloser c = true) (n : Nat) : deepen n c = n - 1 := by
  simp [deepen, not_isOpener_of_isCloser closes, closes]

theorem deepen_plain (noOpener : isOpener c = false) (noCloser : isCloser c = false) (n : Nat) :
    deepen n c = n := by
  simp [deepen, noOpener, noCloser]

theorem depth_append (s t : List Char) : depth (s ++ t) = t.foldl deepen (depth s) :=
  List.foldl_append

theorem depth_snoc (s : List Char) (c : Char) : depth (s ++ [c]) = deepen (depth s) c :=
  depth_append s [c]

theorem deepen_add {n : Nat}
    (enough : (if isCloser c then 1 else 0) ≤ n + if isOpener c then 1 else 0) :
    deepen n c + (if isCloser c then 1 else 0) = n + if isOpener c then 1 else 0 := by
  cases opens : isOpener c with
  | true => simp [deepen, opens, not_isCloser_of_isOpener opens]
  | false =>
    cases closes : isCloser c with
    | true =>
      simp only [opens, closes] at enough ⊢
      rw [deepen_closer closes]
      exact Nat.sub_add_cancel enough
    | false => simp [deepen, opens, closes]

theorem foldl_deepen {n : Nat}
    (enough : ∀ t, t <+: s → t.countP isCloser ≤ n + t.countP isOpener) :
    s.foldl deepen n + s.countP isCloser = n + s.countP isOpener := by
  induction s generalizing n with
  | nil => rfl
  | cons c s ih =>
    have alone := enough [c] ⟨s, rfl⟩
    rw [List.countP_singleton, List.countP_singleton] at alone
    have first := deepen_add alone
    have rest := ih (n := deepen n c) fun t front => by
      have longer := enough (c :: t) (List.cons_prefix_cons.2 ⟨rfl, front⟩)
      rw [List.countP_cons, List.countP_cons] at longer
      omega
    rw [List.foldl_cons, List.countP_cons, List.countP_cons]
    omega

theorem Balanced.foldl_deepen (h : Balanced s) (n : Nat) : s.foldl deepen n = n := by
  have counts := Outline.foldl_deepen (s := s) (n := n) fun t front =>
    Nat.le_add_left_of_le (h.opened t front)
  have closed := h.closed
  omega

theorem Balanced.depth_eq (h : Balanced s) : depth s = 0 := h.foldl_deepen 0

theorem Balanced.append (h : Balanced s) (h' : Balanced t) : Balanced (s ++ t) where
  opened u front := by
    obtain ⟨rest, whole⟩ := front
    rcases List.append_eq_append_iff.1 whole with ⟨inner, rfl, -⟩ | ⟨inner, rfl, rfl⟩
    · exact h.opened u (List.prefix_append u inner)
    · have first := h.closed
      have second := h'.opened inner (List.prefix_append inner rest)
      rw [List.countP_append, List.countP_append]
      omega
  closed := by rw [List.countP_append, List.countP_append, h.closed, h'.closed]

theorem balanced_of_plain (plain : ∀ c ∈ s, isOpener c = false ∧ isCloser c = false) :
    Balanced s where
  opened u front := by
    have none : u.countP isCloser = 0 :=
      List.countP_eq_zero.2 fun c mem => by simp [(plain c (front.mem mem)).2]
    omega
  closed := by
    have openers : s.countP isOpener = 0 :=
      List.countP_eq_zero.2 fun c mem => by simp [(plain c mem).1]
    have closers : s.countP isCloser = 0 :=
      List.countP_eq_zero.2 fun c mem => by simp [(plain c mem).2]
    rw [openers, closers]

theorem Balanced.bracket {opener closer : Char} (h : Balanced s) (opens : isOpener opener = true)
    (closes : isCloser closer = true) : Balanced (opener :: (s ++ [closer])) := by
  have noOpener : isOpener closer = false := not_isOpener_of_isCloser closes
  have noCloser : isCloser opener = false := not_isCloser_of_isOpener opens
  have inner := h.closed
  refine ⟨fun u front => ?_, ?_⟩
  · rcases List.prefix_cons_iff.1 front with rfl | ⟨u, rfl, within⟩
    · rfl
    · rw [List.countP_cons, List.countP_cons, if_pos opens, noCloser]
      rcases List.prefix_concat_iff.1 within with rfl | within
      · simp [closes, noOpener, inner]
      · exact (h.opened u within).trans (Nat.le_succ _)
  · simp [opens, closes, noOpener, noCloser, inner]

theorem Balanced.depth_closed {opener closer : Char} (h : Balanced s)
    (opens : isOpener opener = true) (closes : isCloser closer = true) (outer : List Char) :
    depth (outer ++ opener :: s ++ [closer]) = depth outer := by
  rw [depth_snoc, depth_append, List.foldl_cons, h.foldl_deepen, deepen_opener opens,
    deepen_closer closes, Nat.add_sub_cancel]

-- `tail` is what is behind the brackets that are looked at, from the last one on backwards.
theorem exists_opener_before (s tail : List Char)
    (closing : ∀ t, t <:+ tail → t.countP isOpener ≤ t.countP isCloser)
    (excess : (s ++ tail).countP isCloser < (s ++ tail).countP isOpener) :
    ∃ outer opener inside, s ++ tail = outer ++ opener :: inside ∧ isOpener opener = true ∧
      Balanced inside := by
  induction s using List.reverseRecOn generalizing tail with
  | nil =>
    have enough := closing tail (List.suffix_refl tail)
    rw [List.nil_append] at excess
    omega
  | append_singleton s c ih =>
    have enough := closing tail (List.suffix_refl tail)
    rw [List.append_assoc, List.singleton_append] at excess ⊢
    by_cases more : (c :: tail).countP isOpener ≤ (c :: tail).countP isCloser
    · refine ih (c :: tail) (fun t behind => ?_) excess
      rcases List.suffix_cons_iff.1 behind with rfl | behind
      · exact more
      · exact closing t behind
    · -- Here the openers outnumber the closers for the first time, by one.
      rw [List.countP_cons, List.countP_cons] at more
      have opens : isOpener c = true := by
        refine Decidable.byContradiction fun plain => more ?_
        rw [if_neg plain]
        omega
      rw [if_pos opens, not_isCloser_of_isOpener opens] at more
      have equal : tail.countP isCloser = tail.countP isOpener := by
        simp only [Bool.false_eq_true, if_false] at more
        omega
      refine ⟨s, c, tail, rfl, opens, fun t front => ?_, equal⟩
      obtain ⟨rest, rfl⟩ := front
      have behind := closing rest (List.suffix_append t rest)
      rw [List.countP_append, List.countP_append] at equal
      omega

theorem Balanced.exists_opener {before after : List Char} (h : Balanced (before ++ c :: after))
    (closes : isCloser c = true) :
    ∃ outer opener inside, before = outer ++ opener :: inside ∧ isOpener opener = true ∧
      Balanced inside := by
  have noOpener := not_isOpener_of_isCloser closes
  have counts := h.opened (before ++ [c]) ⟨after, by simp⟩
  simp only [List.countP_append, List.countP_singleton, closes, noOpener] at counts
  have excess : (before ++ []).countP isCloser < (before ++ []).countP isOpener := by
    rw [List.append_nil]
    grind
  have found := exists_opener_before before [] (by simp) excess
  rwa [List.append_nil] at found

end SqlReader.Outline
