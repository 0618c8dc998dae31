import SqlReader.Proofs.Draft.Continuation
import SqlReader.Proofs.Draft.Forms

set_option autoImplicit false

namespace SqlReader

-- Names and values are not counted.
def Accepted (kinds : List Kind) : Prop :=
  ∃ w s semicolons, kinds = w.map Token.kind ++ semicolons ∧ Phrase w s ∧
    (semicolons = [] ∨ semicolons = [.semicolon])

def Viable (kinds : List Kind) : Prop := ∃ rest, Accepted (kinds ++ rest)

def TypeDue (kinds : List Kind) : Prop := ∀ k, Viable (kinds ++ [k]) ↔ k.isColumnType = true

variable {kinds more : List Kind} {k : Kind} {d : Draft} {r : Except SyntaxError Statement}

theorem accepted_iff : Accepted kinds ↔
    ∃ (body semicolons : List Kind) (r : Except SyntaxError Statement),
      kinds = body ++ semicolons ∧ Draft.empty.Completes (body.map .ofKind) r ∧
      (semicolons = [] ∨ semicolons = [.semicolon]) := by
  constructor
  · intro h
    obtain ⟨w, s, semicolons, whole, phrase, few⟩ := h
    obtain ⟨r, complete⟩ := Draft.completes_of_phrase phrase
    obtain ⟨q, bare⟩ := complete.bare
    exact ⟨w.map Token.kind, semicolons, q, whole, bare, few⟩
  · intro h
    obtain ⟨body, semicolons, r, rfl, complete, few⟩ := h
    obtain ⟨s, phrase⟩ := Draft.phrase_of_completes complete
    have kinds : (body.map Token.ofKind).map Token.kind = body := by
      simp [Function.comp_def]
    exact ⟨body.map .ofKind, s, semicolons, by rw [kinds], phrase, few⟩

theorem accepted_of_completes (complete : Draft.empty.Completes (kinds.map .ofKind) r) :
    Accepted kinds :=
  accepted_iff.2 ⟨kinds, [], r, (List.append_nil kinds).symm, complete, .inl rfl⟩

theorem Accepted.viable (h : Accepted kinds) : Viable kinds := ⟨[], by rwa [List.append_nil]⟩

section Reached

variable (reached : Draft.empty.Reaches (kinds.map .ofKind) d)
include reached

theorem not_accepted_of_reaches : ¬ Accepted kinds := by
  intro accepted
  obtain ⟨body, semicolons, r, rfl, complete, -⟩ := accepted_iff.1 accepted
  rw [List.map_append] at reached
  exact complete.not_reaches reached

theorem viable_of_reaches : Viable kinds := by
  obtain ⟨rest, r, later⟩ := reached.completable
  have complete := reached.completes later
  rw [← List.map_append] at complete
  exact ⟨rest, accepted_of_completes complete⟩

theorem viable_of_allowed (allows : k ∈ d.allowed) : Viable (kinds ++ [k]) := by
  obtain ⟨a, taken⟩ := Option.isSome_iff_exists.1
    (Draft.take?_isSome_iff (t := .ofKind k) |>.2 allows)
  have whole : (kinds ++ [k]).map Token.ofKind = kinds.map .ofKind ++ [.ofKind k] :=
    List.map_append
  cases a with
  | next e =>
    have further := reached.snoc taken
    rw [← whole] at further
    exact viable_of_reaches further
  | done r =>
    have complete := reached.completes (.done taken)
    rw [← whole] at complete
    exact (accepted_of_completes complete).viable

theorem viable_snoc_iff : Viable (kinds ++ [k]) ↔ k ∈ d.allowed := by
  refine ⟨fun viable => ?_, viable_of_allowed reached⟩
  obtain ⟨rest, accepted⟩ := viable
  obtain ⟨body, semicolons, r, whole, complete, -⟩ := accepted_iff.1 accepted
  apply Decidable.byContradiction
  intro refused
  have refuses : d.take? (.ofKind k) = none := Draft.take?_eq_none_iff.2 refused
  rw [List.append_assoc] at whole
  -- The statement goes on behind the kinds that are taken, or ends within them.
  rcases List.append_eq_append_iff.1 whole with ⟨later, rfl, next⟩ | ⟨later, rfl, -⟩
  · cases later with
    | nil =>
      apply complete.not_reaches (u := [])
      simpa using reached
    | cons l later =>
      obtain ⟨rfl, -⟩ := List.cons.inj next
      rw [List.map_append, List.map_cons] at complete
      exact reached.not_completes refuses complete
  · rw [List.map_append] at reached
    exact complete.not_reaches reached

theorem typeDue_iff : TypeDue kinds ↔ d.awaitsType = true := by
  rw [Draft.awaitsType_iff, TypeDue]
  simp only [viable_snoc_iff reached]

end Reached

theorem eq_of_viable_append (complete : Draft.empty.Completes (kinds.map .ofKind) r)
    (viable : Viable (kinds ++ more)) : more = [] ∨ more = [.semicolon] := by
  obtain ⟨rest, accepted⟩ := viable
  obtain ⟨body, semicolons, q, whole, other, few⟩ := accepted_iff.1 accepted
  rw [List.append_assoc] at whole
  have behind : more ++ rest = semicolons := by
    rcases List.append_eq_append_iff.1 whole with ⟨later, rfl, next⟩ | ⟨later, rfl, next⟩
    · rw [List.map_append] at other
      have nothing := List.map_eq_nil_iff.1 (complete.eq_nil_of_append other)
      simpa [nothing] using next
    · rw [List.map_append] at complete
      have nothing := List.map_eq_nil_iff.1 (other.eq_nil_of_append complete)
      simpa [nothing] using next.symm
  rw [← behind] at few
  rcases few with none | one
  · exact .inl (List.append_eq_nil_iff.1 none).1
  · cases more with
    | nil => exact .inl rfl
    | cons k more =>
      obtain ⟨rfl, none⟩ := List.cons.inj one
      exact .inr (by rw [(List.append_eq_nil_iff.1 none).1])

end SqlReader
