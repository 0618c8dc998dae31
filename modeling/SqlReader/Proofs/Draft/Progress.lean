import SqlReader.Proofs.Draft.Completion

set_option autoImplicit false

namespace SqlReader
namespace Draft

/-- The draft takes all of the tokens, and more are due. -/
inductive Reaches : Draft → List Token → Draft → Prop
  | refl {d : Draft} : Reaches d [] d
  | step {d e f : Draft} {t : Token} {w : List Token} (taken : d.take? t = some (.next e))
      (later : Reaches e w f) : Reaches d (t :: w) f

inductive Splits (d : Draft) : List Token → Prop
  | complete {w rest : List Token} {r : Except SyntaxError Statement} (whole : d.Completes w r) :
      Splits d (w ++ rest)
  | refused {w rest : List Token} {t : Token} {e : Draft} (reached : d.Reaches w e)
      (refuses : e.take? t = none) : Splits d (w ++ t :: rest)
  | short {w : List Token} {e : Draft} (reached : d.Reaches w e) : Splits d w

theorem splits (d : Draft) (tokens : List Token) : d.Splits tokens := by
  induction tokens generalizing d with
  | nil => exact .short .refl
  | cons t tokens ih =>
    cases taken : d.take? t with
    | none => exact .refused .refl taken
    | some a =>
      cases a with
      | done r => exact .complete (.done taken)
      | next e =>
        cases ih e with
        | complete whole => exact .complete (.next taken whole)
        | refused reached refuses => exact .refused (.step taken reached) refuses
        | short reached => exact .short (.step taken reached)

theorem read_passes (stop : Position) (behind : List Token) (d : Draft) (ahead : List Token) :
    ∃ w, (∀ t ∈ w, t.isEnd = false) ∧ ahead = w ++ (d.read stop behind ahead).ahead ∧
      (d.read stop behind ahead).behind = w.reverse ++ behind := by
  induction ahead generalizing d behind with
  | nil => exact ⟨[], by simp, rfl, rfl⟩
  | cons t ahead ih =>
    rw [read]
    split
    next => exact ⟨[], by simp, rfl, rfl⟩
    next result taken =>
      exact ⟨[t], List.forall_mem_singleton.2 (not_isEnd_of_take taken), rfl, rfl⟩
    next e taken =>
      obtain ⟨w, inside, split, behind⟩ := ih (t :: behind) e
      refine ⟨t :: w, List.forall_mem_cons.2 ⟨not_isEnd_of_take taken, inside⟩, ?_, ?_⟩
      · exact congrArg (t :: ·) split
      · simpa using behind

variable {d e : Draft} {t : Token} {w u : List Token} {r : Except SyntaxError Statement}

theorem Reaches.read (h : d.Reaches w e) (stop : Position) (behind rest : List Token) :
    d.read stop behind (w ++ rest) = e.read stop (w.reverse ++ behind) rest := by
  induction h generalizing behind with
  | refl => rfl
  | step taken later ih => simp [Draft.read, taken, ih]

theorem Reaches.not_isEnd (h : d.Reaches w e) : ∀ t ∈ w, t.isEnd = false := by
  induction h with
  | refl => exact fun t none => by cases none
  | step taken later ih => exact List.forall_mem_cons.2 ⟨not_isEnd_of_take taken, ih⟩

theorem Reaches.snoc {f : Draft} (h : d.Reaches w e) (taken : e.take? t = some (.next f)) :
    d.Reaches (w ++ [t]) f := by
  induction h with
  | refl => exact .step taken .refl
  | step first later ih => exact .step first (ih taken)

theorem Reaches.completes (h : d.Reaches w e) (rest : e.Completes u r) :
    d.Completes (w ++ u) r := by
  induction h with
  | refl => exact rest
  | step taken later ih => exact .next taken (ih rest)

theorem Completes.not_reaches (h : d.Completes w r) : ¬ d.Reaches (w ++ u) e := by
  intro reached
  induction h with
  | done taken =>
    cases reached with
    | step other later => rw [taken] at other; cases other
  | next taken later ih =>
    cases reached with
    | step other later =>
      rw [taken] at other
      cases other
      exact ih later

theorem Reaches.not_completes (h : d.Reaches w e) (refuses : e.take? t = none) :
    ¬ d.Completes (w ++ t :: u) r := by
  intro whole
  induction h with
  | refl =>
    cases whole with
    | done taken => rw [refuses] at taken; cases taken
    | next taken later => rw [refuses] at taken; cases taken
  | @step d e f s w taken later ih =>
    rw [List.cons_append] at whole
    generalize rest : w ++ t :: u = v at whole
    cases whole with
    | done other => simp at rest
    | next other whole =>
      rw [taken] at other
      cases other
      exact ih refuses (rest ▸ whole)

theorem Completes.eq_nil_of_append {q : Except SyntaxError Statement} (h : d.Completes w r)
    (longer : d.Completes (w ++ u) q) : u = [] := by
  have first := read_of_completes h ⟨0, ""⟩ [] u
  have second := read_of_completes longer ⟨0, ""⟩ [] []
  rw [List.append_nil, first] at second
  exact congrArg Reading.ahead second

def awaitsType : Draft → Bool
  | createTable _ (.type ..) => true
  | _ => false

theorem refusal_eq (d : Draft) (t : Token) :
    d.refusal t =
      if d.awaitsType = true ∧ (t.kind = .identifier ∨ t.kind.isKeyword = true) then
        ⟨.unknownType t, t.start⟩
      else .unexpected d.expected t := by
  cases d with
  | createTable start stage =>
    cases stage with
    | type table names types =>
      simp only [refusal, SyntaxError.notAType, awaitsType, Bool.or_eq_true, decide_eq_true_eq,
        true_and]
      rfl
    | _ => rfl
  | opening forms => rfl
  | insert start stage => cases stage <;> rfl
  | select start stage => cases stage <;> rfl

theorem refusal_of_separates (separates : t.isEnd = true ∨ t.kind = .semicolon) (d : Draft) :
    d.refusal t = .unexpected d.expected t := by
  have kind : t.kind = .endOfInput ∨ t.kind = .semicolon := by simpa [Token.isEnd] using separates
  have nameless : ¬ (t.kind = .identifier ∨ t.kind.isKeyword = true) := by
    rcases kind with kind | kind <;> rw [kind] <;> decide
  rw [refusal_eq, if_neg fun named => nameless named.2]

end Draft
end SqlReader
