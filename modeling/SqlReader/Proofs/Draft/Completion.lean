import SqlReader.Draft
import SqlReader.Proofs.Grammar

set_option autoImplicit false

namespace SqlReader

inductive Draft.Completes : Draft → List Token → Except SyntaxError Statement → Prop
  | done {d : Draft} {t : Token} {r : Except SyntaxError Statement}
      (taken : d.take? t = some (.done r)) : Draft.Completes d [t] r
  | next {d e : Draft} {t : Token} {w : List Token} {r : Except SyntaxError Statement}
      (taken : d.take? t = some (.next e)) (later : Draft.Completes e w r) :
      Draft.Completes d (t :: w) r

def Advance.Completes : Advance → List Token → Except SyntaxError Statement → Prop
  | next d, w, r => d.Completes w r
  | done result, w, r => w = [] ∧ result = r

namespace Draft

variable {d : Draft} {t : Token} {w : List Token} {r : Except SyntaxError Statement}

theorem completes_iff :
    d.Completes w r ↔ ∃ t u a, w = t :: u ∧ d.take? t = some a ∧ a.Completes u r := by
  constructor
  · intro h
    cases h with
    | done taken => exact ⟨_, _, _, rfl, taken, rfl, rfl⟩
    | next taken later => exact ⟨_, _, _, rfl, taken, later⟩
  · intro h
    rcases h with ⟨t, u, a, rfl, taken, rest⟩
    cases a with
    | next e => exact .next taken rest
    | done result =>
      obtain ⟨rfl, rfl⟩ := rest
      exact .done taken

theorem read_of_completes (h : d.Completes w r) (stop : Position) (behind rest : List Token) :
    d.read stop behind (w ++ rest) = ⟨r, w.reverse ++ behind, rest⟩ := by
  induction h generalizing behind with
  | done taken => simp [read, taken]
  | next taken later ih => simp [read, taken, ih]

theorem completes_of_read_eq_ok {s : Statement} {stop : Position} {behind ahead : List Token}
    (h : (d.read stop behind ahead).result = .ok s) :
    ∃ w, ahead = w ++ (d.read stop behind ahead).ahead ∧ d.Completes w (.ok s) := by
  induction ahead generalizing d behind with
  | nil => simp [read] at h
  | cons t ahead ih =>
    rw [read] at h ⊢
    split at h
    next => cases h
    next result taken =>
      cases h
      exact ⟨[t], rfl, .done taken⟩
    next e taken =>
      obtain ⟨w, split, complete⟩ := ih h
      exact ⟨t :: w, congrArg (t :: ·) split, .next taken complete⟩

theorem take?_eq_none_of_separates (separates : t.isEnd = true ∨ t.kind = .semicolon) :
    d.take? t = none := by
  have kind : t.kind = .endOfInput ∨ t.kind = .semicolon := by simpa [Token.isEnd] using separates
  cases d with
  | opening forms =>
    simp only [take?, Option.map_eq_none_iff, List.find?_eq_none]
    intro form _
    cases form <;> rcases kind with kind | kind <;> simp [Form.keyword, kind]
  | createTable start stage =>
    rcases kind with kind | kind <;> cases stage <;>
      simp [take?, CreateStage.take?, kind, Kind.isColumnType, Kind.columnTypes]
  | insert start stage =>
    rcases kind with kind | kind <;> cases stage <;>
      simp [take?, InsertStage.take?, kind, Kind.isLiteral, Kind.literals]
  | select start stage =>
    rcases kind with kind | kind <;> cases stage <;> simp [take?, SelectStage.take?, kind]

theorem take?_eq_none_of_isEnd (ends : t.isEnd = true) : d.take? t = none :=
  take?_eq_none_of_separates (.inl ends)

theorem not_isEnd_of_take {a : Advance} (taken : d.take? t = some a) : t.isEnd = false := by
  cases ends : t.isEnd with
  | false => rfl
  | true =>
    rw [take?_eq_none_of_isEnd ends] at taken
    cases taken

theorem Completes.not_isEnd (h : d.Completes w r) : ∀ t ∈ w, t.isEnd = false := by
  induction h with
  | done taken => simpa using not_isEnd_of_take taken
  | next taken later ih => simpa using ⟨not_isEnd_of_take taken, ih⟩

theorem completes_of_due {p : Token → Prop} [DecidablePred p] {next : Token → Draft}
    (take : ∀ t, d.take? t = if p t then some (.next (next t)) else none) :
    d.Completes w r ↔ ∃ t u, w = t :: u ∧ p t ∧ (next t).Completes u r := by
  rw [completes_iff]
  constructor
  · intro h
    rcases h with ⟨t, u, a, rfl, taken, rest⟩
    rw [take] at taken
    split at taken
    next holds => cases taken; exact ⟨t, u, rfl, holds, rest⟩
    next => cases taken
  · intro h
    rcases h with ⟨t, u, rfl, holds, rest⟩
    exact ⟨t, u, .next (next t), rfl, by rw [take, if_pos holds], rest⟩

theorem completes_of_either {k l : Kind} {first second : Token → Advance} (differ : l ≠ k)
    (take : ∀ t, d.take? t =
      if t.kind = k then some (first t) else if t.kind = l then some (second t) else none) :
    d.Completes w r ↔ ∃ t u, w = t :: u ∧
      ((t.kind = k ∧ (first t).Completes u r) ∨ (t.kind = l ∧ (second t).Completes u r)) := by
  rw [completes_iff]
  constructor
  · intro h
    rcases h with ⟨t, u, a, rfl, taken, rest⟩
    rw [take] at taken
    split at taken
    next kind => cases taken; exact ⟨t, u, rfl, .inl ⟨kind, rest⟩⟩
    next =>
      split at taken
      next kind => cases taken; exact ⟨t, u, rfl, .inr ⟨kind, rest⟩⟩
      next => cases taken
  · intro h
    rcases h with ⟨t, u, rfl, ⟨kind, rest⟩ | ⟨kind, rest⟩⟩
    · exact ⟨t, u, first t, rfl, by rw [take, if_pos kind], rest⟩
    · have other : t.kind ≠ k := by rw [kind]; exact differ
      exact ⟨t, u, second t, rfl, by rw [take, if_neg other, if_pos kind], rest⟩

-- The draft collects items: `due` waits for one, and `separator` for what stands behind it.
theorem completes_listUntil {α : Type} {item : α → List Token → Prop} {stop : Kind}
    (due separator : List α → Draft) (closed : List α → Advance) (differ : stop ≠ .comma)
    (takes_item : ∀ acc w, (due acc).Completes w r ↔
      ∃ a v u, w = v ++ u ∧ item a v ∧ (separator (a :: acc)).Completes u r)
    (take_separator : ∀ acc t, (separator acc).take? t =
      if t.kind = .comma then some (.next (due acc))
      else if t.kind = stop then some (closed acc) else none)
    (acc : List α) (w : List Token) :
    (due acc).Completes w r ↔
      ∃ items v u, w = v ++ u ∧ ListUntil item stop items v ∧
        (closed (items.reverse ++ acc)).Completes u r := by
  have takes_separator (acc : List α) (w : List Token) :=
    completes_of_either (w := w) (r := r) differ (take_separator acc)
  constructor
  · -- The tokens behind the first separator are fewer.
    induction h : w.length using Nat.strongRecOn generalizing acc w with
    | ind n ih =>
      intro complete
      obtain ⟨a, v, rest, rfl, first, separated⟩ := (takes_item acc w).1 complete
      obtain ⟨t, u, rfl, ⟨comma, later⟩ | ⟨stops, rest⟩⟩ := (takes_separator _ rest).1 separated
      · have shorter : u.length < n := by
          simp only [List.length_append, List.length_cons] at h
          omega
        obtain ⟨items, x, y, rfl, list, rest⟩ := ih u.length shorter (a :: acc) u rfl later
        exact ⟨a :: items, v ++ t :: x, y, by simp, .more first comma list, by simpa using rest⟩
      · exact ⟨[a], v ++ [t], u, by simp, .last first stops, rest⟩
  · intro h
    rcases h with ⟨items, v, u, rfl, list, rest⟩
    induction list generalizing acc with
    | @last a v t first stops =>
      refine (takes_item acc _).2 ⟨a, v, t :: u, by simp, first, ?_⟩
      exact (takes_separator _ _).2 ⟨t, u, rfl, .inr ⟨stops, rest⟩⟩
    | @more a items v x comma first separates _ ih =>
      refine (takes_item acc _).2 ⟨a, v, comma :: (x ++ u), by simp, first, ?_⟩
      refine (takes_separator _ _).2 ⟨comma, x ++ u, rfl, .inl ⟨separates, ?_⟩⟩
      exact ih (a :: acc) (by simpa using rest)

theorem completes_tokens {p : Token → Prop} [DecidablePred p] {stop : Kind}
    (due separator : List Token → Draft) (closed : List Token → Advance) (differ : stop ≠ .comma)
    (take_due : ∀ acc t, (due acc).take? t =
      if p t then some (.next (separator (t :: acc))) else none)
    (take_separator : ∀ acc t, (separator acc).take? t =
      if t.kind = .comma then some (.next (due acc))
      else if t.kind = stop then some (closed acc) else none)
    (acc : List Token) (w : List Token) :
    (due acc).Completes w r ↔
      ∃ tokens v u, w = v ++ u ∧ ListUntil (fun t v => p t ∧ v = [t]) stop tokens v ∧
        (closed (tokens.reverse ++ acc)).Completes u r := by
  refine completes_listUntil due separator closed differ (fun acc w => ?_) take_separator acc w
  rw [completes_of_due (take_due acc)]
  constructor
  · intro h
    rcases h with ⟨t, u, rfl, holds, later⟩
    exact ⟨t, [t], u, rfl, ⟨holds, rfl⟩, later⟩
  · intro h
    rcases h with ⟨t, v, u, rfl, ⟨holds, rfl⟩, later⟩
    exact ⟨t, u, rfl, holds, later⟩

end Draft
end SqlReader
