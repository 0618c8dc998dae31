import SqlReader.Draft
import SqlReader.Proofs.Grammar.Layout

set_option autoImplicit false

namespace SqlReader

namespace Statement

def inOrder : Statement → List Token
  | createTable s => s.table :: s.columns.flatMap fun column => [column.1, column.2]
  | insert s => s.table :: (s.names ++ s.values)
  | select s => s.columns ++ [s.table]

def form : Statement → Form
  | createTable _ => .createTable
  | insert _ => .insert
  | select _ => .select

end Statement

theorem ListUntil.flatMap_sublist {α : Type} {item : α → List Token → Prop} {stop : Kind}
    {items : List α} {w : List Token} {f : α → List Token} (h : ListUntil item stop items w)
    (each : ∀ {a v}, item a v → (f a).Sublist v) : (items.flatMap f).Sublist w := by
  induction h with
  | @last a v t first stops =>
    rw [List.flatMap_singleton]
    exact (each first).trans (List.sublist_append_left v [t])
  | @more a rest v w comma first separates later ih =>
    rw [List.flatMap_cons]
    exact (each first).append (ih.cons comma)

theorem ListUntil.sublist {p : Token → Prop} {stop : Kind} {tokens w : List Token}
    (h : ListUntil (fun t v => p t ∧ v = [t]) stop tokens w) : tokens.Sublist w := by
  have kept := h.flatMap_sublist (f := fun t => [t]) fun single => single.2 ▸ .refl _
  rwa [List.flatMap_singleton'] at kept

theorem Phrase.spelled {w : List Token} {s : Statement} (h : Phrase w s) :
    ∃ lead rest, w = lead :: rest ∧ lead.kind = s.form.keyword ∧ s.start = lead.start ∧
      s.inOrder.Sublist rest := by
  cases h with
  | @createTable create table name opening columns w leads second named opens list =>
    have pairs : (columns.map Prod.fst).zip (columns.map Prod.snd) = columns := by
      simp [List.zip_map']
    have kept := list.flatMap_sublist (f := fun column => [column.1, column.2])
      fun single => single.2.2 ▸ .refl _
    refine ⟨create, _, rfl, leads, rfl, ?_⟩
    rw [Statement.inOrder, CreateTable.columns, pairs]
    exact ((kept.cons opening).cons_cons name).cons table
  | @insert insert into name values opening names literals v w leads second named columns announces
      opens list =>
    have listed : names.Sublist v := by
      cases columns with
      | absent => exact .slnil
      | present opens list => exact list.sublist.cons _
    refine ⟨insert, _, rfl, leads, rfl, ?_⟩
    exact ((listed.append ((list.sublist.cons opening).cons values)).cons_cons name).cons into
  | @selectAll select star source name leads all origin named =>
    refine ⟨select, _, rfl, leads, rfl, ?_⟩
    exact ((List.Sublist.refl [name]).cons source).cons_cons star
  | @select select name columns w leads list named =>
    exact ⟨select, _, rfl, leads, rfl, list.sublist.append (.refl [name])⟩

end SqlReader
