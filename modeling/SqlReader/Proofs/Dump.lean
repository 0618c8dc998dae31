import Mathlib.Data.List.Forall2
import SqlReader.Dump
import SqlReader.Proofs.Outline.Quotes
import SqlReader.Script

set_option autoImplicit false

namespace SqlReader

open Outline

def Token.strings (t : Token) : List String :=
  [t.value, t.span.start.source, t.span.stop.source]

def Statement.strings : Statement → List String
  | createTable s =>
    s.start.source :: (s.table.strings ++ s.names.flatMap Token.strings ++
      s.types.flatMap Token.strings)
  | insert s =>
    s.start.source :: (s.table.strings ++ s.names.flatMap Token.strings ++
      s.values.flatMap Token.strings)
  | select s => s.start.source :: (s.columns.flatMap Token.strings ++ s.table.strings)

-- The brackets of the dump are balanced if its quotes hold none.
structure Dumped (strings : List String) (text : List Char) : Prop where
  quotes : Quotes strings text
  balanced : (∀ v ∈ strings, Unbroken v) → Balanced text

def Bare (text : List Char) : Prop :=
  ∀ c ∈ text, c ≠ '"' ∧ isOpener c = false ∧ isCloser c = false

instance (text : List Char) : Decidable (Bare text) := List.decidableBAll _ text

section

variable {strings more : List String} {name s t : List Char}

theorem Bare.dumped (bare : Bare s) : Dumped [] s where
  quotes := quotes_of_noQuote fun c mem => (bare c mem).1
  balanced _ := balanced_of_plain fun c mem => (bare c mem).2

theorem dumped_quoted (v : String) : Dumped [v] (quoted v).toList where
  quotes := quotes_quoted v
  balanced whole := balanced_of_plain fun c mem =>
    have plain := whole v List.mem_cons_self c mem
    ⟨plain.1, plain.2.1⟩

theorem Dumped.append (h : Dumped strings s) (h' : Dumped more t) :
    Dumped (strings ++ more) (s ++ t) where
  quotes := h.quotes.append h'.quotes
  balanced whole :=
    (h.balanced fun v mem => whole v (List.mem_append_left more mem)).append
      (h'.balanced fun v mem => whole v (List.mem_append_right strings mem))

theorem Dumped.bare_append (bare : Bare s) (h : Dumped strings t) : Dumped strings (s ++ t) :=
  bare.dumped.append h

theorem Dumped.bracket (h : Dumped strings s) {c d : Char} (opens : isOpener c = true)
    (closes : isCloser d = true) : Dumped strings (c :: (s ++ [d])) where
  quotes := by
    have quotes := h.quotes.append (.char (c := d) (by rintro rfl; cases closes) .nil)
    rw [List.append_nil] at quotes
    exact .char (by rintro rfl; cases opens) quotes
  balanced whole := (h.balanced whole).bracket opens closes

theorem dumped_intercalate {parts : List (List String)} {items : List (List Char)}
    (each : List.Forall₂ Dumped parts items) :
    Dumped parts.flatten ([',', ' '].intercalate items) := by
  induction each with
  | nil => exact Bare.dumped (by decide)
  | @cons part item parts items first rest ih =>
    cases items with
    | nil =>
      obtain rfl : parts = [] := by cases rest; rfl
      simpa using first
    | cons item' items =>
      rw [List.intercalate_cons_cons, List.flatten_cons, List.append_assoc]
      exact first.append (.bare_append (by decide) ih)

end

section

variable {parts : List (List String)}

theorem dumped_commaSeparated {items : List String}
    (each : List.Forall₂ (fun part item => Dumped part item.toList) parts items) :
    Dumped parts.flatten (commaSeparated items).toList := by
  rw [commaSeparated, String.toList_intercalate]
  exact dumped_intercalate (List.forall₂_map_right_iff.2 each)

theorem dumped_listing {items : List String}
    (each : List.Forall₂ (fun part item => Dumped part item.toList) parts items) :
    Dumped parts.flatten (listing items).toList := by
  have whole := (dumped_commaSeparated each).bracket (c := '[') (d := ']') rfl rfl
  simpa [listing] using whole

theorem dumped_applied {arguments : List String} (name : String) (bare : Bare name.toList)
    (each : List.Forall₂ (fun part item => Dumped part item.toList) parts arguments) :
    Dumped parts.flatten (applied name arguments).toList := by
  have whole := (dumped_commaSeparated each).bracket (c := '(') (d := ')') rfl rfl
  simpa [applied] using Dumped.bare_append bare whole

theorem dumped_record {fields : List (String × String)} (name : String) (bare : Bare name.toList)
    (each : List.Forall₂ (fun part field => Bare field.1.toList ∧ Dumped part field.2.toList)
      parts fields) :
    Dumped parts.flatten (record name fields).toList := by
  have labelled : List.Forall₂ (fun part item => Dumped part item.toList) parts
      (fields.map fun field => field.1 ++ ": " ++ field.2) := by
    refine List.forall₂_map_right_iff.2 (each.imp fun part field h => ?_)
    have colon := Dumped.bare_append (s := ": ".toList) (by decide) h.2
    simpa using Dumped.bare_append h.1 colon
  have inner := (dumped_commaSeparated labelled).append (Bare.dumped (s := [' ']) (by decide))
  have whole := (Dumped.bare_append (s := [' ']) (by decide) inner).bracket (c := '\x7b')
    (d := '\x7d') rfl rfl
  have outer := Dumped.bare_append bare (Dumped.bare_append (s := [' ']) (by decide) whole)
  simpa [record] using outer

theorem Dumped.field {strings : List String} {text : String} (h : Dumped strings text.toList)
    (label : String) (bare : Bare label.toList) :
    Bare (label, text).1.toList ∧ Dumped strings (label, text).2.toList :=
  ⟨bare, h⟩

end

theorem bare_toString (n : Nat) : Bare (toString n).toList := by
  intro c mem
  rw [Nat.toString_eq_repr, Nat.toList_repr] at mem
  have digit : c.isDigit = true := Nat.isDigit_of_mem_toDigits (by decide) (by decide) mem
  have other {d : Char} (sign : d.isDigit = false) : c ≠ d := by
    rintro rfl
    rw [digit] at sign
    cases sign
  refine ⟨other rfl, ?_, ?_⟩
  · simp [isOpener, other]
  · simp [isCloser, other]

theorem Position.dumped (p : Position) : Dumped [p.source] p.dump.toList :=
  dumped_applied "Position" (by decide)
    (.cons (bare_toString p.offset.toNat).dumped (.cons (dumped_quoted p.source) .nil))

theorem Span.dumped (s : Span) : Dumped [s.start.source, s.stop.source] s.dump.toList :=
  dumped_record "Span" (by decide) (.cons (s.start.dumped.field "start" (by decide))
    (.cons (s.stop.dumped.field "end" (by decide)) .nil))

theorem Token.dumped (t : Token) : Dumped t.strings t.dump.toList := by
  have kind : Bare t.kind.name.toList := by
    cases t.kind <;> decide
  exact dumped_record "Token" (by decide) (.cons (kind.dumped.field "kind" (by decide))
    (.cons ((dumped_quoted t.value).field "value" (by decide))
      (.cons (t.span.dumped.field "span" (by decide)) .nil)))

theorem dumped_tokens (tokens : List Token) :
    Dumped (tokens.flatMap Token.strings) (dumpTokens tokens).toList := by
  rw [List.flatMap, dumpTokens]
  refine dumped_listing (List.forall₂_map_left_iff.2 (List.forall₂_map_right_iff.2 ?_))
  exact List.forall₂_same.2 fun t _ => t.dumped

theorem Statement.dumped (s : Statement) : Dumped s.strings s.dump.toList := by
  cases s with
  | createTable s =>
    have fields := dumped_record "CreateTableStatement" (by decide)
      (.cons (s.start.dumped.field "start" (by decide))
        (.cons (s.table.dumped.field "table_name" (by decide))
          (.cons ((dumped_tokens s.names).field "column_names" (by decide))
            (.cons ((dumped_tokens s.types).field "column_types" (by decide)) .nil))))
    simpa [strings, dump, CreateTable.dump] using
      dumped_applied "CreateTable" (by decide) (.cons fields .nil)
  | insert s =>
    have fields := dumped_record "InsertStatement" (by decide)
      (.cons (s.start.dumped.field "start" (by decide))
        (.cons (s.table.dumped.field "table_name" (by decide))
          (.cons ((dumped_tokens s.names).field "column_names" (by decide))
            (.cons ((dumped_tokens s.values).field "column_values" (by decide)) .nil))))
    simpa [strings, dump, Insert.dump] using
      dumped_applied "Insert" (by decide) (.cons fields .nil)
  | select s =>
    have fields := dumped_record "SelectStatement" (by decide)
      (.cons (s.start.dumped.field "start" (by decide))
        (.cons ((dumped_tokens s.columns).field "columns" (by decide))
          (.cons (s.table.dumped.field "table_name" (by decide)) .nil)))
    simpa [strings, dump, Select.dump] using
      dumped_applied "Select" (by decide) (.cons fields .nil)

theorem Statement.dump_ends (s : Statement) : ∃ front, s.dump.toList = front ++ [')'] := by
  cases s <;> exact ⟨_, String.toList_append⟩

/-- The outline of a dump breaks a quoted text if and only if that holds a bracket or a comma. If none
does, and only then, the lines are indented as the brackets outside the quotes say. -/
theorem dump_lines_up (s : Statement) :
    Quotes s.strings s.dump.toList ∧
      (∀ v ∈ s.strings, (quoted v).toList <:+: (outline s.dump).toList ↔ Unbroken v) ∧
      ((outline s.dump).toList = spreadAround .outside 0 false s.dump.toList ↔
        ∀ v ∈ s.strings, Unbroken v) ∧
      (∃ front, (outline s.dump).toList = front ++ (newLine (depth s.dump.toList) ++ [')'])) ∧
      ((∀ v ∈ s.strings, Unbroken v) → Balanced s.dump.toList ∧ depth s.dump.toList = 0) := by
  have laid : (outline s.dump).toList = spread 0 false s.dump.toList := String.toList_ofList
  rw [laid]
  refine ⟨s.dumped.quotes, fun v mem => ⟨?_, ?_⟩, s.dumped.quotes.spread_eq_iff 0 false, ?_, ?_⟩
  · exact (broken_spread 0 false s.dump.toList).unbroken
  · exact fun whole => s.dumped.quotes.infix_spread mem whole 0 false
  · obtain ⟨front, ends⟩ := s.dump_ends
    rw [ends]
    exact exists_closing_line rfl front
  · intro whole
    have balanced := s.dumped.balanced whole
    exact ⟨balanced, balanced.depth_eq⟩

-- The bracket in the literal is taken for one of the dump.
theorem dump_with_paren_literal :
    let span (start stop : UInt32) : Span := ⟨⟨start, "stdin"⟩, ⟨stop, "stdin"⟩⟩
    let s : Statement := .insert ⟨⟨0, "stdin"⟩, ⟨.identifier, "t", span 12 13⟩, [],
      [⟨.text, "'('", span 22 25⟩]⟩
    (⟨"stdin", "INSERT INTO t VALUES ('(')"⟩ : Source).script = .ok [s] ∧
      "'('" ∈ s.strings ∧ ¬ (quoted "'('").toList <:+: (outline s.dump).toList ∧
      (outline s.dump).toList ≠ spreadAround .outside 0 false s.dump.toList := by
  intro span s
  have mem : "'('" ∈ s.strings := by decide
  have broken : ¬ Unbroken "'('" := by decide
  have laid : (outline s.dump).toList = spread 0 false s.dump.toList := String.toList_ofList
  refine ⟨by decide +kernel, mem, fun within => ?_, fun same => ?_⟩
  · rw [laid] at within
    exact broken ((broken_spread 0 false s.dump.toList).unbroken within)
  · exact broken ((s.dumped.quotes.spread_eq_iff 0 false).1 (laid ▸ same) _ mem)

end SqlReader
