import SqlReader.Proofs.Relabelling.Reading
import SqlReader.Proofs.Scan.Written
import SqlReader.Proofs.Script.Sentences

set_option autoImplicit false

namespace SqlReader

variable (m : Relabelling) {tokens : List Token}

theorem endPosition_relabel (name title : String) (nonempty : tokens ≠ []) :
    endPosition title (tokens.map (Token.relabel m)) = m.position (endPosition name tokens) := by
  simp only [endPosition, List.getLast?_map]
  cases last : tokens.getLast? with
  | none => exact absurd (List.getLast?_eq_none_iff.1 last) nonempty
  | some t => rfl

theorem parse_relabel (name title : String) (nonempty : tokens ≠ []) :
    parse title (tokens.map (Token.relabel m)) =
      relabelResult m (Statement.relabel m) (parse name tokens) := by
  rw [parse, parse, readStatement, readStatement, endPosition_relabel m name title nonempty]
  exact readOne_relabel m _ tokens

theorem parseScript_relabel (name title : String) (nonempty : tokens ≠ []) :
    parseScript title (tokens.map (Token.relabel m)) =
      relabelResult m (List.map (Statement.relabel m)) (parseScript name tokens) := by
  rw [parseScript_eq, parseScript_eq, endPosition_relabel m name title nonempty]
  exact readMany_relabel m _ tokens

namespace Source

theorem relabel_statement (s : Source) (title : String) :
    relabelResult m (Statement.relabel m) s.statement =
      (relabelResult m (List.map (Token.relabel m)) s.tokenize).bind (parse title) := by
  rw [statement]
  cases read : s.tokenize with
  | error e => rfl
  | ok tokens => exact (parse_relabel m s.name title (tokens_ne_nil read)).symm

theorem relabel_script (s : Source) (title : String) :
    relabelResult m (List.map (Statement.relabel m)) s.script =
      (relabelResult m (List.map (Token.relabel m)) s.tokenize).bind (parseScript title) := by
  rw [script]
  cases read : s.tokenize with
  | error e => rfl
  | ok tokens => exact (parseScript_relabel m s.name title (tokens_ne_nil read)).symm

end Source

-- What is read from the two sources differs only in what `m` leaves out.
structure ReadAlike (m : Relabelling) (first second : Source) : Prop where
  tokens : relabelResult m (List.map (Token.relabel m)) first.tokenize =
    relabelResult m (List.map (Token.relabel m)) second.tokenize
  statement : relabelResult m (Statement.relabel m) first.statement =
    relabelResult m (Statement.relabel m) second.statement
  script : relabelResult m (List.map (Statement.relabel m)) first.script =
    relabelResult m (List.map (Statement.relabel m)) second.script

theorem ReadAlike.of_tokens {m : Relabelling} {first second : Source}
    (alike : relabelResult m (List.map (Token.relabel m)) first.tokenize =
      relabelResult m (List.map (Token.relabel m)) second.tokenize) : ReadAlike m first second := by
  refine ⟨alike, ?_, ?_⟩
  · rw [first.relabel_statement m second.name, alike, second.relabel_statement m second.name]
  · rw [first.relabel_script m second.name, alike, second.relabel_script m second.name]

end SqlReader
