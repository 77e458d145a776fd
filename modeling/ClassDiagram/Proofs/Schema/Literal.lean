import ClassDiagram.Proofs.Schema.Clauses
import ClassDiagram.Proofs.Schema.Quoting

/-!
# Reading literals back

The literal for a text in double quotes has single quotes around an interior.  In the
interior every single quote belongs to a pair (`Paired`), and with one quote for every
pair it is the text again (`undoubled_doubled`).  So a store that reads the literal from
its first quote on stops at its last one and gets the text, whatever follows
(`readLiteral?_literal`), also in the definition of a column (`default_reads`).

A value that does not stand in double quotes is its own literal
(`literal_of_ne_doubleQuoted`).
-/

namespace ClassDiagram.Schema

open Emit (margin words)

variable {d : Dialect} {m : Model} {p : Property} {mark : Char} {cs : List Char} {s : String}

/-! ## Pairs of marks -/

/-- Every mark in the text belongs to a pair of marks. -/
inductive Paired (mark : Char) : List Char → Prop
  | nil : Paired mark []
  | plain {c : Char} {cs : List Char} : c ≠ mark → Paired mark cs → Paired mark (c :: cs)
  | pair {cs : List Char} : Paired mark cs → Paired mark (mark :: mark :: cs)

/-- A text with one mark in place of every pair of marks. -/
def undoubled (mark : Char) : List Char → List Char
  | [] => []
  | [c] => [c]
  | c :: next :: cs =>
      if c = mark ∧ next = mark then mark :: undoubled mark cs else c :: undoubled mark (next :: cs)

theorem undoubled_cons_of_ne {c : Char} (hc : c ≠ mark) (cs : List Char) :
    undoubled mark (c :: cs) = c :: undoubled mark cs := by
  cases cs with
  | nil => rfl
  | cons next cs => rw [undoubled, if_neg fun h => hc h.1]

theorem undoubled_pair (mark : Char) (cs : List Char) :
    undoubled mark (mark :: mark :: cs) = mark :: undoubled mark cs := by
  rw [undoubled, if_pos ⟨rfl, rfl⟩]

theorem paired_doubled (mark : Char) (cs : List Char) : Paired mark (doubled mark cs) := by
  induction cs with
  | nil => exact .nil
  | cons c cs ih =>
    rw [doubled]
    split
    next => exact .pair ih
    next hc => exact .plain hc ih

/-- Doubling the marks can be undone. -/
theorem undoubled_doubled (mark : Char) (cs : List Char) :
    undoubled mark (doubled mark cs) = cs := by
  induction cs with
  | nil => rfl
  | cons c cs ih =>
    rw [doubled]
    split
    next hc => rw [undoubled_pair, ih, hc]
    next hc => rw [undoubled_cons_of_ne hc, ih]

/-! ## Literals -/

/-- A text in double quotes. -/
def doubleQuoted (s : String) : String := "\"" ++ s ++ "\""

/-- What stands between the quotes of the literal for a text in double quotes. -/
def interior (s : String) : String := .ofList (doubled '\'' s.toList)

/-- Reads a literal in single quotes at the start of a text.  The text it stands for and what
comes after it. -/
def readLiteral? (text : String) : Option (String × String) :=
  match text.toList with
  | '\'' :: cs => (readUntil '\'' cs).map fun (inner, after) => (.ofList inner, .ofList after)
  | _ => none

/-- A value is unquoted if it stands between two double quotes. -/
theorem unquoted?_eq_some_iff {inner : List Char} :
    unquoted? cs = some inner ↔ cs = '"' :: (inner ++ ['"']) := by
  rw [unquoted?.eq_def]
  split
  next rest =>
    rw [List.cons_inj_right]
    constructor
    · intro h
      split at h
      next hlast =>
        obtain ⟨init, rfl⟩ := List.getLast?_eq_some_iff.1 hlast
        rw [List.dropLast_concat] at h
        rw [Option.some.inj h]
      next => cases h
    · rintro rfl
      rw [if_pos List.getLast?_concat, List.dropLast_concat]
  next hnot => exact iff_of_false nofun fun h => hnot _ h

theorem toList_doubleQuoted (s : String) :
    (doubleQuoted s).toList = '"' :: (s.toList ++ ['"']) := by
  rw [doubleQuoted, String.toList_append, String.toList_append, List.append_assoc]
  rfl

theorem toList_interior (s : String) : (interior s).toList = doubled '\'' s.toList :=
  String.toList_ofList

theorem literal_doubleQuoted (s : String) :
    literal (doubleQuoted s) = "'" ++ interior s ++ "'" := by
  have hinner := unquoted?_eq_some_iff.2 (toList_doubleQuoted s)
  simp only [literal, hinner]
  rw [← String.toList_inj, String.toList_append, String.toList_append, toList_interior,
    doubleQuotes_eq, String.toList_ofList]
  rfl

/-- A value that is not in double quotes stays as it is. -/
theorem literal_of_ne_doubleQuoted {value : String} (h : ∀ s, value ≠ doubleQuoted s) :
    literal value = value := by
  cases hvalue : unquoted? value.toList with
  | none => rw [literal, hvalue]
  | some inner =>
    refine absurd ?_ (h (.ofList inner))
    rw [← String.toList_inj, toList_doubleQuoted, String.toList_ofList]
    exact unquoted?_eq_some_iff.1 hvalue

/-- The first quote that is not one of a pair is the last one of the literal. -/
theorem readLiteral?_literal (s : String) {rest : String}
    (hrest : rest.toList.head? ≠ some '\'') :
    readLiteral? (literal (doubleQuoted s) ++ rest) = some (s, rest) := by
  have hinner := unquoted?_eq_some_iff.2 (toList_doubleQuoted s)
  obtain ⟨cs, hcs, hread⟩ := literal_reads hinner hrest
  rw [readLiteral?, String.toList_append, hcs, List.cons_append]
  simp only [hread, Option.map_some, String.ofList_toList]

/-- Different texts have different literals. -/
theorem literal_injective {other : String} :
    literal (doubleQuoted s) = literal (doubleQuoted other) ↔ s = other := by
  refine ⟨fun h => ?_, fun h => by rw [h]⟩
  have hempty : "".toList.head? ≠ some '\'' := by decide
  have hread := readLiteral?_literal s hempty
  rw [h, readLiteral?_literal other hempty] at hread
  cases hread
  rfl

/-! ## Columns -/

/-- The words of a column before its default value. -/
def Column.earlyWords (d : Dialect) (c : Column) : List String :=
  d.quote c.name :: c.type :: ((if c.autoClause.isEmpty then [] else [c.autoClause])
    ++ (if c.notNull then ["NOT NULL"] else []))

/-- What a column has after its default value. -/
def Column.ending (c : Column) : String := if c.unique then " UNIQUE" else ""

theorem words_concat {l : List String} (hl : l ≠ []) (word : String) :
    words (l ++ [word]) = words l ++ (" " ++ word) := by
  rw [words, String.intercalate_append_of_ne_nil hl (List.cons_ne_nil word []),
    String.intercalate_singleton, String.append_assoc]
  rfl

theorem Column.text_of_initial {c : Column} {value : String} (h : c.initial = some value) :
    c.text d = margin 1 ++ words (c.earlyWords d) ++ " DEFAULT " ++ (value ++ c.ending) := by
  have hclauses : d.quote c.name :: c.type :: c.clauses
      = c.earlyWords d ++ ["DEFAULT " ++ value] ++ (if c.unique then ["UNIQUE"] else []) := by
    simp only [clauses, h, earlyWords, Option.toList_some, List.map_cons, List.map_nil,
      List.cons_append, List.append_assoc]
  have hdefault : words (c.earlyWords d ++ ["DEFAULT " ++ value])
      = words (c.earlyWords d) ++ " DEFAULT " ++ value := by
    have hspaced : " " ++ ("DEFAULT " ++ value) = " DEFAULT " ++ value :=
      String.append_assoc.symm
    have hearly : c.earlyWords d ≠ [] := List.cons_ne_nil _ _
    rw [words_concat hearly, hspaced, String.append_assoc]
  rw [text_eq, hclauses, ending]
  cases c.unique with
  | true =>
    rw [if_pos rfl, if_pos rfl, words_concat (by simp), hdefault]
    simp only [String.append_assoc]
    rfl
  | false =>
    rw [if_neg Bool.false_ne_true, if_neg Bool.false_ne_true, List.append_nil, hdefault,
      String.append_empty]
    simp only [String.append_assoc]

/-- The default value of a column is read back up to its end. -/
theorem default_reads (d : Dialect) (m : Model) (hinitial : p.initial = some (doubleQuoted s))
    (hauto : p.constraints.isAutoValued = false) : ∃ before after,
      (Column.ofProperty d m p).text d = before ++ " DEFAULT " ++ after ∧
        readLiteral? after = some (s, (Column.ofProperty d m p).ending) := by
  have hvalue : (Column.ofProperty d m p).initial = some (literal (doubleQuoted s)) := by
    simp [Column.ofProperty, hauto, hinitial]
  refine ⟨_, _, Column.text_of_initial hvalue, readLiteral?_literal s ?_⟩
  rw [Column.ending]
  split <;> decide

/-- The literal for a text in double quotes is an interior between single quotes.  Every single
quote in the interior belongs to a pair, and with one for every pair it is the text.  Different
texts have different literals.  A store that reads the literal stops at its end and gets the text,
whatever follows, and so it is for the default value in the definition of a column.  Any value that
does not stand in double quotes is its own literal. -/
theorem literal_decodes (s : String) :
    (literal (doubleQuoted s) = "'" ++ interior s ++ "'" ∧ Paired '\'' (interior s).toList ∧
      undoubled '\'' (interior s).toList = s.toList) ∧
    (∀ other, literal (doubleQuoted s) = literal (doubleQuoted other) ↔ s = other) ∧
    (∀ rest : String, rest.toList.head? ≠ some '\'' →
      readLiteral? (literal (doubleQuoted s) ++ rest) = some (s, rest)) ∧
    (∀ d m p, p.initial = some (doubleQuoted s) → p.constraints.isAutoValued = false →
      ∃ before after, (Column.ofProperty d m p).text d = before ++ " DEFAULT " ++ after ∧
        readLiteral? after = some (s, (Column.ofProperty d m p).ending)) ∧
    ∀ value, (∀ inner, value ≠ doubleQuoted inner) → literal value = value := by
  refine ⟨⟨literal_doubleQuoted s, ?_, ?_⟩, fun _ => literal_injective, ?_, ?_, ?_⟩
  · rw [toList_interior]
    exact paired_doubled '\'' s.toList
  · rw [toList_interior, undoubled_doubled]
  · exact fun _ hrest => readLiteral?_literal s hrest
  · exact fun d m _ hinitial hauto => default_reads d m hinitial hauto
  · exact fun _ hvalue => literal_of_ne_doubleQuoted hvalue

/-- A text with a quote of its own, and a quote that stands for no text. -/
theorem literal_decodes_its : literal (doubleQuoted "it's") = "'it''s'" ∧
    readLiteral? (literal (doubleQuoted "it's") ++ ",") = some ("it's", ",") ∧
    (∃ before after, (Column.ofProperty ansi {}
        { name := "mood", initial := some (doubleQuoted "it's") }).text ansi
          = before ++ " DEFAULT " ++ after ∧ readLiteral? after = some ("it's", "")) ∧
    literal "\"" = "\"" := by
  obtain ⟨⟨hliteral, -, -⟩, -, hread, hcolumn, hself⟩ := literal_decodes "it's"
  have hinterior : interior "it's" = "it''s" := by decide
  refine ⟨by rw [hliteral, hinterior]; decide, hread "," (by decide), ?_, ?_⟩
  · exact hcolumn ansi _ { name := "mood", initial := some (doubleQuoted "it's") } rfl rfl
  · refine hself "\"" fun inner heq => ?_
    rw [← String.toList_inj, toList_doubleQuoted] at heq
    simp at heq

end ClassDiagram.Schema
