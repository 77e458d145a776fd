import ClassDiagram.Schema.Dialect
import ClassDiagram.Schema.Literal

/-!
# Reading quoted identifiers

A store reads a quoted identifier up to the mark that closes it.  A closing mark that
belongs to the identifier is written twice, so a pair of marks is one character and the
first mark without a partner is the end (`readUntil`).  What is read in this way is
exactly what is written in this way (`readUntil_eq_some_iff`, `read?_eq_some_iff`).

The literals are written so.  The identifiers are not: the dialects put the marks around
an identifier and leave it as it is.  It is read back as long as it has no closing mark,
and then only (`quote_reads_iff`).
-/

namespace ClassDiagram.Schema

variable {d : Dialect} {mark : Char} {cs inner after : List Char}

/-! ## Texts up to a mark -/

/-- A text with every mark twice. -/
def doubled (mark : Char) : List Char → List Char
  | [] => []
  | c :: cs => if c = mark then mark :: mark :: doubled mark cs else c :: doubled mark cs

/-- Reads up to the first mark without a partner.  What comes before it and what comes after it,
if there is one. -/
def readUntil (mark : Char) : List Char → Option (List Char × List Char)
  | [] => none
  | c :: cs =>
      if c = mark then
        match cs with
        | [] => some ([], [])
        | next :: rest =>
            if next = mark then
              (readUntil mark rest).map fun (inner, after) => (mark :: inner, after)
            else some ([], next :: rest)
      else (readUntil mark cs).map fun (inner, after) => (c :: inner, after)

theorem readUntil_cons_of_ne {c : Char} (hc : c ≠ mark) (cs : List Char) :
    readUntil mark (c :: cs)
      = (readUntil mark cs).map fun (inner, after) => (c :: inner, after) := by
  rw [readUntil.eq_def]
  simp only [if_neg hc]

theorem readUntil_pair (cs : List Char) :
    readUntil mark (mark :: mark :: cs)
      = (readUntil mark cs).map fun (inner, after) => (mark :: inner, after) := by
  rw [readUntil.eq_def]
  simp only [if_true]

theorem readUntil_single (h : after.head? ≠ some mark) :
    readUntil mark (mark :: after) = some ([], after) := by
  cases after with
  | nil => simp [readUntil]
  | cons next rest =>
    have hnext : next ≠ mark := by simpa using h
    simp [readUntil, hnext]

theorem readUntil_doubled (h : after.head? ≠ some mark) (inner : List Char) :
    readUntil mark (doubled mark inner ++ mark :: after) = some (inner, after) := by
  induction inner with
  | nil => exact readUntil_single h
  | cons c inner ih =>
    rw [doubled]
    split
    next hc => rw [List.cons_append, List.cons_append, readUntil_pair, ih, hc, Option.map_some]
    next hc => rw [List.cons_append, readUntil_cons_of_ne hc, ih, Option.map_some]

/-- What is read was written with every mark in it twice, and then a mark that no other follows. The
cases are those of the reader, which takes a pair of marks in one step. -/
theorem of_readUntil (h : readUntil mark cs = some (inner, after)) :
    cs = doubled mark inner ++ mark :: after ∧ after.head? ≠ some mark := by
  fun_induction readUntil mark cs generalizing inner with
  | case1 => cases h
  | case2 =>
    cases h
    exact ⟨rfl, nofun⟩
  | case3 rest ih =>
    obtain ⟨⟨before, last⟩, hrest, heq⟩ := Option.map_eq_some_iff.1 h
    cases heq
    obtain ⟨rfl, hlast⟩ := ih hrest
    exact ⟨by rw [doubled, if_pos rfl]; rfl, hlast⟩
  | case4 next rest hnext =>
    cases h
    exact ⟨rfl, by simpa using hnext⟩
  | case5 c cs hc ih =>
    obtain ⟨⟨before, last⟩, hrest, heq⟩ := Option.map_eq_some_iff.1 h
    cases heq
    obtain ⟨rfl, hlast⟩ := ih hrest
    exact ⟨by rw [doubled, if_neg hc]; rfl, hlast⟩

/-- Only a text with doubled marks is read, up to a mark that no other follows. -/
theorem readUntil_eq_some_iff : readUntil mark cs = some (inner, after) ↔
    cs = doubled mark inner ++ mark :: after ∧ after.head? ≠ some mark := by
  refine ⟨of_readUntil, ?_⟩
  rintro ⟨rfl, hafter⟩
  exact readUntil_doubled hafter inner

theorem length_doubled (mark : Char) (cs : List Char) :
    (doubled mark cs).length = cs.length + cs.count mark := by
  induction cs with
  | nil => rfl
  | cons c cs ih =>
    rw [doubled, List.count_cons, List.length_cons]
    split
    next hc =>
      rw [List.length_cons, List.length_cons, ih, if_pos (beq_iff_eq.2 hc)]
      omega
    next hc =>
      rw [List.length_cons, ih, if_neg (mt beq_iff_eq.1 hc)]
      omega

/-- Doubling the marks leaves a text as it is exactly when it has none, for every mark makes it
longer by one. -/
theorem doubled_eq_self_iff : doubled mark cs = cs ↔ mark ∉ cs := by
  constructor
  · intro heq
    have hlength := congrArg List.length heq
    rw [length_doubled, Nat.add_eq_left] at hlength
    exact List.count_eq_zero.1 hlength
  · intro hmark
    induction cs with
    | nil => rfl
    | cons c cs ih =>
      obtain ⟨hc, hcs⟩ := not_or.1 (mt List.mem_cons.2 hmark)
      rw [doubled, if_neg (Ne.symm hc), ih hcs]

/-! ## Literals -/

theorem doubleQuotes_eq (cs : List Char) : doubleQuotes cs = doubled '\'' cs := by
  induction cs with
  | nil => rfl
  | cons c cs ih => rw [doubleQuotes, doubled, ih]

/-- A text in double quotes is read back from its literal, after the mark that opens it. -/
theorem literal_reads {value : String} (hvalue : unquoted? value.toList = some inner)
    (hafter : after.head? ≠ some '\'') : ∃ rest, (literal value).toList = '\'' :: rest ∧
      readUntil '\'' (rest ++ after) = some (inner, after) := by
  refine ⟨doubled '\'' inner ++ ['\''], ?_, ?_⟩
  · rw [literal, hvalue, ← doubleQuotes_eq]
    exact String.toList_ofList
  · rw [List.append_assoc]
    exact readUntil_doubled hafter inner

/-! ## Identifiers -/

namespace Dialect

/-- The character that opens a quoted identifier. -/
def openingMark (d : Dialect) : Char := d.openQuote.toList.headD ' '

/-- The character that closes a quoted identifier. -/
def closingMark (d : Dialect) : Char := d.closeQuote.toList.headD ' '

/-- An identifier between the marks, with every closing mark in it twice. -/
def delimited (d : Dialect) (identifier : String) : String :=
  .ofList (d.openingMark :: doubled d.closingMark identifier.toList ++ [d.closingMark])

/-- Reads a quoted identifier at the start of a text.  The identifier and what comes after it. -/
def read? (d : Dialect) (text : String) : Option (String × String) :=
  match text.toList with
  | [] => none
  | c :: cs =>
      if c = d.openingMark then
        (readUntil d.closingMark cs).map fun (inner, after) => (.ofList inner, .ofList after)
      else none

theorem toList_delimited (d : Dialect) (identifier : String) : (d.delimited identifier).toList
    = d.openingMark :: (doubled d.closingMark identifier.toList ++ [d.closingMark]) :=
  String.toList_ofList

theorem read?_eq_some_iff_readUntil {text identifier rest : String} :
    d.read? text = some (identifier, rest) ↔ ∃ cs, text.toList = d.openingMark :: cs ∧
      readUntil d.closingMark cs = some (identifier.toList, rest.toList) := by
  rw [read?]
  cases text.toList with
  | nil => simp
  | cons c cs =>
    by_cases hc : c = d.openingMark
    case neg => simp [hc]
    case pos =>
      simp only [hc, if_true, Option.map_eq_some_iff]
      constructor
      · rintro ⟨⟨inner, after⟩, hread, heq⟩
        cases heq
        exact ⟨cs, rfl, by rw [hread, String.toList_ofList, String.toList_ofList]⟩
      · rintro ⟨cs, heq, hread⟩
        cases heq
        exact ⟨_, hread, by rw [String.ofList_toList, String.ofList_toList]⟩

/-- A text is read as an identifier exactly if it starts with that identifier between the marks,
and no other mark follows. -/
theorem read?_eq_some_iff {text identifier rest : String} :
    d.read? text = some (identifier, rest) ↔
      text = d.delimited identifier ++ rest ∧ rest.toList.head? ≠ some d.closingMark := by
  rw [read?_eq_some_iff_readUntil, ← String.toList_inj, String.toList_append, toList_delimited]
  constructor
  · rintro ⟨cs, htext, hread⟩
    obtain ⟨rfl, hrest⟩ := readUntil_eq_some_iff.1 hread
    exact ⟨by rw [htext, List.cons_append, List.append_assoc]; rfl, hrest⟩
  · rintro ⟨htext, hrest⟩
    rw [List.cons_append, List.append_assoc] at htext
    exact ⟨_, htext, readUntil_eq_some_iff.2 ⟨rfl, hrest⟩⟩

/-- Every dialect opens and closes a quoted identifier with one character. -/
theorem marks (hd : d ∈ dialects) :
    d.openQuote.toList = [d.openingMark] ∧ d.closeQuote.toList = [d.closingMark] := by
  have hall : ∀ d ∈ dialects,
      d.openQuote.toList = [d.openingMark] ∧ d.closeQuote.toList = [d.closingMark] := by decide
  exact hall d hd

theorem toList_quote (hd : d ∈ dialects) (identifier : String) : (d.quote identifier).toList
    = d.openingMark :: (identifier.toList ++ [d.closingMark]) := by
  obtain ⟨hopening, hclosing⟩ := marks hd
  rw [quote, String.toList_append, String.toList_append, hopening, hclosing, List.append_assoc]
  rfl

/-- Different identifiers are quoted differently. -/
theorem quote_injective (hd : d ∈ dialects) {identifier other : String} :
    d.quote identifier = d.quote other ↔ identifier = other := by
  rw [← String.toList_inj, toList_quote hd, toList_quote hd, List.cons_inj_right,
    List.append_left_inj, String.toList_inj]

/-- What is read from a quoted identifier has the closing mark once where the identifier has it
twice. -/
theorem read?_quote_iff (hd : d ∈ dialects) {identifier text rest : String}
    (hrest : rest.toList.head? ≠ some d.closingMark) :
    d.read? (d.quote identifier ++ rest) = some (text, rest) ↔
      identifier.toList = doubled d.closingMark text.toList := by
  rw [read?_eq_some_iff, and_iff_left hrest, String.append_left_inj, ← String.toList_inj,
    toList_quote hd, toList_delimited, List.cons_inj_right, List.append_left_inj]

end Dialect

/-- In every dialect different identifiers are quoted differently.  A text with a quoted identifier
at its start is read as another identifier exactly if the first one is the other with every closing
mark twice, and as the same if and only if it has no closing mark. -/
theorem quote_reads_iff (hd : d ∈ dialects) (identifier : String) :
    (∀ other, d.quote identifier = d.quote other ↔ identifier = other) ∧
      ∀ rest : String, rest.toList.head? ≠ some d.closingMark →
        (∀ text, d.read? (d.quote identifier ++ rest) = some (text, rest) ↔
          identifier.toList = doubled d.closingMark text.toList) ∧
        (d.read? (d.quote identifier ++ rest) = some (identifier, rest) ↔
          d.closingMark ∉ identifier.toList) := by
  refine ⟨fun other => Dialect.quote_injective hd, fun rest hrest => ⟨fun text => ?_, ?_⟩⟩
  · exact Dialect.read?_quote_iff hd hrest
  · rw [Dialect.read?_quote_iff hd hrest, eq_comm, doubled_eq_self_iff]

/-- Oracle reads back a quoted name, unless it has a double quote in it. -/
theorem quote_reads_iff_order : oracle.read? (oracle.quote "Order" ++ " (") = some ("Order", " (") ∧
    oracle.read? (oracle.quote "5\" disk" ++ " (") ≠ some ("5\" disk", " (") := by
  have horacle : oracle ∈ dialects := by simp [dialects]
  obtain ⟨-, hname⟩ := quote_reads_iff horacle "Order"
  obtain ⟨-, hmarked⟩ := quote_reads_iff horacle "5\" disk"
  constructor
  · rw [(hname " (" (by decide)).2]
    decide
  · rw [ne_eq, (hmarked " (" (by decide)).2]
    decide

/-- An identifier can be quoted so that it is not read back. -/
theorem not_quote_reads : ¬ ∀ d ∈ dialects, ∀ identifier : String,
    d.read? (d.quote identifier) = some (identifier, "") := by
  intro hall
  have hread := hall sqlserver (by simp [dialects]) "tags[]"
  rw [Dialect.read?_eq_some_iff] at hread
  revert hread
  decide

end ClassDiagram.Schema
