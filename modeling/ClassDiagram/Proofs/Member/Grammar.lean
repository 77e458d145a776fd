import ClassDiagram.Proofs.Member.Method
import ClassDiagram.Proofs.Member.Property

/-!
# The grammar of signatures

A line is read by cuts at the first or last occurrence of some character.  Here is what
the cuts amount to, said of the text alone.  A line is accepted if its braces make up one
block at its end or none is closed (`HasBody`), and what is left of it without its mark is
named and, for a method, has a parameter list in one piece or none (`NamesProperty`,
`NamesMethod`).  Everything else is refused, and the report has the line as it was given.

The cuts that fail are those for the block (`exists_splitBlock_iff`), the name
(`exists_nameOf_iff`), the parameters (`exists_parametersOf_iff`) and the return type
(`exists_returnOf_iff`).
-/

namespace ClassDiagram

open Text

variable {cs text body rest list tail line : List Char}

/-! ## The parts of a text -/

/-- A text that is not blank. -/
def Worded (cs : List Char) : Prop := ∃ c ∈ cs, isBlank c = false

/-- What a text is before its block.  A text in which a brace is closed ends with a block, which
starts at the last brace that is opened, and holds no other brace that is closed. -/
inductive HasBody (text : List Char) : List Char → Prop
  | whole (closes : '}' ∉ text) : HasBody text text
  | cut {before block : List Char} (ends : text = before ++ '{' :: (block ++ ['}']))
      (opens : '{' ∉ block) (closes : '}' ∉ block) : HasBody text (trimEndChars before)

/-- A text without the mark that it starts with and the blanks after the mark. -/
def afterMark : List Char → List Char
  | [] => []
  | c :: cs => if c = '+' ∨ c = '#' ∨ c = '-' then cs.dropWhile isBlank else c :: cs

/-- A text that names a property: what comes before its first colon or equals sign is not blank. -/
def NamesProperty (rest : List Char) : Prop :=
  Worded (rest.takeWhile fun c => c != ':' && c != '=')

/-- A text that names a method.  It has no parenthesis, or those around the parameters are its first
that opens and its last that closes, and nothing or a colon comes after them. -/
inductive NamesMethod (rest : List Char) : Prop
  | plain (opens : '(' ∉ rest) (closes : ')' ∉ rest)
      (named : Worded (rest.takeWhile (· != ':')))
  | listed {before list tail : List Char} (cut : rest = before ++ '(' :: (list ++ ')' :: tail))
      (first : '(' ∉ before) (last : ')' ∉ tail) (flat : '(' ∉ list ∧ ')' ∉ list)
      (named : Worded before)
      (returns : (∀ c ∈ tail, isBlank c = true) ∨ ∃ type, tail.dropWhile isBlank = ':' :: type)

/-- A line that is the signature of a property. -/
def PropertyLine (line : String) : Prop :=
  ∃ body, HasBody (trimChars line.toList) body ∧ NamesProperty (afterMark body)

/-- A line that is the signature of a method. -/
def MethodLine (line : String) : Prop :=
  ∃ body, HasBody (trimChars line.toList) body ∧ NamesMethod (afterMark body)

/-! ## Cuts -/

/-- Something is left of a text if it has a character that is not blank. -/
theorem trimChars_ne_nil_iff : trimChars cs ≠ [] ↔ Worded cs := by
  simp [Worded, trimChars_eq_nil_iff]

/-- Every text that is not all blank has a name. -/
theorem exists_nameOf_iff : (∃ name, nameOf cs = .ok name) ↔ Worded cs := by
  rw [← trimChars_ne_nil_iff]
  constructor
  · rintro ⟨name, h⟩
    exact (nameOf_eq_ok_iff.1 h).2
  · intro h
    exact ⟨.ofList (trimChars cs), nameOf_eq_ok_iff.2 ⟨(String.toList_ofList).symm, h⟩⟩

/-- What is after the mark does not depend on which mark it is. -/
theorem snd_splitMark (text : List Char) : (splitMark text).2 = afterMark text := by
  cases text with
  | nil => rfl
  | cons c cs =>
    rw [splitMark, afterMark]
    by_cases hc : c = '+' ∨ c = '#' ∨ c = '-'
    · rw [if_pos hc]
      rcases hc with rfl | rfl | rfl <;> rfl
    · have hnone : Access.ofMark? c = none := by
        rw [not_or, not_or] at hc
        simp [Access.ofMark?, hc]
      rw [if_neg hc, hnone]

theorem fst_splitOptional (mark : Char) (cs : List Char) :
    (splitOptional mark cs).1 = cs.takeWhile (· != mark) := by
  rw [splitOptional]
  cases h : splitFirst mark cs with
  | none =>
    have hall : ∀ c ∈ cs, (c != mark) = true := fun c hc =>
      bne_iff_ne.2 (ne_of_mem_of_not_mem hc (splitFirst_eq_none_iff.1 h))
    exact (List.takeWhile_eq_self_iff.2 hall).symm
  | some parts =>
    have hall : ∀ c ∈ parts.1, (c != mark) = true := fun c hc =>
      bne_iff_ne.2 (ne_of_mem_of_not_mem hc (notMem_of_splitFirst h))
    rw [eq_of_splitFirst h, List.takeWhile_append_of_pos hall, List.takeWhile_cons_of_neg (by simp)]
    exact (List.append_nil _).symm

/-- A list with two forbidden characters besides the comma can be read if neither is in it. -/
theorem isSome_items_pair_iff {a b : Char} (ha : a ≠ ',') (hb : b ≠ ',') :
    (items [',', a, b] cs).isSome = true ↔ a ∉ cs ∧ b ∉ cs := by
  rw [isSome_items_iff]
  constructor
  · intro h
    exact ⟨fun hmem => ha (h a hmem (by simp)), fun hmem => hb (h b hmem (by simp))⟩
  · rintro ⟨hna, hnb⟩ c hc hmark
    simp only [List.mem_cons, List.not_mem_nil, or_false] at hmark
    rcases hmark with rfl | rfl | rfl
    · rfl
    · exact absurd hc hna
    · exact absurd hc hnb

/-- Taking off the block fails exactly if the braces are not in order. -/
theorem exists_splitBlock_iff :
    (∃ c, splitBlock line = .ok (body, c)) ↔ HasBody (trimChars line) body := by
  constructor
  · rintro ⟨c, h⟩
    obtain ⟨hnone, rfl, -⟩ | ⟨opened, block, tail, tokens, hline, htail, htokens, rfl, -⟩ :=
      splitBlock_cases h
    · exact .whole hnone
    · have hsolid : EndsSolid (trimChars line) := by
        refine (solid_trimChars fun hnil => ?_).ends
        simp [hnil] at hline
      rw [hline, List.append_cons] at hsolid
      obtain rfl := hsolid.eq_nil (trimChars_eq_nil_iff.1 htail)
      have hblock : (blockTokens? block).isSome = true := by rw [htokens, Option.isSome_some]
      obtain ⟨hopens, hcloses⟩ := (isSome_items_pair_iff (by decide) (by decide)).1 hblock
      refine .cut ?_ hopens hcloses
      rw [hline, List.append_assoc, List.cons_append]
  · intro h
    cases h with
    | whole closes =>
      refine ⟨{}, ?_⟩
      simp only [splitBlock, splitLast_eq_none_iff.2 closes]
    | @cut before block ends opens closes =>
      have hblock : (blockTokens? block).isSome = true :=
        (isSome_items_pair_iff (by decide) (by decide)).2 ⟨opens, closes⟩
      obtain ⟨tokens, htokens⟩ := Option.isSome_iff_exists.1 hblock
      have hends : trimChars line = (before ++ '{' :: block) ++ '}' :: [] := by
        rw [ends, List.append_assoc, List.cons_append]
      refine ⟨.ofTokens tokens, ?_⟩
      simp only [splitBlock, hends, splitLast_append List.not_mem_nil, splitLast_append opens,
        htokens, trimChars_nil, List.isEmpty_nil, if_true]

/-- A list of parameters is refused for parentheses only. -/
theorem exists_parametersOf_iff :
    (∃ ps, parametersOf list = .ok ps) ↔ '(' ∉ list ∧ ')' ∉ list := by
  have hitems := @isSome_items_pair_iff list '(' ')' (by decide) (by decide)
  rw [← hitems, parametersOf]
  cases items [',', '(', ')'] list with
  | none => simp
  | some entries => simp

/-- After the parameters there is nothing, or a colon and a type. -/
theorem exists_returnOf_iff : (∃ type, returnOf tail = .ok type) ↔
    (∀ c ∈ tail, isBlank c = true) ∨ ∃ type, tail.dropWhile isBlank = ':' :: type := by
  have hhead := head?_trimChars tail
  rw [returnOf, ← trimChars_eq_nil_iff, ← List.head?_eq_some_iff, ← hhead]
  cases trimChars tail with
  | nil => simp
  | cons c rest =>
    by_cases hc : c = ':'
    · subst hc
      simp
    · simp [hc]

/-! ## Lines -/

/-- The name ends at the first colon or equals sign. -/
theorem before_value_and_type (rest : List Char) :
    (splitOptional ':' (splitOptional '=' rest).1).1 =
      rest.takeWhile fun c => c != ':' && c != '=' := by
  rw [fst_splitOptional, fst_splitOptional, List.takeWhile_takeWhile]
  simp only [Bool.decide_and, Bool.decide_eq_true]

/-- A property is read exactly from the lines that are the signature of one. -/
theorem exists_readProperty_iff : (∃ p, readProperty line = .ok p) ↔
    ∃ body, HasBody (trimChars line) body ∧ NamesProperty (afterMark body) := by
  constructor
  · rintro ⟨p, h⟩
    obtain ⟨text, rest, declaration, value, before, type, hblock, hmark, hvalue, htype, hp, -, -⟩ :=
      readProperty_eq_ok_iff.1 h
    refine ⟨text, exists_splitBlock_iff.1 ⟨_, hblock⟩, ?_⟩
    rw [NamesProperty, ← before_value_and_type, ← snd_splitMark, hmark, hvalue, htype]
    exact exists_nameOf_iff.1 ⟨_, hp⟩
  · rintro ⟨body, hbody, hnamed⟩
    obtain ⟨c, hblock⟩ := exists_splitBlock_iff.2 hbody
    rw [NamesProperty, ← before_value_and_type, ← snd_splitMark] at hnamed
    obtain ⟨name, hp⟩ := exists_nameOf_iff.2 hnamed
    exact ⟨⟨_, name, _, _, c⟩, readProperty_eq_ok_iff.2
      ⟨body, _, _, _, _, _, hblock, rfl, rfl, rfl, hp, rfl, rfl⟩⟩

/-- A text names a method if there is one that stands in it. -/
theorem exists_stands_iff (access : Access) (c : Constraints) :
    (∃ m : Method, m.access = access ∧ m.constraints = c ∧ Method.Stands rest m) ↔
      NamesMethod rest := by
  constructor
  · rintro ⟨m, -, -, hstands⟩
    cases hstands with
    | plain before type opens closes cut name parameters returns =>
      refine .plain opens closes ?_
      rw [← fst_splitOptional, cut]
      exact exists_nameOf_iff.1 ⟨_, name⟩
    | listed before after list tail opens closes name parameters returns =>
      obtain ⟨rfl, hlast⟩ := eq_of_splitLast closes
      exact .listed (eq_of_splitFirst opens) (notMem_of_splitFirst opens) hlast
        (exists_parametersOf_iff.1 ⟨_, parameters⟩) (exists_nameOf_iff.1 ⟨_, name⟩)
        (exists_returnOf_iff.1 ⟨_, returns⟩)
  · intro h
    cases h with
    | plain opens closes named =>
      rw [← fst_splitOptional] at named
      obtain ⟨name, hname⟩ := exists_nameOf_iff.2 named
      exact ⟨⟨access, name, [], _, c⟩, rfl, rfl, .plain _ _ opens closes rfl hname rfl rfl⟩
    | listed cut first last flat named returns =>
      obtain ⟨name, hname⟩ := exists_nameOf_iff.2 named
      obtain ⟨parameters, hparameters⟩ := exists_parametersOf_iff.2 flat
      obtain ⟨type, hreturns⟩ := exists_returnOf_iff.2 returns
      rw [cut]
      exact ⟨⟨access, name, parameters, type, c⟩, rfl, rfl, .listed _ _ _ _
        (splitFirst_append first _) (splitLast_append last _) hname hparameters hreturns⟩

/-- A method is read exactly from the lines that are the signature of one. -/
theorem exists_readMethod_iff : (∃ m, readMethod line = .ok m) ↔
    ∃ body, HasBody (trimChars line) body ∧ NamesMethod (afterMark body) := by
  constructor
  · rintro ⟨m, h⟩
    obtain ⟨text, rest, hblock, hmark, hstands⟩ := Method.readMethod_eq_ok_iff.1 h
    refine ⟨text, exists_splitBlock_iff.1 ⟨_, hblock⟩, ?_⟩
    rw [← snd_splitMark, hmark]
    exact (exists_stands_iff _ _).1 ⟨m, rfl, rfl, hstands⟩
  · rintro ⟨body, hbody, hnamed⟩
    obtain ⟨c, hblock⟩ := exists_splitBlock_iff.2 hbody
    rw [← snd_splitMark] at hnamed
    obtain ⟨m, haccess, rfl, hstands⟩ := (exists_stands_iff (splitMark body).1 c).2 hnamed
    exact ⟨m, Method.readMethod_eq_ok_iff.2 ⟨body, _, hblock, Prod.ext haccess.symm rfl, hstands⟩⟩

/-- A line is read, or refused in a report that has the line. -/
theorem mapError_cases {α : Type} {r : Except SignatureFault α} (line : String) {p : Prop}
    (h : (∃ x, r = .ok x) ↔ p) :
    (p ∧ ∃ x, r.mapError (MalformedSignature.mk line) = .ok x) ∨
      (¬ p ∧ ∃ fault, r.mapError (MalformedSignature.mk line) = .error ⟨line, fault⟩) := by
  cases r with
  | ok x => exact Or.inl ⟨h.1 ⟨x, rfl⟩, x, rfl⟩
  | error fault => exact Or.inr ⟨mt h.2 nofun, fault, rfl⟩

/-- A line is read as a property or a method exactly if it is the signature of one.  Any other line
is refused, and the report has the line as it was given. -/
theorem ofLine_accepts (line : String) :
    (PropertyLine line ∧ (∃ p, Property.ofLine line = .ok p) ∨
      ¬ PropertyLine line ∧ ∃ fault, Property.ofLine line = .error ⟨line, fault⟩) ∧
    (MethodLine line ∧ (∃ m, Method.ofLine line = .ok m) ∨
      ¬ MethodLine line ∧ ∃ fault, Method.ofLine line = .error ⟨line, fault⟩) :=
  ⟨mapError_cases line exists_readProperty_iff, mapError_cases line exists_readMethod_iff⟩

end ClassDiagram
