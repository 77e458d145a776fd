import ClassDiagram.Proofs.Member.Parts

/-!
# Reading back a property

A property that was read from a line is written as a line of its own, and that line
is read again.  What was read is *normal*: its name holds neither a colon nor an equals
sign, its type holds no equals sign, and none of its texts starts or ends with a blank
(`Property.normal_of_readProperty`).  So the first equals sign of the new line, and the
first colon before it, are those that the line was put together with
(`Property.Normal.readProperty_line`).

Only a closing brace can be in the way.  If the property has no block, a brace in one of
its texts looks like the end of a block, and then whatever is read holds fewer of them
(`Property.closings_lt`).
-/

namespace ClassDiagram

open Text

variable {line : List Char} {p : Property}

/-- A property is read from a line by four cuts. -/
theorem readProperty_eq_ok_iff : readProperty line = .ok p ↔
    ∃ text rest declaration value before type,
      splitBlock line = .ok (text, p.constraints) ∧
      splitMark text = (p.access, rest) ∧
      splitOptional '=' rest = (declaration, value) ∧
      splitOptional ':' declaration = (before, type) ∧
      nameOf before = .ok p.name ∧
      trimmedOr unspecifiedType type = p.type ∧
      (if (trimChars value).isEmpty then none else some (.ofList (trimChars value)))
        = p.initial := by
  constructor
  · intro h
    obtain ⟨block, hblock, h⟩ := exists_of_bind_eq_ok h
    obtain ⟨name, hname, h⟩ := exists_of_bind_eq_ok h
    cases h
    exact ⟨_, _, _, _, _, _, hblock, rfl, rfl, rfl, hname, rfl, rfl⟩
  · rintro ⟨text, rest, declaration, value, before, type, hblock, hmark, hvalue, htype, hname,
      htrim, hinitial⟩
    simp only [readProperty, hblock, bind, Except.bind, hmark, hvalue, htype, hname, htrim,
      hinitial]
    rfl

namespace Property

/-- A line is read as its characters. -/
theorem ofLine_eq_ok_iff {line : String} :
    ofLine line = .ok p ↔ readProperty line.toList = .ok p := mapError_eq_ok_iff

/-- The texts of a property: its name, its type, and its initial value if there is one. -/
def texts (p : Property) : List String := p.name :: p.type :: p.initial.toList

/-! ## What is read -/

/-- The property is as those that are read from a line. -/
structure Normal (p : Property) : Prop where
  name : IsItem [':', '='] p.name.toList
  type : IsItem ['='] p.type.toList
  initial : ∀ value, p.initial = some value → Solid value.toList
  constraints : p.constraints.Normal

/-- A property that was read is normal. -/
theorem normal_of_readProperty (h : readProperty line = .ok p) : p.Normal := by
  obtain ⟨text, rest, declaration, value, before, type, hblock, -, hvalue, htype, hname, htrim,
    hinitial⟩ := readProperty_eq_ok_iff.1 h
  have hequals : '=' ∉ declaration := (of_splitOptional hvalue).1
  obtain ⟨hcolon, hsub⟩ := of_splitOptional htype
  have hbefore : '=' ∉ before := fun hc => hequals (hsub.subset (List.mem_append_left _ hc))
  have hafter : '=' ∉ type := fun hc => hequals (hsub.subset (List.mem_append_right _ hc))
  refine ⟨isItem_of_nameOf hname ?_, ?_, ?_, normal_of_splitBlock hblock⟩
  · exact forall_notMem_cons.2 ⟨hcolon, forall_notMem_singleton.2 hbefore⟩
  · rw [← htrim]
    exact isItem_trimmedOr (isItem_of_all rfl rfl) (forall_notMem_singleton.2 hafter)
  · intro value' hvalue'
    rw [← hinitial, Option.ite_none_left_eq_some, Option.some_inj] at hvalue'
    obtain ⟨hne, rfl⟩ := hvalue'
    rw [String.toList_ofList]
    exact solid_trimChars (mt List.isEmpty_iff.2 hne)

/-- If there is a closing brace in a line, then the texts read from it hold fewer of them. -/
theorem closings_lt (h : readProperty line = .ok p) (hmem : '}' ∈ trimChars line) :
    closings p.texts < (trimChars line).count '}' := by
  obtain ⟨text, rest, declaration, value, before, type, hblock, hmark, hvalue, htype, hname,
    htrim, hinitial⟩ := readProperty_eq_ok_iff.1 h
  have htext := count_of_splitBlock hblock hmem
  have hrest := (sublist_of_splitMark hmark).count_le '}'
  have hdeclaration := (of_splitOptional hvalue).2.count_le '}'
  have hbefore := (of_splitOptional htype).2.count_le '}'
  have hp : p.name.toList.count '}' ≤ before.count '}' := count_of_nameOf hname '}'
  have ht : p.type.toList.count '}' ≤ type.count '}' := by
    rw [← htrim]
    exact count_trimmedOr_le (by decide) type
  have hi : closings p.initial.toList ≤ value.count '}' := by
    rw [← hinitial]
    split
    next => exact Nat.zero_le _
    next =>
      rw [Option.toList_some, closings_cons, String.toList_ofList]
      exact (trimChars_sublist value).count_le '}'
  rw [List.count_append] at hdeclaration hbefore
  rw [texts, closings_cons, closings_cons]
  omega

/-! ## What is written -/

/-- The line of a property up to its value. -/
def declaration (p : Property) : List Char := p.name.toList ++ typeSuffix unspecifiedType p.type

/-- The value as it follows the declaration, if there is one. -/
def assignment (p : Property) : List Char :=
  match p.initial with
  | some value => ' ' :: '=' :: ' ' :: value.toList
  | none => []

/-- The line of a property up to its block. -/
def body (p : Property) : List Char := p.access.mark :: (p.declaration ++ p.assignment)

theorem toList_text (p : Property) : p.text.toList = p.body ++ p.constraints.suffix := by
  simp only [text, body, declaration, assignment, String.toList_append, toList_typeSuffix,
    Constraints.toList_suffix]
  cases p.initial with
  | none => simp
  | some value => simp

/-- The body has the closing braces of its texts and no others. -/
theorem count_body (p : Property) : p.body.count '}' = closings p.texts := by
  have hdeclaration : p.declaration.count '}'
      = p.name.toList.count '}' + p.type.toList.count '}' := by
    rw [declaration, List.count_append, count_typeSuffix (by decide) (by decide) (by decide)]
  have hassignment : p.assignment.count '}' = closings p.initial.toList := by
    rw [assignment]
    cases p.initial with
    | none => rfl
    | some value => simp [closings]
  rw [body, List.count_cons_of_ne p.access.mark_ne_brace, List.count_append, hdeclaration,
    hassignment, texts, closings_cons, closings_cons, Nat.add_assoc]

namespace Normal

/-- The declaration starts and ends with a character that is not blank. -/
theorem solid_declaration (hp : p.Normal) : Solid p.declaration :=
  hp.name.solid.append_typeSuffix hp.type.solid

theorem solid_line (hp : p.Normal) : Solid (p.declaration ++ p.assignment) := by
  rw [assignment]
  cases hi : p.initial with
  | none =>
    rw [List.append_nil]
    exact hp.solid_declaration
  | some value => exact hp.solid_declaration.append (hp.initial value hi) [' ', '=', ' ']

/-- So does all that stands before the block. -/
theorem solid_body (hp : p.Normal) : Solid p.body :=
  ⟨⟨_, _, rfl, p.access.isBlank_mark⟩, hp.solid_line.ends.append [p.access.mark]⟩

/-- The declaration ends where the value starts, up to a blank. -/
theorem splitOptional_assignment (hp : p.Normal) : ∃ pad value,
    splitOptional '=' (p.declaration ++ p.assignment) = (p.declaration ++ pad, value) ∧
      (∀ c ∈ pad, isBlank c = true) ∧
      (if (trimChars value).isEmpty then none else some (.ofList (trimChars value)))
        = p.initial := by
  have hname : '=' ∉ p.name.toList := hp.name.notMem (by decide)
  have htype : '=' ∉ p.type.toList := hp.type.notMem (by decide)
  have hdeclaration : '=' ∉ p.declaration := by
    rw [declaration, typeSuffix]
    split <;> simp [hname, htype]
  rw [assignment]
  cases hi : p.initial with
  | none =>
    refine ⟨[], [], ?_, List.forall_mem_nil _, rfl⟩
    rw [List.append_nil]
    exact splitOptional_of_notMem hdeclaration
  | some value =>
    have hblank : '=' ∉ p.declaration ++ [' '] := by simp [hdeclaration]
    have hvalue : trimChars (' ' :: value.toList) = value.toList := by
      rw [trimChars_cons rfl, (hp.initial value hi).trimChars]
    have hne : value.toList ≠ [] := (hp.initial value hi).starts.ne_nil
    refine ⟨[' '], ' ' :: value.toList, ?_, List.forall_mem_singleton.2 rfl, ?_⟩
    · have hcut := splitOptional_append hblank (' ' :: value.toList)
      rwa [List.append_assoc] at hcut
    · rw [hvalue, if_neg (mt List.isEmpty_iff.1 hne), String.ofList_toList]

/-- The name ends where the type starts, and the blanks after them do not count. -/
theorem splitOptional_declaration (hp : p.Normal) {pad : List Char}
    (hpad : ∀ c ∈ pad, isBlank c = true) : ∃ before type,
    splitOptional ':' (p.declaration ++ pad) = (before, type) ∧ nameOf before = .ok p.name ∧
      trimmedOr unspecifiedType type = p.type := by
  have hname : ':' ∉ p.name.toList := hp.name.notMem (by decide)
  have hne : p.name.toList ≠ [] := hp.name.solid.starts.ne_nil
  rw [declaration, typeSuffix]
  split
  next htype =>
    have hcolon : ':' ∉ pad := fun h => absurd (hpad ':' h) (by decide)
    have htrim : trimChars (p.name.toList ++ pad) = p.name.toList := by
      rw [trimChars_append hpad, hp.name.solid.trimChars]
    refine ⟨p.name.toList ++ pad, [], ?_, ?_, htype.symm⟩
    · rw [List.append_nil]
      exact splitOptional_of_notMem (by simp [hname, hcolon])
    · exact nameOf_eq_ok_iff.2 ⟨htrim, by rwa [htrim]⟩
  next =>
    have htrim : trimChars (' ' :: (p.type.toList ++ pad)) = p.type.toList := by
      rw [trimChars_cons rfl, trimChars_append hpad, hp.type.solid.trimChars]
    refine ⟨p.name.toList, ' ' :: (p.type.toList ++ pad), ?_, ?_, ?_⟩
    · rw [List.append_assoc]
      exact splitOptional_append hname _
    · rw [nameOf_eq_ok_iff, hp.name.solid.trimChars]
      exact ⟨rfl, hne⟩
    · exact trimmedOr_of_solid hp.type.solid htrim _

/-- A normal property is read back, unless a closing brace looks like the end of a block. -/
theorem readProperty_line (hp : p.Normal) (h : p.constraints.isEmpty = false ∨ '}' ∉ p.body) :
    readProperty (p.body ++ p.constraints.suffix) = .ok p := by
  obtain ⟨pad, value, hvalue, hpad, hinitial⟩ := hp.splitOptional_assignment
  obtain ⟨before, type, htype, hname, htrim⟩ := hp.splitOptional_declaration hpad
  have hblock := splitBlock_append_suffix hp.solid_body hp.constraints h
  have hmark : splitMark p.body = (p.access, p.declaration ++ p.assignment) := by
    rw [body, splitMark_mark, hp.solid_line.starts.trimStartChars]
  exact readProperty_eq_ok_iff.2
    ⟨_, _, _, _, _, _, hblock, hmark, hvalue, htype, hname, htrim, hinitial⟩

end Normal

/-- A property that was read from a line is read back from its own line exactly if it has a
block or no closing brace is in its texts. -/
theorem ofLine_text_property {line : String} (h : ofLine line = .ok p) : ofLine p.text = .ok p ↔
    p.constraints.isEmpty = false ∨ ∀ t ∈ p.texts, '}' ∉ t.toList := by
  have hp : p.Normal := normal_of_readProperty (ofLine_eq_ok_iff.1 h)
  rw [ofLine_eq_ok_iff, toList_text]
  exact reads_iff hp.solid_body p.count_body hp.readProperty_line closings_lt

/-- A property with braces in its texts and a block. -/
def costs : Property where
  access := .everyone
  name := "-cost\x7d"
  type := "map:int"
  initial := some "a=\x7d"
  constraints := { isStatic := true, foreign := true, foreignTarget := some "orders" }

/-- Braces in the texts do no harm next to a block, and cannot be read back once an empty block
is gone. -/
theorem ofLine_text_costs :
    ofLine " +-cost\x7d : map:int = a=\x7d \x7b fk:orders, static\x7d " = .ok costs ∧
      ofLine costs.text = .ok costs ∧
    ofLine "rest\x7d \x7b\x7d" = .ok { name := "rest\x7d" } ∧
      ofLine (text { name := "rest\x7d" }) ≠ .ok { name := "rest\x7d" } := by
  have hcosts : ofLine " +-cost\x7d : map:int = a=\x7d \x7b fk:orders, static\x7d "
      = .ok costs := rfl
  have hrest : ofLine "rest\x7d \x7b\x7d" = .ok { name := "rest\x7d" } := rfl
  refine ⟨hcosts, (ofLine_text_property hcosts).2 (.inl rfl), hrest, fun h => ?_⟩
  have hnot := (ofLine_text_property hrest).1 h
  revert hnot
  decide

end Property

end ClassDiagram
