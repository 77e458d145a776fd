import ClassDiagram.Proofs.Member.Parts

/-!
# Reading back a method

A method may be read from a line with a parameter list or from one without
(`Method.Stands`), but it is always written with one.  What was read is *normal*
(`Method.normal_of_readMethod`): its name holds no opening parenthesis, its return type
no closing one, and its parameters neither of them.  So the first opening and the last
closing parenthesis of the new line are those around the list, and the list is taken
apart where it was put together (`Method.Normal.readMethod_line`).

As with properties, only a closing brace can be in the way.
-/

namespace ClassDiagram

open Text

/-- The characters that no parameter holds. -/
def listMarks : List Char := [',', '(', ')']

variable {list tail item rest line : List Char} {q : Parameter} {ps : List Parameter} {m : Method}

/-! ## Parameters -/

namespace Parameter

/-- The texts of a parameter. -/
def texts (q : Parameter) : List String := [q.name, q.type]

/-- The parameter is as those that are read from a list. -/
structure Normal (q : Parameter) : Prop where
  name : IsItem (':' :: listMarks) q.name.toList
  type : IsItem listMarks q.type.toList

/-- The name that a parameter gets from its place could have been written. -/
theorem isItem_positionalName (index : Nat) :
    IsItem (':' :: listMarks) (positionalName index).toList := by
  have harg : IsItem (':' :: listMarks) "arg".toList := isItem_of_all rfl rfl
  have hindex : IsItem (':' :: listMarks) (toString index).toList := isItem_toString rfl _
  rw [positionalName, String.toList_append]
  exact harg.append hindex [] rfl

theorem notMem_positionalName (index : Nat) : '}' ∉ (positionalName index).toList := by
  rw [positionalName, String.toList_append, List.mem_append, not_or]
  exact ⟨by decide, notMem_toString index rfl⟩

/-- A parameter that was read has no marks of the list in its name or its type. -/
theorem normal_parameterOf (index : Nat) (h : IsItem listMarks item) :
    (parameterOf index item).Normal := by
  rw [parameterOf]
  split
  next name type hcut =>
    obtain rfl := eq_of_splitFirst hcut
    have hname : ∀ c ∈ name, c ∉ listMarks := fun c hc =>
      h.allowed c (List.mem_append_left _ hc)
    have htype : ∀ c ∈ type, c ∉ listMarks := fun c hc =>
      h.allowed c (List.mem_append_right _ (List.mem_cons_of_mem _ hc))
    have hcolon := forall_notMem_cons.2 ⟨notMem_of_splitFirst hcut, hname⟩
    exact ⟨isItem_trimmedOr (isItem_positionalName index) hcolon,
      isItem_trimmedOr (isItem_of_all rfl rfl) htype⟩
  next =>
    refine ⟨isItem_positionalName index, ?_⟩
    rwa [String.toList_ofList]

/-- The texts of a parameter have no more closing braces than what was read. -/
theorem closings_parameterOf (index : Nat) (item : List Char) :
    closings (parameterOf index item).texts ≤ item.count '}' := by
  rw [parameterOf]
  split
  next name type hcut =>
    obtain rfl := eq_of_splitFirst hcut
    have hname := count_trimmedOr_le (notMem_positionalName index) name
    have htype : (trimmedOr unspecifiedType type).toList.count '}' ≤ type.count '}' :=
      count_trimmedOr_le (by decide) type
    rw [texts, closings_cons, closings_cons, closings_nil, List.count_append,
      List.count_cons_of_ne (by decide)]
    exact Nat.add_le_add hname htype
  next =>
    refine Nat.le_of_eq ?_
    rw [texts, closings_cons, closings_cons, closings_nil, String.toList_ofList,
      List.count_eq_zero.2 (notMem_positionalName index), Nat.zero_add, Nat.add_zero]

theorem toList_text (q : Parameter) :
    q.text.toList = q.name.toList ++ ([':', ' '] ++ q.type.toList) := by
  simp [text]

/-- Printing adds no closing brace. -/
theorem count_text (q : Parameter) : q.text.toList.count '}' = closings q.texts := by
  rw [toList_text, texts, closings_cons, closings_cons, closings_nil, List.count_append,
    List.count_append]
  simp

/-- A printed parameter is one item of the list. -/
theorem Normal.isItem_text (hq : q.Normal) : IsItem listMarks q.text.toList := by
  have hname : IsItem listMarks q.name.toList :=
    ⟨hq.name.solid, (forall_notMem_cons.1 hq.name.allowed).2⟩
  rw [toList_text]
  exact hname.append hq.type [':', ' '] rfl

/-- A normal parameter is read back, wherever it stands in the list. -/
theorem Normal.parameterOf_text (hq : q.Normal) (index : Nat) :
    parameterOf index q.text.toList = q := by
  have hcolon : ':' ∉ q.name.toList := hq.name.notMem List.mem_cons_self
  have hcut : splitFirst ':' q.text.toList = some (q.name.toList, ' ' :: q.type.toList) := by
    rw [toList_text]
    exact splitFirst_append hcolon _
  have hname := trimmedOr_of_solid hq.name.solid hq.name.solid.trimChars (positionalName index)
  have htype : trimChars (' ' :: q.type.toList) = q.type.toList := by
    rw [trimChars_cons rfl, hq.type.solid.trimChars]
  rw [parameterOf, hcut]
  dsimp only
  rw [hname, trimmedOr_of_solid hq.type.solid htype]

/-! ## Parameter lists -/

/-- What holds of each parameter holds of their list. -/
theorem closings_mapIdx {f : Nat → List Char → Parameter}
    (h : ∀ index item, closings (f index item).texts ≤ item.count '}')
    (entries : List (List Char)) :
    closings ((entries.mapIdx f).flatMap texts) ≤ entries.flatten.count '}' := by
  induction entries generalizing f with
  | nil => exact Nat.zero_le _
  | cons item entries ih =>
    rw [List.mapIdx_cons, List.flatMap_cons, closings_append, List.flatten_cons, List.count_append]
    exact Nat.add_le_add (h 0 item) (ih fun index => h (index + 1))

/-- All parameters that are read are normal. -/
theorem of_parametersOf (h : parametersOf list = .ok ps) :
    (∀ q ∈ ps, q.Normal) ∧ closings (ps.flatMap texts) ≤ list.count '}' := by
  rw [parametersOf] at h
  split at h
  next => cases h
  next entries hentries =>
    cases h
    obtain ⟨hitem, hsub⟩ := of_items hentries
    refine ⟨fun q hq => ?_, ?_⟩
    · obtain ⟨index, hindex, rfl⟩ := List.mem_mapIdx.1 hq
      exact normal_parameterOf index (hitem _ (List.getElem_mem hindex))
    · exact Nat.le_trans (closings_mapIdx closings_parameterOf entries) (hsub.count_le '}')

/-- Printed parameters are read again, one by one. -/
theorem mapIdx_parameterOf (h : ∀ q ∈ ps, q.Normal) :
    (ps.map (·.text.toList)).mapIdx parameterOf = ps := by
  refine List.mapIdx_eq_iff.2 fun index => ?_
  rw [List.getElem?_map]
  cases hq : ps[index]? with
  | none => rfl
  | some q => simp [(h q (List.mem_of_getElem? hq)).parameterOf_text index]

/-- Normal parameters are read back from the list they are joined to. -/
theorem parametersOf_text (h : ∀ q ∈ ps, q.Normal) :
    parametersOf (", ".intercalate (ps.map (·.text))).toList = .ok ps := by
  have hentries : items [',', '(', ')'] (", ".intercalate (ps.map (·.text))).toList
      = some (ps.map (·.text.toList)) := by
    rw [String.toList_intercalate, List.map_map]
    refine items_intercalate (by decide) (by decide) fun cs hcs => ?_
    obtain ⟨q, hq, rfl⟩ := List.mem_map.1 hcs
    exact (h q hq).isItem_text
  rw [parametersOf, hentries]
  dsimp only
  rw [mapIdx_parameterOf h]

end Parameter

/-! ## The return type -/

theorem of_returnOf {returns : String} (h : returnOf tail = .ok returns) (hclose : ')' ∉ tail) :
    IsItem [')'] returns.toList ∧ returns.toList.count '}' ≤ tail.count '}' := by
  have hvoid : IsItem [')'] voidType.toList := isItem_of_all rfl rfl
  rw [returnOf] at h
  split at h
  next =>
    cases h
    refine ⟨hvoid, ?_⟩
    rw [List.count_eq_zero.2 (by decide)]
    exact Nat.zero_le _
  next type htail =>
    cases h
    have hsub : (':' :: type).Sublist tail := htail ▸ trimChars_sublist tail
    have htype : ')' ∉ type := fun hc => hclose (hsub.subset (List.mem_cons_of_mem _ hc))
    refine ⟨isItem_trimmedOr hvoid (forall_notMem_singleton.2 htype), ?_⟩
    · have hcount := hsub.count_le '}'
      rw [List.count_cons_of_ne (by decide)] at hcount
      exact Nat.le_trans (count_trimmedOr_le (by decide) type) hcount
  next => cases h

/-- A return type is read again as it was printed, and so is its absence. -/
theorem returnOf_typeSuffix {returns : String} (h : Solid returns.toList) :
    returnOf (typeSuffix voidType returns) = .ok returns := by
  rw [typeSuffix]
  split
  next hvoid =>
    rw [hvoid]
    rfl
  next =>
    have hsolid : Solid (':' :: ' ' :: returns.toList) :=
      ⟨⟨':', _, rfl, rfl⟩, h.ends.append [':', ' ']⟩
    have htrim : trimChars (' ' :: returns.toList) = returns.toList := by
      rw [trimChars_cons rfl, h.trimChars]
    rw [returnOf, hsolid.trimChars]
    exact congrArg Except.ok (trimmedOr_of_solid h htrim voidType)

/-! ## Methods -/

namespace Method

theorem ofLine_eq_ok_iff {line : String} :
    ofLine line = .ok m ↔ readMethod line.toList = .ok m := mapError_eq_ok_iff

/-- The method stands in the text after the mark, without a parameter list or with one. -/
inductive Stands (rest : List Char) (m : Method) : Prop
  | plain (before type : List Char) (opens : '(' ∉ rest) (closes : ')' ∉ rest)
      (cut : splitOptional ':' rest = (before, type)) (name : nameOf before = .ok m.name)
      (parameters : m.parameters = []) (returns : trimmedOr voidType type = m.returns)
  | listed (before after list tail : List Char) (opens : splitFirst '(' rest = some (before, after))
      (closes : splitLast ')' after = some (list, tail)) (name : nameOf before = .ok m.name)
      (parameters : parametersOf list = .ok m.parameters) (returns : returnOf tail = .ok m.returns)

/-- A line is that of a method if it stands there between its mark and its block. -/
theorem readMethod_eq_ok_iff : readMethod line = .ok m ↔ ∃ text rest,
    splitBlock line = .ok (text, m.constraints) ∧ splitMark text = (m.access, rest) ∧
      Stands rest m := by
  constructor
  · intro h
    obtain ⟨block, hblock, h⟩ := exists_of_bind_eq_ok h
    dsimp only at h
    split at h
    next hopen =>
      split at h
      next => cases h
      next hclose =>
        obtain ⟨name, hname, h⟩ := exists_of_bind_eq_ok h
        cases h
        exact ⟨_, _, hblock, rfl, .plain _ _ (splitFirst_eq_none_iff.1 hopen) hclose rfl hname
          rfl rfl⟩
    next before after hopen =>
      split at h
      next => cases h
      next list tail hclose =>
        obtain ⟨name, hname, h⟩ := exists_of_bind_eq_ok h
        obtain ⟨parameters, hparameters, h⟩ := exists_of_bind_eq_ok h
        obtain ⟨returns, hreturns, h⟩ := exists_of_bind_eq_ok h
        cases h
        exact ⟨_, _, hblock, rfl, .listed _ _ _ _ hopen hclose hname hparameters hreturns⟩
  · rintro ⟨text, rest, hblock, hmark, hstands⟩
    simp only [readMethod, hblock, bind, Except.bind, hmark]
    cases hstands with
    | plain before type opens closes cut name parameters returns =>
      simp only [splitFirst_eq_none_iff.2 opens, if_neg closes, cut, name, returns]
      rw [← parameters]
      rfl
    | listed before after list tail opens closes name parameters returns =>
      simp only [opens, closes, name, parameters, returns]
      rfl

/-- The texts of a method: its name, its return type, and the names and types of its parameters. -/
def texts (m : Method) : List String :=
  m.name :: m.returns :: m.parameters.flatMap Parameter.texts

/-! ### What is read -/

/-- The method is as those that are read from a line. -/
structure Normal (m : Method) : Prop where
  name : IsItem ['('] m.name.toList
  parameters : ∀ q ∈ m.parameters, q.Normal
  returns : IsItem [')'] m.returns.toList
  constraints : m.constraints.Normal

/-- A method that was read is normal. -/
theorem normal_of_readMethod (h : readMethod line = .ok m) : m.Normal := by
  obtain ⟨text, rest, hblock, -, hstands⟩ := readMethod_eq_ok_iff.1 h
  have hconstraints := normal_of_splitBlock hblock
  cases hstands with
  | plain before type opens closes cut name parameters returns =>
    obtain ⟨-, hsub⟩ := of_splitOptional cut
    have hbefore : '(' ∉ before := fun hc => opens (hsub.subset (List.mem_append_left _ hc))
    have htype : ')' ∉ type := fun hc => closes (hsub.subset (List.mem_append_right _ hc))
    refine ⟨isItem_of_nameOf name (forall_notMem_singleton.2 hbefore), ?_, ?_, hconstraints⟩
    · rw [parameters]
      exact List.forall_mem_nil _
    · rw [← returns]
      exact isItem_trimmedOr (isItem_of_all rfl rfl) (forall_notMem_singleton.2 htype)
  | listed before after list tail opens closes name parameters returns =>
    exact ⟨isItem_of_nameOf name (forall_notMem_singleton.2 (notMem_of_splitFirst opens)),
      (Parameter.of_parametersOf parameters).1,
      (of_returnOf returns (eq_of_splitLast closes).2).1, hconstraints⟩

/-- If there is a closing brace in a line, then the texts read from it hold fewer of them. -/
theorem closings_lt (h : readMethod line = .ok m) (hmem : '}' ∈ trimChars line) :
    closings m.texts < (trimChars line).count '}' := by
  obtain ⟨text, rest, hblock, hmark, hstands⟩ := readMethod_eq_ok_iff.1 h
  have htext := count_of_splitBlock hblock hmem
  have hrest := (sublist_of_splitMark hmark).count_le '}'
  rw [texts, closings_cons, closings_cons]
  cases hstands with
  | plain before type opens closes cut name parameters returns =>
    have hcut := (of_splitOptional cut).2.count_le '}'
    have hname := count_of_nameOf name '}'
    have hreturns : m.returns.toList.count '}' ≤ type.count '}' := by
      rw [← returns]
      exact count_trimmedOr_le (by decide) type
    rw [List.count_append] at hcut
    rw [parameters, List.flatMap_nil, closings_nil]
    omega
  | listed before after list tail opens closes name parameters returns =>
    obtain rfl := eq_of_splitFirst opens
    obtain ⟨rfl, hclose⟩ := eq_of_splitLast closes
    have hname := count_of_nameOf name '}'
    have hparameters := (Parameter.of_parametersOf parameters).2
    have hreturns := (of_returnOf returns hclose).2
    rw [List.count_append, List.count_cons_of_ne (by decide), List.count_append,
      List.count_cons_of_ne (by decide)] at hrest
    omega

/-! ### What is written -/

/-- The line of a method after its mark and up to its block. -/
def signature (m : Method) : List Char :=
  m.name.toList ++ '(' :: ((", ".intercalate (m.parameters.map (·.text))).toList
    ++ ')' :: typeSuffix voidType m.returns)

/-- The line of a method up to its block. -/
def body (m : Method) : List Char := m.access.mark :: m.signature

theorem toList_text (m : Method) : m.text.toList = m.body ++ m.constraints.suffix := by
  simp only [text, body, signature, returnsVoid, beq_iff_eq, String.toList_append,
    toList_typeSuffix, Constraints.toList_suffix]
  simp

theorem count_parameters (ps : List Parameter) :
    (", ".intercalate (ps.map (·.text))).toList.count '}'
      = closings (ps.flatMap Parameter.texts) := by
  rw [String.toList_intercalate, count_intercalate (by decide), List.map_map]
  induction ps with
  | nil => rfl
  | cons q ps ih =>
    rw [List.map_cons, List.flatten_cons, List.count_append, ih, List.flatMap_cons,
      closings_append]
    exact congrArg (· + _) q.count_text

/-- The body has the closing braces of its texts and no others. -/
theorem count_body (m : Method) : m.body.count '}' = closings m.texts := by
  rw [body, List.count_cons_of_ne m.access.mark_ne_brace, signature, List.count_append,
    List.count_cons_of_ne (by decide), List.count_append, List.count_cons_of_ne (by decide),
    count_parameters, count_typeSuffix (by decide) (by decide) (by decide), texts, closings_cons,
    closings_cons]
  omega

namespace Normal

/-- The signature starts and ends with a character that is not blank. -/
theorem solid_signature (hm : m.Normal) : Solid m.signature := by
  have hclose : Solid (')' :: typeSuffix voidType m.returns) :=
    Solid.append_typeSuffix ⟨⟨')', [], rfl, rfl⟩, ⟨[], ')', rfl, rfl⟩⟩ hm.returns.solid
  have hlist := hm.name.solid.append hclose
    ('(' :: (", ".intercalate (m.parameters.map (·.text))).toList)
  rwa [List.cons_append] at hlist

theorem solid_body (hm : m.Normal) : Solid m.body :=
  ⟨⟨_, _, rfl, m.access.isBlank_mark⟩, hm.solid_signature.ends.append [m.access.mark]⟩

/-- The printed signature is that of the method. -/
theorem stands_signature (hm : m.Normal) : Stands m.signature m := by
  have hname : '(' ∉ m.name.toList := hm.name.notMem (by decide)
  have hreturns : ')' ∉ m.returns.toList := hm.returns.notMem (by decide)
  have hsuffix : ')' ∉ typeSuffix voidType m.returns := by
    rw [typeSuffix]
    split <;> simp [hreturns]
  refine .listed _ _ _ _ (splitFirst_append hname _) (splitLast_append hsuffix _) ?_
    (Parameter.parametersOf_text hm.parameters) (returnOf_typeSuffix hm.returns.solid)
  rw [nameOf_eq_ok_iff, hm.name.solid.trimChars]
  exact ⟨rfl, hm.name.solid.starts.ne_nil⟩

/-- A normal method is read back, unless a closing brace looks like the end of a block. -/
theorem readMethod_line (hm : m.Normal) (h : m.constraints.isEmpty = false ∨ '}' ∉ m.body) :
    readMethod (m.body ++ m.constraints.suffix) = .ok m := by
  have hblock := splitBlock_append_suffix hm.solid_body hm.constraints h
  have hmark : splitMark m.body = (m.access, m.signature) := by
    rw [body, splitMark_mark, hm.solid_signature.starts.trimStartChars]
  exact readMethod_eq_ok_iff.2 ⟨_, _, hblock, hmark, hm.stands_signature⟩

end Normal

/-- A method that was read from a line is read back from its own line exactly if it has a block
or no closing brace is in its texts. -/
theorem ofLine_text_method {line : String} (h : ofLine line = .ok m) : ofLine m.text = .ok m ↔
    m.constraints.isEmpty = false ∨ ∀ t ∈ m.texts, '}' ∉ t.toList := by
  have hm : m.Normal := normal_of_readMethod (ofLine_eq_ok_iff.1 h)
  rw [ofLine_eq_ok_iff, toList_text]
  exact reads_iff hm.solid_body m.count_body hm.readMethod_line closings_lt

/-- A method with separators and a brace in its texts, and a block. -/
def draw : Method where
  access := .heirs
  name := "-draw:1)"
  parameters := [⟨"x", "int"⟩, ⟨"arg1", "float"⟩, ⟨"arg2", "y\x7d"⟩]
  returns := "fn(int"
  constraints := { isAbstract := true }

/-- The separators in the texts are told from those around them.  The brace does no harm next to a
block, and is in the way where an empty one is gone. -/
theorem ofLine_text_draw :
    ofLine " #-draw:1) ( , x:int, :float , y\x7d ) : fn(int \x7babstract\x7d" = .ok draw ∧
      ofLine draw.text = .ok draw ∧
    ofLine "rest\x7d \x7b\x7d" = .ok { name := "rest\x7d" } ∧
      ofLine (text { name := "rest\x7d" }) ≠ .ok { name := "rest\x7d" } := by
  have hdraw : ofLine " #-draw:1) ( , x:int, :float , y\x7d ) : fn(int \x7babstract\x7d"
      = .ok draw := rfl
  have hrest : ofLine "rest\x7d \x7b\x7d" = .ok { name := "rest\x7d" } := rfl
  refine ⟨hdraw, (ofLine_text_method hdraw).2 (.inl rfl), hrest, fun h => ?_⟩
  have hnot := (ofLine_text_method hrest).1 h
  revert hnot
  decide

end Method

end ClassDiagram
