import ClassDiagram.Member.Signature
import ClassDiagram.Proofs.Member.NormalForm

/-!
# The parts of a line

What a property and a method have in common when their line is read: the block at
its end, the mark at its start, and the names and types between them.  Each part
comes with two facts.  One reads it back from a line that was put together, and the
other says what it is like in any line that is accepted.

A line with a closing brace always loses one, with the block that is taken off it
(`count_of_splitBlock`).  So a line with such a brace in its texts can be read back only
if it has a block to lose (`reads_iff`).
-/

namespace ClassDiagram

open Text

variable {cs line body rest before after : List Char} {mark : Char} {forbidden : List Char}
  {c : Constraints}

/-- How many closing braces there are in texts. -/
def closings (texts : List String) : Nat := (texts.flatMap String.toList).count '}'

theorem closings_nil : closings [] = 0 := rfl

theorem closings_cons (t : String) (texts : List String) :
    closings (t :: texts) = t.toList.count '}' + closings texts := by
  rw [closings, List.flatMap_cons, List.count_append]
  rfl

theorem closings_append (texts texts' : List String) :
    closings (texts ++ texts') = closings texts + closings texts' := by
  rw [closings, List.flatMap_append, List.count_append]
  rfl

/-- No closing brace is counted exactly if no text has one. -/
theorem closings_eq_zero_iff {texts : List String} :
    closings texts = 0 ↔ ∀ t ∈ texts, '}' ∉ t.toList := by
  simp [closings, List.count_eq_zero]

/-! ## Names and types -/

/-- A name is a text without the blanks around it, if anything is left. -/
theorem nameOf_eq_ok_iff {name : String} :
    nameOf cs = .ok name ↔ trimChars cs = name.toList ∧ trimChars cs ≠ [] := by
  simp only [nameOf, List.isEmpty_iff]
  by_cases h : trimChars cs = []
  · simp [h]
  · rw [if_neg h, Except.ok.injEq, ← String.toList_inj, String.toList_ofList]
    exact ⟨fun he => ⟨he, h⟩, And.left⟩

/-- A name has no marks that were not in the text. -/
theorem isItem_of_nameOf {name : String} (h : nameOf cs = .ok name)
    (hcs : ∀ c ∈ cs, c ∉ forbidden) : IsItem forbidden name.toList := by
  obtain ⟨hname, hne⟩ := nameOf_eq_ok_iff.1 h
  rw [← hname]
  exact isItem_trimChars hcs hne

theorem count_of_nameOf {name : String} (h : nameOf cs = .ok name) (mark : Char) :
    name.toList.count mark ≤ cs.count mark := by
  rw [← (nameOf_eq_ok_iff.1 h).1]
  exact (trimChars_sublist cs).count_le mark

theorem trimmedOr_of_solid {text : String} (h : Solid text.toList)
    (hcs : trimChars cs = text.toList) (other : String) : trimmedOr other cs = text := by
  have hne : text.toList.isEmpty = false := by simpa using h.starts.ne_nil
  simp [trimmedOr, hcs, hne]

theorem isItem_trimmedOr {other : String} (hother : IsItem forbidden other.toList)
    (hcs : ∀ c ∈ cs, c ∉ forbidden) : IsItem forbidden (trimmedOr other cs).toList := by
  simp only [trimmedOr, List.isEmpty_iff]
  split
  next => exact hother
  next hne =>
    rw [String.toList_ofList]
    exact isItem_trimChars hcs hne

/-- Trimming a text makes no marks. -/
theorem count_trimmedOr_le {other : String} (hother : mark ∉ other.toList) (cs : List Char) :
    (trimmedOr other cs).toList.count mark ≤ cs.count mark := by
  simp only [trimmedOr]
  split
  next =>
    rw [List.count_eq_zero.2 hother]
    exact Nat.zero_le _
  next =>
    rw [String.toList_ofList]
    exact (trimChars_sublist cs).count_le mark

/-- A type as it follows what it belongs to, unless it is the one that is left out. -/
def typeSuffix (absent type : String) : List Char :=
  if type = absent then [] else ':' :: ' ' :: type.toList

theorem toList_typeSuffix (absent type : String) :
    (if type = absent then "" else ": " ++ type).toList = typeSuffix absent type := by
  rw [typeSuffix]
  split
  next => rfl
  next =>
    rw [String.toList_append]
    rfl

/-- A type that is printed has no marks but those of its name. -/
theorem count_typeSuffix {absent : String} (h : mark ∉ absent.toList) (hcolon : ':' ≠ mark)
    (hblank : ' ' ≠ mark) (type : String) :
    (typeSuffix absent type).count mark = type.toList.count mark := by
  rw [typeSuffix]
  split
  next heq => rw [heq, List.count_eq_zero.2 h, List.count_nil]
  next => rw [List.count_cons_of_ne hcolon, List.count_cons_of_ne hblank]

theorem Text.Solid.append_typeSuffix {absent type : String} (h : Solid cs)
    (htype : Solid type.toList) : Solid (cs ++ typeSuffix absent type) := by
  rw [typeSuffix]
  split
  next => rwa [List.append_nil]
  next => exact h.append htype [':', ' ']

/-! ## Optional parts -/

/-- A text is cut at its first mark. -/
theorem splitOptional_append (h : mark ∉ before) (after : List Char) :
    splitOptional mark (before ++ mark :: after) = (before, after) := by
  rw [splitOptional, splitFirst_append h]
  rfl

theorem splitOptional_of_notMem (h : mark ∉ cs) : splitOptional mark cs = (cs, []) := by
  rw [splitOptional, splitFirst_eq_none_iff.2 h]
  rfl

/-- What is cut off has no mark, and nothing is added to what is left. -/
theorem of_splitOptional (h : splitOptional mark cs = (before, after)) :
    mark ∉ before ∧ (before ++ after).Sublist cs := by
  rw [splitOptional] at h
  cases hsplit : splitFirst mark cs with
  | none =>
    rw [hsplit] at h
    cases h
    rw [List.append_nil]
    exact ⟨splitFirst_eq_none_iff.1 hsplit, List.Sublist.refl _⟩
  | some parts =>
    rw [hsplit] at h
    cases h
    rw [eq_of_splitFirst hsplit]
    exact ⟨notMem_of_splitFirst hsplit, (List.sublist_cons_self mark after).append_left before⟩

/-! ## The mark -/

theorem Access.isBlank_mark (a : Access) : isBlank a.mark = false := by
  cases a <;> rfl

theorem Access.mark_ne_brace (a : Access) : a.mark ≠ '}' := by
  cases a <;> decide

/-- A line that starts with a mark has the access of this mark. -/
theorem splitMark_mark (a : Access) (cs : List Char) :
    splitMark (a.mark :: cs) = (a, trimStartChars cs) := by
  rw [splitMark, Access.ofMark?_mark]

/-- Taking the mark off a line only leaves characters out. -/
theorem sublist_of_splitMark {a : Access} (h : splitMark cs = (a, rest)) : rest.Sublist cs := by
  cases cs with
  | nil =>
    cases h
    exact List.Sublist.refl _
  | cons c cs =>
    rw [splitMark] at h
    cases hmark : Access.ofMark? c with
    | none =>
      rw [hmark] at h
      cases h
      exact List.Sublist.refl _
    | some access =>
      rw [hmark] at h
      cases h
      exact (trimStartChars_sublist cs).cons c

/-! ## The block -/

/-- The block of a member as it ends a line, if it says anything. -/
def Constraints.suffix (c : Constraints) : List Char :=
  if c.isEmpty then [] else ' ' :: c.text.toList

theorem Constraints.toList_suffix (c : Constraints) :
    (if c.isEmpty then "" else " " ++ c.text).toList = c.suffix := by
  rw [suffix]
  split
  next => rfl
  next =>
    rw [String.toList_append]
    rfl

theorem Constraints.isEmpty_iff : c.isEmpty = true ↔ c = {} := by
  rw [isEmpty, beq_iff_eq]

/-- Printed constraints open no brace. -/
theorem Constraints.Normal.notMem_brace (h : c.Normal) :
    '{' ∉ (", ".intercalate c.tokens).toList := by
  rw [String.toList_intercalate, ← List.count_eq_zero, count_intercalate (by decide),
    List.count_eq_zero, List.mem_flatten]
  rintro ⟨token, htoken, hmem⟩
  obtain ⟨t, ht, rfl⟩ := List.mem_map.1 htoken
  exact (h.isItem_tokens t ht).notMem (by decide) hmem

/-- The block is cut off again, and read. -/
theorem splitBlock_append_text (hbody : Solid body) (hc : c.Normal) :
    splitBlock (body ++ ' ' :: c.text.toList) = .ok (body, c) := by
  let inside := (", ".intercalate c.tokens).toList
  have htext : c.text.toList = '{' :: inside ++ ['}'] := by
    rw [Constraints.text, String.toList_append, String.toList_append]
    rfl
  have hline : body ++ ' ' :: c.text.toList = (body ++ ' ' :: '{' :: inside) ++ ['}'] := by
    rw [htext, List.append_assoc]
    rfl
  have hopen : body ++ ' ' :: '{' :: inside = (body ++ [' ']) ++ '{' :: inside := by
    rw [List.append_assoc]
    rfl
  have hsolid : Solid ((body ++ ' ' :: '{' :: inside) ++ ['}']) := by
    have hbrace : Solid ['}'] := ⟨⟨'}', [], rfl, rfl⟩, ⟨[], '}', rfl, rfl⟩⟩
    rw [List.append_assoc]
    exact hbody.append hbrace (' ' :: '{' :: inside)
  have htrim : trimEndChars (body ++ [' ']) = body := by
    rw [trimEndChars_append (List.forall_mem_singleton.2 rfl), hbody.ends.trimEndChars]
  rw [hline]
  simp only [splitBlock, hsolid.trimChars]
  rw [splitLast_append List.not_mem_nil]
  dsimp only
  rw [hopen, splitLast_append hc.notMem_brace]
  simp only [hc.blockTokens?_tokens, hc.ofTokens_tokens, htrim, trimChars_nil, List.isEmpty_nil,
    if_true]

/-- A line without a block is read as it is, if there is nothing in it that looks like the end of
one. -/
theorem splitBlock_of_notMem (hbody : Solid body) (h : '}' ∉ body) :
    splitBlock body = .ok (body, {}) := by
  simp only [splitBlock, hbody.trimChars, splitLast_eq_none_iff.2 h]

/-- What is printed is split again, unless a line without a block ends in a brace. -/
theorem splitBlock_append_suffix (hbody : Solid body) (hc : c.Normal)
    (h : c.isEmpty = false ∨ '}' ∉ body) : splitBlock (body ++ c.suffix) = .ok (body, c) := by
  cases hempty : c.isEmpty with
  | true =>
    have hmem : '}' ∉ body := h.resolve_left (by rw [hempty]; nofun)
    rw [Constraints.suffix, if_pos hempty, List.append_nil, Constraints.isEmpty_iff.1 hempty]
    exact splitBlock_of_notMem hbody hmem
  | false =>
    rw [Constraints.suffix, if_neg (by rw [hempty]; nofun)]
    exact splitBlock_append_text hbody hc

/-- Either no closing brace is in a line, or the last one ends a block that is read. -/
theorem splitBlock_cases (h : splitBlock line = .ok (body, c)) :
    ('}' ∉ trimChars line ∧ body = trimChars line ∧ c = {}) ∨
      ∃ opened block tail tokens, trimChars line = (opened ++ '{' :: block) ++ '}' :: tail ∧
        trimChars tail = [] ∧ blockTokens? block = some tokens ∧ body = trimEndChars opened ∧
        c = .ofTokens tokens := by
  simp only [splitBlock] at h
  split at h
  next hnone =>
    cases h
    exact .inl ⟨splitLast_eq_none_iff.1 hnone, rfl, rfl⟩
  next upto tail hclose =>
    split at h
    next => cases h
    next opened block hopen =>
      split at h
      next hblank =>
        split at h
        next => cases h
        next tokens htokens =>
          cases h
          obtain ⟨hline, -⟩ := eq_of_splitLast hclose
          obtain ⟨rfl, -⟩ := eq_of_splitLast hopen
          exact .inr ⟨opened, block, tail, tokens, hline, List.isEmpty_iff.1 hblank, htokens, rfl,
            rfl⟩
      next => cases h

/-- Constraints that were read are normal. -/
theorem normal_of_splitBlock (h : splitBlock line = .ok (body, c)) : c.Normal := by
  obtain ⟨-, -, rfl⟩ | ⟨_, _, _, tokens, -, -, htokens, -, rfl⟩ := splitBlock_cases h
  · exact Constraints.normal_empty
  · obtain ⟨hitem, -⟩ := of_items htokens
    exact Constraints.normal_ofTokens fun token htoken => (hitem token htoken).allowed

/-- If there is a closing brace in a line, then one of them ends its block. -/
theorem count_of_splitBlock (h : splitBlock line = .ok (body, c)) (hmem : '}' ∈ trimChars line) :
    body.count '}' < (trimChars line).count '}' := by
  obtain ⟨hnone, -⟩ | ⟨opened, block, tail, -, hline, -, -, rfl, -⟩ := splitBlock_cases h
  · exact absurd hmem hnone
  · have hopened := (trimEndChars_sublist opened).count_le '}'
    rw [hline, List.count_append, List.count_append, List.count_cons_self]
    omega

/-! ## Reading back a line -/

/-- Another report of an error makes no result. -/
theorem mapError_eq_ok_iff {ε ε' α : Type} {f : ε → ε'} {r : Except ε α} {x : α} :
    r.mapError f = .ok x ↔ r = .ok x := by
  cases r with
  | error e => exact ⟨nofun, nofun⟩
  | ok y =>
    refine ⟨fun h => ?_, fun h => ?_⟩
    · cases h
      rfl
    · rw [h]
      rfl

/-- A computation in two steps succeeds if both steps do. -/
theorem exists_of_bind_eq_ok {ε α β : Type} {r : Except ε α} {f : α → Except ε β} {y : β}
    (h : (r >>= f) = .ok y) : ∃ x, r = .ok x ∧ f x = .ok y := by
  cases r with
  | error e => cases h
  | ok x => exact ⟨x, rfl, h⟩

/-- A line that ends in a block is read back exactly if the block says something or no closing
brace is in the texts.  Otherwise the last brace is taken for the end of a block, and whatever is
read holds fewer of them. -/
theorem reads_iff {α : Type} {read : List Char → Except SignatureFault α} {x : α}
    {texts : List String} (hbody : Solid body) (hcount : body.count '}' = closings texts)
    (hreads : c.isEmpty = false ∨ '}' ∉ body → read (body ++ c.suffix) = .ok x)
    (hlt : ∀ {line}, read line = .ok x → '}' ∈ trimChars line →
      closings texts < (trimChars line).count '}') :
    read (body ++ c.suffix) = .ok x ↔ c.isEmpty = false ∨ ∀ t ∈ texts, '}' ∉ t.toList := by
  rw [← closings_eq_zero_iff, ← hcount, List.count_eq_zero]
  refine ⟨fun h => ?_, hreads⟩
  cases hempty : c.isEmpty with
  | false => exact .inl rfl
  | true =>
    refine .inr fun hmem => ?_
    have hline : trimChars (body ++ c.suffix) = body := by
      rw [Constraints.suffix, if_pos hempty, List.append_nil, hbody.trimChars]
    have hfewer := hlt h (by rwa [hline])
    rw [hline, hcount] at hfewer
    exact absurd hfewer (Nat.lt_irrefl _)

end ClassDiagram
