import Mathlib.Data.List.Perm.Basic
import ClassDiagram.Proofs.Member.NormalForm

/-!
# Several blocks as one

What two lists of tokens say one after the other is what each of them says, *merged*
(`ofTokens_append`): a flag is raised if one of the two raises it, a value that both
give is that of the second, and the unknown texts are united.  Taking in a token is to
merge what it says alone (`note_eq_merge`), so all laws of lists of tokens come from
those of the merge, which is associative and does not mind a repetition.

A flag and an unknown text are there exactly if some token brings them
(`isRaised_ofTokens_iff`, `mem_other_ofTokens`), and a value is that of the last token
that has one (`ofTokens_value`).  Nothing else is in the constraints, so the order of
the tokens matters for the values only.

What says something says it for good.  A block of tokens that are not blank is therefore
never taken for an empty one, and its normal form is another block that says the same.
-/

namespace ClassDiagram

open Text

/-! ## Sets of texts -/

namespace SortedSet

/-- The members of two sets. -/
def union (m n : SortedSet) : SortedSet := n.toList.foldl insert m

instance : Union SortedSet := ⟨union⟩

theorem mem_union {m n : SortedSet} {s : String} : s ∈ m ∪ n ↔ s ∈ m ∨ s ∈ n := by
  have hfold : ∀ (l : List String) (m : SortedSet), s ∈ l.foldl insert m ↔ s ∈ m ∨ s ∈ l := by
    intro l
    induction l with
    | nil => simp
    | cons t l ih =>
      intro m
      rw [List.foldl_cons, ih, mem_insert, List.mem_cons, or_assoc, or_left_comm]
  exact hfold n.toList m

/-- A set is settled by its members. -/
theorem ext_mem {m n : SortedSet} (h : ∀ s, s ∈ m ↔ s ∈ n) : m = n := by
  refine SortedSet.ext ?_
  have hnodup : ∀ k : SortedSet, k.toList.Nodup := by
    intro k
    refine k.sorted.imp fun {a b} hlt => ?_
    rintro rfl
    exact String.lt_irrefl a hlt
  have hperm := (List.perm_ext_iff_of_nodup (hnodup m) (hnodup n)).2 h
  exact hperm.eq_of_pairwise (fun a b _ _ hab hba => absurd (String.lt_trans hab hba)
    (String.lt_irrefl a)) m.sorted n.sorted

theorem notMem_empty (s : String) : s ∉ (∅ : SortedSet) := List.not_mem_nil

end SortedSet

namespace Constraints

variable {c d : Constraints}

/-! ## Merging -/

/-- What is said first and what is said after it. -/
def merge (c d : Constraints) : Constraints where
  isStatic := c.isStatic || d.isStatic
  isAbstract := c.isAbstract || d.isAbstract
  isVirtual := c.isVirtual || d.isVirtual
  isFinal := c.isFinal || d.isFinal
  required := c.required || d.required
  unique := c.unique || d.unique
  primary := c.primary || d.primary
  identity := c.identity || d.identity
  generated := c.generated || d.generated
  lob := c.lob || d.lob
  foreign := c.foreign || d.foreign
  foreignTarget := d.foreignTarget.or c.foreignTarget
  length := d.length.or c.length
  size := d.size.or c.size
  format := d.format.or c.format
  other := c.other ∪ d.other

/-- A flag is raised in a union if it is raised in a part. -/
theorem isRaised_merge (c d : Constraints) (f : Flag) :
    Flag.isRaised (c.merge d) f = (Flag.isRaised c f || Flag.isRaised d f) := by
  cases f <;> rfl

theorem isRaised_empty (f : Flag) : Flag.isRaised {} f = false := by
  cases f <;> rfl

/-- Merging is associative, as later values win over earlier ones. -/
theorem merge_assoc (c d e : Constraints) : (c.merge d).merge e = c.merge (d.merge e) := by
  refine ext_isRaised (fun f => ?_) ?_
  · simp only [isRaised_merge, Bool.or_assoc]
  · have hother : (c.other ∪ d.other) ∪ e.other = c.other ∪ (d.other ∪ e.other) := by
      refine SortedSet.ext_mem fun s => ?_
      simp only [SortedSet.mem_union, or_assoc]
    simp only [values, merge, Option.or_assoc, hother]

theorem merge_empty (c : Constraints) : c.merge {} = c := by
  refine ext_isRaised (fun f => ?_) rfl
  rw [isRaised_merge, isRaised_empty, Bool.or_false]

/-- What was said may be said again. -/
theorem merge_self (c : Constraints) : c.merge c = c := by
  refine ext_isRaised (fun f => ?_) ?_
  · rw [isRaised_merge, Bool.or_self]
  · have hother : c.other ∪ c.other = c.other := by
      refine SortedSet.ext_mem fun s => ?_
      simp only [SortedSet.mem_union, or_self]
    simp only [values, merge, Option.or_self, hother]

/-- What is said is what was said before, merged with what the saying says alone. -/
theorem apply_eq_merge (c : Constraints) (s : Saying) : s.apply c = c.merge (s.apply {}) := by
  have hempty : c.other ∪ ∅ = c.other := rfl
  cases s with
  | nothing => exact (merge_empty c).symm
  | flag f => cases f <;> simp [Saying.apply, raise, merge, hempty]
  | foreign target => simp [Saying.apply, merge, hempty]
  | length n => simp [Saying.apply, merge, hempty]
  | size s => simp [Saying.apply, merge, hempty]
  | format f => simp [Saying.apply, merge, hempty]
  | unknown raw =>
    have hraw : c.other ∪ SortedSet.insert ∅ raw = c.other.insert raw := rfl
    simp [Saying.apply, merge, hraw]

/-! ## Lists of tokens -/

/-- To take in a token is to merge what it says alone. -/
theorem note_eq_merge (c : Constraints) (token : List Char) :
    c.note token = c.merge (ofTokens [token]) := by
  have halone : ofTokens [token] = (Saying.of token).apply {} := Saying.note_eq_apply {} token
  rw [Saying.note_eq_apply, apply_eq_merge, halone]

/-- Noting tokens is merging what they say by themselves. -/
theorem foldl_note (c : Constraints) (tokens : List (List Char)) :
    tokens.foldl note c = c.merge (ofTokens tokens) := by
  induction tokens generalizing c with
  | nil => exact (merge_empty c).symm
  | cons token tokens ih =>
    have htokens : ofTokens (token :: tokens) = (ofTokens [token]).merge (ofTokens tokens) :=
      ih (note {} token)
    rw [List.foldl_cons, ih, note_eq_merge, htokens, merge_assoc]

/-- What two blocks say one after the other is what they say, merged. -/
theorem ofTokens_append (a b : List (List Char)) :
    ofTokens (a ++ b) = (ofTokens a).merge (ofTokens b) := by
  rw [ofTokens, List.foldl_append]
  exact foldl_note _ b

theorem ofTokens_cons (token : List Char) (tokens : List (List Char)) :
    ofTokens (token :: tokens) = (ofTokens [token]).merge (ofTokens tokens) :=
  ofTokens_append [token] tokens

/-- A flag is raised by the tokens if one of them raises it. -/
theorem isRaised_ofTokens_iff {f : Flag} {tokens : List (List Char)} :
    Flag.isRaised (ofTokens tokens) f = true ↔
      ∃ token ∈ tokens, Flag.isRaised (ofTokens [token]) f = true := by
  induction tokens with
  | nil =>
    have hnone : Flag.isRaised (ofTokens []) f = false := isRaised_empty f
    simp [hnone]
  | cons token tokens ih =>
    rw [ofTokens_cons, isRaised_merge, Bool.or_eq_true, ih, List.exists_mem_cons_iff]

/-- A text is kept from the tokens if it is kept from one of them. -/
theorem mem_other_ofTokens {raw : String} {tokens : List (List Char)} :
    raw ∈ (ofTokens tokens).other ↔ ∃ token ∈ tokens, raw ∈ (ofTokens [token]).other := by
  induction tokens with
  | nil => simp [ofTokens, SortedSet.notMem_empty]
  | cons token tokens ih =>
    have hmerge : raw ∈ ((ofTokens [token]).merge (ofTokens tokens)).other ↔
        raw ∈ (ofTokens [token]).other ∨ raw ∈ (ofTokens tokens).other := SortedSet.mem_union
    rw [ofTokens_cons, hmerge, ih, List.exists_mem_cons_iff]

section

variable {α : Type} {field : Constraints → Option α}

/-- The value that the last token gives which gives one when it stands alone. -/
def lastValue (field : Constraints → Option α) (tokens : List (List Char)) : Option α :=
  (tokens.filterMap fun token => field (ofTokens [token])).getLast?

/-- The last value is that of the last token that has one. -/
theorem lastValue_cons (token : List Char) (tokens : List (List Char)) :
    lastValue field (token :: tokens) =
      (lastValue field tokens).or (field (ofTokens [token])) := by
  rw [lastValue, List.filterMap_cons]
  cases field (ofTokens [token]) with
  | none => exact (Option.or_none).symm
  | some value =>
    rw [List.getLast?_cons, ← lastValue]
    cases lastValue field tokens <;> rfl

/-- A value for which the later of two counts is that of the last token. -/
theorem ofTokens_value (field : Constraints → Option α) (hempty : field {} = none)
    (hmerge : ∀ c d, field (merge c d) = (field d).or (field c)) (tokens : List (List Char)) :
    field (ofTokens tokens) = lastValue field tokens := by
  induction tokens with
  | nil => exact hempty
  | cons token tokens ih => rw [ofTokens_cons, hmerge, ih, lastValue_cons]

end

/-- The order of the tokens matters for the values only. -/
theorem ofTokens_of_perm {a b : List (List Char)} (h : a.Perm b) :
    ofTokens b = { ofTokens a with
      foreignTarget := lastValue foreignTarget b, length := lastValue Constraints.length b,
      size := lastValue size b, format := lastValue format b } := by
  refine ext_isRaised (fun f => ?_) ?_
  · have hraised : Flag.isRaised (ofTokens b) f = Flag.isRaised (ofTokens a) f := by
      rw [Bool.eq_iff_iff, isRaised_ofTokens_iff, isRaised_ofTokens_iff]
      simp only [h.mem_iff]
    rw [hraised]
    cases f <;> rfl
  · have hother : (ofTokens b).other = (ofTokens a).other := by
      refine SortedSet.ext_mem fun raw => ?_
      rw [mem_other_ofTokens, mem_other_ofTokens]
      simp only [h.mem_iff]
    simp only [values, hother, ofTokens_value foreignTarget rfl fun _ _ => rfl,
      ofTokens_value Constraints.length rfl fun _ _ => rfl,
      ofTokens_value size rfl fun _ _ => rfl,
      ofTokens_value format rfl fun _ _ => rfl]

/-! ## What was said before -/

/-- All that some constraints say is said by others, which may give another value. -/
structure Within (c d : Constraints) : Prop where
  flags : ∀ f, Flag.isRaised c f = true → Flag.isRaised d f = true
  foreignTarget : c.foreignTarget.isSome = true → d.foreignTarget.isSome = true
  length : c.length.isSome = true → d.length.isSome = true
  size : c.size.isSome = true → d.size.isSome = true
  format : c.format.isSome = true → d.format.isSome = true
  other : ∀ raw ∈ c.other, raw ∈ d.other

/-- Nothing that was said is taken back. -/
theorem within_merge (c d : Constraints) : c.Within (c.merge d) where
  flags f h := by rw [isRaised_merge, h, Bool.true_or]
  foreignTarget h := by simp [merge, h]
  length h := by simp [merge, h]
  size h := by simp [merge, h]
  format h := by simp [merge, h]
  other _ h := SortedSet.mem_union.2 (Or.inl h)

/-- Only the empty constraints are within the empty ones. -/
theorem Within.eq_empty (h : c.Within {}) : c = {} := by
  refine ext_isRaised (fun f => ?_) ?_
  · rw [isRaised_empty, ← Bool.not_eq_true]
    intro hraised
    have hempty := h.flags f hraised
    rw [isRaised_empty] at hempty
    cases hempty
  · have hother : c.other = ∅ := SortedSet.ext_mem fun s =>
      ⟨h.other s, fun hs => absurd hs (SortedSet.notMem_empty s)⟩
    have hnone : ∀ {α : Type} {o : Option α}, (o.isSome = true → (none : Option α).isSome = true) →
        o = none := fun ho => Option.not_isSome_iff_eq_none.1 fun hsome => nomatch ho hsome
    simp only [values, hnone h.foreignTarget, hnone h.length, hnone h.size, hnone h.format, hother]

/-- The constraints of tokens put after one another, one of them, and those of the tokens in
another order. -/
theorem ofTokens_merges (a b : List (List Char)) :
    ofTokens (a ++ b) = (ofTokens a).merge (ofTokens b) ∧
      ofTokens (a ++ a) = ofTokens a ∧
      (a.Perm b → ofTokens b = { ofTokens a with
        foreignTarget := lastValue foreignTarget b, length := lastValue Constraints.length b,
        size := lastValue size b, format := lastValue format b }) ∧
      (ofTokens a).Within (ofTokens (a ++ b)) := by
  refine ⟨ofTokens_append a b, ?_, ofTokens_of_perm, ?_⟩
  · rw [ofTokens_append, merge_self]
  · rw [ofTokens_append]
    exact within_merge _ _

/-- Two lengths, a flag, and what is no length. -/
def measures : List (List Char) :=
  ["length:3".toList, "Key".toList, "length:5".toList, "length:x".toList]

/-- The order matters for the values that are given twice. -/
theorem ofTokens_merges_measures : measures.Perm measures.reverse ∧
    ofTokens measures =
      { primary := true, length := some 5, other := SortedSet.insert ∅ "length:x" } ∧
    ofTokens measures.reverse =
      { primary := true, length := some 3, other := SortedSet.insert ∅ "length:x" } := by
  have hperm : measures.Perm measures.reverse := (List.reverse_perm measures).symm
  obtain ⟨-, -, hreorder, -⟩ := ofTokens_merges measures measures.reverse
  refine ⟨hperm, rfl, ?_⟩
  rw [hreorder hperm]
  rfl

end Constraints

/-! ## Tokens that say something -/

namespace Saying

/-- A token with a value says something. -/
theorem assigned?_ne_nothing (key : String) (payload : List Char) :
    assigned? key payload ≠ some nothing := by
  rw [assigned?]
  repeat' split
  all_goals simp

/-- A token says nothing only if it is blank. -/
theorem of_ne_nothing {token : List Char} (h : trimChars token ≠ []) : of token ≠ nothing := by
  cases hsplit : splitFirst ':' (trimChars token) with
  | none =>
    cases hflag : Flag.ofName? (.ofList (trimChars token)) with
    | none => simp [of, h, hsplit, hflag]
    | some f => simp [of, h, hsplit, hflag]
  | some parts =>
    cases hassigned : assigned? (toLower (.ofList (trimChars parts.1))) (trimChars parts.2) with
    | none => simp [of, h, hsplit, hassigned]
    | some s =>
      have hof : of token = s := by simp [of, h, hsplit, hassigned]
      rw [hof]
      rintro rfl
      exact assigned?_ne_nothing _ _ hassigned

/-- Whatever says something leaves a trace. -/
theorem apply_ne_empty {s : Saying} (h : s ≠ nothing) : s.apply {} ≠ {} := by
  cases s with
  | nothing => exact absurd rfl h
  | flag f => cases f <;> simp [apply, Constraints.raise]
  | foreign target => simp [apply]
  | length n => simp [apply]
  | size s => simp [apply]
  | format f => simp [apply]
  | unknown raw =>
    intro hempty
    have hother : SortedSet.insert ∅ raw = ∅ := congrArg Constraints.other hempty
    have hmem : raw ∈ SortedSet.insert ∅ raw := SortedSet.mem_insert.2 (Or.inl rfl)
    rw [hother] at hmem
    exact SortedSet.notMem_empty raw hmem

end Saying

namespace Constraints

/-- Tokens that are not blank say something, unless there are none. -/
theorem isEmpty_ofTokens_iff {tokens : List (List Char)}
    (h : ∀ token ∈ tokens, trimChars token ≠ []) :
    (ofTokens tokens).isEmpty = true ↔ tokens = [] := by
  constructor
  · intro hempty
    cases tokens with
    | nil => rfl
    | cons token tokens =>
      have hfirst : (ofTokens [token]).Within (ofTokens (token :: tokens)) := by
        rw [ofTokens_cons token tokens]
        exact within_merge _ _
      rw [isEmpty, beq_iff_eq] at hempty
      rw [hempty] at hfirst
      have halone : ofTokens [token] = (Saying.of token).apply {} := Saying.note_eq_apply {} token
      have hsaid := Saying.of_ne_nothing (h token List.mem_cons_self)
      exact absurd (halone ▸ hfirst.eq_empty) (Saying.apply_ne_empty hsaid)
  · rintro rfl
    rfl

/-- The normal form of a block is a block that says the same, and it is empty only for a block
without tokens. -/
theorem ofTokens_normal_form {block : List Char} {tokens : List (List Char)}
    (h : blockTokens? block = some tokens) :
    (∃ inside again, (ofTokens tokens).text.toList = '{' :: (inside ++ ['}']) ∧
      blockTokens? inside = some again ∧ ofTokens again = ofTokens tokens) ∧
    ((ofTokens tokens).isEmpty = true ↔ tokens = []) := by
  obtain ⟨hitem, -⟩ := of_items h
  have hnormal : (ofTokens tokens).Normal :=
    normal_ofTokens fun token htoken => (hitem token htoken).allowed
  refine ⟨⟨(", ".intercalate (ofTokens tokens).tokens).toList, _, ?_,
    hnormal.blockTokens?_tokens, hnormal.ofTokens_tokens⟩, isEmpty_ofTokens_iff ?_⟩
  · simp [text]
  · intro token htoken
    rw [(hitem token htoken).solid.trimChars]
    exact (hitem token htoken).solid.starts.ne_nil

/-- A block with a synonym, a number with a sign, a size that is none and a key without a value. -/
def mixedBlock : List Char := " fk: Order ,Key,, length:+07, size:a , FK:".toList

/-- The tokens of that block. -/
def mixedTokens : List (List Char) :=
  ["fk: Order".toList, "Key".toList, "length:+07".toList, "size:a".toList, "FK:".toList]

/-- The normal form of that block, without its braces. -/
def mixedForm : String := "pk, fk:Order, length:7, FK:, size:a"

/-- A block in any order and case has one printed form. -/
theorem ofTokens_normal_form_mixedBlock : blockTokens? mixedBlock = some mixedTokens ∧
    (ofTokens mixedTokens).text = "\x7b" ++ mixedForm ++ "\x7d" ∧
    ∃ again, blockTokens? mixedForm.toList = some again ∧
      ofTokens again = ofTokens mixedTokens := by
  have htokens : blockTokens? mixedBlock = some mixedTokens := rfl
  have hform : (ofTokens mixedTokens).text = "\x7b" ++ mixedForm ++ "\x7d" := rfl
  obtain ⟨⟨inside, again, htext, hinside, hagain⟩, -⟩ := ofTokens_normal_form htokens
  have heq : inside = mixedForm.toList := by
    rw [hform] at htext
    simpa using htext.symm
  rw [heq] at hinside
  exact ⟨htokens, hform, again, hinside, hagain⟩

end Constraints

end ClassDiagram
