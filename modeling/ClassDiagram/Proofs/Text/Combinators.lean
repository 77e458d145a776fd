import ClassDiagram.Proofs.Text.Split

/-!
# Lists read by combinators

The grammar of a list is put together from combinators.  An item is a run of
characters that are not forbidden, without the blanks around it.  A list is items
with a comma between each two, up to the end of the text (`Combinators.list`).  The
combinators are a parameter.  `Combinators.Greedy` is what the grammar relies on: a
reader is used as often as it can be, and nothing it took is given back.

Greedy combinators read a list as `pieces` does (`Combinators.Greedy.list_eq`), and
what can be read is the text cut at its commas (`eq_splitOn_of_rawPieces`).  So the
items are those of plain splitting (`items_plain`).  Joined with a comma and a blank
they are read back, unless a blank is forbidden and stands between two of them.
-/

namespace ClassDiagram.Text

variable {α β : Type} {mark : Char} {forbidden cs rest : List Char} {l : List (List Char)}

/-! ## Combinators -/

/-- Takes a value off the front of a text, or refuses the text. -/
abbrev Reader (α : Type) := List Char → Option (α × List Char)

/-- The combinators from which the grammar of a list is put together. -/
structure Combinators where
  /-- Takes one character, which must be none of some. -/
  noneOf : List Char → Reader Char
  /-- Takes one character, which must be a certain one. -/
  just : Char → Reader Char
  /-- Takes values one after another. -/
  repeated {α : Type} : Reader α → Reader (List α)
  /-- Takes values one after another, with what a second reader takes between each two. -/
  separatedBy {α β : Type} : Reader α → Reader β → Reader (List α)
  /-- Takes the text that a reader takes. -/
  toSlice {α : Type} : Reader α → Reader (List Char)
  /-- Applies a function to what a reader takes. -/
  map {α β : Type} : (α → β) → Reader α → Reader β
  /-- Takes what one reader takes, if a second one takes something after it. -/
  thenIgnore {α β : Type} : Reader α → Reader β → Reader α
  /-- Takes nothing, at the end of a text only. -/
  ending : Reader Unit

namespace Combinators

/-- What the combinators do.  A repeated reader has to make the text shorter each time. -/
structure Greedy (k : Combinators) : Prop where
  noneOf_nil (forbidden : List Char) : k.noneOf forbidden [] = none
  noneOf_cons (forbidden : List Char) (c : Char) (cs : List Char) :
    k.noneOf forbidden (c :: cs) = if c ∈ forbidden then none else some (c, cs)
  just_nil (mark : Char) : k.just mark [] = none
  just_cons (mark c : Char) (cs : List Char) :
    k.just mark (c :: cs) = if c = mark then some (c, cs) else none
  repeated_of_refused {α : Type} {p : Reader α} {cs : List Char} :
    p cs = none → k.repeated p cs = some ([], cs)
  repeated_of_taken {α : Type} {p : Reader α} {cs rest : List Char} {a : α} :
    p cs = some (a, rest) → rest.length < cs.length →
      k.repeated p cs = (k.repeated p rest).map (Prod.map (a :: ·) id)
  separatedBy_of_last {α β : Type} {p : Reader α} {q : Reader β} {cs rest : List Char} {a : α} :
    p cs = some (a, rest) → q rest = none → k.separatedBy p q cs = some ([a], rest)
  separatedBy_of_next {α β : Type} {p : Reader α} {q : Reader β} {cs rest next : List Char}
      {a : α} {b : β} :
    p cs = some (a, rest) → q rest = some (b, next) → (p next).isSome = true →
      next.length < cs.length →
      k.separatedBy p q cs = (k.separatedBy p q next).map (Prod.map (a :: ·) id)
  toSlice_of_taken {α : Type} {p : Reader α} {cs rest : List Char} {a : α} :
    p (cs ++ rest) = some (a, rest) → k.toSlice p (cs ++ rest) = some (cs, rest)
  map_of_taken {α β : Type} {f : α → β} {p : Reader α} {cs rest : List Char} {a : α} :
    p cs = some (a, rest) → k.map f p cs = some (f a, rest)
  thenIgnore_of_taken {α β : Type} {p : Reader α} {q : Reader β} {cs rest last : List Char}
      {a : α} {b : β} :
    p cs = some (a, rest) → q rest = some (b, last) → k.thenIgnore p q cs = some (a, last)
  thenIgnore_of_refused {α β : Type} {p : Reader α} {q : Reader β} {cs rest : List Char} {a : α} :
    p cs = some (a, rest) → q rest = none → k.thenIgnore p q cs = none
  ending_nil : k.ending [] = some ((), [])
  ending_cons (c : Char) (cs : List Char) : k.ending (c :: cs) = none

/-! ## The grammar of a list -/

/-- Takes an item: the characters up to a forbidden one, without the blanks around them. -/
def item (k : Combinators) (forbidden : List Char) : Reader (List Char) :=
  k.map trimChars (k.toSlice (k.repeated (k.noneOf forbidden)))

/-- Takes a list of items, up to the end of the text. -/
def list (k : Combinators) (forbidden : List Char) : Reader (List (List Char)) :=
  k.thenIgnore (k.separatedBy (k.item forbidden) (k.just ',')) k.ending

/-- The items of a text that are not empty. -/
def items? (k : Combinators) (forbidden cs : List Char) : Option (List (List Char)) :=
  (k.list forbidden cs).map fun (l, _) => l.filter (!·.isEmpty)

end Combinators

/-! ## What the grammar reads -/

/-- A text is cut where its first character that is not allowed stands. -/
theorem exists_eq_append (forbidden cs : List Char) : ∃ before rest, cs = before ++ rest ∧
    (∀ c ∈ before, c ∉ forbidden) ∧ ∀ c ∈ rest.head?, c ∈ forbidden := by
  induction cs with
  | nil => exact ⟨[], [], rfl, nofun, nofun⟩
  | cons c cs ih =>
    by_cases hc : c ∈ forbidden
    · refine ⟨[], c :: cs, rfl, nofun, fun d hd => ?_⟩
      cases hd
      exact hc
    · obtain ⟨before, rest, rfl, hbefore, hrest⟩ := ih
      exact ⟨c :: before, rest, rfl, List.forall_mem_cons.2 ⟨hc, hbefore⟩, hrest⟩

/-- A forbidden comma cuts a text in a piece and a text. -/
theorem pieces_append_comma (hcomma : ',' ∈ forbidden) (hcs : ∀ c ∈ cs, c ∉ forbidden)
    (rest : List Char) : pieces forbidden (cs ++ ',' :: rest)
      = (pieces forbidden rest).map (trimChars cs :: ·) := by
  rw [pieces, pieces]
  cases hrest : rawPieces forbidden rest with
  | some parts => rw [rawPieces_append_comma hcomma hcs hrest]; rfl
  | none =>
    have hnone : rawPieces forbidden (cs ++ ',' :: rest) = none := by
      rw [← Option.not_isSome_iff_eq_none, isSome_rawPieces_iff] at hrest ⊢
      exact fun h => hrest fun c hc => h c (by simp [hc])
    rw [hnone]
    rfl

namespace Combinators.Greedy

variable {k : Combinators}

/-- The repeated reader takes all that is allowed. -/
theorem repeated_noneOf (hk : k.Greedy) (hcs : ∀ c ∈ cs, c ∉ forbidden)
    (hrest : ∀ c ∈ rest.head?, c ∈ forbidden) :
    k.repeated (k.noneOf forbidden) (cs ++ rest) = some (cs, rest) := by
  induction cs with
  | nil =>
    refine hk.repeated_of_refused ?_
    cases rest with
    | nil => exact hk.noneOf_nil forbidden
    | cons c rest => rw [List.nil_append, hk.noneOf_cons, if_pos (hrest c rfl)]
  | cons c cs ih =>
    obtain ⟨hc, hcs⟩ := List.forall_mem_cons.1 hcs
    have htaken : k.noneOf forbidden (c :: (cs ++ rest)) = some (c, cs ++ rest) := by
      rw [hk.noneOf_cons, if_neg hc]
    rw [List.cons_append, hk.repeated_of_taken htaken (Nat.lt_succ_self _), ih hcs]
    rfl

/-- An item is what is allowed, without the blanks around it. -/
theorem item_append (hk : k.Greedy) (hcs : ∀ c ∈ cs, c ∉ forbidden)
    (hrest : ∀ c ∈ rest.head?, c ∈ forbidden) :
    k.item forbidden (cs ++ rest) = some (trimChars cs, rest) :=
  hk.map_of_taken (hk.toSlice_of_taken (hk.repeated_noneOf hcs hrest))

theorem isSome_item (hk : k.Greedy) (forbidden cs : List Char) :
    (k.item forbidden cs).isSome = true := by
  obtain ⟨before, rest, rfl, hbefore, hrest⟩ := exists_eq_append forbidden cs
  rw [hk.item_append hbefore hrest]
  rfl

/-- The items before the first forbidden character that is no comma are taken.  They are all the
pieces if there is no such character. -/
theorem separatedBy_item (hk : k.Greedy) (hcomma : ',' ∈ forbidden) (cs : List Char) :
    ∃ l rest, k.separatedBy (k.item forbidden) (k.just ',') cs = some (l, rest) ∧
      pieces forbidden cs = if rest = [] then some l else none := by
  obtain ⟨before, rest, rfl, hbefore, hrest⟩ := exists_eq_append forbidden cs
  have hitem := hk.item_append hbefore hrest
  cases rest with
  | nil =>
    refine ⟨_, _, hk.separatedBy_of_last hitem (hk.just_nil ','), ?_⟩
    rw [List.append_nil, pieces, rawPieces_of_allowed hbefore]
    rfl
  | cons c rest =>
    by_cases hc : c = ','
    · subst hc
      have hjust : k.just ',' (',' :: rest) = some (',', rest) := by
        rw [hk.just_cons, if_pos rfl]
      have hshorter : rest.length < (before ++ ',' :: rest).length := by
        rw [List.length_append, List.length_cons]
        omega
      obtain ⟨l, last, hl, hpieces⟩ := separatedBy_item hk hcomma rest
      refine ⟨trimChars before :: l, last, ?_, ?_⟩
      · rw [hk.separatedBy_of_next hitem hjust (hk.isSome_item forbidden rest) hshorter, hl]
        rfl
      · rw [pieces_append_comma hcomma hbefore, hpieces]
        split <;> rfl
    · have hjust : k.just ',' (c :: rest) = none := by rw [hk.just_cons, if_neg hc]
      refine ⟨_, _, hk.separatedBy_of_last hitem hjust, ?_⟩
      have hnone : rawPieces forbidden (before ++ c :: rest) = none := by
        rw [← Option.not_isSome_iff_eq_none, isSome_rawPieces_iff]
        exact fun h => hc (h c (by simp) (hrest c rfl))
      rw [if_neg (List.cons_ne_nil c rest), pieces, hnone]
      rfl
termination_by cs.length

/-- Greedy combinators read the pieces of a list. -/
theorem list_eq (hk : k.Greedy) (hcomma : ',' ∈ forbidden) (cs : List Char) :
    k.list forbidden cs = (pieces forbidden cs).map (·, []) := by
  obtain ⟨l, rest, hl, hpieces⟩ := hk.separatedBy_item hcomma cs
  cases rest with
  | nil =>
    rw [hpieces, if_pos rfl]
    exact hk.thenIgnore_of_taken hl hk.ending_nil
  | cons c rest =>
    rw [hpieces, if_neg (List.cons_ne_nil c rest)]
    exact hk.thenIgnore_of_refused hl (hk.ending_cons c rest)

/-- The reader of items reads what splitting at commas gives. -/
theorem items?_eq (hk : k.Greedy) (hcomma : ',' ∈ forbidden) (cs : List Char) :
    k.items? forbidden cs = items forbidden cs := by
  rw [Combinators.items?, hk.list_eq hcomma, items, Option.map_map]
  rfl

end Combinators.Greedy

/-! ## Plain splitting -/

/-- The pieces of a text between its commas that are not blank, without the blanks around them. -/
def plainItems (cs : List Char) : List (List Char) :=
  ((cs.splitOn ',').filter (!·.all isBlank)).map trimChars

/-- Where nothing else is forbidden the pieces are those between the commas. -/
theorem eq_splitOn_of_rawPieces (hcomma : ',' ∈ forbidden) {first : List Char}
    (h : rawPieces forbidden cs = some (first, l)) : cs.splitOn ',' = first :: l := by
  induction cs generalizing first l with
  | nil =>
    cases h
    rfl
  | cons c cs ih =>
    rw [rawPieces] at h
    rw [List.splitOn_cons_eq_if_modifyHead]
    cases hcs : rawPieces forbidden cs with
    | none =>
      rw [hcs] at h
      cases h
    | some parts =>
      rw [hcs] at h
      rw [ih hcs]
      by_cases hc : c ∈ forbidden
      · simp only [if_neg (not_not_intro hc)] at h
        split at h
        next heq =>
          cases h
          rw [if_pos (beq_iff_eq.2 heq)]
        next => cases h
      · simp only [if_pos hc] at h
        cases h
        have hne : (c == ',') ≠ true := by
          rw [ne_eq, beq_iff_eq]
          rintro rfl
          exact hc hcomma
        rw [if_neg hne]
        rfl

/-- A piece is blank if trimming leaves nothing of it. -/
theorem filter_map_trimChars (l : List (List Char)) :
    (l.map trimChars).filter (!·.isEmpty) = (l.filter (!·.all isBlank)).map trimChars := by
  have hblank : ∀ piece : List Char, (trimChars piece).isEmpty = piece.all isBlank := by
    intro piece
    rw [Bool.eq_iff_iff, List.isEmpty_iff, trimChars_eq_nil_iff, List.all_eq_true]
  rw [List.filter_map]
  exact congrArg (List.map trimChars)
    (List.filter_congr fun piece _ => congrArg (!·) (hblank piece))

/-- What is read are the trimmed pieces that are not empty. -/
theorem eq_plainItems_of_items (hcomma : ',' ∈ forbidden) (h : items forbidden cs = some l) :
    l = plainItems cs := by
  rw [items, pieces] at h
  cases hraw : rawPieces forbidden cs with
  | none =>
    rw [hraw] at h
    cases h
  | some parts =>
    rw [hraw] at h
    cases h
    rw [plainItems, eq_splitOn_of_rawPieces hcomma hraw]
    exact filter_map_trimChars _

/-- A text is refused for a forbidden character other than a comma. -/
theorem items_eq_none_iff :
    items forbidden cs = none ↔ ∃ c ∈ cs, c ∈ forbidden ∧ c ≠ ',' := by
  rw [← Option.not_isSome_iff_eq_none, isSome_items_iff]
  simp only [Classical.not_forall, exists_prop, ne_eq]

/-! ## Items joined again -/

theorem items_of_isItem (h : IsItem forbidden cs) : items forbidden cs = some [cs] := by
  rw [items, pieces, rawPieces_of_allowed h.allowed]
  simp [h.solid.trimChars, h.solid.starts.ne_nil]

/-- Items joined again are read again if a blank is allowed or there is one at most. -/
theorem items_intercalate_of_items (hcomma : ',' ∈ forbidden) (h : items forbidden cs = some l) :
    items forbidden ([',', ' '].intercalate l) = some l ↔ ' ' ∉ forbidden ∨ l.length ≤ 1 := by
  have hitem := (of_items h).1
  match l, hitem with
  | [], _ => exact iff_of_true rfl (.inr (Nat.zero_le 1))
  | [a], hitem =>
    refine iff_of_true ?_ (.inr (Nat.le_refl 1))
    rw [List.intercalate_singleton]
    exact items_of_isItem (hitem a List.mem_cons_self)
  | a :: b :: l, hitem =>
    have hlength : ¬ (a :: b :: l).length ≤ 1 := by simp
    rw [or_iff_left hlength]
    constructor
    · intro hread hblank
      have hallowed := isSome_items_iff.1 (Option.isSome_of_eq_some hread)
      have hmem : ' ' ∈ [',', ' '].intercalate (a :: b :: l) := by
        rw [List.intercalate_cons_cons]
        simp
      have hcomma := hallowed ' ' hmem hblank
      cases hcomma
    · exact fun hblank => items_intercalate hcomma hblank hitem

/-! ## The combinators as functions -/

/-- Uses a reader as long as it makes the text shorter. -/
def takeAll (p : Reader α) (cs : List Char) : List α × List Char :=
  match p cs with
  | none => ([], cs)
  | some (a, rest) =>
      if rest.length < cs.length then (takeAll p rest).map (a :: ·) id else ([], cs)
termination_by cs.length

/-- Uses two readers in turn, as long as the first one takes something after the second. -/
def takeSeparated (p : Reader α) (q : Reader β) (cs : List Char) : List α × List Char :=
  match p cs with
  | none => ([], cs)
  | some (a, rest) =>
      match q rest with
      | none => ([a], rest)
      | some (_, next) =>
          if next.length < cs.length ∧ (p next).isSome then
            (takeSeparated p q next).map (a :: ·) id
          else ([a], rest)
termination_by cs.length

section

variable {p : Reader α} {q : Reader β} {next : List Char} {a : α} {b : β}

theorem takeAll_of_refused (h : p cs = none) : takeAll p cs = ([], cs) := by
  rw [takeAll, h]

/-- A reader that takes something is asked again for the rest. -/
theorem takeAll_of_taken (h : p cs = some (a, rest)) (hshorter : rest.length < cs.length) :
    takeAll p cs = (takeAll p rest).map (a :: ·) id := by
  rw [takeAll, h]
  exact if_pos hshorter

theorem takeSeparated_of_last (h : p cs = some (a, rest)) (hlast : q rest = none) :
    takeSeparated p q cs = ([a], rest) := by
  rw [takeSeparated, h]
  simp only [hlast]

/-- After a separator one more is taken, if there is one. -/
theorem takeSeparated_of_next (h : p cs = some (a, rest)) (hnext : q rest = some (b, next))
    (hmore : (p next).isSome = true) (hshorter : next.length < cs.length) :
    takeSeparated p q cs = (takeSeparated p q next).map (a :: ·) id := by
  rw [takeSeparated, h]
  simp only [hnext]
  exact if_pos ⟨hshorter, hmore⟩

end

/-- The combinators, written out. -/
def greedy : Combinators where
  noneOf forbidden
    | [] => none
    | c :: cs => if c ∈ forbidden then none else some (c, cs)
  just mark
    | [] => none
    | c :: cs => if c = mark then some (c, cs) else none
  repeated p cs := some (takeAll p cs)
  separatedBy p q cs := some (takeSeparated p q cs)
  toSlice p cs := (p cs).map fun (_, rest) => (cs.take (cs.length - rest.length), rest)
  map f p cs := (p cs).map (Prod.map f id)
  thenIgnore p q cs := (p cs).bind fun (a, rest) => (q rest).map fun (_, last) => (a, last)
  ending
    | [] => some ((), [])
    | _ :: _ => none

/-- Readers that take as much as they can have the laws. -/
theorem greedy_greedy : greedy.Greedy where
  noneOf_nil _ := rfl
  noneOf_cons _ _ _ := rfl
  just_nil _ := rfl
  just_cons _ _ _ := rfl
  repeated_of_refused h := congrArg some (takeAll_of_refused h)
  repeated_of_taken h hshorter := congrArg some (takeAll_of_taken h hshorter)
  separatedBy_of_last h hlast := congrArg some (takeSeparated_of_last h hlast)
  separatedBy_of_next h hnext hmore hshorter :=
    congrArg some (takeSeparated_of_next h hnext hmore hshorter)
  toSlice_of_taken h := by simp [greedy, h]
  map_of_taken h := by simp [greedy, h]
  thenIgnore_of_taken h hlast := by simp [greedy, h, hlast]
  thenIgnore_of_refused h hlast := by simp [greedy, h, hlast]
  ending_nil := rfl
  ending_cons _ _ := rfl

/-! ## The items of a list -/

/-- Let the comma be forbidden in an item.  Greedy combinators read the items of a list.  A list
is refused exactly if a forbidden character other than the comma is in it.  Otherwise the items
are the pieces between its commas that are not blank, without the blanks around them, and joined
with a comma and a blank they are read back exactly if a blank is allowed or does not come up. -/
theorem items_plain {k : Combinators} (hk : k.Greedy) (hcomma : ',' ∈ forbidden)
    (cs : List Char) :
    k.items? forbidden cs = items forbidden cs ∧
      (items forbidden cs = none ↔ ∃ c ∈ cs, c ∈ forbidden ∧ c ≠ ',') ∧
      ∀ l, items forbidden cs = some l → l = plainItems cs ∧
        (items forbidden ([',', ' '].intercalate l) = some l ↔
          ' ' ∉ forbidden ∨ l.length ≤ 1) :=
  ⟨hk.items?_eq hcomma cs, items_eq_none_iff, fun _ h =>
    ⟨eq_plainItems_of_items hcomma h, items_intercalate_of_items hcomma h⟩⟩

/-- A parameter list with a blank item. -/
theorem items_plain_parameters : greedy.Greedy ∧ ',' ∈ [',', '(', ')'] ∧
    greedy.items? [',', '(', ')'] " x: int,, y ".toList = some ["x: int".toList, "y".toList] ∧
    items [',', '(', ')'] "x: int, y".toList = some ["x: int".toList, "y".toList] := by
  have hcomma : ',' ∈ [',', '(', ')'] := by decide
  obtain ⟨hread, -, hplain⟩ := items_plain greedy_greedy hcomma " x: int,, y ".toList
  have hitems : items [',', '(', ')'] " x: int,, y ".toList
      = some ["x: int".toList, "y".toList] := by decide
  obtain ⟨-, hjoined⟩ := hplain _ hitems
  exact ⟨greedy_greedy, hcomma, hread.trans hitems, hjoined.2 (.inl (by decide))⟩

/-- If a blank is forbidden, items that were read and joined need not be read again. -/
theorem not_items_joined : ¬ ∀ forbidden cs : List Char, ',' ∈ forbidden →
    ∀ l, items forbidden cs = some l → items forbidden ([',', ' '].intercalate l) = some l := by
  intro hall
  have hread := hall [',', ' '] "a,b".toList (by decide) ["a".toList, "b".toList] (by decide)
  revert hread
  decide

end ClassDiagram.Text
