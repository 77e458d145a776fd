import ClassDiagram.Proofs.Text.Blank
import ClassDiagram.Text.Split

/-!
# Splitting texts that were put together

A text that is put together around a character is cut there again: at its first
occurrence if the part before does not hold it (`splitFirst_append`), and at its
last if the part after does not (`splitLast_append`).

The items of a list are solid and free of the forbidden characters.  Items of
that kind that are joined with a comma and a blank are read back as they were
(`items_intercalate`).  A list can be read if no character is forbidden in it but
the comma (`isSome_items_iff`).
-/

namespace ClassDiagram.Text

variable {mark : Char} {cs before after : List Char}

/-! ## One cut -/

/-- A text is cut at its first mark. -/
theorem splitFirst_append (h : mark ∉ before) (after : List Char) :
    splitFirst mark (before ++ mark :: after) = some (before, after) := by
  induction before with
  | nil => rw [List.nil_append, splitFirst, if_pos rfl]
  | cons c before ih =>
    obtain ⟨hc, hbefore⟩ := not_or.1 (mt List.mem_cons.2 h)
    rw [List.cons_append, splitFirst, if_neg (Ne.symm hc), ih hbefore]
    rfl

theorem splitLast_eq_none_iff : splitLast mark cs = none ↔ mark ∉ cs := by
  induction cs with
  | nil => simp [splitLast]
  | cons c cs ih =>
    rw [splitLast]
    cases h : splitLast mark cs with
    | none =>
      have hcs := ih.1 h
      by_cases hc : c = mark <;> simp [hc, hcs, Ne.symm]
    | some parts =>
      have hcs : mark ∈ cs := Decidable.not_not.1 (mt ih.2 (by rw [h]; nofun))
      simp [hcs]

/-- A text is cut at its last mark. -/
theorem splitLast_append (h : mark ∉ after) (before : List Char) :
    splitLast mark (before ++ mark :: after) = some (before, after) := by
  induction before with
  | nil => rw [List.nil_append, splitLast, splitLast_eq_none_iff.2 h, if_pos rfl]
  | cons c before ih => rw [List.cons_append, splitLast, ih]

/-- The two parts and the character between them make up the text, and the part after the
last occurrence does not hold the character. -/
theorem eq_of_splitLast (h : splitLast mark cs = some (before, after)) :
    cs = before ++ mark :: after ∧ mark ∉ after := by
  induction cs generalizing before with
  | nil => cases h
  | cons c cs ih =>
    rw [splitLast] at h
    cases hcs : splitLast mark cs with
    | some parts =>
      rw [hcs] at h
      cases h
      obtain ⟨heq, hnot⟩ := ih hcs
      exact ⟨congrArg (c :: ·) heq, hnot⟩
    | none =>
      by_cases hc : c = mark
      · simp only [hcs, if_pos hc] at h
        cases h
        exact ⟨congrArg (· :: after) hc, splitLast_eq_none_iff.1 hcs⟩
      · simp only [hcs, if_neg hc] at h
        cases h

/-! ## Lists -/

section

variable {forbidden : List Char}

theorem forall_notMem_cons :
    (∀ c ∈ cs, c ∉ mark :: forbidden) ↔ mark ∉ cs ∧ ∀ c ∈ cs, c ∉ forbidden := by
  refine ⟨fun h => ⟨fun hmark => h mark hmark List.mem_cons_self, fun c hc hf => ?_⟩, ?_⟩
  · exact h c hc (List.mem_cons_of_mem _ hf)
  · rintro ⟨hmark, hcs⟩ c hc hf
    cases List.mem_cons.1 hf with
    | inl heq => exact hmark (heq ▸ hc)
    | inr hmem => exact hcs c hc hmem

theorem forall_notMem_singleton : (∀ c ∈ cs, c ∉ [mark]) ↔ mark ∉ cs := by
  rw [forall_notMem_cons]
  exact ⟨And.left, fun h => ⟨h, fun _ _ => List.not_mem_nil⟩⟩

/-- A text that can stand in a list: it is solid and holds no forbidden character. -/
structure IsItem (forbidden : List Char) (cs : List Char) : Prop where
  solid : Solid cs
  allowed : ∀ c ∈ cs, c ∉ forbidden

theorem IsItem.notMem (h : IsItem forbidden cs) (hmark : mark ∈ forbidden) : mark ∉ cs :=
  fun hmem => h.allowed mark hmem hmark

/-- What is left of allowed characters is an item. -/
theorem isItem_trimChars (h : ∀ c ∈ cs, c ∉ forbidden) (hne : trimChars cs ≠ []) :
    IsItem forbidden (trimChars cs) :=
  ⟨solid_trimChars hne, fun c hc => h c ((trimChars_sublist cs).subset hc)⟩

/-- Items may be joined by characters that are allowed. -/
theorem IsItem.append (h : IsItem forbidden cs) {ds : List Char} (h' : IsItem forbidden ds)
    (between : List Char) (hbetween : between.all (!forbidden.contains ·) = true) :
    IsItem forbidden (cs ++ (between ++ ds)) := by
  refine ⟨h.solid.append h'.solid between, fun c hc => ?_⟩
  rw [List.mem_append, List.mem_append] at hc
  rcases hc with hc | hc | hc
  · exact h.allowed c hc
  · simpa using List.all_eq_true.1 hbetween c hc
  · exact h'.allowed c hc

/-- A test for a text that has no blanks at all. -/
theorem isItem_of_all (hne : cs.isEmpty = false)
    (h : (cs.all fun c => !isBlank c && !forbidden.contains c) = true) : IsItem forbidden cs := by
  simp only [List.all_eq_true, Bool.and_eq_true, Bool.not_eq_true', List.contains_eq_mem,
    decide_eq_false_iff_not] at h
  refine ⟨solid_of_forall ?_ fun c hc => (h c hc).1, fun c hc => (h c hc).2⟩
  simpa using hne

/-- Without a comma there is one piece. -/
theorem rawPieces_of_allowed (h : ∀ c ∈ cs, c ∉ forbidden) :
    rawPieces forbidden cs = some (cs, []) := by
  induction cs with
  | nil => rfl
  | cons c cs ih =>
    obtain ⟨hc, hcs⟩ := List.forall_mem_cons.1 h
    simp only [rawPieces, ih hcs, if_pos hc]

/-- A forbidden comma ends a piece. -/
theorem rawPieces_append_comma (hcomma : ',' ∈ forbidden) (h : ∀ c ∈ cs, c ∉ forbidden)
    {rest first : List Char} {others : List (List Char)}
    (hrest : rawPieces forbidden rest = some (first, others)) :
    rawPieces forbidden (cs ++ ',' :: rest) = some (cs, first :: others) := by
  induction cs with
  | nil => simp [rawPieces, hrest, hcomma]
  | cons c cs ih =>
    obtain ⟨hc, hcs⟩ := List.forall_mem_cons.1 h
    simp only [List.cons_append, rawPieces, ih hcs, if_pos hc]

/-- Items joined by commas are cut there, and keep the blank. -/
theorem rawPieces_intercalate (hcomma : ',' ∈ forbidden) (hblank : ' ' ∉ forbidden)
    {l : List (List Char)} (hcs : ∀ c ∈ cs, c ∉ forbidden)
    (hl : ∀ ds ∈ l, ∀ c ∈ ds, c ∉ forbidden) :
    rawPieces forbidden ([',', ' '].intercalate (cs :: l)) = some (cs, l.map (' ' :: ·)) := by
  induction l generalizing cs with
  | nil =>
    rw [List.intercalate_singleton]
    exact rawPieces_of_allowed hcs
  | cons ds l ih =>
    obtain ⟨hds, hl⟩ := List.forall_mem_cons.1 hl
    have hrest : rawPieces forbidden (' ' :: [',', ' '].intercalate (ds :: l))
        = some (' ' :: ds, l.map (' ' :: ·)) := by
      simp only [rawPieces, ih hds hl, if_pos hblank]
    rw [List.intercalate_cons_cons, List.append_assoc]
    exact rawPieces_append_comma hcomma hcs hrest

/-- Items joined with commas and blanks are read back. -/
theorem items_intercalate (hcomma : ',' ∈ forbidden) (hblank : ' ' ∉ forbidden)
    {l : List (List Char)} (h : ∀ cs ∈ l, IsItem forbidden cs) :
    items forbidden ([',', ' '].intercalate l) = some l := by
  cases l with
  | nil => rfl
  | cons cs l =>
    have hraw := rawPieces_intercalate hcomma hblank (h cs List.mem_cons_self).allowed
      fun ds hds => (h ds (List.mem_cons_of_mem _ hds)).allowed
    have htrim : (cs :: l.map (' ' :: ·)).map trimChars = cs :: l := by
      have hl : ∀ ds ∈ l, trimChars (' ' :: ds) = id ds := fun ds hds => by
        rw [trimChars_cons rfl, (h ds (List.mem_cons_of_mem _ hds)).solid.trimChars]
        rfl
      rw [List.map_cons, List.map_map, (h cs List.mem_cons_self).solid.trimChars]
      exact congrArg (cs :: ·) ((List.map_congr_left hl).trans (List.map_id l))
    have hfilter : (cs :: l).filter (!·.isEmpty) = cs :: l := by
      refine List.filter_eq_self.2 fun ds hds => ?_
      simpa using (h ds hds).solid.starts.ne_nil
    simp only [items, pieces, hraw, Option.map_some, htrim, hfilter]

/-- A character that does not separate items occurs in a list as often as in its items. -/
theorem count_intercalate {sep : List Char} (h : mark ∉ sep) (l : List (List Char)) :
    (sep.intercalate l).count mark = l.flatten.count mark := by
  induction l with
  | nil => rfl
  | cons cs l ih =>
    cases l with
    | nil => rw [List.intercalate_singleton, List.flatten_singleton]
    | cons ds l =>
      rw [List.intercalate_cons_cons, List.flatten_cons, List.count_append, List.count_append, ih,
        List.count_append, List.count_eq_zero.2 h, Nat.add_zero]

/-- The pieces hold no forbidden character, and together they are no more than the list. -/
theorem of_rawPieces {first : List Char} {others : List (List Char)}
    (h : rawPieces forbidden cs = some (first, others)) :
    (∀ piece ∈ first :: others, ∀ c ∈ piece, c ∉ forbidden) ∧
      (first :: others).flatten.Sublist cs := by
  induction cs generalizing first others with
  | nil =>
    cases h
    exact ⟨by simp, List.Sublist.refl _⟩
  | cons c cs ih =>
    rw [rawPieces] at h
    cases hcs : rawPieces forbidden cs with
    | none =>
      rw [hcs] at h
      cases h
    | some parts =>
      obtain ⟨hallowed, hsub⟩ := ih hcs
      obtain ⟨hfirst, hothers⟩ := List.forall_mem_cons.1 hallowed
      rw [hcs] at h
      by_cases hc : c ∉ forbidden
      · simp only [if_pos hc] at h
        cases h
        refine ⟨List.forall_mem_cons.2 ⟨?_, hothers⟩, hsub.cons_cons c⟩
        exact List.forall_mem_cons.2 ⟨hc, hfirst⟩
      · simp only [if_neg hc] at h
        split at h
        next =>
          cases h
          exact ⟨List.forall_mem_cons.2 ⟨nofun, hallowed⟩, hsub.cons c⟩
        next => cases h

/-- A list can be read if no forbidden character but the comma is in it. -/
theorem isSome_rawPieces_iff :
    (rawPieces forbidden cs).isSome = true ↔ ∀ c ∈ cs, c ∈ forbidden → c = ',' := by
  induction cs with
  | nil => simp [rawPieces]
  | cons c cs ih =>
    rw [List.forall_mem_cons, ← ih, rawPieces]
    cases rawPieces forbidden cs with
    | none => simp
    | some parts =>
      by_cases hc : c ∈ forbidden
      · have hnot : ¬ c ∉ forbidden := not_not_intro hc
        by_cases hcomma : c = ','
        · simp only [if_neg hnot, if_pos hcomma]
          simp [hcomma]
        · simp only [if_neg hnot, if_neg hcomma]
          simp [hc, hcomma]
      · simp [hc]

/-- A text has items unless a character other than a comma is forbidden. -/
theorem isSome_items_iff :
    (items forbidden cs).isSome = true ↔ ∀ c ∈ cs, c ∈ forbidden → c = ',' := by
  rw [items, pieces, Option.isSome_map, Option.isSome_map, isSome_rawPieces_iff]

/-- Trimming every piece only leaves characters out. -/
theorem flatten_map_trimChars_sublist (l : List (List Char)) :
    (l.map trimChars).flatten.Sublist l.flatten := by
  induction l with
  | nil => exact List.Sublist.refl _
  | cons cs l ih => exact (trimChars_sublist cs).append ih

/-- What is read from a list can stand in a list, and together it is no more than the list. -/
theorem of_items {l : List (List Char)} (h : items forbidden cs = some l) :
    (∀ item ∈ l, IsItem forbidden item) ∧ l.flatten.Sublist cs := by
  rw [items, pieces] at h
  cases hraw : rawPieces forbidden cs with
  | none =>
    rw [hraw] at h
    cases h
  | some parts =>
    obtain ⟨hallowed, hsub⟩ := of_rawPieces hraw
    rw [hraw] at h
    cases h
    refine ⟨fun item hitem => ?_, ?_⟩
    · obtain ⟨hmem, hne⟩ := List.mem_filter.1 hitem
      obtain ⟨piece, hpiece, rfl⟩ := List.mem_map.1 hmem
      exact isItem_trimChars (hallowed piece hpiece) (by simpa using hne)
    · rw [List.flatten_filter_not_isEmpty]
      exact (flatten_map_trimChars_sublist _).trans hsub

end

end ClassDiagram.Text
