import Mathlib.Data.List.TakeWhile
import ClassDiagram.Text.Blank

/-!
# Texts without blanks at their ends

A text is *solid* when it has a first and a last character and neither is blank.
Trimming leaves a solid text or nothing at all (`solid_trimChars`), and it gives a
solid text back when blanks were put around it.  The two ends are told apart, so
that a text that is put together is solid when its first part starts and its last
part ends so.
-/

namespace ClassDiagram.Text

/-- The text starts with a character that is not blank. -/
def StartsSolid (cs : List Char) : Prop := ∃ c rest, cs = c :: rest ∧ isBlank c = false

/-- The text ends with a character that is not blank. -/
def EndsSolid (cs : List Char) : Prop := ∃ rest c, cs = rest ++ [c] ∧ isBlank c = false

/-- The text has no blank at either end, and is not empty. -/
structure Solid (cs : List Char) : Prop where
  starts : StartsSolid cs
  ends : EndsSolid cs

variable {cs ds : List Char}

theorem StartsSolid.append (h : StartsSolid cs) (ds : List Char) : StartsSolid (cs ++ ds) := by
  obtain ⟨c, rest, rfl, hc⟩ := h
  exact ⟨c, rest ++ ds, rfl, hc⟩

theorem EndsSolid.append (h : EndsSolid ds) (cs : List Char) : EndsSolid (cs ++ ds) := by
  obtain ⟨rest, c, rfl, hc⟩ := h
  exact ⟨cs ++ rest, c, (List.append_assoc _ _ _).symm, hc⟩

theorem StartsSolid.ne_nil (h : StartsSolid cs) : cs ≠ [] := by
  obtain ⟨c, rest, rfl, -⟩ := h
  exact List.cons_ne_nil _ _

/-- A text with solid ends may have anything in between. -/
theorem Solid.append (h : Solid cs) (h' : Solid ds) (between : List Char) :
    Solid (cs ++ (between ++ ds)) :=
  ⟨h.starts.append _, (h'.ends.append _).append _⟩

/-- A text without blanks is solid, unless it is empty. -/
theorem solid_of_forall (hne : cs ≠ []) (h : ∀ c ∈ cs, isBlank c = false) : Solid cs := by
  constructor
  · obtain ⟨c, rest, rfl⟩ := List.exists_cons_of_ne_nil hne
    exact ⟨c, rest, rfl, h c List.mem_cons_self⟩
  · refine ⟨cs.dropLast, cs.getLast hne, (List.dropLast_concat_getLast hne).symm, ?_⟩
    exact h _ (List.getLast_mem hne)

/-! ## Trimming a solid text -/

theorem StartsSolid.trimStartChars (h : StartsSolid cs) : trimStartChars cs = cs := by
  obtain ⟨c, rest, rfl, hc⟩ := h
  exact List.dropWhile_cons_of_neg (by simp [hc])

theorem EndsSolid.trimEndChars (h : EndsSolid cs) : trimEndChars cs = cs := by
  obtain ⟨rest, c, rfl, hc⟩ := h
  rw [Text.trimEndChars, List.reverse_concat, List.dropWhile_cons_of_neg (by simp [hc]),
    List.reverse_cons, List.reverse_reverse]

/-- Trimming a solid text does nothing. -/
theorem Solid.trimChars (h : Solid cs) : trimChars cs = cs := by
  rw [Text.trimChars, h.starts.trimStartChars, h.ends.trimEndChars]

/-- A blank before a text does not count. -/
theorem trimChars_cons {b : Char} (hb : isBlank b = true) (cs : List Char) :
    trimChars (b :: cs) = trimChars cs := by
  rw [trimChars, trimChars, trimStartChars, trimStartChars, List.dropWhile_cons_of_pos hb]

/-- Blanks after a text do not count. -/
theorem trimEndChars_append (h : ∀ c ∈ ds, isBlank c = true) (cs : List Char) :
    trimEndChars (cs ++ ds) = trimEndChars cs := by
  rw [trimEndChars, trimEndChars, List.reverse_append, List.dropWhile_append_of_pos]
  intro c hc
  exact h c (List.mem_reverse.1 hc)

/-- Blanks at the end of a text are trimmed. -/
theorem trimChars_append (h : ∀ c ∈ ds, isBlank c = true) (cs : List Char) :
    trimChars (cs ++ ds) = trimChars cs := by
  rw [trimChars, trimChars, trimStartChars, trimStartChars, List.dropWhile_append]
  split
  next hnil =>
    have hds : ds.dropWhile isBlank = [] := by
      simpa using @List.dropWhile_append_of_pos _ isBlank ds [] h
    rw [List.isEmpty_iff.1 hnil, hds]
  next => exact trimEndChars_append h _

/-- A text that does not end in a blank has no blanks after it. -/
theorem EndsSolid.eq_nil (h : EndsSolid (cs ++ ds)) (hds : ∀ c ∈ ds, isBlank c = true) :
    ds = [] := by
  rcases List.eq_nil_or_concat ds with rfl | ⟨init, c, rfl⟩
  · rfl
  · obtain ⟨rest, d, heq, hd⟩ := h
    have hlast : c = d := by simpa using congrArg List.getLast? heq
    rw [← hlast, hds c (by simp)] at hd
    cases hd

/-! ## What trimming leaves -/

/-- A trimmed text starts with no blank. -/
theorem startsSolid_trimStartChars (h : trimStartChars cs ≠ []) :
    StartsSolid (trimStartChars cs) := by
  obtain ⟨c, rest, hcs⟩ := List.exists_cons_of_ne_nil h
  refine ⟨c, rest, hcs, ?_⟩
  have hhead := List.head?_dropWhile_not isBlank cs
  rw [trimStartChars] at hcs
  rw [hcs] at hhead
  simpa using hhead

theorem endsSolid_trimEndChars (h : trimEndChars cs ≠ []) : EndsSolid (trimEndChars cs) := by
  have hne : trimStartChars cs.reverse ≠ [] := fun hnil => h (by
    rw [trimEndChars, ← trimStartChars, hnil]
    rfl)
  obtain ⟨c, rest, hcs, hc⟩ := startsSolid_trimStartChars hne
  refine ⟨rest.reverse, c, ?_, hc⟩
  rw [trimEndChars, ← trimStartChars, hcs, List.reverse_cons]

theorem trimStartChars_sublist (cs : List Char) : (trimStartChars cs).Sublist cs :=
  List.dropWhile_sublist _

theorem trimEndChars_sublist (cs : List Char) : (trimEndChars cs).Sublist cs := by
  have h := (List.dropWhile_sublist (l := cs.reverse) isBlank).reverse
  rwa [List.reverse_reverse] at h

/-- Trimming only leaves characters out. -/
theorem trimChars_sublist (cs : List Char) : (trimChars cs).Sublist cs :=
  (trimEndChars_sublist _).trans (trimStartChars_sublist cs)

theorem trimEndChars_cons {c : Char} (hc : isBlank c = false) (cs : List Char) :
    trimEndChars (c :: cs) = c :: trimEndChars cs := by
  have hlast : [c].dropWhile isBlank = [c] := List.dropWhile_cons_of_neg (by simp [hc])
  rw [trimEndChars, trimEndChars, List.reverse_cons, List.dropWhile_append, hlast]
  split
  next hnil =>
    rw [List.isEmpty_iff.1 hnil]
    rfl
  next => rw [List.reverse_concat]

/-- Trimming leaves a solid text, if it leaves anything. -/
theorem solid_trimChars (h : trimChars cs ≠ []) : Solid (trimChars cs) := by
  refine ⟨?_, endsSolid_trimEndChars h⟩
  have hne : trimStartChars cs ≠ [] := fun hnil => h (by
    rw [trimChars, hnil]
    rfl)
  obtain ⟨c, rest, hcs, hc⟩ := startsSolid_trimStartChars hne
  refine ⟨c, trimEndChars rest, ?_, hc⟩
  rw [trimChars, hcs, trimEndChars_cons hc]

theorem trimChars_trimChars (cs : List Char) : trimChars (trimChars cs) = trimChars cs := by
  by_cases h : trimChars cs = []
  · rw [h]
    rfl
  · exact (solid_trimChars h).trimChars

/-- Trimming does not change what a text starts with after its blanks. -/
theorem head?_trimChars (cs : List Char) : (trimChars cs).head? = (cs.dropWhile isBlank).head? := by
  by_cases h : trimStartChars cs = []
  · rw [trimChars, ← trimStartChars, h]
    rfl
  · obtain ⟨c, rest, hcs, hc⟩ := startsSolid_trimStartChars h
    rw [trimChars, ← trimStartChars, hcs, trimEndChars_cons hc, List.head?_cons, List.head?_cons]

/-- Nothing is left of a text exactly if it is all blank. -/
theorem trimChars_eq_nil_iff : trimChars cs = [] ↔ ∀ c ∈ cs, isBlank c = true := by
  rw [← List.head?_eq_none_iff, head?_trimChars, List.head?_eq_none_iff, List.dropWhile_eq_nil_iff]

end ClassDiagram.Text
