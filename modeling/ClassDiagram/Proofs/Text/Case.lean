import ClassDiagram.Proofs.Text.Numeral
import ClassDiagram.Text.Case

/-!
# Upper case

The upper case of a text is put together from those of its characters, so it can be taken
piece by piece (`toUpper_append`).  The characters before the small letters of ASCII keep
their form, so a numeral does too.

Two texts may become one in upper case.  Texts that start with a small letter of ASCII do
not when only this letter is raised, and none of them is the raised form of another.
-/

namespace ClassDiagram.Text

@[simp] theorem toUpper_append (s t : String) : toUpper (s ++ t) = toUpper s ++ toUpper t := by
  rw [toUpper, toUpper, toUpper, String.toList_append, List.flatMap_append, String.ofList_append]

/-- Before the small letters of ASCII every character is its own capital. -/
theorem upperChar_of_lt {c : Char} (h : c.toNat < 97) : upperChar c = [c] := by
  have hkeeps : ∀ n < 97,
      upperExpansions.lookup n = none ∧ CaseRun.find? upperRuns n = none := by decide +kernel
  obtain ⟨hlookup, hfind⟩ := hkeeps c.toNat h
  rw [upperChar, hlookup, hfind]

theorem flatMap_upperChar_of_lt {cs : List Char} (h : ∀ c ∈ cs, c.toNat < 97) :
    cs.flatMap upperChar = cs := by
  induction cs with
  | nil => rfl
  | cons c cs ih =>
    obtain ⟨hc, hcs⟩ := List.forall_mem_cons.1 h
    rw [List.flatMap_cons, upperChar_of_lt hc, ih hcs]
    rfl

@[simp] theorem toUpper_toString (n : Nat) : toUpper (toString n) = toString n := by
  have hdigits : ∀ c ∈ (toString n).toList, c.toNat < 97 := by
    intro c hc
    have hdigit : 48 ≤ c.toNat ∧ c.toNat ≤ 57 :=
      Char.isDigit_iff_toNat.1 (isDigit_of_mem_toString hc)
    omega
  rw [toUpper, flatMap_upperChar_of_lt hdigits, String.ofList_toList]

/-! ## Small letters of ASCII -/

/-- A text starts with a small letter of ASCII. -/
def StartsSmall (s : String) : Prop := ∃ c cs, s.toList = c :: cs ∧ 97 ≤ c.toNat ∧ c.toNat ≤ 122

/-- A small letter of ASCII becomes one capital, 32 places before it. -/
theorem upperChar_of_small {c : Char} (hfirst : 97 ≤ c.toNat) (hlast : c.toNat ≤ 122) :
    ∃ raised, upperChar c = [raised] ∧ raised.toNat + 32 = c.toNat := by
  have hletters : ∀ n < 123, 97 ≤ n → (upperChar (.ofNat n)).map Char.toNat = [n - 32] := by
    decide +kernel
  have hletter := hletters c.toNat (by omega) hfirst
  rw [Char.ofNat_toNat, List.map_eq_singleton_iff] at hletter
  obtain ⟨raised, hraised, hnat⟩ := hletter
  exact ⟨raised, hraised, by omega⟩

namespace StartsSmall

variable {s t : String}

/-- Only the first character of such a name is changed. -/
theorem toList_capitalize (h : StartsSmall s) : ∃ c raised cs, s.toList = c :: cs ∧
    (capitalize s).toList = raised :: cs ∧ raised.toNat + 32 = c.toNat ∧ c.toNat ≤ 122 := by
  obtain ⟨c, cs, hs, hfirst, hlast⟩ := h
  obtain ⟨raised, hraised, hnat⟩ := upperChar_of_small hfirst hlast
  refine ⟨c, raised, cs, hs, ?_, hnat, hlast⟩
  simp only [capitalize, hs, hraised, String.toList_ofList]
  rfl

/-- The raised text does not start with a small letter. -/
theorem ne_capitalize (hs : StartsSmall s) (ht : StartsSmall t) : t ≠ capitalize s := by
  rintro rfl
  obtain ⟨c, raised, cs, -, hraised, hnat, hlast⟩ := hs.toList_capitalize
  obtain ⟨c', cs', ht, hfirst, -⟩ := ht
  have hhead : raised = c' := (List.cons.inj (hraised.symm.trans ht)).1
  subst hhead
  omega

/-- Raising the small letter can be undone. -/
theorem eq_of_capitalize (hs : StartsSmall s) (ht : StartsSmall t)
    (h : capitalize s = capitalize t) : s = t := by
  obtain ⟨c, raised, cs, hslist, hsraised, hsnat, -⟩ := hs.toList_capitalize
  obtain ⟨c', raised', cs', htlist, htraised, htnat, -⟩ := ht.toList_capitalize
  rw [h, htraised] at hsraised
  cases hsraised
  have hc : c = c' := Char.toNat_inj.1 (hsnat.symm.trans htnat)
  rw [← String.toList_inj, hslist, htlist, hc]

end StartsSmall

end ClassDiagram.Text
