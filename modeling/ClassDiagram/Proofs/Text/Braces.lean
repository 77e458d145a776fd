import Mathlib.Algebra.BigOperators.Group.List.Basic
import Mathlib.Data.List.TakeWhile
import ClassDiagram.Proofs.Text.Numeral
import ClassDiagram.Text.Case
import ClassDiagram.Text.Find

/-!
# Braces

A text is *balanced* when no prefix of it closes more braces than it opens and the
whole opens and closes the same number.

What a text does to the braces around it is told by two numbers: of its closing
braces and of its opening ones, those that have no partner in it.  When two texts
are put together, the opening braces left in the first meet the closing ones left in
the second.  So these pairs are multiplied (`unmatched_append`), and the balanced
texts are those that have nothing left (`balanced_iff`).

Trimming, raising the first character and replacing dots do nothing to braces.
-/

namespace ClassDiagram.Text

/-! ## Braces without a partner -/

/-- The braces of a text that have no partner in it. -/
@[ext] structure Unmatched where
  /-- The closing ones, which all come before the opening ones. -/
  closing : Nat
  /-- The opening ones. -/
  opening : Nat
deriving DecidableEq, Repr

namespace Unmatched

instance : One Unmatched := ⟨⟨0, 0⟩⟩

/-- What is left when opening braces meet the closing ones after them. -/
instance : Mul Unmatched where
  mul a b := ⟨a.closing + (b.closing - a.opening), b.opening + (a.opening - b.closing)⟩

@[simp] theorem closing_one : (1 : Unmatched).closing = 0 := rfl

@[simp] theorem opening_one : (1 : Unmatched).opening = 0 := rfl

/-- Closing braces of the second text are left if the first has no more opening ones for them. -/
@[simp] theorem closing_mul (a b : Unmatched) :
    (a * b).closing = a.closing + (b.closing - a.opening) := rfl

/-- Opening braces of the first text are left if the second has no more closing ones for them. -/
@[simp] theorem opening_mul (a b : Unmatched) :
    (a * b).opening = b.opening + (a.opening - b.closing) := rfl

instance : Monoid Unmatched where
  mul_assoc a b c := by
    ext
    · simp only [closing_mul, opening_mul]
      omega
    · simp only [closing_mul, opening_mul]
      omega
  one_mul a := by ext <;> simp
  mul_one a := by ext <;> simp

/-- One opening brace. -/
def opened : Unmatched := ⟨0, 1⟩

/-- One closing brace. -/
def closed : Unmatched := ⟨1, 0⟩

@[simp] theorem opened_mul_closed : opened * closed = 1 := rfl

/-- What a character leaves. -/
def ofChar (c : Char) : Unmatched := if c = '{' then opened else if c = '}' then closed else 1

theorem ofChar_eq_one {c : Char} (hopening : c ≠ '{') (hclosing : c ≠ '}') : ofChar c = 1 := by
  rw [ofChar, if_neg hopening, if_neg hclosing]

end Unmatched

open Unmatched

/-- What a list of characters leaves. -/
def unmatchedIn (cs : List Char) : Unmatched := (cs.map ofChar).prod

/-- What a text leaves. -/
def unmatched (s : String) : Unmatched := unmatchedIn s.toList

@[simp] theorem unmatchedIn_nil : unmatchedIn [] = 1 := rfl

@[simp] theorem unmatchedIn_cons (c : Char) (cs : List Char) :
    unmatchedIn (c :: cs) = ofChar c * unmatchedIn cs := by
  rw [unmatchedIn, unmatchedIn, List.map_cons, List.prod_cons]

/-- Texts put together leave what is left of both. -/
@[simp] theorem unmatchedIn_append (cs ds : List Char) :
    unmatchedIn (cs ++ ds) = unmatchedIn cs * unmatchedIn ds := by
  rw [unmatchedIn, unmatchedIn, unmatchedIn, List.map_append, List.prod_append]

@[simp] theorem unmatched_empty : unmatched "" = 1 := rfl

/-- What a text leaves is the product of what its parts leave. -/
@[simp] theorem unmatched_append (s t : String) :
    unmatched (s ++ t) = unmatched s * unmatched t := by
  rw [unmatched, String.toList_append, unmatchedIn_append]
  rfl

@[simp] theorem unmatched_ofList (cs : List Char) : unmatched (.ofList cs) = unmatchedIn cs := by
  rw [unmatched, String.toList_ofList]

@[simp] theorem unmatched_ite {c : Prop} [Decidable c] (s t : String) :
    unmatched (if c then s else t) = if c then unmatched s else unmatched t :=
  apply_ite unmatched c s t

/-- There is no brace in a text. -/
def isPlain (s : String) : Bool := s.toList.all fun c => c != '{' && c != '}'

/-- A text without braces leaves nothing. -/
theorem unmatched_plain {s : String} (h : isPlain s = true) : unmatched s = 1 := by
  refine List.prod_eq_one fun u hu => ?_
  obtain ⟨c, hc, rfl⟩ := List.mem_map.1 hu
  have hplain := List.all_eq_true.1 h c hc
  rw [Bool.and_eq_true, bne_iff_ne, bne_iff_ne] at hplain
  exact ofChar_eq_one hplain.1 hplain.2

/-! ## Balanced texts -/

/-- No prefix closes more braces than it opens, and the whole text opens and closes the
same number. -/
structure Balanced (s : String) : Prop where
  prefixes : ∀ p, p <+: s.toList → p.count '}' ≤ p.count '{'
  whole : s.toList.count '}' = s.toList.count '{'

/-- The closing braces without a partner are the greatest excess of closing over opening
braces in a prefix. -/
theorem closing_le_iff {cs : List Char} {n : Nat} :
    (unmatchedIn cs).closing ≤ n ↔ ∀ p, p <+: cs → p.count '}' ≤ n + p.count '{' := by
  induction cs generalizing n with
  | nil => simp
  | cons c cs ih =>
    have hcons : (∀ p, p <+: c :: cs → p.count '}' ≤ n + p.count '{') ↔
        ∀ p, p <+: cs → (c :: p).count '}' ≤ n + (c :: p).count '{' := by
      constructor
      · intro h p hp
        exact h _ (List.cons_prefix_cons.2 ⟨rfl, hp⟩)
      · intro h p hp
        rcases List.prefix_cons_iff.1 hp with rfl | ⟨q, rfl, hq⟩
        · exact Nat.zero_le _
        · exact h q hq
    rw [hcons, unmatchedIn_cons, closing_mul]
    by_cases hopening : c = '{'
    · have hstep : (ofChar c).closing + ((unmatchedIn cs).closing - (ofChar c).opening) ≤ n ↔
          (unmatchedIn cs).closing ≤ n + 1 := by
        subst hopening
        show 0 + (_ - 1) ≤ n ↔ _
        omega
      rw [hstep, ih]
      simp [hopening, Nat.add_comm, Nat.add_left_comm]
    · by_cases hclosing : c = '}'
      · subst hclosing
        cases n with
        | zero =>
          refine iff_of_false (by simp [ofChar, closed]) fun h => ?_
          have := h [] List.nil_prefix
          revert this
          decide
        | succ n =>
          have hstep : (ofChar '}').closing + ((unmatchedIn cs).closing - (ofChar '}').opening)
              ≤ n + 1 ↔ (unmatchedIn cs).closing ≤ n := by
            show 1 + (_ - 0) ≤ n + 1 ↔ _
            omega
          rw [hstep, ih]
          simp only [List.count_cons_self, List.count_cons_of_ne hopening]
          refine forall₂_congr fun p _ => ?_
          omega
      · simp [ofChar_eq_one hopening hclosing, ih, hopening, hclosing]

/-- Every brace that is not left has a partner of the other kind. -/
theorem count_add_opening (cs : List Char) :
    cs.count '}' + (unmatchedIn cs).opening = cs.count '{' + (unmatchedIn cs).closing := by
  induction cs with
  | nil => rfl
  | cons c cs ih =>
    rw [unmatchedIn_cons, opening_mul, closing_mul]
    by_cases hopening : c = '{'
    · subst hopening
      have : ofChar '{' = ⟨0, 1⟩ := rfl
      simp [this]
      omega
    · by_cases hclosing : c = '}'
      · subst hclosing
        have : ofChar '}' = ⟨1, 0⟩ := rfl
        simp [this]
        omega
      · simp [ofChar_eq_one hopening hclosing, ih, hopening, hclosing]

/-- The balanced texts are those that leave nothing. -/
theorem balanced_iff {s : String} : Balanced s ↔ unmatched s = 1 := by
  have hcount := count_add_opening s.toList
  have hclosing : (unmatchedIn s.toList).closing = 0 ↔
      ∀ p, p <+: s.toList → p.count '}' ≤ p.count '{' := by
    simpa using @closing_le_iff s.toList 0
  constructor
  · rintro ⟨prefixes, whole⟩
    have hzero := hclosing.2 prefixes
    have hopening : (unmatchedIn s.toList).opening = 0 := by omega
    exact Unmatched.ext hzero hopening
  · intro h
    have hone : unmatchedIn s.toList = 1 := h
    rw [hone] at hcount
    exact ⟨hclosing.1 (congrArg closing hone), hcount⟩

instance (s : String) : Decidable (Balanced s) := decidable_of_iff _ balanced_iff.symm

theorem Balanced.unmatched {s : String} (h : Balanced s) : Text.unmatched s = 1 := balanced_iff.1 h

/-! ## Texts put together of many -/

/-- Many texts put together leave the product of what each leaves. -/
theorem unmatched_join_eq_prod (l : List String) :
    unmatched (String.join l) = (l.map unmatched).prod := by
  induction l with
  | nil => rfl
  | cons s l ih => rw [String.join_cons, unmatched_append, ih, List.map_cons, List.prod_cons]

/-- A separator without braces changes nothing. -/
theorem unmatched_intercalate_eq_prod {separator : String} (h : unmatched separator = 1)
    (l : List String) : unmatched (separator.intercalate l) = (l.map unmatched).prod := by
  cases l with
  | nil => rfl
  | cons s l =>
    induction l generalizing s with
    | nil => simp
    | cons t l ih =>
      rw [String.intercalate_cons_cons, unmatched_append, unmatched_append, h, mul_one, ih t,
        List.map_cons (a := s), List.prod_cons]

theorem prod_unmatched {l : List String} (h : ∀ s ∈ l, unmatched s = 1) :
    (l.map unmatched).prod = 1 :=
  List.prod_eq_one (List.forall_mem_map.2 h)

/-- Texts that leave nothing leave nothing together. -/
theorem unmatched_join {l : List String} (h : ∀ s ∈ l, unmatched s = 1) :
    unmatched (String.join l) = 1 :=
  (unmatched_join_eq_prod l).trans (prod_unmatched h)

/-- So it is with a separator. -/
theorem unmatched_intercalate {separator : String} (hseparator : unmatched separator = 1)
    {l : List String} (h : ∀ s ∈ l, unmatched s = 1) : unmatched (separator.intercalate l) = 1 :=
  (unmatched_intercalate_eq_prod hseparator l).trans (prod_unmatched h)

theorem unmatched_join_map {α : Type} {l : List α} {f : α → String}
    (h : ∀ a ∈ l, unmatched (f a) = 1) : unmatched (String.join (l.map f)) = 1 :=
  unmatched_join (List.forall_mem_map.2 h)

theorem unmatched_join_mapIdx {α : Type} {l : List α} {f : Nat → α → String}
    (h : ∀ index, ∀ a ∈ l, unmatched (f index a) = 1) :
    unmatched (String.join (l.mapIdx f)) = 1 := by
  refine unmatched_join fun s hs => ?_
  obtain ⟨index, hindex, rfl⟩ := List.mem_mapIdx.1 hs
  exact h index _ (List.getElem_mem hindex)

/-! ## Trimming -/

/-- No brace is blank. -/
theorem ofChar_of_isBlank {c : Char} (h : isBlank c = true) : ofChar c = 1 := by
  refine ofChar_eq_one ?_ ?_
  · rintro rfl
    revert h
    decide
  · rintro rfl
    revert h
    decide

theorem unmatchedIn_of_isBlank {cs : List Char} (h : ∀ c ∈ cs, isBlank c = true) :
    unmatchedIn cs = 1 := by
  refine List.prod_eq_one fun u hu => ?_
  obtain ⟨c, hc, rfl⟩ := List.mem_map.1 hu
  exact ofChar_of_isBlank (h c hc)

/-- So what is trimmed at the start leaves nothing. -/
theorem unmatchedIn_trimStartChars (cs : List Char) :
    unmatchedIn (trimStartChars cs) = unmatchedIn cs := by
  have hsplit : cs.takeWhile isBlank ++ trimStartChars cs = cs := List.takeWhile_append_dropWhile
  have hblank : unmatchedIn (cs.takeWhile isBlank) = 1 :=
    unmatchedIn_of_isBlank fun c hc => List.mem_takeWhile_imp hc
  rw [← congrArg unmatchedIn hsplit, unmatchedIn_append, hblank, one_mul]

theorem unmatchedIn_trimEndChars (cs : List Char) :
    unmatchedIn (trimEndChars cs) = unmatchedIn cs := by
  have hsplit : trimEndChars cs ++ (cs.reverse.takeWhile isBlank).reverse = cs := by
    rw [trimEndChars, ← List.reverse_append, List.takeWhile_append_dropWhile, List.reverse_reverse]
  have hblank : unmatchedIn (cs.reverse.takeWhile isBlank).reverse = 1 :=
    unmatchedIn_of_isBlank fun c hc => List.mem_takeWhile_imp (List.mem_reverse.1 hc)
  rw [← congrArg unmatchedIn hsplit, unmatchedIn_append, hblank, mul_one]

/-- Trimming does nothing to braces. -/
@[simp] theorem unmatched_trim (s : String) : unmatched (trim s) = unmatched s := by
  rw [unmatched, toList_trim, trimChars, unmatchedIn_trimEndChars, unmatchedIn_trimStartChars]
  rfl

/-! ## Replacing and raising characters -/

/-- A character that is no brace may be replaced by what leaves nothing. -/
theorem unmatched_replaceChar {mark : Char} (hmark : ofChar mark = 1) {other : String}
    (hother : unmatched other = 1) (whole : String) :
    unmatched (replaceChar mark other whole) = unmatched whole := by
  rw [replaceChar, unmatched_ofList, unmatched]
  induction whole.toList with
  | nil => rfl
  | cons c cs ih =>
    rw [List.flatMap_cons, unmatchedIn_append, ih, unmatchedIn_cons]
    split
    next hc => rw [hc, hmark, ← unmatched, hother]
    next => rw [unmatchedIn_cons, unmatchedIn_nil, mul_one]

theorem mem_of_lookup {α β : Type} [BEq α] [LawfulBEq α] {table : List (α × β)} {key : α}
    {value : β} (h : table.lookup key = some value) : (key, value) ∈ table := by
  obtain ⟨before, after, hsplit, -⟩ := List.lookup_eq_some_iff.1 h
  simp [hsplit]

/-- No code point of a run, and no partner of one, is a brace. -/
def CaseRun.AvoidsBraces (r : CaseRun) : Prop :=
  (r.last < 0x7b ∨ 0x7d < r.first) ∧ (r.last + r.shift < 0x7b ∨ 0x7d < r.first + r.shift)

instance (r : CaseRun) : Decidable r.AvoidsBraces := inferInstanceAs (Decidable (_ ∧ _))

/-- Neither a small letter nor its capital is a brace. -/
theorem upperRuns_avoid_braces : ∀ r ∈ upperRuns, r.AvoidsBraces := by decide +kernel

/-- No letter becomes a brace where it becomes several. -/
theorem upperExpansions_avoid_braces :
    ∀ e ∈ upperExpansions, (e.1 ≠ 0x7b ∧ e.1 ≠ 0x7d) ∧ ∀ n ∈ e.2, n ≠ 0x7b ∧ n ≠ 0x7d := by
  decide +kernel

/-- A number that is the code of a character other than zero is the one. -/
theorem eq_toNat_of_ofNat {n : Nat} {c : Char} (h : Char.ofNat n = c) (hc : c.toNat ≠ 0) :
    n = c.toNat := by
  by_cases hvalid : n.isValidChar
  · have hn : Char.ofNat n = Char.ofNatAux n hvalid := dif_pos hvalid
    rw [← h, hn]
    rfl
  · have hzero : Char.ofNat n = Char.ofNat 0 := dif_neg hvalid
    rw [← h, hzero] at hc
    exact absurd rfl hc

theorem ofChar_ofNat {n : Nat} (h : n ≠ 0x7b ∧ n ≠ 0x7d) : ofChar (Char.ofNat n) = 1 := by
  refine ofChar_eq_one (fun hopening => h.1 ?_) fun hclosing => h.2 ?_
  · exact eq_toNat_of_ofNat hopening (by decide)
  · exact eq_toNat_of_ofNat hclosing (by decide)

theorem ofChar_of_toNat {c : Char} (h : c.toNat ≠ 0x7b ∧ c.toNat ≠ 0x7d) : ofChar c = 1 :=
  Char.ofNat_toNat c ▸ ofChar_ofNat h

/-- What the runs find for a code point is no brace, and that was none. -/
theorem find?_avoids_braces {runs : List CaseRun} (h : ∀ r ∈ runs, r.AvoidsBraces) {n k : Nat}
    (hfind : CaseRun.find? runs n = some k) :
    (n ≠ 0x7b ∧ n ≠ 0x7d) ∧ k ≠ 0x7b ∧ k ≠ 0x7d := by
  induction runs with
  | nil => cases hfind
  | cons r runs ih =>
    obtain ⟨hr, hruns⟩ := List.forall_mem_cons.1 h
    rw [CaseRun.find?] at hfind
    split at hfind
    next hin =>
      have hk : (n + r.shift).toNat = k := Option.some.inj hfind
      unfold CaseRun.AvoidsBraces at hr
      omega
    next => exact ih hruns hfind

/-- A character in upper case is as much of a brace as before. -/
theorem unmatchedIn_upperChar (c : Char) : unmatchedIn (upperChar c) = ofChar c := by
  rw [upperChar]
  split
  next points hlookup =>
    obtain ⟨hc, hpoints⟩ := upperExpansions_avoid_braces _ (mem_of_lookup hlookup)
    rw [ofChar_of_toNat hc, unmatchedIn, List.map_map]
    refine List.prod_eq_one fun u hu => ?_
    obtain ⟨n, hn, rfl⟩ := List.mem_map.1 hu
    exact ofChar_ofNat (hpoints n hn)
  next =>
    split
    next n hfind =>
      obtain ⟨hc, hn⟩ := find?_avoids_braces upperRuns_avoid_braces hfind
      rw [ofChar_of_toNat hc, unmatchedIn_cons, ofChar_ofNat hn]
      rfl
    next => rw [unmatchedIn_cons, unmatchedIn_nil, mul_one]

/-- Raising the first character does nothing to braces. -/
@[simp] theorem unmatched_capitalize (s : String) : unmatched (capitalize s) = unmatched s := by
  have hs : unmatched s = unmatchedIn s.toList := rfl
  rw [capitalize, hs]
  cases s.toList with
  | nil => rfl
  | cons c cs => rw [unmatched_ofList, unmatchedIn_append, unmatchedIn_upperChar, unmatchedIn_cons]

/-! ## Numerals -/

@[simp] theorem unmatched_toString (n : Int) : unmatched (toString n) = 1 := by
  have hnat (n : Nat) : unmatched (toString n) = 1 := by
    refine unmatched_plain (List.all_eq_true.2 fun c hc => ?_)
    rw [Bool.and_eq_true, bne_iff_ne, bne_iff_ne]
    constructor
    · rintro rfl
      exact notMem_toString n rfl hc
    · rintro rfl
      exact notMem_toString n rfl hc
  cases n with
  | ofNat n => exact hnat n
  | negSucc n =>
    have hnegative : toString (Int.negSucc n) = "-" ++ toString (n + 1) := rfl
    rw [hnegative, unmatched_append, hnat]
    rfl

end ClassDiagram.Text
