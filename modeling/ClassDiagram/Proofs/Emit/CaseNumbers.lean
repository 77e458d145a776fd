import Mathlib.Data.List.Nodup
import ClassDiagram.Emit.Php
import ClassDiagram.Proofs.Text.Numeral

/-!
# The numbers of constants

An enumeration is backed by integers if every value given to a constant is one.  A
constant has the number that is given as its value.  One without a value has the number
after that of the constant before it, and the first one zero (`caseNumber`).

*Words.*  The numbers are counted in words of 64 bits, and the count goes one past the
number that it is about.  Where sums wrap around, the word for a constant is that of its
number all the same (`integerAt_eq`), so a number that fits is written
(`exists_backingValue?`).  Where sums are checked, the count stops exactly if some
constant up to that place has the greatest number of all (`integerAt?_eq`).

*Equal numbers.*  The given numbers are fixed, and so is that of the first constant.
They take no notice of the numbers that are counted before them, so two constants can
have one number though all given numbers are different (`not_caseNumbers_nodup`).  It
takes a number that is counted and one that is fixed: two counted ones are equal only if
those before them are (`caseNumber_ne`).
-/

namespace ClassDiagram.Emit.Php

open Text

variable {x : Context} {ps : List Property} {p : Property} {i j : Nat} {n : Int}

/-! ## Numbers of constants -/

/-- The number that is given for the constant at a place. -/
def given? (ps : List Property) (i : Nat) : Option Int := (ps[i]?.bind integer?).map Int64.toInt

/-- The number of the constant at a place: the given one, or else one past the number of the
constant before it, or zero for the first one. -/
def caseNumber (ps : List Property) : Nat → Int
  | 0 => (given? ps 0).getD 0
  | i + 1 => (given? ps (i + 1)).getD (caseNumber ps i + 1)

/-- The numbers of the constants, in order. -/
def caseNumbers (ps : List Property) : List Int := (List.range ps.length).map (caseNumber ps)

/-- The number of the constant at a place is not counted from the one before it. -/
def IsFixed (ps : List Property) (i : Nat) : Prop := i = 0 ∨ (given? ps i).isSome = true

instance : Decidable (IsFixed ps i) := inferInstanceAs (Decidable (_ ∨ _))

/-- No constant without a value has the fixed number of another constant. -/
def CountedApart (ps : List Property) : Prop :=
  ∀ i < ps.length, ∀ j < ps.length, given? ps i = none → IsFixed ps j →
    caseNumber ps i = caseNumber ps j → i = j

instance : Decidable (CountedApart ps) :=
  inferInstanceAs (Decidable (∀ i < ps.length, ∀ j < ps.length, given? ps i = none →
    IsFixed ps j → caseNumber ps i = caseNumber ps j → i = j))

/-- No constant before a place has the greatest number that fits. -/
def StaysBelow (ps : List Property) (i : Nat) : Prop :=
  ∀ j < i, caseNumber ps j ≠ Int64.maxValue.toInt

instance : Decidable (StaysBelow ps i) :=
  inferInstanceAs (Decidable (∀ j < i, caseNumber ps j ≠ Int64.maxValue.toInt))

/-- The given number of a constant is what its word stands for. -/
theorem given?_of_integer {word : Int64} (hi : ps[i]? = some p) (hp : integer? p = some word) :
    given? ps i = some word.toInt := by
  rw [given?, hi, Option.bind_some, hp, Option.map_some]

theorem given?_of_integer_none (hi : ps[i]? = some p) (hp : integer? p = none) :
    given? ps i = none := by
  rw [given?, hi, Option.bind_some, hp, Option.map_none]

/-- A given number is that of its constant. -/
theorem caseNumber_of_given (h : given? ps i = some n) : caseNumber ps i = n := by
  cases i <;> rw [caseNumber, h, Option.getD_some]

/-- Without a given number it is one past that of the constant before. -/
theorem caseNumber_succ_of_none (h : given? ps (i + 1) = none) :
    caseNumber ps (i + 1) = caseNumber ps i + 1 := by
  rw [caseNumber, h, Option.getD_none]

/-- A number that is not fixed comes after the one before it. -/
theorem caseNumber_succ_of_not_isFixed (h : ¬ IsFixed ps (i + 1)) :
    caseNumber ps (i + 1) = caseNumber ps i + 1 :=
  caseNumber_succ_of_none (Option.not_isSome_iff_eq_none.1 (not_or.1 h).2)

/-! ## Counting in words -/

/-- The count goes on after the word of a constant or after the count so far. -/
theorem nextInteger_concat (ps : List Property) (p : Property) :
    nextInteger (ps ++ [p]) = (integer? p).getD (nextInteger ps) + 1 := by
  rw [nextInteger, List.foldl_append]
  rfl

theorem nextInteger_take_succ (h : ps[i]? = some p) :
    nextInteger (ps.take (i + 1)) = (integer? p).getD (nextInteger (ps.take i)) + 1 := by
  rw [List.take_add_one, h, Option.toList_some, nextInteger_concat]

/-- The count meets at each constant the word for its number, whatever has wrapped before. -/
theorem getD_nextInteger (hi : ps[i]? = some p) :
    (integer? p).getD (nextInteger (ps.take i)) = .ofInt (caseNumber ps i) := by
  induction i generalizing p with
  | zero =>
    cases hp : integer? p with
    | some word =>
      rw [caseNumber_of_given (given?_of_integer hi hp), Int64.ofInt_toInt, Option.getD_some]
    | none =>
      rw [caseNumber, given?_of_integer_none hi hp]
      rfl
  | succ i ih =>
    cases hp : integer? p with
    | some word =>
      rw [caseNumber_of_given (given?_of_integer hi hp), Int64.ofInt_toInt, Option.getD_some]
    | none =>
      obtain ⟨hlt, -⟩ := List.getElem?_eq_some_iff.1 hi
      have hbefore : ps[i]? = some ps[i] := List.getElem?_eq_getElem (Nat.lt_of_succ_lt hlt)
      rw [Option.getD_none, nextInteger_take_succ hbefore, ih hbefore,
        caseNumber_succ_of_none (given?_of_integer_none hi hp), Int64.ofInt_add]
      rfl

/-- The word for a constant is that of its number. -/
theorem integerAt_eq (h : i < ps.length) : integerAt ps i = .ofInt (caseNumber ps i) := by
  have hi : ps[i]? = some ps[i] := List.getElem?_eq_getElem h
  rw [integerAt, nextInteger_take_succ hi, getD_nextInteger hi]
  exact Int64.add_sub_cancel _ 1

/-! ## Checked sums -/

/-- The sum of two words, if it fits. -/
def sum? (a b : Int64) : Option Int64 :=
  if FitsInt64 (a.toInt + b.toInt) then some (a + b) else none

/-- One past the last of some constants, if all sums fit. -/
def nextInteger? (ps : List Property) : Option Int64 :=
  ps.foldlM (fun next p => sum? ((integer? p).getD next) 1) 0

/-- The integer of the constant at a place, if all sums fit. -/
def integerAt? (ps : List Property) (index : Nat) : Option Int64 :=
  (nextInteger? (ps.take (index + 1))).bind (sum? · (-1))

/-- The checked count does the same, unless it has stopped. -/
theorem nextInteger?_take_succ (h : ps[i]? = some p) : nextInteger? (ps.take (i + 1)) =
    (nextInteger? (ps.take i)).bind fun next => sum? ((integer? p).getD next) 1 := by
  rw [List.take_add_one, h, Option.toList_some, nextInteger?, List.foldlM_append]
  simp only [List.foldlM_cons, List.foldlM_nil, bind_pure]
  rfl

/-- The number after one below the greatest fits. -/
theorem fits_succ (hn : FitsInt64 n) (hne : n ≠ Int64.maxValue.toInt) : FitsInt64 (n + 1) := by
  have hgreatest : Int64.maxValue.toInt = int64Limit - 1 := rfl
  unfold FitsInt64 at hn ⊢
  omega

/-- Only the greatest word has none after it. -/
theorem sum?_one (hn : FitsInt64 n) : sum? (.ofInt n) 1 =
    if n = Int64.maxValue.toInt then none else some (.ofInt n + 1) := by
  have hone : (1 : Int64).toInt = 1 := rfl
  rw [sum?, toInt_ofInt_of_fits hn, hone]
  by_cases hgreatest : n = Int64.maxValue.toInt
  · rw [if_pos hgreatest, if_neg (by rw [hgreatest]; decide)]
  · rw [if_neg hgreatest, if_pos (fits_succ hn hgreatest)]

/-- A given number fits. -/
theorem fits_of_given (h : given? ps i = some n) : FitsInt64 n := by
  obtain ⟨word, -, rfl⟩ := Option.map_eq_some_iff.1 h
  exact fitsInt64_toInt word

/-- The numbers fit up to the first that is the greatest. -/
theorem fits_caseNumber (h : StaysBelow ps i) : FitsInt64 (caseNumber ps i) := by
  induction i with
  | zero =>
    cases hgiven : given? ps 0 with
    | some n =>
      rw [caseNumber_of_given hgiven]
      exact fits_of_given hgiven
    | none =>
      rw [caseNumber, hgiven]
      decide
  | succ i ih =>
    cases hgiven : given? ps (i + 1) with
    | some n =>
      rw [caseNumber_of_given hgiven]
      exact fits_of_given hgiven
    | none =>
      obtain ⟨hbefore, hlast⟩ := Nat.forall_lt_succ_right.1 h
      rw [caseNumber_succ_of_none hgiven]
      exact fits_succ (ih hbefore) hlast

/-- The checked count goes past all constants before a place, or stops at one of them that has the
greatest number. -/
theorem nextInteger?_take (h : i ≤ ps.length) : nextInteger? (ps.take i) =
    if StaysBelow ps i then some (nextInteger (ps.take i)) else none := by
  induction i with
  | zero => exact (if_pos nofun).symm
  | succ i ih =>
    have hi : ps[i]? = some ps[i] := List.getElem?_eq_getElem h
    have hbelow : StaysBelow ps (i + 1) ↔
        StaysBelow ps i ∧ caseNumber ps i ≠ Int64.maxValue.toInt := Nat.forall_lt_succ_right
    rw [nextInteger?_take_succ hi, ih (Nat.le_of_succ_le h), nextInteger_take_succ hi,
      getD_nextInteger hi]
    by_cases hbefore : StaysBelow ps i
    · rw [if_pos hbefore, Option.bind_some, getD_nextInteger hi, sum?_one (fits_caseNumber hbefore)]
      by_cases hgreatest : caseNumber ps i = Int64.maxValue.toInt
      · rw [if_pos hgreatest, if_neg fun h => (hbelow.1 h).2 hgreatest]
      · rw [if_neg hgreatest, if_pos (hbelow.2 ⟨hbefore, hgreatest⟩)]
    · rw [if_neg hbefore, if_neg (mt (fun h => (hbelow.1 h).1) hbefore), Option.bind_none]

/-- A checked count gives the same as one that wraps around, unless a constant up to that place has
the greatest number. -/
theorem integerAt?_eq (h : i < ps.length) :
    integerAt? ps i = if StaysBelow ps (i + 1) then some (integerAt ps i) else none := by
  have hi : ps[i]? = some ps[i] := List.getElem?_eq_getElem h
  rw [integerAt?, nextInteger?_take h, nextInteger_take_succ hi, getD_nextInteger hi,
    integerAt_eq h]
  split
  next hbelow =>
    obtain ⟨hbefore, hlast⟩ := Nat.forall_lt_succ_right.1 hbelow
    have hfits := fits_caseNumber hbefore
    have hnext : (Int64.ofInt (caseNumber ps i) + 1).toInt = caseNumber ps i + 1 := by
      rw [← toInt_ofInt_of_fits (fits_succ hfits hlast), Int64.ofInt_add]
      rfl
    have hminus : (-1 : Int64).toInt = -1 := rfl
    have hback : Int64.ofInt (caseNumber ps i) + 1 + -1 = .ofInt (caseNumber ps i) := by
      rw [← Int64.sub_eq_add_neg]
      exact Int64.add_sub_cancel _ 1
    rw [Option.bind_some, sum?, hnext, hminus, Int.add_neg_cancel_right, if_pos hfits, hback]
  next => exact Option.bind_none _

/-- A count that has wrapped around takes the next given number, and a checked one has stopped. -/
example :
    let ps : List Property := [{ name := "LAST", initial := some "9223372036854775807" },
      { name := "ONE", initial := some "1" }, { name := "TWO" }]
    integerAt ps 2 = 2 ∧ integerAt? ps 2 = none := by decide

/-! ## What is written -/

/-- Constants whose values are all integers are backed by integers, if there are values. -/
theorem backing_of_integers (hvalue : ∃ p ∈ ps, p.initial.isSome = true)
    (hread : ∀ p ∈ ps, p.initial.isSome = true → (integer? p).isSome = true) :
    Backing.of ps = .integers := by
  obtain ⟨p, hp, hinitial⟩ := hvalue
  have hsome : (ps.filter (·.initial.isSome)).isEmpty = false := by
    rw [List.isEmpty_eq_false_iff_exists_mem]
    exact ⟨p, List.mem_filter.2 ⟨hp, hinitial⟩⟩
  have hall : (ps.filter (·.initial.isSome)).all (fun p => (integer? p).isSome) = true := by
    rw [List.all_eq_true]
    intro q hq
    obtain ⟨hmem, hq⟩ := List.mem_filter.1 hq
    exact hread q hmem hq
  simp only [Backing.of, hsome, hall, Bool.false_eq_true, if_false, if_true]

/-- A constant is written with its number, if the number fits. -/
theorem exists_backingValue? (hbacking : Backing.of ps = .integers)
    (hread : ∀ p ∈ ps, p.initial.isSome = true → (integer? p).isSome = true)
    (hfits : given? ps i = none → FitsInt64 (caseNumber ps i)) (hi : ps[i]? = some p) :
    ∃ value, backingValue? ps p i = some value ∧
      (int64? (trimChars value.toList)).map Int64.toInt = some (caseNumber ps i) := by
  cases hinitial : p.initial with
  | some value =>
    have hsome : (integer? p).isSome = true :=
      hread p (List.mem_of_getElem? hi) (by rw [hinitial]; rfl)
    obtain ⟨word, hword⟩ := Option.isSome_iff_exists.1 hsome
    refine ⟨value, by rw [backingValue?, hbacking, hinitial], ?_⟩
    rw [caseNumber_of_given (given?_of_integer hi hword)]
    rw [integer?, hinitial, Option.bind_some] at hword
    rw [hword, Option.map_some]
  | none =>
    have hnone : integer? p = none := by rw [integer?, hinitial, Option.bind_none]
    obtain ⟨hlt, -⟩ := List.getElem?_eq_some_iff.1 hi
    refine ⟨toString (integerAt ps i), by rw [backingValue?, hbacking, hinitial], ?_⟩
    have hsolid : Solid (toString (integerAt ps i)).toList := solid_toString_int _
    rw [hsolid.trimChars, int64?_toString, Option.map_some, integerAt_eq hlt,
      toInt_ofInt_of_fits (hfits (given?_of_integer_none hi hnone))]

/-! ## Equal numbers -/

/-- Different words are different numbers. -/
theorem given?_ne (hdistinct : (ps.filterMap integer?).Nodup) {m : Int} (hij : i < j)
    (hi : given? ps i = some n) (hj : given? ps j = some m) : n ≠ m := by
  obtain ⟨word, hword, rfl⟩ := Option.map_eq_some_iff.1 hi
  obtain ⟨word', hword', rfl⟩ := Option.map_eq_some_iff.1 hj
  obtain ⟨p, hp, hn⟩ := Option.bind_eq_some_iff.1 hword
  obtain ⟨q, hq, hm⟩ := Option.bind_eq_some_iff.1 hword'
  obtain ⟨hilt, rfl⟩ := List.getElem?_eq_some_iff.1 hp
  obtain ⟨hjlt, rfl⟩ := List.getElem?_eq_some_iff.1 hq
  have hpairs := List.pairwise_iff_getElem.1 (List.pairwise_filterMap.1 hdistinct)
  exact mt Int64.toInt_inj.1 (hpairs i j hilt hjlt hij word hn word' hm)

/-- A fixed number is that of no other place, as far as the counted ones are apart from it. -/
theorem caseNumber_ne_of_isFixed (hdistinct : (ps.filterMap integer?).Nodup)
    (hapart : CountedApart ps) (hij : i < j) (hj : j < ps.length)
    (hfixed : IsFixed ps i ∨ IsFixed ps j) : caseNumber ps i ≠ caseNumber ps j := by
  have hi : i < ps.length := Nat.lt_trans hij hj
  cases hgivenj : given? ps j with
  | none =>
    have hfixedi : IsFixed ps i := by
      refine hfixed.resolve_right fun h => ?_
      rw [IsFixed, hgivenj] at h
      exact h.elim (Nat.ne_zero_of_lt hij) nofun
    exact fun heq => Nat.ne_of_gt hij (hapart j hj i hi hgivenj hfixedi heq.symm)
  | some m =>
    cases hgiveni : given? ps i with
    | none =>
      have hfixedj : IsFixed ps j := .inr (by rw [hgivenj]; rfl)
      exact fun heq => Nat.ne_of_lt hij (hapart i hi j hj hgiveni hfixedj heq)
    | some n =>
      rw [caseNumber_of_given hgiveni, caseNumber_of_given hgivenj]
      exact given?_ne hdistinct hij hgiveni hgivenj

/-- If the given numbers are different and no counted one is a fixed one, all are different. The
proof goes back from both places to the first one whose number is fixed. -/
theorem caseNumber_ne (hdistinct : (ps.filterMap integer?).Nodup) (hapart : CountedApart ps)
    (hij : i < j) (hj : j < ps.length) : caseNumber ps i ≠ caseNumber ps j := by
  induction i generalizing j with
  | zero => exact caseNumber_ne_of_isFixed hdistinct hapart hij hj (.inl (.inl rfl))
  | succ i ih =>
    by_cases hfixed : IsFixed ps (i + 1) ∨ IsFixed ps j
    · exact caseNumber_ne_of_isFixed hdistinct hapart hij hj hfixed
    · obtain ⟨hcounted, hcounted'⟩ := not_or.1 hfixed
      obtain ⟨j, rfl⟩ := Nat.exists_eq_succ_of_ne_zero (Nat.ne_zero_of_lt hij)
      rw [caseNumber_succ_of_not_isFixed hcounted, caseNumber_succ_of_not_isFixed hcounted']
      have hbefore := ih (Nat.lt_of_succ_lt_succ hij) (Nat.lt_of_succ_lt hj)
      exact fun heq => hbefore (by omega)

/-- All numbers are different exactly if no counted one is a fixed one. -/
theorem nodup_caseNumbers (hdistinct : (ps.filterMap integer?).Nodup) :
    (caseNumbers ps).Nodup ↔ CountedApart ps := by
  rw [caseNumbers, List.nodup_map_iff_inj_on List.nodup_range]
  constructor
  · intro hinj i hi j hj _ _ heq
    exact hinj i (List.mem_range.2 hi) j (List.mem_range.2 hj) heq
  · intro hapart i hi j hj heq
    rcases Nat.lt_trichotomy i j with hij | hij | hij
    · exact absurd heq (caseNumber_ne hdistinct hapart hij (List.mem_range.1 hj))
    · exact hij
    · exact absurd heq.symm (caseNumber_ne hdistinct hapart hij (List.mem_range.1 hi))

/-! ## Enumerations -/

/-- A text declares a constant with a number as its value. -/
def DeclaresCase (name : String) (n : Int) (text : String) : Prop :=
  ∃ value, text = line 1 ("case " ++ name ++ (" = " ++ value) ++ ";") ∧
    (int64? (trimChars value.toList)).map Int64.toInt = some n

/-- Let some constants of an enumeration have values, all of them different numbers, and let the
numbers that are counted fit.  Then the enumeration is backed by integers, and every constant is
declared with its number.  The count for a constant is the same with checked sums, unless a
constant up to it has the greatest number; then it stops.  The numbers are different exactly if no
constant without a value has the number of one with a value or of the first one. -/
theorem caseNumbers_nodup_iff (hkind : x.kind = .enumeration)
    (hvalue : ∃ p ∈ x.properties, p.initial.isSome = true)
    (hread : ∀ p ∈ x.properties, p.initial.isSome = true → (integer? p).isSome = true)
    (hdistinct : (x.properties.filterMap integer?).Nodup)
    (hfits : ∀ i < x.properties.length, given? x.properties i = none →
      FitsInt64 (caseNumber x.properties i)) :
    declaration x = "enum " ++ x.name ++ ": int" ∧
      (∀ i p, x.properties[i]? = some p → ∃ text, (php.propertyTexts x)[i]? = some text ∧
        DeclaresCase p.name (caseNumber x.properties i) text) ∧
      (∀ i < x.properties.length, integerAt? x.properties i =
        if ∀ j ≤ i, caseNumber x.properties j ≠ Int64.maxValue.toInt then
          some (integerAt x.properties i)
        else none) ∧
      ((caseNumbers x.properties).Nodup ↔ CountedApart x.properties) := by
  have hbacking := backing_of_integers hvalue hread
  refine ⟨?_, fun i p hi => ?_, fun i hi => ?_, nodup_caseNumbers hdistinct⟩
  · simp only [declaration, hkind, hbacking]
  · obtain ⟨hlt, -⟩ := List.getElem?_eq_some_iff.1 hi
    obtain ⟨value, hwritten, hnumber⟩ := exists_backingValue? hbacking hread (hfits i hlt) hi
    refine ⟨constant x p i, ?_, value, by rw [constant, hwritten, assigned], hnumber⟩
    rw [Emitter.propertyTexts, if_pos hkind, List.getElem?_mapIdx, hi]
    rfl
  · have hbelow : StaysBelow x.properties (i + 1) ↔
        ∀ j ≤ i, caseNumber x.properties j ≠ Int64.maxValue.toInt :=
      forall_congr' fun j => imp_congr_left Nat.lt_succ_iff
    rw [integerAt?_eq hi, if_congr hbelow rfl rfl]

/-- A level of which the middle is counted. -/
def level (high : String) : Entity where
  name := "Level"
  kind := .enumeration
  properties := .ofList [(0, { name := "OFF" }), (1, { name := "LOW", initial := some "4" }),
    (2, { name := "MID" }), (3, { name := "HIGH", initial := some high })]

/-- The level, in a file for itself. -/
def levelContext (high : String) : Context := .of {} (level high) {} php.name

/-- The middle is one past 4, which is as high as one says and not as the other does. -/
theorem caseNumbers_nodup_iff_level :
    (caseNumbers (levelContext "+2").properties).Nodup ∧
      ¬ (caseNumbers (levelContext "5").properties).Nodup := by
  obtain ⟨-, -, -, happart⟩ := caseNumbers_nodup_iff (x := levelContext "+2") rfl (by decide)
    (by decide) (by decide) (by decide)
  obtain ⟨-, -, -, hequal⟩ := caseNumbers_nodup_iff (x := levelContext "5") rfl (by decide)
    (by decide) (by decide) (by decide)
  exact ⟨happart.2 (by decide), mt hequal.1 (by decide)⟩

/-- Two constants can be written with one value, though all given numbers are different. -/
theorem not_caseNumbers_nodup : ¬ ∀ x : Context, x.kind = .enumeration →
    (∃ p ∈ x.properties, p.initial.isSome = true) →
    (∀ p ∈ x.properties, p.initial.isSome = true → (integer? p).isSome = true) →
    (x.properties.filterMap integer?).Nodup →
    (∀ i < x.properties.length, given? x.properties i = none →
      FitsInt64 (caseNumber x.properties i)) →
    (x.properties.mapIdx fun i p => backingValue? x.properties p i).Nodup := by
  intro hall
  have hnodup := hall (levelContext "5") rfl (by decide) (by decide) (by decide) (by decide)
  revert hnodup
  decide

end ClassDiagram.Emit.Php
