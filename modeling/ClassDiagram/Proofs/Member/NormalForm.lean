import ClassDiagram.Proofs.Member.Token

/-!
# The normal form of constraints

Constraints are made of sayings, and `Constraints.sayings` lists those that make
them up, in the order of the normal form.  The list is unfolded to the constraints
it was taken from (`foldl_sayings`), provided that a foreign key with a target is
raised as a flag.

Constraints read from a block are *normal*: besides that, everything they say can
be written.  `Normal.apply` shows this for one more saying.  Then the tokens of the
normal form are read back, each of them and the block as a whole
(`blockTokens?_tokens`, `ofTokens_tokens`).
-/

namespace ClassDiagram

open Text

/-! ## Flags one by one -/

namespace Flag

/-- The flags that do not stand for a foreign key, in the order of the normal form. -/
def plain : List Flag :=
  [isStatic, isAbstract, isVirtual, isFinal, required, unique, primary, identity, generated, lob]

/-- The flag is raised. -/
def isRaised (c : Constraints) : Flag → Bool
  | isStatic => c.isStatic
  | isAbstract => c.isAbstract
  | isVirtual => c.isVirtual
  | isFinal => c.isFinal
  | required => c.required
  | unique => c.unique
  | primary => c.primary
  | identity => c.identity
  | generated => c.generated
  | lob => c.lob
  | foreign => c.foreign

/-- Raising a flag raises no other one. -/
theorem isRaised_raise (c : Constraints) (f g : Flag) :
    isRaised (c.raise f) g = (isRaised c g || decide (g = f)) := by
  cases f <;> cases g <;> simp [isRaised, Constraints.raise]

theorem isRaised_foldl_raise (c : Constraints) (fs : List Flag) (g : Flag) :
    isRaised (fs.foldl Constraints.raise c) g = (isRaised c g || decide (g ∈ fs)) := by
  induction fs generalizing c with
  | nil => simp
  | cons f fs ih => simp [ih, isRaised_raise, Bool.or_assoc]

end Flag

namespace Constraints

open Saying

/-- All that the constraints hold besides flags. -/
def values (c : Constraints) :
    Option String × Option UInt32 × Option (UInt32 × UInt32) × Option String × SortedSet :=
  (c.foreignTarget, c.length, c.size, c.format, c.other)

/-- Constraints are settled by their flags and their values. -/
theorem ext_isRaised {c d : Constraints} (flags : ∀ f, Flag.isRaised c f = Flag.isRaised d f)
    (values : c.values = d.values) : c = d := by
  cases c
  cases d
  cases values
  cases flags .isStatic
  cases flags .isAbstract
  cases flags .isVirtual
  cases flags .isFinal
  cases flags .required
  cases flags .unique
  cases flags .primary
  cases flags .identity
  cases flags .generated
  cases flags .lob
  cases flags .foreign
  rfl

/-- Flags have no values. -/
theorem values_foldl_raise (c : Constraints) (fs : List Flag) :
    (fs.foldl raise c).values = c.values := by
  induction fs generalizing c with
  | nil => rfl
  | cons f fs ih =>
    rw [List.foldl_cons, ih]
    cases f <;> rfl

/-! ## The sayings of constraints -/

/-- What the flags say. -/
def flagSayings (c : Constraints) : List Saying :=
  (Flag.plain.filter (Flag.isRaised c)).map .flag

/-- What the foreign key says. -/
def foreignSayings (c : Constraints) : List Saying :=
  if c.foreign then
    match c.foreignTarget with
    | some target => [.foreign target]
    | none => [.flag .foreign]
  else []

/-- All that the constraints say, in the order of the normal form. -/
def sayings (c : Constraints) : List Saying :=
  c.flagSayings ++ c.foreignSayings ++ c.length.toList.map .length ++ c.size.toList.map .size
    ++ c.format.toList.map .format ++ c.other.toList.map .unknown

/-- The tokens that are printed are the texts of what the constraints say. -/
theorem tokens_eq_map_text (c : Constraints) : c.tokens = c.sayings.map Saying.text := by
  have hflags : (c.flags.filter (·.2)).map (·.1) = c.flagSayings.map Saying.text := by
    have hplain : c.flags = Flag.plain.map fun f => (f.name, f.isRaised c) := rfl
    rw [hplain, flagSayings, List.filter_map, List.map_map, List.map_map]
    rfl
  have hforeign : c.foreignToken = c.foreignSayings.map Saying.text := by
    rw [foreignToken, foreignSayings]
    split
    next => cases c.foreignTarget <;> rfl
    next => rfl
  have hother : c.other.toList = (c.other.toList.map unknown).map Saying.text := by
    rw [List.map_map]
    exact (List.map_id _).symm
  rw [tokens, hflags, hforeign, hother, lengthToken, sizeToken, formatToken, sayings]
  simp only [List.map_append, List.map_map]
  rfl

/-- The flags are raised one after the other. -/
theorem foldl_flagSayings (c : Constraints) : c.flagSayings.foldl apply {} =
    { c with foreign := false, foreignTarget := none, length := none, size := none,
             format := none, other := ∅ } := by
  have hfold : c.flagSayings.foldl apply {}
      = (Flag.plain.filter (Flag.isRaised c)).foldl raise {} := by
    rw [flagSayings, List.foldl_map]
    rfl
  rw [hfold]
  refine ext_isRaised (fun f => ?_) (values_foldl_raise _ _)
  rw [Flag.isRaised_foldl_raise]
  cases f <;> simp [Flag.plain, Flag.isRaised]

/-- What is said of a reference says it again. -/
theorem foldl_foreignSayings (c s : Constraints)
    (h : ∀ target, c.foreignTarget = some target → c.foreign = true) (hforeign : s.foreign = false)
    (htarget : s.foreignTarget = none) : c.foreignSayings.foldl apply s =
      { s with foreign := c.foreign, foreignTarget := c.foreignTarget } := by
  cases s
  cases hforeign
  cases htarget
  rw [foreignSayings]
  cases hc : c.foreign with
  | false =>
    cases ht : c.foreignTarget with
    | none => rfl
    | some target =>
      rw [h target ht] at hc
      cases hc
  | true => cases c.foreignTarget <;> rfl

/-- Unknown tokens are collected. -/
theorem foldl_unknown (m : SortedSet) (s : Constraints) (h : s.other = ∅) :
    (m.toList.map unknown).foldl apply s = { s with other := m } := by
  have hfold : ∀ (l : List String) (s : Constraints),
      (l.map unknown).foldl apply s = { s with other := l.foldl SortedSet.insert s.other } := by
    intro l
    induction l with
    | nil => exact fun _ => rfl
    | cons t l ih => exact fun s => ih _
  rw [hfold, h, SortedSet.foldl_insert_toList]

/-- Constraints are made up of what they say. -/
theorem foldl_sayings (c : Constraints)
    (h : ∀ target, c.foreignTarget = some target → c.foreign = true) :
    c.sayings.foldl apply {} = c := by
  have hlength : ∀ s : Constraints, s.length = none →
      (c.length.toList.map Saying.length).foldl apply s = { s with length := c.length } := by
    intro s hs
    cases s
    cases hs
    cases c.length <;> rfl
  have hsize : ∀ s : Constraints, s.size = none →
      (c.size.toList.map Saying.size).foldl apply s = { s with size := c.size } := by
    intro s hs
    cases s
    cases hs
    cases c.size <;> rfl
  have hformat : ∀ s : Constraints, s.format = none →
      (c.format.toList.map Saying.format).foldl apply s = { s with format := c.format } := by
    intro s hs
    cases s
    cases hs
    cases c.format <;> rfl
  simp only [sayings, List.foldl_append]
  rw [foldl_flagSayings, foldl_foreignSayings c _ h rfl rfl, hlength _ rfl, hsize _ rfl,
    hformat _ rfl, foldl_unknown _ _ rfl]

/-! ## Constraints read from a block -/

/-- The constraints are as those read from a block: a target makes a foreign key, and all that
they say can be written. -/
structure Normal (c : Constraints) : Prop where
  foreign : ∀ target, c.foreignTarget = some target → c.foreign = true
  target : ∀ target, c.foreignTarget = some target → (Saying.foreign target).Readable
  format : ∀ f, c.format = some f → (Saying.format f).Readable
  other : ∀ raw ∈ c.other, (Saying.unknown raw).Readable

theorem normal_empty : Normal {} where
  foreign := nofun
  target := nofun
  format := nofun
  other := nofun

/-- One more thing said keeps the constraints normal. -/
theorem Normal.apply {c : Constraints} (h : c.Normal) {s : Saying} (hs : s.Readable) :
    (s.apply c).Normal := by
  cases s with
  | nothing => exact h
  | flag f =>
    have hvalues : (c.raise f).values = c.values := values_foldl_raise c [f]
    simp only [values, Prod.mk.injEq] at hvalues
    obtain ⟨htarget, -, -, hformat, hother⟩ := hvalues
    refine ⟨fun target ht => ?_, ?_, ?_, ?_⟩
    · have hforeign : Flag.isRaised c .foreign = true := h.foreign target (htarget ▸ ht)
      have hraised := Flag.isRaised_raise c f .foreign
      rwa [hforeign, Bool.true_or] at hraised
    · exact fun target ht => h.target target (htarget ▸ ht)
    · exact fun f hf => h.format f (hformat ▸ hf)
    · exact fun raw hraw => h.other raw (hother ▸ hraw)
  | foreign target =>
    refine ⟨fun _ _ => rfl, fun t ht => ?_, h.format, h.other⟩
    cases ht
    exact hs
  | length n => exact ⟨h.foreign, h.target, h.format, h.other⟩
  | size n => exact ⟨h.foreign, h.target, h.format, h.other⟩
  | format f =>
    refine ⟨h.foreign, h.target, fun t ht => ?_, h.other⟩
    cases ht
    exact hs
  | unknown raw =>
    refine ⟨h.foreign, h.target, h.format, fun t ht => ?_⟩
    cases SortedSet.mem_insert.1 ht with
    | inl he => exact he ▸ hs
    | inr hmem => exact h.other t hmem

/-- What a block says is normal. -/
theorem normal_ofTokens {tokens : List (List Char)}
    (h : ∀ token ∈ tokens, ∀ c ∈ token, c ∉ blockMarks) : (ofTokens tokens).Normal := by
  rw [ofTokens_eq_foldl]
  have hfold : ∀ (sayings : List Saying) (c : Constraints), (∀ s ∈ sayings, s.Readable) →
      c.Normal → (sayings.foldl Saying.apply c).Normal := by
    intro sayings
    induction sayings with
    | nil => exact fun c _ hc => hc
    | cons s sayings ih =>
      intro c hs hc
      obtain ⟨hhead, htail⟩ := List.forall_mem_cons.1 hs
      exact ih _ htail (hc.apply hhead)
  refine hfold _ _ (fun s hs => ?_) normal_empty
  obtain ⟨token, htoken, rfl⟩ := List.mem_map.1 hs
  exact readable_of (h token htoken)

/-- All that normal constraints say can be read, and says something. -/
theorem Normal.readable_of_mem {c : Constraints} (h : c.Normal) {s : Saying}
    (hs : s ∈ c.sayings) : s.Readable ∧ s ≠ nothing := by
  simp only [sayings, List.mem_append, List.mem_map, Option.mem_toList] at hs
  rcases hs with ((((hs | hs) | hs) | hs) | hs) | hs
  · obtain ⟨f, -, rfl⟩ := List.mem_map.1 hs
    exact ⟨trivial, nofun⟩
  · rw [foreignSayings] at hs
    split at hs
    next =>
      cases ht : c.foreignTarget with
      | none =>
        rw [ht] at hs
        cases List.mem_singleton.1 hs
        exact ⟨trivial, nofun⟩
      | some target =>
        rw [ht] at hs
        cases List.mem_singleton.1 hs
        exact ⟨h.target target ht, nofun⟩
    next => cases hs
  · obtain ⟨n, -, rfl⟩ := hs
    exact ⟨trivial, nofun⟩
  · obtain ⟨n, -, rfl⟩ := hs
    exact ⟨trivial, nofun⟩
  · obtain ⟨f, hf, rfl⟩ := hs
    exact ⟨h.format f hf, nofun⟩
  · obtain ⟨raw, hraw, rfl⟩ := hs
    exact ⟨h.other raw hraw, nofun⟩

/-! ## Reading the normal form -/

/-- The tokens of the normal form can stand in a block. -/
theorem Normal.isItem_tokens {c : Constraints} (h : c.Normal) :
    ∀ token ∈ c.tokens, IsItem blockMarks token.toList := by
  intro token htoken
  rw [tokens_eq_map_text] at htoken
  obtain ⟨s, hs, rfl⟩ := List.mem_map.1 htoken
  obtain ⟨hreadable, hne⟩ := h.readable_of_mem hs
  exact isItem_text hreadable hne

/-- The tokens of the normal form say what they were written for. -/
theorem Normal.ofTokens_tokens {c : Constraints} (h : c.Normal) :
    ofTokens (c.tokens.map String.toList) = c := by
  have hsayings : ((c.tokens.map String.toList).map Saying.of) = c.sayings := by
    rw [tokens_eq_map_text, List.map_map, List.map_map]
    refine (List.map_congr_left fun s hs => ?_).trans (List.map_id _)
    exact of_text (h.readable_of_mem hs).1
  rw [ofTokens_eq_foldl, hsayings, foldl_sayings c h.foreign]

/-- The inside of the normal form is read as its tokens. -/
theorem Normal.blockTokens?_tokens {c : Constraints} (h : c.Normal) :
    blockTokens? (", ".intercalate c.tokens).toList = some (c.tokens.map String.toList) := by
  rw [String.toList_intercalate]
  refine items_intercalate (by decide) (by decide) fun token htoken => ?_
  obtain ⟨t, ht, rfl⟩ := List.mem_map.1 htoken
  exact h.isItem_tokens t ht

end Constraints

end ClassDiagram
