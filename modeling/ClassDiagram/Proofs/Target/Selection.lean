import Mathlib.Data.List.Forall2
import ClassDiagram.Distinct
import ClassDiagram.Proofs.Recognition.ClassBox
import ClassDiagram.Target

/-!
# The selection of backends

A spelling can be refused for two reasons: it stands for no target, or for the schema
while the options name a dialect that there is none of.  A list of spellings is refused
for the first of its spellings that is (`select_of_refusal?`).  Otherwise each of the
targets that it stands for gets its backend, in the order in which they are first
mentioned, whatever the spelling (`exists_select`).
-/

namespace ClassDiagram

variable {o : Options} {t : Target} {b : Emit.Backend} {spelling : String}
  {spellings : List String} {cause : SelectionError}

/-- Why a spelling is refused, if it is. -/
def refusal? (o : Options) (spelling : String) : Option SelectionError :=
  match Target.ofSpelling? spelling with
  | none => some (.target spelling)
  | some .sql =>
      if (Schema.dialect? (o.dialectFor "sql")).isNone then some (.dialect (o.dialectFor "sql"))
      else none
  | some _ => none

/-- The targets that some spellings stand for, each where it is first mentioned. -/
def mentioned (spellings : List String) : List Target :=
  firsts (spellings.filterMap Target.ofSpelling?)

/-! ## One spelling -/

/-- A target is found by its own name. -/
theorem Target.ofSpelling?_name (t : Target) : ofSpelling? t.name = some t := by
  cases t <;> decide

theorem Target.name_injective : Function.Injective Target.name := by
  intro t t' h
  have hspelling := congrArg ofSpelling? h
  rw [ofSpelling?_name, ofSpelling?_name] at hspelling
  exact Option.some.inj hspelling

theorem Target.name_of_backend (h : t.backend o = .ok b) : b.name = t.name := by
  cases t with
  | sql =>
    rw [Target.backend, schemaBackend] at h
    split at h
    next =>
      cases h
      rfl
    next => cases h
  | _ =>
    cases h
    rfl

theorem backendFor_of_refusal? (h : refusal? o spelling = some cause) :
    backendFor o spelling = .error cause := by
  rw [refusal?] at h
  rw [backendFor]
  split at h
  next htarget =>
    rw [htarget, ← Option.some.inj h]
  next htarget =>
    split at h
    next hdialect =>
      rw [htarget, ← Option.some.inj h]
      show schemaBackend o = _
      rw [schemaBackend]
      simp only [Target.name, Option.isNone_iff_eq_none.1 hdialect]
    next => cases h
  next => cases h

/-- A spelling that is not refused has a backend. -/
theorem exists_backendFor (h : refusal? o spelling = none) :
    ∃ t b, Target.ofSpelling? spelling = some t ∧ t.backend o = .ok b ∧
      backendFor o spelling = .ok b := by
  have hbackend : ∀ t, Target.ofSpelling? spelling = some t → ∃ b, t.backend o = .ok b := by
    intro t ht
    cases t with
    | sql =>
      rw [refusal?, ht] at h
      cases hdialect : Schema.dialect? (o.dialectFor "sql") with
      | none => simp [hdialect] at h
      | some d =>
        refine ⟨Schema.backend d, ?_⟩
        show schemaBackend o = _
        rw [schemaBackend]
        simp only [Target.name, hdialect]
    | _ => exact ⟨_, rfl⟩
  cases ht : Target.ofSpelling? spelling with
  | none =>
    rw [refusal?, ht] at h
    cases h
  | some t =>
    obtain ⟨b, hb⟩ := hbackend t ht
    exact ⟨t, b, rfl, hb, by rw [backendFor, ht]; exact hb⟩

/-! ## Lists of spellings -/

section

variable {α β ε : Type} {f : α → Except ε β} {refused? : α → Option ε} {l : List α}

/-- What is done to each element fails for the first element that is refused. -/
theorem mapM_of_findSome? (herror : ∀ a e, refused? a = some e → f a = .error e)
    (hok : ∀ a, refused? a = none → ∃ b, f a = .ok b) {e : ε} (h : l.findSome? refused? = some e) :
    l.mapM f = .error e := by
  induction l with
  | nil => cases h
  | cons a l ih =>
    rw [List.mapM_cons]
    rw [List.findSome?_cons] at h
    cases ha : refused? a with
    | some e' =>
      rw [ha] at h
      cases h
      rw [herror a e ha]
      rfl
    | none =>
      rw [ha] at h
      obtain ⟨b, hb⟩ := hok a ha
      rw [hb, ih h]
      rfl

theorem exists_mapM (hok : ∀ a ∈ l, ∃ b, f a = .ok b) : ∃ r, l.mapM f = .ok r := by
  induction l with
  | nil => exact ⟨[], rfl⟩
  | cons a l ih =>
    obtain ⟨hhead, htail⟩ := List.forall_mem_cons.1 hok
    obtain ⟨b, hb⟩ := hhead
    obtain ⟨r, hr⟩ := ih htail
    refine ⟨b :: r, ?_⟩
    rw [List.mapM_cons, hb, hr]
    rfl

end

/-- What comes first in one of two lists corresponds to what comes first in the other. -/
theorem forall₂_firstsByFrom {α β κ κ' : Type} [DecidableEq κ] [DecidableEq κ'] {R : α → β → Prop}
    {key : α → κ} {key' : β → κ'} {g : κ → κ'} (hg : Function.Injective g)
    (hkey : ∀ a b, R a b → key' b = g (key a)) {l : List α} {r : List β}
    (h : List.Forall₂ R l r) (seen : List κ) :
    List.Forall₂ R (firstsByFrom key seen l) (firstsByFrom key' (seen.map g) r) := by
  induction h generalizing seen with
  | nil => exact .nil
  | @cons a b l r hab _ ih =>
    have hseen : key' b ∈ seen.map g ↔ key a ∈ seen := by
      rw [hkey a b hab, List.mem_map_of_injective hg]
    rw [firstsByFrom, firstsByFrom]
    by_cases ha : key a ∈ seen
    · rw [if_pos ha, if_pos (hseen.2 ha)]
      exact ih seen
    · rw [if_neg ha, if_neg (mt hseen.1 ha), hkey a b hab]
      exact .cons hab (ih (key a :: seen))

/-- Spellings are refused for the first of them that is. -/
theorem select_of_refusal? (h : spellings.findSome? (refusal? o) = some cause) :
    select o spellings = .error cause := by
  have hok : ∀ s, refusal? o s = none → ∃ b, backendFor o s = .ok b := by
    intro s hs
    obtain ⟨t, b, -, -, hb⟩ := exists_backendFor hs
    exact ⟨b, hb⟩
  rw [select, mapM_of_findSome? (fun _ _ => backendFor_of_refusal?) hok h]
  rfl

/-- Backends that spellings have are those of the targets that they stand for. -/
theorem forall₂_targets {backends : List Emit.Backend}
    (hnone : ∀ s ∈ spellings, refusal? o s = none)
    (h : List.Forall₂ (fun s b => backendFor o s = .ok b) spellings backends) :
    List.Forall₂ (fun t b => Target.backend o t = .ok b)
      (spellings.filterMap Target.ofSpelling?) backends := by
  induction h with
  | nil => exact .nil
  | @cons s b spellings backends hb _ ih =>
    obtain ⟨hs, hrest⟩ := List.forall_mem_cons.1 hnone
    obtain ⟨t, b', ht, hb', hfor⟩ := exists_backendFor hs
    rw [List.filterMap_cons_some ht]
    cases hb.symm.trans hfor
    exact .cons hb' (ih hrest)

/-- Spellings that are not refused have the backends of the targets that they stand for. -/
theorem exists_select (h : spellings.findSome? (refusal? o) = none) :
    ∃ backends, select o spellings = .ok backends ∧
      List.Forall₂ (fun t b => Target.backend o t = .ok b) (mentioned spellings) backends := by
  have hnone := List.findSome?_eq_none_iff.1 h
  have hok : ∀ s ∈ spellings, ∃ b, backendFor o s = .ok b := by
    intro s hs
    obtain ⟨t, b, -, -, hb⟩ := exists_backendFor (hnone s hs)
    exact ⟨b, hb⟩
  obtain ⟨backends, hbackends⟩ := exists_mapM hok
  have htargets := forall₂_targets hnone (forall₂_of_mapM hbackends)
  refine ⟨firstsBy Emit.Backend.name backends, by rw [select, hbackends]; rfl, ?_⟩
  have hname : ∀ t b, Target.backend o t = .ok b → b.name = t.name := fun _ _ h =>
    Target.name_of_backend h
  exact forall₂_firstsByFrom Target.name_injective hname htargets []

end ClassDiagram
