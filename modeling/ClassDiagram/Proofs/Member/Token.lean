import ClassDiagram.Member.Annotation
import ClassDiagram.Proofs.Text.Numeral
import ClassDiagram.Proofs.Text.Split

/-!
# What a token says

What a token adds to constraints depends on the token alone.  `Saying.of` reads
it off, and `note_eq_apply` says that taking in a token is to apply what it says.

A saying is written as a token, and that token says the same (`of_text`).  For
this its texts must be able to stand in a block, and a text that means nothing
known must be one.  Whatever a token of a block says is so (`readable_of`).
-/

namespace ClassDiagram

open Text

/-- The characters that no token of a block holds. -/
def blockMarks : List Char := [',', '{', '}']

/-- What one token says. -/
inductive Saying where
  /-- Nothing, since it is blank. -/
  | nothing
  | flag (f : Flag)
  | foreign (target : String)
  | length (n : UInt32)
  | size (s : UInt32 × UInt32)
  | format (f : String)
  /-- A text that means nothing known. -/
  | unknown (raw : String)
deriving DecidableEq

namespace Saying

/-- What the value of a key says, if the key is known and takes it. -/
def assigned? (key : String) (payload : List Char) : Option Saying :=
  if key = "fk" then if payload.isEmpty then none else some (.foreign (.ofList payload))
  else if key = "length" then (word32? payload).map .length
  else if key = "size" then (size? payload).map .size
  else if key = "format" then if payload.isEmpty then none else some (.format (.ofList payload))
  else none

/-- What a token says. -/
def of (token : List Char) : Saying :=
  let raw := trimChars token
  if raw.isEmpty then nothing
  else
    match splitFirst ':' raw with
    | some (key, payload) =>
        (assigned? (toLower (.ofList (trimChars key))) (trimChars payload)).getD
          (unknown (.ofList raw))
    | none =>
        match Flag.ofName? (.ofList raw) with
        | some f => flag f
        | none => unknown (.ofList raw)

/-- The constraints with one more thing said. -/
def apply (c : Constraints) : Saying → Constraints
  | nothing => c
  | flag f => c.raise f
  | foreign target => { c with foreign := true, foreignTarget := some target }
  | length n => { c with length := some n }
  | size s => { c with size := some s }
  | format f => { c with format := some f }
  | unknown raw => { c with other := c.other.insert raw }

/-- A token with a key and a value says what the key makes of the value. -/
theorem assign?_eq_map (c : Constraints) (key : String) (payload : List Char) :
    c.assign? key payload = (assigned? key payload).map (apply c) := by
  rw [Constraints.assign?, assigned?]
  split
  next => split <;> rfl
  next =>
    split
    next => rw [Option.map_map]; rfl
    next =>
      split
      next => rw [Option.map_map]; rfl
      next =>
        split
        next => split <;> rfl
        next => rfl

/-- Blanks around a token mean nothing. -/
theorem of_trimChars (token : List Char) : of (trimChars token) = of token := by
  simp only [of, trimChars_trimChars]

/-- To take in a token is to apply what it says. -/
theorem note_eq_apply (c : Constraints) (token : List Char) :
    c.note token = (of token).apply c := by
  simp only [Constraints.note, of]
  split
  next => rfl
  next =>
    cases splitFirst ':' (trimChars token) with
    | none => cases Flag.ofName? (.ofList (trimChars token)) <;> rfl
    | some parts =>
      simp only [assign?_eq_map]
      cases assigned? (toLower (.ofList (trimChars parts.1))) (trimChars parts.2) <;> rfl

/-- Constraints are what the tokens say, one after the other. -/
theorem ofTokens_eq_foldl (tokens : List (List Char)) :
    Constraints.ofTokens tokens = (tokens.map of).foldl apply {} := by
  rw [Constraints.ofTokens, List.foldl_map]
  exact congrArg (List.foldl · {} tokens) (funext fun c => funext (note_eq_apply c))

/-! ## Sayings that can be written -/

/-- The texts of the saying can stand in a block, and a text that means nothing known is one. -/
def Readable : Saying → Prop
  | foreign text | format text => IsItem blockMarks text.toList
  | unknown raw => IsItem blockMarks raw.toList ∧ of raw.toList = unknown raw
  | _ => True

/-- What is said of a readable value can be read. -/
theorem readable_of_assigned? {key : String} {payload : List Char} {s : Saying}
    (h : assigned? key payload = some s)
    (hpayload : payload ≠ [] → IsItem blockMarks payload) : s.Readable := by
  rw [assigned?] at h
  split at h
  next =>
    split at h
    next => cases h
    next hne =>
      cases h
      simpa [Readable] using hpayload (by simpa using hne)
  next =>
    split at h
    next =>
      obtain ⟨n, -, rfl⟩ := Option.map_eq_some_iff.1 h
      trivial
    next =>
      split at h
      next =>
        obtain ⟨n, -, rfl⟩ := Option.map_eq_some_iff.1 h
        trivial
      next =>
        split at h
        next =>
          split at h
          next => cases h
          next hne =>
            cases h
            simpa [Readable] using hpayload (by simpa using hne)
        next => cases h

/-- What a token of a block says can be written. -/
theorem readable_of {token : List Char} (h : ∀ c ∈ token, c ∉ blockMarks) :
    (of token).Readable := by
  by_cases hne : trimChars token = []
  · have hof : of token = nothing := by simp [of, hne]
    rw [hof]
    trivial
  · have hraw : IsItem blockMarks (trimChars token) := isItem_trimChars h hne
    have hunknown : of token = unknown (.ofList (trimChars token)) → (of token).Readable := by
      intro hof
      rw [hof]
      refine ⟨?_, ?_⟩
      · rw [String.toList_ofList]
        exact hraw
      · rw [String.toList_ofList, of_trimChars, hof]
    cases hsplit : splitFirst ':' (trimChars token) with
    | none =>
      cases hflag : Flag.ofName? (.ofList (trimChars token)) with
      | none => exact hunknown (by simp [of, hne, hsplit, hflag])
      | some f =>
        have hof : of token = flag f := by simp [of, hne, hsplit, hflag]
        rw [hof]
        trivial
    | some parts =>
      cases hassigned : assigned? (toLower (.ofList (trimChars parts.1))) (trimChars parts.2) with
      | none => exact hunknown (by simp [of, hne, hsplit, hassigned])
      | some s =>
        have hof : of token = s := by simp [of, hne, hsplit, hassigned]
        rw [hof]
        refine readable_of_assigned? hassigned (isItem_trimChars fun c hc => hraw.allowed c ?_)
        rw [eq_of_splitFirst hsplit]
        exact List.mem_append_right _ (List.mem_cons_of_mem _ hc)

/-! ## Writing what a token says -/

/-- A key with its value is read back, if the key takes the value. -/
theorem of_assigned (key : String) {payload : List Char} {s : Saying}
    (hkey : IsItem (':' :: blockMarks) key.toList) (hlower : toLower key = key)
    (hpayload : Solid payload) (h : assigned? key payload = some s) :
    of (key.toList ++ ':' :: payload) = s := by
  have hsolid : Solid (key.toList ++ ([':'] ++ payload)) := hkey.solid.append hpayload [':']
  have hmark : ':' ∉ key.toList := hkey.notMem List.mem_cons_self
  have hraw : trimChars (key.toList ++ ':' :: payload) = key.toList ++ ':' :: payload :=
    hsolid.trimChars
  simp [of, hraw, splitFirst_append hmark, hkey.solid.trimChars, hpayload.trimChars, hlower, h]

end Saying

/-- The spelling of a flag in the normal form. -/
def Flag.name : Flag → String
  | .isStatic => "static"
  | .isAbstract => "abstract"
  | .isVirtual => "virtual"
  | .isFinal => "final"
  | .required => "required"
  | .unique => "unique"
  | .primary => "pk"
  | .identity => "identity"
  | .generated => "generated"
  | .lob => "lob"
  | .foreign => "fk"

theorem Flag.of_name (f : Flag) : Saying.of f.name.toList = .flag f := by
  cases f <;> rfl

/-- The name of a flag has no marks of the block. -/
theorem Flag.isItem_name (f : Flag) : IsItem blockMarks f.name.toList := by
  cases f <;> exact isItem_of_all rfl rfl

namespace Saying

/-- The token that says so, in the normal form. -/
def text : Saying → String
  | nothing => ""
  | flag f => f.name
  | foreign target => "fk:" ++ target
  | length n => "length:" ++ toString n.toNat
  | size (precision, scale) => "size:" ++ toString precision.toNat ++ ":" ++ toString scale.toNat
  | format f => "format:" ++ f
  | unknown raw => raw

/-- A size is read as it was printed. -/
theorem size?_toString (p s : UInt32) :
    size? ((toString p.toNat).toList ++ ':' :: (toString s.toNat).toList) = some (p, s) := by
  rw [size?, splitFirst_append (notMem_toString _ rfl)]
  simp only [(solid_toString _).trimChars, word32?_toString]
  rfl

/-- A saying that can be written is read back. -/
theorem of_text {s : Saying} (h : s.Readable) : of s.text.toList = s := by
  cases s with
  | nothing => rfl
  | flag f => exact f.of_name
  | foreign target =>
    have hne : ¬ target.toList.isEmpty = true := by simpa using h.solid.starts.ne_nil
    have hread : assigned? "fk" target.toList = some (foreign target) := by
      rw [assigned?, if_pos rfl, if_neg hne, String.ofList_toList]
    rw [text, String.toList_append]
    exact of_assigned "fk" (isItem_of_all rfl rfl) rfl h.solid hread
  | length n =>
    have hread : assigned? "length" (toString n.toNat).toList = some (length n) := by
      rw [assigned?, if_neg (by decide), if_pos rfl, word32?_toString]
      rfl
    rw [text, String.toList_append]
    exact of_assigned "length" (isItem_of_all rfl rfl) rfl (solid_toString _)
      hread
  | size s =>
    have hread : assigned? "size" ((toString s.1.toNat).toList
        ++ ([':'] ++ (toString s.2.toNat).toList)) = some (size s) := by
      rw [assigned?, if_neg (by decide), if_neg (by decide), if_pos rfl]
      exact congrArg (Option.map size) (size?_toString s.1 s.2)
    rw [text, String.toList_append, String.toList_append, String.toList_append, List.append_assoc,
      List.append_assoc]
    exact of_assigned "size" (isItem_of_all rfl rfl) rfl
      ((solid_toString _).append (solid_toString _) [':']) hread
  | format f =>
    have hne : ¬ f.toList.isEmpty = true := by simpa using h.solid.starts.ne_nil
    have hread : assigned? "format" f.toList = some (format f) := by
      rw [assigned?, if_neg (by decide), if_neg (by decide), if_neg (by decide), if_pos rfl,
        if_neg hne, String.ofList_toList]
    rw [text, String.toList_append]
    exact of_assigned "format" (isItem_of_all rfl rfl) rfl h.solid hread
  | unknown raw => exact h.2

/-- What is written can stand in a block. -/
theorem isItem_text {s : Saying} (h : s.Readable) (hs : s ≠ nothing) :
    IsItem blockMarks s.text.toList := by
  cases s with
  | nothing => exact absurd rfl hs
  | flag f => exact f.isItem_name
  | foreign target =>
    rw [text, String.toList_append]
    have hkey : IsItem blockMarks "fk:".toList := isItem_of_all rfl rfl
    exact hkey.append h [] rfl
  | length n =>
    rw [text, String.toList_append]
    have hkey : IsItem blockMarks "length:".toList := isItem_of_all rfl rfl
    exact hkey.append (isItem_toString rfl _) [] rfl
  | size s =>
    rw [text, String.toList_append, String.toList_append, String.toList_append, List.append_assoc,
      List.append_assoc]
    have hkey : IsItem blockMarks "size:".toList := isItem_of_all rfl rfl
    have hprecision : IsItem blockMarks (toString s.1.toNat).toList := isItem_toString rfl _
    have hscale : IsItem blockMarks (toString s.2.toNat).toList := isItem_toString rfl _
    exact hkey.append (hprecision.append hscale [':'] rfl) [] rfl
  | format f =>
    rw [text, String.toList_append]
    have hkey : IsItem blockMarks "format:".toList := isItem_of_all rfl rfl
    exact hkey.append h [] rfl
  | unknown raw => exact h.1

end Saying

end ClassDiagram
