import ClassDiagram.Emit.Cpp
import ClassDiagram.Emit.CSharp
import ClassDiagram.Emit.Java
import ClassDiagram.Emit.Php
import ClassDiagram.Proofs.Member.Method
import ClassDiagram.Proofs.Text.Braces

/-!
# Return types and return statements

In Java, C#, C++ and PHP the signature of a method gives its return type.  What
stands there comes from a table in which types are looked up in lower case, and is
`void` for every spelling of that type (`TypeTable.nameFor_eq_void_iff`).  Whether a
method with a body returns a value depends on the type as it was drawn, and only one
spelling counts as no value (`MethodForm.Faithful.returns_iff`).

The two agree on all types but the other spellings of that one
(`returns_agree_iff`).
-/

namespace ClassDiagram

open Text (folded toLower trim)

/-! ## Return types -/

theorem toLower_voidType : toLower voidType = voidType := by decide +kernel

/-- A table has the type for no value, and no other type with its name. -/
structure TypeTable.KeepsVoid (table : TypeTable) : Prop where
  lookup : table.lookup voidType = some "void"
  alone : ∀ entry ∈ table, entry.2 = "void" → entry.1 = voidType

/-- Only spellings of the type for no value have its name. A type that stands for itself is not in
the table, in lower case or not. -/
theorem TypeTable.KeepsVoid.nameFor_eq_void_iff {table : TypeTable} (h : table.KeepsVoid)
    (type : String) : table.nameFor type = "void" ↔ folded type = voidType := by
  constructor
  · intro hname
    rw [TypeTable.nameFor] at hname
    cases hlookup : table.lookup (folded type) with
    | some name =>
      rw [hlookup, Option.getD_some] at hname
      exact h.alone (folded type, name) (Text.mem_of_lookup hlookup) hname
    | none =>
      rw [hlookup, Option.getD_none] at hname
      rw [folded, hname]
      exact toLower_voidType
  · intro hfolded
    rw [TypeTable.nameFor, hfolded, h.lookup, Option.getD_some]

namespace Emit

/-! ## Bodies -/

/-- How a language writes a method that is implemented. -/
structure MethodForm where
  emitter : Emitter
  /-- The signature of a method, with its return type as it is printed. -/
  signature : Method → String → String
  /-- The body from its brace to the end of the method, with the value that it returns, if any. -/
  body : Option String → String

namespace MethodForm

/-- The text has the signature of a method with a return type. -/
def Declares (f : MethodForm) (text : String) (d : Method) (type : String) : Prop :=
  ∃ before after, text = before ++ f.signature d type ++ after

/-- The text ends in a body that returns a value. -/
def Returns (f : MethodForm) (text : String) : Prop :=
  ∃ before value, text = before ++ f.body (some value)

end MethodForm

/-- What a method returns: nothing, or the value of its return type. -/
def Emitter.returned (em : Emitter) (d : Method) : Option String :=
  if d.returnsVoid then none else some (em.defaultValue d.returns)

/-- The statement that returns a value, on a line of its own. -/
def returnLine (value : Option String) : String :=
  value.elim "" fun value => line 2 ("return " ++ value ++ ";")

/-- A body on lines of its own. -/
def blockBody (value : Option String) : String :=
  "\x7b" ++ "\n" ++ returnLine value ++ line 1 "\x7d" ++ "\n"

/-- A body on the line of the signature. -/
def lineBody (value : Option String) : String :=
  value.elim "\x7b\x7d" (fun value => "\x7b return " ++ value ++ "; \x7d") ++ "\n" ++ "\n"

/-- A signature that starts with the return type. -/
def signatureAfter (types : TypeTable) (d : Method) (type : String) : String :=
  type ++ " " ++ d.name ++ "(" ++ typedParameters types " " d.parameters ++ ")"

/-- A method in Java has its statements in a block. -/
def Java.methodForm : MethodForm where
  emitter := java
  signature := signatureAfter types
  body := blockBody

/-- So does one in C#, with the brace on a line of its own. -/
def CSharp.methodForm : MethodForm where
  emitter := csharp
  signature := signatureAfter types
  body := blockBody

/-- A method in C++ has its body on one line with the signature. -/
def Cpp.methodForm : MethodForm where
  emitter := cpp
  signature := signatureAfter types
  body := lineBody

/-- A method in PHP has its return type at the end of the signature. -/
def Php.methodForm : MethodForm where
  emitter := php
  signature := fun d type =>
    "function " ++ d.name ++ "(" ++ parameters d.parameters ++ "): " ++ type
  body := blockBody

/-- The languages that print return types. -/
def methodForms : List MethodForm :=
  [Java.methodForm, CSharp.methodForm, Cpp.methodForm, Php.methodForm]

/-! ## Bodies with and without a value -/

variable {f : MethodForm} {x : Context} {d : Method}

/-- Texts with a common ending differ if different characters stand before it. -/
theorem append_ne_append {p q : Char} (h : p ≠ q) (a b ending : String) :
    a ++ String.singleton p ++ ending ≠ b ++ String.singleton q ++ ending := by
  intro heq
  have hchars := congrArg String.toList heq
  simp only [String.toList_append, List.append_left_inj, String.toList_singleton] at hchars
  exact h (List.singleton_inj.1 (List.append_inj' hchars rfl).2)

/-- A body on lines of its own that returns a value has a semicolon before its last lines. -/
theorem blockBody_ne (before before' value : String) :
    before ++ blockBody none ≠ before' ++ blockBody (some value) := by
  have hnone : before ++ blockBody none
      = before ++ String.singleton '{' ++ ("\n" ++ line 1 "\x7d" ++ "\n") := by
    simp only [blockBody, returnLine, Option.elim_none, String.append_assoc, String.empty_append]
    rfl
  have hsome : before' ++ blockBody (some value)
      = before' ++ "\x7b" ++ "\n" ++ margin 2 ++ "return " ++ value ++ String.singleton ';'
        ++ ("\n" ++ line 1 "\x7d" ++ "\n") := by
    simp only [blockBody, returnLine, Option.elim_some, line, String.append_assoc]
    rfl
  rw [hnone, hsome]
  exact append_ne_append (by decide) _ _ _

/-- A body on one line that returns a value has a blank before its last brace. -/
theorem lineBody_ne (before before' value : String) :
    before ++ lineBody none ≠ before' ++ lineBody (some value) := by
  have hnone : before ++ lineBody none = before ++ String.singleton '{' ++ "\x7d\n\n" := by
    rw [String.append_assoc]
    rfl
  have hend : "; \x7d" = ";" ++ (String.singleton ' ' ++ "\x7d") := by decide
  have hsome : before' ++ lineBody (some value)
      = before' ++ "\x7b return " ++ value ++ ";" ++ String.singleton ' ' ++ "\x7d\n\n" := by
    simp only [lineBody, Option.elim_some, hend, String.append_assoc]
    rfl
  rw [hnone, hsome]
  exact append_ne_append (by decide) _ _ _

/-! ## What the emitters write -/

/-- A text for what is returned is chosen by the return type as drawn. -/
theorem elim_returned (em : Emitter) (d : Method) (none : String) (some : String → String) :
    (em.returned d).elim none some
      = if d.returnsVoid then none else some (em.defaultValue d.returns) := by
  rw [Emitter.returned]
  split <;> rfl

theorem returnStatement_eq (em : Emitter) (d : Method) :
    returnStatement em.defaultValue d = returnLine (em.returned d) := by
  rw [returnStatement, returnLine, elim_returned]

/-- A block begins with its first line and ends with its body. -/
theorem spaced_block (modifiers signature : String) (value : Option String) :
    spaced (block 1 (modifiers ++ " " ++ signature) (returnLine value))
      = margin 1 ++ modifiers ++ " " ++ signature ++ " " ++ blockBody value := by
  have hbrace : " \x7b" = " " ++ "\x7b" := by decide
  simp only [spaced, block, blockBody, line, hbrace, String.append_assoc]

theorem spaced_blockBelow (modifiers signature : String) (value : Option String) :
    spaced (blockBelow 1 (modifiers ++ " " ++ signature) (returnLine value))
      = margin 1 ++ modifiers ++ " " ++ signature ++ ("\n" ++ margin 1) ++ blockBody value := by
  simp only [spaced, blockBelow, blockBody, line, String.append_assoc]

namespace MethodForm

/-- A form writes what its emitter writes for a method of a class, and its bodies with and without
a value are told apart by their ends. -/
structure Faithful (f : MethodForm) : Prop where
  typeName : f.emitter.typeName = f.emitter.types.nameFor
  method : ∀ x d, x.kind.isClass = true → ∃ before between,
    f.emitter.method x d .implemented = before ++ f.signature d (f.emitter.typeName d.returns)
      ++ between ++ f.body (f.emitter.returned d)
  body_ne : ∀ before before' value, before ++ f.body none ≠ before' ++ f.body (some value)

end MethodForm

/-- A method in Java is a signature after its modifiers, and a block. -/
theorem Java.method_faithful : methodForm.Faithful where
  typeName := by simp only [methodForm, java]
  method := by
    intro x d _
    have hstatements : statements d = returnLine (java.returned d) := by
      rw [statements, ← returnStatement_eq]
      simp only [java]
    have hsignature : signature d = methodForm.signature d (java.typeName d.returns) := by
      simp only [signature, typedSignature, methodForm, signatureAfter, java]
    have htext : java.method x d .implemented = spaced (block 1
        (modifiers d.access d.constraints.isStatic d.constraints.isFinal ++ " " ++ signature d)
        (statements d)) := rfl
    rw [hstatements, spaced_block, hsignature] at htext
    exact ⟨_, _, htext⟩
  body_ne := blockBody_ne

theorem CSharp.method_faithful : methodForm.Faithful where
  typeName := by simp only [methodForm, csharp]
  method := by
    intro x d hx
    have hstatements : statements d = returnLine (csharp.returned d) := by
      rw [statements, ← returnStatement_eq]
      simp only [csharp]
    have hsignature : signature d = methodForm.signature d (csharp.typeName d.returns) := by
      simp only [signature, typedSignature, methodForm, signatureAfter, csharp]
    have htext : csharp.method x d .implemented = spaced (blockBelow 1
        (words ([d.access.keyword] ++ wordWhen d.constraints.isStatic "static"
          ++ wordWhen (!d.constraints.isStatic && d.constraints.isVirtual) "virtual")
          ++ " " ++ signature d)
        (statements d)) := if_neg (EntityKind.ne_enumeration_of_isClass hx)
    rw [hstatements, spaced_blockBelow, hsignature] at htext
    exact ⟨_, _, htext⟩
  body_ne := blockBody_ne

theorem Php.method_faithful : methodForm.Faithful where
  typeName := by simp only [methodForm, php]
  method := by
    intro x d _
    have hstatements : statements d = returnLine (php.returned d) := by
      rw [statements, ← returnStatement_eq]
      simp only [php]
    have hsignature : signature d = methodForm.signature d (php.typeName d.returns) := by
      simp only [signature, annotatedSignature, methodForm, php, String.append_assoc]
    have htext : php.method x d .implemented = spaced (blockBelow 1
        (words (wordWhen d.constraints.isFinal "final" ++ [d.access.keyword]
          ++ wordWhen d.constraints.isStatic "static") ++ " " ++ signature d)
        (statements d)) := rfl
    rw [hstatements, spaced_blockBelow, hsignature] at htext
    exact ⟨_, _, htext⟩
  body_ne := blockBody_ne

/-- A method in C++ may have a word between its signature and its body. -/
theorem Cpp.method_faithful : methodForm.Faithful where
  typeName := by simp only [methodForm, cpp]
  method := by
    intro x d hx
    have hbody : lineBody (cpp.returned d) = statements d ++ "\n" ++ "\n" := by
      rw [statements, lineBody, elim_returned]
      simp only [cpp]
    have hsignature : signature d = methodForm.signature d (cpp.typeName d.returns) := by
      simp only [signature, typedSignature, methodForm, signatureAfter, cpp]
    refine ⟨label d.access ++ margin 1 ++ (if d.constraints.isStatic then "static "
        else if d.constraints.isVirtual then "virtual " else ""),
      (if d.constraints.isFinal && !d.constraints.isStatic then " final" else "") ++ " ", ?_⟩
    show (if x.kind = .enumeration then "" else spaced (label d.access
      ++ line 1 (_ ++ signature d ++ _ ++ " " ++ statements d)))
        = _ ++ _ ++ _ ++ lineBody (cpp.returned d)
    rw [if_neg (EntityKind.ne_enumeration_of_isClass hx), spaced, line, hsignature, hbody]
    simp only [String.append_assoc]
    rfl
  body_ne := lineBody_ne

theorem method_faithful_of_mem (hf : f ∈ methodForms) : f.Faithful := by
  simp only [methodForms, List.mem_cons, List.not_mem_nil, or_false] at hf
  rcases hf with rfl | rfl | rfl | rfl
  · exact Java.method_faithful
  · exact CSharp.method_faithful
  · exact Cpp.method_faithful
  · exact Php.method_faithful

namespace MethodForm.Faithful

/-- What is written for a method has its signature with the printed type. -/
theorem declares (hf : f.Faithful) (hx : x.kind.isClass = true) (d : Method) :
    f.Declares (f.emitter.method x d .implemented) d (f.emitter.typeName d.returns) := by
  obtain ⟨before, between, htext⟩ := hf.method x d hx
  rw [String.append_assoc] at htext
  exact ⟨before, _, htext⟩

/-- A method of a class returns a value exactly if its return type as drawn is another than the one
for no value. -/
theorem returns_iff (hf : f.Faithful) (hx : x.kind.isClass = true) (d : Method) :
    f.Returns (f.emitter.method x d .implemented) ↔ d.returns ≠ voidType := by
  obtain ⟨before, between, htext⟩ := hf.method x d hx
  rw [htext, Emitter.returned, Method.returnsVoid, MethodForm.Returns]
  by_cases hreturns : d.returns = voidType
  case pos =>
    rw [if_pos (beq_iff_eq.2 hreturns)]
    refine iff_of_false ?_ (not_not_intro hreturns)
    rintro ⟨before', value, heq⟩
    exact hf.body_ne _ before' value heq
  case neg =>
    rw [if_neg (mt beq_iff_eq.1 hreturns)]
    exact iff_of_true ⟨_, _, rfl⟩ hreturns

end MethodForm.Faithful

/-! ## Agreement -/

/-- Each of the four tables has the type for no value once. -/
theorem keepsVoid_of_mem (hf : f ∈ methodForms) : f.emitter.types.KeepsVoid := by
  simp only [methodForms, List.mem_cons, List.not_mem_nil, or_false] at hf
  rcases hf with rfl | rfl | rfl | rfl <;> exact ⟨rfl, by decide⟩

/-- A type that was read from a line has no blanks around it. -/
theorem folded_returns {line : String} (hd : Method.ofLine line = .ok d) :
    folded d.returns = toLower d.returns := by
  have hnormal := Method.normal_of_readMethod (Method.ofLine_eq_ok_iff.1 hd)
  have htrim : trim d.returns = d.returns := by
    rw [← String.toList_inj, Text.toList_trim]
    exact hnormal.returns.solid.trimChars
  rw [folded, htrim]

/-- A method that was read from a line is written with the printed name of its return type.  It
returns a value exactly if the type as drawn is another than the one for no value, and prints
`void` for every spelling of that one.  The two agree unless it is spelled otherwise. -/
theorem returns_agree_iff (hf : f ∈ methodForms) {line : String} (hd : Method.ofLine line = .ok d)
    (hx : x.kind.isClass = true) :
    f.Declares (f.emitter.method x d .implemented) d (f.emitter.typeName d.returns) ∧
      (f.Returns (f.emitter.method x d .implemented) ↔ d.returns ≠ voidType) ∧
      (f.emitter.typeName d.returns = "void" ↔ toLower d.returns = voidType) ∧
      ((f.Returns (f.emitter.method x d .implemented) ↔ f.emitter.typeName d.returns ≠ "void") ↔
        (toLower d.returns = voidType → d.returns = voidType)) := by
  have hfaithful := method_faithful_of_mem hf
  have hreturns := hfaithful.returns_iff hx d
  have hvoid : f.emitter.typeName d.returns = "void" ↔ toLower d.returns = voidType := by
    rw [hfaithful.typeName, (keepsVoid_of_mem hf).nameFor_eq_void_iff, folded_returns hd]
  have hlower : d.returns = voidType → toLower d.returns = voidType := by
    intro heq
    rw [heq]
    exact toLower_voidType
  refine ⟨hfaithful.declares hx d, hreturns, hvoid, ?_⟩
  rw [hreturns, ne_eq, ne_eq, hvoid, not_iff_not]
  exact ⟨Iff.mpr, fun h => ⟨hlower, h⟩⟩

/-- A method that returns nothing, with a capital in the type that says so. -/
def run : Method := { access := .everyone, name := "run", returns := "Void" }

theorem ofLine_run : Method.ofLine "+ run(): Void" = .ok run := rfl

/-- In lower case the type is the one for no value. -/
theorem toLower_returns_run : toLower run.returns = voidType := by decide +kernel

/-- The class with the method. -/
def task : Entity := { name := "Task", methods := .ofList [(1, run)] }

/-- The model of that class. -/
def tasks : Model := ⟨.ofList [("t", task)]⟩

theorem returns_agree_iff_tasks :
    let text := cpp.method (.of tasks task {} "cpp") run .implemented
    Cpp.methodForm.Declares text run "void" ∧ Cpp.methodForm.Returns text := by
  have hcpp : Cpp.methodForm ∈ methodForms := by simp [methodForms]
  obtain ⟨hdeclares, hreturns, hvoid, -⟩ :=
    returns_agree_iff hcpp ofLine_run (x := .of tasks task {} "cpp") rfl
  rw [hvoid.2 toLower_returns_run] at hdeclares
  exact ⟨hdeclares, hreturns.2 (by decide)⟩

/-- A method can return a value and have a return type that is printed as `void`. -/
theorem not_returns_agree : ¬ ∀ f ∈ methodForms, ∀ line d, Method.ofLine line = .ok d →
    ∀ x, x.kind.isClass = true →
      (f.Returns (f.emitter.method x d .implemented) ↔ f.emitter.typeName d.returns ≠ "void") := by
  intro hall
  have hjava : Java.methodForm ∈ methodForms := by simp [methodForms]
  have hagree := hall _ hjava _ run ofLine_run (.of tasks task {} "java") rfl
  rw [(method_faithful_of_mem hjava).returns_iff rfl, (method_faithful_of_mem hjava).typeName,
    ne_eq, ne_eq, (keepsVoid_of_mem hjava).nameFor_eq_void_iff, folded_returns ofLine_run,
    iff_false_right (not_not_intro toLower_returns_run)] at hagree
  exact hagree (by decide)

end Emit

end ClassDiagram
