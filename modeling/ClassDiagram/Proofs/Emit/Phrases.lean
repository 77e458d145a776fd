import ClassDiagram.Emit.Phrases
import ClassDiagram.Proofs.Emit.Alike
import ClassDiagram.Proofs.Emit.Balance

/-!
# Phrases and braces

The phrases that languages share are balanced as far as what a language puts into them
is: its keywords and marks, the names in its table of types, and its names for
properties.  What is left to show of a language is what it writes by itself.

Phrases that look at a context are the same for contexts that are alike.
-/

namespace ClassDiagram

open Text
open Text.Unmatched (opened closed opened_mul_closed)

/-! ## Tables of types -/

/-- The names in a table are balanced. -/
def TypeTable.Balanced (table : TypeTable) : Prop := ∀ entry ∈ table, unmatched entry.2 = 1

instance (table : TypeTable) : Decidable table.Balanced :=
  inferInstanceAs (Decidable (∀ entry ∈ table, unmatched entry.2 = 1))

namespace TypeTable.Balanced

variable {table : TypeTable} (h : table.Balanced) {key name other type : String}
include h

/-- A name that is looked up is in the table. -/
theorem of_lookup (hlookup : table.lookup key = some name) : unmatched name = 1 :=
  h _ (mem_of_lookup hlookup)

/-- What is not in the table has another name. -/
theorem lookup_getD (hother : unmatched other = 1) :
    unmatched ((table.lookup key).getD other) = 1 := by
  cases hlookup : table.lookup key with
  | none => exact hother
  | some name => exact h.of_lookup hlookup

/-- A type has a name of the table or stands for itself. -/
theorem nameFor (htype : Text.Balanced type) : unmatched (table.nameFor type) = 1 :=
  h.lookup_getD ((unmatched_trim type).trans htype.unmatched)

end TypeTable.Balanced

namespace Emit

variable {types : TypeTable} {x y : Context} {p : Property} {ps : List Property} {d : Method}

/-! ## Before the members -/

/-- A last line that closes one brace is enough for a header that leaves one open. -/
theorem unmatched_ends {header : String} (h : unmatched header = opened) :
    unmatched header * unmatched (line 0 "\x7d") = 1 := by
  have hclose : unmatched "\x7d" = closed := rfl
  rw [h, unmatched_line, hclose, opened_mul_closed]

/-- The clause of a package leaves what is left by its name. -/
theorem unmatched_packageClause {keyword : String} (hkeyword : unmatched keyword = 1)
    {package? : Option String} (h : ∀ package, package? = some package → unmatched package = 1) :
    unmatched (packageClause keyword package?) = 1 := by
  cases package? with
  | none => rfl
  | some package =>
    have hpackage := h package rfl
    simp (disch := decide) [packageClause, unmatched_plain, hkeyword, hpackage]

theorem unmatched_importClauses {keyword : String} (hkeyword : unmatched keyword = 1)
    {names : List String} (h : ∀ name ∈ names, unmatched name = 1) :
    unmatched (importClauses keyword names) = 1 := by
  refine unmatched_paragraph (List.forall_mem_map.2 fun name hname => ?_)
  simp (disch := decide) [unmatched_plain, hkeyword, h name hname]

/-- What the options import is balanced if the ways to name a symbol and a module are. -/
theorem unmatched_configuredNames (hx : x.Balanced) {symbolOf : String → String → String}
    (hsymbol : ∀ module symbol, Balanced module → Balanced symbol →
      unmatched (symbolOf module symbol) = 1)
    {allOf : String → String} (hall : ∀ module, Balanced module → unmatched (allOf module) = 1) :
    ∀ name ∈ configuredNames symbolOf allOf x, unmatched name = 1 := by
  intro name hname
  obtain ⟨⟨module, symbols?⟩, hi, hname⟩ := List.mem_flatMap.1 hname
  have hmodule : Balanced module := hx.modules _ hi
  cases symbols? with
  | none =>
    rw [List.mem_singleton.1 hname]
    exact hall module hmodule
  | some symbols =>
    obtain ⟨symbol, hmem, rfl⟩ := List.mem_map.1 hname
    exact hsymbol module symbol hmodule (hx.symbols _ hi symbols rfl symbol hmem)

/-- The names that a type is derived from are those of other entities. -/
theorem unmatched_supertypes (hx : x.Balanced) : unmatched (supertypes x) = 1 := by
  have hparents := unmatched_commas fun _ h => (hx.of_mem_parents h).unmatched
  have hinterfaces := unmatched_commas fun _ h => (hx.of_mem_interfaces h).unmatched
  have hbase : ∀ base bases, x.bases = base :: bases → unmatched base = 1 :=
    fun base bases hbases => (hx.of_mem_bases (hbases ▸ List.mem_cons_self)).unmatched
  rw [supertypes]
  cases x.kind with
  | enumeration => rfl
  | interface => simp (disch := decide) [unmatched_plain, hparents]
  | concrete | abstract =>
    cases hbases : x.bases with
    | nil => simp (disch := decide) [unmatched_plain, hinterfaces]
    | cons base bases =>
      simp (disch := decide) [unmatched_plain, hinterfaces, hbase base bases hbases]

/-! ## Properties -/

/-- The parameters for balanced properties are balanced. -/
theorem balanced_parametersFor (hps : ∀ p ∈ ps, p.Balanced) :
    ∀ q ∈ ps.map parameterFor, q.Balanced :=
  List.forall_mem_map.2 fun p hp => balanced_parameterFor (hps p hp)

/-- A value that is assigned is written once, or not at all. -/
theorem unmatched_assigned {value? : Option String}
    (h : ∀ value, value? = some value → unmatched value = 1) : unmatched (assigned value?) = 1 := by
  cases value? with
  | none => rfl
  | some value =>
    have hvalue := h value rfl
    simp (disch := decide) [assigned, unmatched_plain, hvalue]

theorem unmatched_initial (hp : p.Balanced) : unmatched (assigned p.initial) = 1 :=
  unmatched_assigned fun value hvalue => (hp.initial value hvalue).unmatched

/-- Where a property has no value, another text may stand for it. -/
theorem unmatched_initial_getD (hp : p.Balanced) {other : String} (hother : unmatched other = 1) :
    unmatched (p.initial.getD other) = 1 := by
  cases hinitial : p.initial with
  | none => exact hother
  | some value => exact (hp.initial value hinitial).unmatched

theorem unmatched_enumerator (hp : p.Balanced) : unmatched (enumerator p) = 1 := by
  simp (disch := decide) [enumerator, unmatched_plain, hp.name.unmatched, unmatched_initial hp]

/-- Assignments leave nothing, whatever language names the owner and its fields. -/
theorem unmatched_assignments {owner mark : String} (howner : unmatched owner = 1)
    (hmark : unmatched mark = 1) {field : Property → String}
    (hfield : ∀ p ∈ ps, unmatched (field p) = 1) (hps : ∀ p ∈ ps, p.Balanced) :
    unmatched (assignments owner field mark ps) = 1 := by
  refine unmatched_join_map fun p hp => ?_
  simp (disch := decide) [unmatched_plain, howner, hmark, hfield p hp, (hps p hp).name.unmatched]

/-- The names of balanced properties leave nothing. -/
theorem unmatched_name (hps : ∀ p ∈ ps, p.Balanced) : ∀ p ∈ ps, unmatched p.name = 1 :=
  fun p hp => (hps p hp).name.unmatched

/-- Conditions that leave nothing can be joined, one to a line. -/
theorem unmatched_returnAll {conditions : List String} (h : ∀ c ∈ conditions, unmatched c = 1) :
    unmatched (returnAll conditions) = 1 := by
  have hconditions := unmatched_intercalate
    (by decide : unmatched ("\n" ++ margin 3 ++ "&& ") = 1) h
  rw [returnAll, unmatched_line, unmatched_append, unmatched_append, hconditions]
  rfl

theorem unmatched_baseCall {call : String} (hcall : unmatched call = 1) (x : Context) :
    unmatched (baseCall call x) = 1 := by
  simp [baseCall, hcall]

/-! ## Methods -/

/-- Parameters have a type, a mark and a name each. -/
theorem unmatched_typedParameters (htypes : types.Balanced) {mark : String}
    (hmark : unmatched mark = 1) {l : List Parameter} (h : ∀ q ∈ l, q.Balanced) :
    unmatched (typedParameters types mark l) = 1 := by
  refine unmatched_commas_map fun q hq => ?_
  simp [htypes.nameFor (h q hq).type, hmark, (h q hq).name.unmatched]

/-- A signature that starts with the return type is balanced as far as the table is. -/
theorem unmatched_typedSignature (htypes : types.Balanced) (hd : d.Balanced) :
    unmatched (typedSignature types d) = 1 := by
  simp (disch := decide) [typedSignature, unmatched_plain, htypes.nameFor hd.returns,
    hd.name.unmatched, unmatched_typedParameters htypes _ hd.parameters]

theorem unmatched_annotatedParameter (htypes : types.Balanced) {q : Parameter} (h : q.Balanced) :
    unmatched (annotatedParameter types q) = 1 := by
  simp (disch := decide) [annotatedParameter, unmatched_plain, htypes.nameFor h.type,
    h.name.unmatched]

/-- So is one that ends with it, if its list of parameters leaves nothing. -/
theorem unmatched_annotatedSignature (htypes : types.Balanced) {parameters : String}
    (hparameters : unmatched parameters = 1) (hd : d.Balanced) :
    unmatched (annotatedSignature types parameters d) = 1 := by
  simp (disch := decide) [annotatedSignature, unmatched_plain, htypes.nameFor hd.returns,
    hd.name.unmatched, hparameters]

/-- A method that returns a value does so in one statement. -/
theorem unmatched_returnStatement {defaultValue : String → String}
    (h : ∀ type, unmatched (defaultValue type) = 1) (d : Method) :
    unmatched (returnStatement defaultValue d) = 1 := by
  simp (disch := decide) [returnStatement, unmatched_plain, h]

/-! ## Contexts that are alike -/

namespace Context.Alike

variable (h : x.Alike y)
include h

theorem configuredNames (symbolOf : String → String → String) (allOf : String → String) :
    configuredNames symbolOf allOf x = Emit.configuredNames symbolOf allOf y := by
  rw [Emit.configuredNames, Emit.configuredNames, h.configuredImports]

/-- What a type is derived from is shown by its context. -/
theorem supertypes : supertypes x = Emit.supertypes y := by
  rw [Emit.supertypes, Emit.supertypes, h.kind, h.parents, h.bases, h.interfaces]

theorem baseCall (call : String) : baseCall call x = Emit.baseCall call y := by
  rw [Emit.baseCall, Emit.baseCall, h.bases]

end Context.Alike

end Emit

end ClassDiagram
