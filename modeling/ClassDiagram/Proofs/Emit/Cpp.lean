import ClassDiagram.Emit.Cpp
import ClassDiagram.Proofs.Emit.Phrases

/-!
# C++ code

The emitter for C++ balances (`cpp_balances`).  The header opens the brace of the type
and, if there is a package, that of a name space before it; the footer closes both.
Most members have their braces on one line.  The emitter is extensional
(`cpp_extensional`).
-/

namespace ClassDiagram.Emit

open Text
open Text.Unmatched (opened closed)

variable {x y : Context} {p : Property} {ps : List Property} {d : Method}

namespace Cpp

/-! ## Parts of declarations -/

theorem balanced_types : types.Balanced := by decide

/-- A value may be a pair of braces. -/
theorem unmatched_defaultValue (type : String) : unmatched (defaultValue type) = 1 := by
  rw [defaultValue]
  cases TypeCategory.of type <;> rfl

/-- The body on a line opens a brace and closes it. -/
theorem unmatched_statements (d : Method) : unmatched (statements d) = 1 := by
  have hopen : unmatched "\x7b return " = opened := rfl
  have hclose : unmatched "; \x7d" = closed := rfl
  have hempty : unmatched "\x7b\x7d" = 1 := rfl
  simp [statements, hopen, hclose, hempty, unmatched_defaultValue]

theorem unmatched_label (access : Access) : unmatched (label access) = 1 := by
  simp (disch := decide) [label, unmatched_plain]

/-- Colons for the dots of a package do nothing to braces. -/
theorem unmatched_nameSpace (hx : x.Balanced) {space : String} (h : nameSpace? x = some space) :
    unmatched space = 1 := by
  obtain ⟨package, hpackage, rfl⟩ := Option.map_eq_some_iff.1 h
  rw [unmatched_replaceChar (by decide) (by decide), (hx.package package hpackage).unmatched]

/-! ## Before and after the members -/

/-- The files included belong to the library, to the options or to other entities. -/
theorem unmatched_includes (hx : x.Balanced) : ∀ file ∈ includes x, unmatched file = 1 := by
  intro file hfile
  simp only [includes, mem_firsts, List.mem_append] at hfile
  rcases hfile with (((hstandard | hstring) | hstub) | hconfigured) | hentity
  · obtain ⟨type, -, hfile⟩ := List.mem_flatMap.1 hstandard
    obtain ⟨entry, hentry, rfl⟩ := List.mem_map.1 hfile
    have hheaders : ∀ entry ∈ standardHeaders, unmatched ("<" ++ entry.2 ++ ">") = 1 := by decide
    exact hheaders entry (List.mem_of_mem_filter hentry)
  · split at hstring
    next =>
      have hheaders : ∀ file ∈ ["<sstream>", "<string>"], unmatched file = 1 := by decide
      exact hheaders file hstring
    next => cases hstring
  · split at hstub
    next =>
      rw [List.mem_singleton.1 hstub]
      decide
    next => cases hstub
  · obtain ⟨i, hi, rfl⟩ := List.mem_map.1 hconfigured
    simp (disch := decide) [unmatched_plain, (hx.modules i hi).unmatched]
  · obtain ⟨name, hname, rfl⟩ := List.mem_map.1 hentity
    simp (disch := decide) [unmatched_plain, (hx.of_mem_entityImports hname).unmatched]

theorem unmatched_declaration (hx : x.Balanced) : unmatched (declaration x) = 1 := by
  have hparents : unmatched (commas (x.parents.map ("public " ++ ·))) = 1 := by
    refine unmatched_commas_map fun name hname => ?_
    simp (disch := decide) [unmatched_plain, (hx.of_mem_parents hname).unmatched]
  simp (disch := decide) [declaration, unmatched_plain, hx.name.unmatched, hparents]

/-- Behind a name space two braces are open after the header. -/
theorem unmatched_header_mul_footer (hx : x.Balanced) :
    unmatched (header x) * unmatched (footer x) = 1 := by
  have hincludes : unmatched (paragraph ((includes x).map fun file =>
      line 0 ("#include " ++ file))) = 1 := by
    refine unmatched_paragraph (List.forall_mem_map.2 fun file hfile => ?_)
    simp (disch := decide) [unmatched_plain, unmatched_includes hx file hfile]
  have hopen : unmatched " \x7b" = opened := rfl
  have hclose : unmatched "\x7d;" = closed := rfl
  rw [header, footer]
  cases hspace : nameSpace? x with
  | none =>
    simp (disch := decide) [unmatched_plain, hincludes, unmatched_declaration hx,
      hx.name.unmatched, hopen, hclose]
  | some space =>
    have hcloseSpace : unmatched "\x7d  // namespace " = closed := rfl
    have hboth : opened * opened * (closed * closed) = 1 := rfl
    simp (disch := decide) [unmatched_plain, hincludes, unmatched_declaration hx,
      hx.name.unmatched, hopen, hclose, hcloseSpace, hboth, unmatched_nameSpace hx hspace]

/-! ## Members -/

theorem unmatched_property (x : Context) (hp : p.Balanced) : unmatched (property x p) = 1 := by
  simp (disch := decide) [property, unmatched_plain, unmatched_label, hp.name.unmatched,
    balanced_types.nameFor hp.type, unmatched_initial hp]

/-- After the list of the members an empty body stands on the same line. -/
theorem unmatched_fullConstructor (hx : x.Balanced) (hps : ∀ p ∈ ps, p.Balanced) :
    unmatched (fullConstructor x ps) = 1 := by
  have hparameters : unmatched (parameters (ps.map parameterFor)) = 1 :=
    unmatched_typedParameters balanced_types rfl (balanced_parametersFor hps)
  have hstarts : unmatched (commas (ps.map fun p => p.name ++ "(" ++ p.name ++ ")")) = 1 := by
    refine unmatched_commas_map fun p hp => ?_
    simp (disch := decide) [unmatched_plain, (hps p hp).name.unmatched]
  have hempty : unmatched " \x7b\x7d" = 1 := rfl
  simp (disch := decide) [fullConstructor, unmatched_plain, hx.name.unmatched, hparameters,
    hstarts, hempty]

/-- The body of a getter stands on its line. -/
theorem unmatched_getter (x : Context) (hp : p.Balanced) : unmatched (getter x p) = 1 := by
  have hopen : unmatched "() const \x7b return " = opened := rfl
  have hclose : unmatched "; \x7d" = closed := rfl
  simp (disch := decide) [getter, unmatched_plain, hp.name.unmatched,
    balanced_types.nameFor hp.type, hopen, hclose]

theorem unmatched_setter (x : Context) (hp : p.Balanced) : unmatched (setter x p) = 1 := by
  have hopen : unmatched "& value) \x7b " = opened := rfl
  have hclose : unmatched " = value; \x7d" = closed := rfl
  simp (disch := decide) [setter, unmatched_plain, hp.name.unmatched,
    balanced_types.nameFor hp.type, hopen, hclose]

theorem unmatched_equality (hx : x.Balanced) (hps : ∀ p ∈ ps, p.Balanced) :
    unmatched (equality x ps) = 1 := by
  have hcomparisons : unmatched (returnAll (ps.map fun p =>
      p.name ++ " == other." ++ p.name)) = 1 := by
    refine unmatched_returnAll (List.forall_mem_map.2 fun p hp => ?_)
    simp (disch := decide) [unmatched_plain, (hps p hp).name.unmatched]
  have hinequality : unmatched "& other) const \x7b return !(*this == other); \x7d" = 1 := by decide
  simp (disch := decide) [equality, unmatched_plain, hcomparisons, hinequality, hx.name.unmatched]

/-- The braces around the properties of an instance stand in two pieces of text. -/
theorem unmatched_stringForm (hx : x.Balanced) (hps : ∀ p ∈ ps, p.Balanced) :
    unmatched (stringForm x ps) = 1 := by
  have hfields : unmatched (String.join (ps.mapIdx fun index p =>
      " << \"" ++ (if index = 0 then "" else ", ") ++ p.name ++ "=\" << " ++ p.name)) = 1 := by
    refine unmatched_join_mapIdx fun index p hp => ?_
    simp (disch := decide) [unmatched_plain, (hps p hp).name.unmatched]
  have hopen : unmatched "\x7b\"" = opened := rfl
  have hclose : unmatched " << \"\x7d\";" = closed := rfl
  simp (disch := decide) [stringForm, unmatched_plain, hx.name.unmatched, hfields, hopen, hclose]

/-- A method is a signature, or one with a body on its line. -/
theorem unmatched_method (x : Context) (hd : d.Balanced) (form : BodyForm) :
    unmatched (method x d form) = 1 := by
  have hstub :
      unmatched " override \x7b throw std::logic_error(\"Not implemented\"); \x7d" = 1 := by decide
  cases form <;>
    simp (disch := decide) [method, signature, unmatched_plain, unmatched_label,
      unmatched_typedSignature balanced_types hd, unmatched_statements, hstub]

end Cpp

/-- Every part of a type in C++ is balanced but the header, and the footer closes what that leaves
open. -/
theorem cpp_balances : cpp.Balances where
  ends := fun _ hx => Cpp.unmatched_header_mul_footer hx
  property := fun x _ _ hp => Cpp.unmatched_property x hp
  constant := fun _ _ _ _ hp => unmatched_enumerator hp
  defaultConstructor := by
    intro x hx
    simp (disch := decide) [cpp, Cpp.defaultConstructor, unmatched_plain, hx.name.unmatched]
  fullConstructor := fun _ _ hx hps => Cpp.unmatched_fullConstructor hx hps
  getter := fun x _ _ hp => Cpp.unmatched_getter x hp
  setter := fun x _ _ hp => Cpp.unmatched_setter x hp
  equality := fun _ _ hx hps => Cpp.unmatched_equality hx hps
  stringForm := fun _ _ hx hps => Cpp.unmatched_stringForm hx hps
  method := fun x _ form _ hd => Cpp.unmatched_method x hd form

/-! ## Contexts that are alike -/

namespace Cpp

/-- What is included goes by the types in use, the members and the dependencies. -/
theorem includes_congr (h : x.Alike y) : includes x = includes y := by
  simp only [includes, h.usedTypes, h.emitsValueMembers, h.members, h.owesStubs,
    h.configuredImports, h.entityImports]

theorem nameSpace_congr (h : x.Alike y) : nameSpace? x = nameSpace? y := by
  rw [nameSpace?, nameSpace?, h.package]

theorem header_congr (h : x.Alike y) : header x = header y := by
  simp only [header, declaration, includes_congr h, nameSpace_congr h, h.name, h.kind, h.parents]

end Cpp

/-- The emitter looks at nothing but what the context shows. -/
theorem cpp_extensional : cpp.Extensional where
  header h := Cpp.header_congr h
  property h := by
    funext p
    simp only [cpp, Cpp.property, h.kind]
  constant _ := rfl
  defaultConstructor h := by simp only [cpp, Cpp.defaultConstructor, h.name]
  fullConstructor h := by
    funext ps
    simp only [cpp, Cpp.fullConstructor, h.name]
  getter _ := rfl
  setter _ := rfl
  equality h := by
    funext ps
    simp only [cpp, Cpp.equality, h.name]
  stringForm h := by
    funext ps
    simp only [cpp, Cpp.stringForm, h.name]
  method h := by
    funext d form
    simp only [cpp, Cpp.method, h.kind]
  footer h := by simp only [cpp, Cpp.footer, Cpp.nameSpace_congr h]

end ClassDiagram.Emit
