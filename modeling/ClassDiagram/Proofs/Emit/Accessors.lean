import Mathlib.Data.List.Nodup
import ClassDiagram.Emit.CSharp
import ClassDiagram.Proofs.Emit.Pieces
import ClassDiagram.Proofs.Text.Case

/-!
# Names of fields and accessors

In C# a field of a class keeps the name of its property.  A private field has an accessor
beside it, and its first character in upper case is all that tells its name from that of
the field.  `declaration?` reads the fields and the accessors off the pieces of a body.

Properties of different names may still come to declare one name twice.  An accessor may
have the name of a field, its own one if that starts with a capital, or that of another
accessor.  Nothing else can go wrong (`declaredNames_nodup_iff`).
-/

namespace ClassDiagram.Emit

open Text (capitalize StartsSmall)

/-- A property gets an accessor. -/
def hasAccessor (o : Options) (p : Property) : Bool :=
  !p.isStatic && (o.encapsulate || p.access == .owner)

@[simp] theorem name_encapsulated (o : Options) (p : Property) :
    (encapsulated o p).name = p.name := by
  rw [encapsulated]
  split <;> rfl

/-- What is hidden is told by the properties as they were drawn and one option. -/
theorem hiddenProperties_of (m : Model) (e : Entity) (o : Options) (target : String) :
    Emitter.hiddenProperties (.of m e o target)
      = (e.propertyList.filter (hasAccessor o)).map (encapsulated o) := by
  have haccess (p : Property) :
      ((encapsulated o p).access == .owner) = (o.encapsulate || p.access == .owner) := by
    rw [encapsulated]
    cases o.encapsulate <;> rfl
  show ((e.propertyList.map (encapsulated o)).filter (!·.isStatic)).filter
    (·.access == .owner) = _
  rw [List.filter_filter, List.filter_map]
  congr 2
  funext p
  rw [Function.comp_apply, haccess, isStatic_encapsulated, hasAccessor, Bool.and_comm]

namespace CSharp

/-! ## Declarations -/

/-- A line that declares a field or an accessor. -/
structure Declaration where
  /-- The words before its type. -/
  modifiers : String
  type : String
  name : String
  /-- What comes after its name. -/
  rest : String

/-- The text of a declaration. -/
def Declaration.text (d : Declaration) : String :=
  margin 1 ++ d.modifiers ++ " " ++ d.type ++ " " ++ d.name ++ d.rest

/-- The field for a property. -/
def fieldDeclaration (p : Property) : Declaration where
  modifiers := words ([p.access.keyword] ++ wordWhen p.isStatic "static"
    ++ wordWhen p.constraints.isFinal "readonly")
  type := types.nameFor p.type
  name := fieldName p
  rest := p.initial.elim "" (" = " ++ ·) ++ ";" ++ "\n"

/-- The accessor of a property. -/
def accessorDeclaration (p : Property) : Declaration where
  modifiers := "public"
  type := types.nameFor p.type
  name := accessorName p
  rest :=
    if p.constraints.isFinal then " => this." ++ fieldName p ++ ";" ++ "\n" ++ "\n"
    else "\n" ++ line 1 "\x7b" ++ line 2 ("get => this." ++ fieldName p ++ ";")
      ++ line 2 ("set => this." ++ fieldName p ++ " = value;") ++ line 1 "\x7d" ++ "\n"

/-- The declaration that a piece of a class is, if it is a field or an accessor. -/
def declaration? : Piece → Option Declaration
  | .property p => some (fieldDeclaration p)
  | .getter p => some (accessorDeclaration p)
  | _ => none

/-- The names of the fields and the accessors of a class, in order. -/
def declaredNames (x : Context) : List String :=
  ((csharp.pieces x).filterMap declaration?).map (·.name)

variable {x : Context} {m : Model} {e : Entity} {o : Options}

/-- A piece that declares a field or an accessor is the text of this declaration. -/
theorem pieceText_eq (hx : x.kind.isClass = true) {piece : Piece} {d : Declaration}
    (h : declaration? piece = some d) : csharp.pieceText x piece = d.text := by
  cases piece with
  | property p =>
    cases h
    have hkind : x.kind ≠ .interface := by
      intro hinterface
      rw [hinterface] at hx
      cases hx
    show property x p = _
    simp only [property, if_neg hkind, line, Declaration.text, fieldDeclaration,
      String.append_assoc]
    cases p.initial <;> rfl
  | getter p =>
    cases h
    have hpublic : "public " = "public" ++ " " := by decide
    show getter x p = _
    simp only [getter, Declaration.text, accessorDeclaration, hpublic]
    split
    next => simp only [spaced, line, String.append_assoc]
    next => simp only [spaced, blockBelow, line, String.append_assoc]
  | _ => cases h

/-! ## The names that are declared -/

theorem filterMap_pieceWhen (condition : Bool) (piece : Piece) :
    (pieceWhen condition piece).filterMap declaration?
      = if condition then (declaration? piece).toList else [] := by
  cases condition with
  | true =>
    show [piece].filterMap declaration? = _
    rw [List.filterMap_cons]
    cases declaration? piece <;> rfl
  | false => rfl

/-- Of the two pieces for a property only the first declares anything. -/
theorem filterMap_accessorPieces (ps : List Property) :
    (ps.flatMap Emitter.accessorPieces).filterMap declaration? = ps.map accessorDeclaration := by
  induction ps with
  | nil => rfl
  | cons p ps ih =>
    have hpieces : (Emitter.accessorPieces p).filterMap declaration? = [accessorDeclaration p] := by
      rw [Emitter.accessorPieces, List.filterMap_cons, filterMap_pieceWhen]
      simp only [declaration?, Option.toList_none, ite_self]
    rw [List.flatMap_cons, List.filterMap_append, hpieces, ih]
    rfl

/-- The pieces of a class declare a field for each property, and then the accessors. -/
theorem filterMap_pieces (hx : x.kind.isClass = true) :
    (csharp.pieces x).filterMap declaration? = x.properties.map fieldDeclaration
      ++ (Emitter.hiddenProperties x).map accessorDeclaration := by
  have hdata : (Emitter.dataPieces x).filterMap declaration?
      = x.properties.map fieldDeclaration := by
    rw [Emitter.dataPieces, if_neg (EntityKind.ne_enumeration_of_isClass hx), List.filterMap_map]
    exact congrFun (List.filterMap_eq_map (f := fieldDeclaration)) x.properties
  have hmethods : (Emitter.methodPieces x).filterMap declaration? = [] := by
    rw [Emitter.methodPieces, List.filterMap_map]
    exact List.filterMap_eq_nil_iff.2 fun _ _ => rfl
  rw [Emitter.pieces, List.filterMap_append, hdata, Emitter.codePieces, if_pos hx,
    List.filterMap_append, hmethods, Emitter.madePieces]
  simp only [List.filterMap_append, filterMap_pieceWhen, filterMap_accessorPieces, declaration?,
    Option.toList_none, ite_self, List.nil_append, List.append_nil]

/-- A class declares the name of each property and then the raised name of each that gets an
accessor. -/
theorem declaredNames_of (he : e.kind.isClass = true) (target : String) :
    declaredNames (.of m e o target) = e.propertyList.map (·.name)
      ++ (e.propertyList.filter (hasAccessor o)).map (capitalize ·.name) := by
  have hfields : ((Context.of m e o target).properties.map fieldDeclaration).map (·.name)
      = e.propertyList.map (·.name) := by
    show ((e.propertyList.map (encapsulated o)).map fieldDeclaration).map (·.name) = _
    rw [List.map_map, List.map_map]
    exact List.map_congr_left fun p _ => name_encapsulated o p
  have haccessors : ((Emitter.hiddenProperties (.of m e o target)).map accessorDeclaration).map
      (·.name) = (e.propertyList.filter (hasAccessor o)).map (capitalize ·.name) := by
    rw [hiddenProperties_of, List.map_map, List.map_map]
    exact List.map_congr_left fun p _ => congrArg capitalize (name_encapsulated o p)
  rw [declaredNames, filterMap_pieces (x := .of m e o target) he, List.map_append, hfields,
    haccessors]

/-! ## Names that are declared twice -/

/-- No accessor has the name of a field, and properties of different names have accessors of
different names. -/
structure AccessorsApart (o : Options) (ps : List Property) : Prop where
  fields : ∀ p ∈ ps, hasAccessor o p = true → ∀ q ∈ ps, q.name ≠ capitalize p.name
  accessors : ∀ p ∈ ps, ∀ q ∈ ps, hasAccessor o p = true → hasAccessor o q = true →
    capitalize p.name = capitalize q.name → p.name = q.name

/-- Raising a small letter keeps names apart, and never gives one that starts small. -/
theorem AccessorsApart.of_startsSmall {ps : List Property} (h : ∀ p ∈ ps, StartsSmall p.name) :
    AccessorsApart o ps where
  fields := fun p hp _ q hq => (h p hp).ne_capitalize (h q hq)
  accessors := fun p hp q hq _ _ => (h p hp).eq_of_capitalize (h q hq)

/-- No name is declared twice exactly if the accessors are apart. -/
theorem nodup_declaredNames (he : e.kind.isClass = true)
    (hnames : (e.propertyList.map (·.name)).Nodup) (target : String) :
    (declaredNames (.of m e o target)).Nodup ↔ AccessorsApart o e.propertyList := by
  have hnodup : (e.propertyList.filter (hasAccessor o)).Nodup := hnames.of_map.filter _
  rw [declaredNames_of he, List.nodup_append, and_iff_right hnames,
    List.nodup_map_iff_inj_on hnodup]
  constructor
  · rintro ⟨haccessors, hfields⟩
    refine ⟨fun p hp hhas q hq => ?_, fun p hp q hq hhas hhas' heq => ?_⟩
    · exact hfields _ (List.mem_map_of_mem hq) _
        (List.mem_map.2 ⟨p, List.mem_filter.2 ⟨hp, hhas⟩, rfl⟩)
    · rw [haccessors p (List.mem_filter.2 ⟨hp, hhas⟩) q (List.mem_filter.2 ⟨hq, hhas'⟩) heq]
  · intro h
    refine ⟨fun p hp q hq heq => ?_, fun name hname name' hname' => ?_⟩
    · obtain ⟨hp, hhas⟩ := List.mem_filter.1 hp
      obtain ⟨hq, hhas'⟩ := List.mem_filter.1 hq
      exact List.inj_on_of_nodup_map hnames hp hq (h.accessors p hp q hq hhas hhas' heq)
    · obtain ⟨q, hq, rfl⟩ := List.mem_map.1 hname
      obtain ⟨p, hp, rfl⟩ := List.mem_map.1 hname'
      obtain ⟨hp, hhas⟩ := List.mem_filter.1 hp
      exact h.fields p hp hhas q hq

/-- The body of a class is made of the texts of its pieces, and those that declare a field or an
accessor are the texts of these declarations.  If the properties have different names, no name is
declared twice as long as no accessor has the name of a field or of another accessor.  That is so
if all names start with a small letter of ASCII. -/
theorem declaredNames_nodup_iff (m : Model) (o : Options) {e : Entity} (he : e.kind.isClass = true)
    (hnames : (e.propertyList.map (·.name)).Nodup) :
    let x := Context.of m e o csharp.name
    csharp.bodyText x = csharp.piecesText x (Emitter.dataPieces x) ++ "\n"
        ++ csharp.piecesText x (csharp.codePieces x) ∧
      (∀ piece ∈ csharp.pieces x, ∀ d, declaration? piece = some d →
        csharp.pieceText x piece = d.text) ∧
      ((declaredNames x).Nodup ↔ AccessorsApart o e.propertyList) ∧
      ((∀ p ∈ e.propertyList, StartsSmall p.name) → (declaredNames x).Nodup) := by
  intro x
  have hiff : (declaredNames x).Nodup ↔ AccessorsApart o e.propertyList :=
    nodup_declaredNames he hnames csharp.name
  refine ⟨Emitter.bodyText_eq csharp x, fun piece _ d hd => ?_, hiff, fun h => ?_⟩
  · exact pieceText_eq (x := x) he hd
  · exact hiff.2 (.of_startsSmall h)

/-- A bill with a total for itself and a currency for everyone. -/
def bill : Entity where
  name := "Bill"
  properties := .ofList [(0, { name := "total", type := "decimal" }),
    (1, { access := .everyone, name := "Currency", type := "string" })]

/-- The bill alone. -/
def bills : Model := ⟨.ofList [("b", bill)]⟩

/-- The accessor for the currency would have the name of the field. -/
theorem not_apart_bill : ¬ AccessorsApart { encapsulate := true } bill.propertyList := by
  intro hapart
  have hcurrency : capitalize "Currency" = "Currency" := by decide +kernel
  exact hapart.fields _ (.tail _ (.head _)) rfl _ (.tail _ (.head _)) hcurrency.symm

/-- The names are different as drawn, and no longer when all properties are private. -/
theorem declaredNames_nodup_iff_bill :
    (declaredNames (.of bills bill {} csharp.name)).Nodup ∧
      ¬ (declaredNames (.of bills bill { encapsulate := true } csharp.name)).Nodup := by
  have hnames : (bill.propertyList.map (·.name)).Nodup := by decide
  obtain ⟨-, -, hopen, -⟩ := declaredNames_nodup_iff bills {} rfl hnames
  obtain ⟨-, -, hclosed, -⟩ := declaredNames_nodup_iff bills { encapsulate := true } rfl hnames
  have htotal : capitalize "total" = "Total" := by decide +kernel
  rw [hopen, hclosed]
  constructor
  · have honly (p : Property) (hp : p ∈ bill.propertyList) (h : hasAccessor {} p = true) :
        p.name = "total" := by
      revert p
      decide
    refine ⟨fun p hp h q hq => ?_, fun p hp q hq h h' _ => ?_⟩
    · rw [honly p hp h, htotal]
      revert q
      decide
    · rw [honly p hp h, honly q hq h']
  · exact not_apart_bill

/-- A class can declare one name twice though its properties have different names. -/
theorem not_declaredNames_nodup : ¬ ∀ m : Model, ∀ e ∈ m.entities.values, ∀ o,
    e.kind.isClass = true → (e.propertyList.map (·.name)).Nodup →
      (declaredNames (.of m e o csharp.name)).Nodup := by
  intro hall
  have hnames : (bill.propertyList.map (·.name)).Nodup := by decide
  have hnodup := hall bills bill (by decide) { encapsulate := true } rfl hnames
  exact not_apart_bill ((nodup_declaredNames rfl hnames csharp.name).1 hnodup)

end CSharp

end ClassDiagram.Emit
