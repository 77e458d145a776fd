import ClassDiagram.Emit.Backend
import ClassDiagram.Emit.Python
import ClassDiagram.Proofs.Emit.Stubs

/-!
# The pieces of a body

What stands between the first and the last lines of an entity is made of pieces, one to a
declaration, with an empty line after the properties or the constants.  Which pieces there
are is decided one by one while they are written: by the kind of the entity, by four
switches, and by the properties and the methods that it has.  `Emitter.pieces` lists them,
and their texts are the body (`Emitter.bodyText_eq`).

Python has no empty bodies, so a class without declarations gets a statement that does
nothing.  Whether there are any is asked there in a single condition, which has to agree
with all the decisions above (`Python.hasBody_iff`).  No piece of Python is an empty text,
so the statement is written exactly if nothing else is (`pass_iff`).
-/

namespace ClassDiagram.Emit

/-- A declaration in the body of an entity. -/
inductive Piece where
  | property (p : Property)
  | constant (p : Property) (index : Nat)
  | defaultConstructor
  | fullConstructor
  | getter (p : Property)
  | setter (p : Property)
  | equality
  | stringForm
  | method (d : Method) (form : BodyForm)

/-- A piece that is there on a condition. -/
def pieceWhen (condition : Bool) (piece : Piece) : List Piece := if condition then [piece] else []

namespace Emitter

/-- The text of a piece. -/
def pieceText (em : Emitter) (x : Context) : Piece → String
  | .property p => em.property x p
  | .constant p index => em.constant x p index
  | .defaultConstructor => em.defaultConstructor x
  | .fullConstructor => em.fullConstructor x x.instanceProperties
  | .getter p => em.getter x p
  | .setter p => em.setter x p
  | .equality => em.equality x x.instanceProperties
  | .stringForm => em.stringForm x x.instanceProperties
  | .method d form => em.method x d form

/-- The texts of some pieces, one after the other. -/
def piecesText (em : Emitter) (x : Context) (pieces : List Piece) : String :=
  String.join (pieces.map (em.pieceText x))

/-- The properties, or the constants of an enumeration. -/
def dataPieces (x : Context) : List Piece :=
  if x.kind = .enumeration then x.properties.mapIdx fun index p => .constant p index
  else x.properties.map .property

/-- The methods that read and change a property. -/
def accessorPieces (p : Property) : List Piece :=
  .getter p :: pieceWhen (!p.constraints.isFinal) (.setter p)

/-- The pieces made up for a class. -/
def madePieces (em : Emitter) (x : Context) : List Piece :=
  pieceWhen (em.writesDefaultConstructor x) .defaultConstructor
    ++ pieceWhen (writesFullConstructor x) .fullConstructor
    ++ (hiddenProperties x).flatMap accessorPieces
    ++ pieceWhen (!x.instanceProperties.isEmpty && x.options.members.equality) .equality
    ++ pieceWhen (!x.instanceProperties.isEmpty && x.options.members.stringForm) .stringForm

/-- The methods of an entity and those it owes. -/
def methodPieces (x : Context) : List Piece :=
  (methodCalls x).map fun (d, form) => .method d form

/-- The pieces after the empty line. -/
def codePieces (em : Emitter) (x : Context) : List Piece :=
  (if x.kind.isClass then em.madePieces x else []) ++ methodPieces x

/-- All pieces, in order. -/
def pieces (em : Emitter) (x : Context) : List Piece := dataPieces x ++ em.codePieces x

variable {em : Emitter} {x : Context}

/-! ## The body as the texts of its pieces -/

/-- The text of some pieces is put together like the list of them. -/
theorem piecesText_append (em : Emitter) (x : Context) (l l' : List Piece) :
    em.piecesText x (l ++ l') = em.piecesText x l ++ em.piecesText x l' := by
  rw [piecesText, List.map_append, String.join_append, piecesText, piecesText]

/-- A piece that is there on a condition has its text on this condition. -/
theorem piecesText_pieceWhen (em : Emitter) (x : Context) (condition : Bool) (piece : Piece) :
    em.piecesText x (pieceWhen condition piece)
      = if condition then em.pieceText x piece else "" := by
  cases condition with
  | true =>
    show String.join [em.pieceText x piece] = em.pieceText x piece
    rw [String.join_cons, String.join_nil, String.append_empty]
  | false => rfl

/-- The pieces for a property are its accessors. -/
theorem piecesText_accessorPieces (em : Emitter) (x : Context) (p : Property) :
    em.piecesText x (accessorPieces p) = em.accessors x p := by
  show String.join (em.getter x p :: _) = _
  rw [String.join_cons, accessors]
  congr 1
  rw [← piecesText, piecesText_pieceWhen]
  cases p.constraints.isFinal <;> rfl

theorem piecesText_flatMap (em : Emitter) (x : Context) (ps : List Property) :
    em.piecesText x (ps.flatMap accessorPieces) = String.join (ps.map (em.accessors x)) := by
  induction ps with
  | nil => rfl
  | cons p ps ih =>
    rw [List.flatMap_cons, piecesText_append, piecesText_accessorPieces, ih, List.map_cons,
      String.join_cons]

theorem piecesText_dataPieces (em : Emitter) (x : Context) :
    em.piecesText x (dataPieces x) = String.join (em.propertyTexts x) := by
  rw [piecesText, dataPieces, propertyTexts]
  split
  next =>
    rw [List.mapIdx_eq_zipIdx_map, List.mapIdx_eq_zipIdx_map, List.map_map]
    rfl
  next =>
    rw [List.map_map]
    rfl

/-- The pieces made up for a class are its made up members. -/
theorem piecesText_madePieces (em : Emitter) (x : Context) :
    em.piecesText x (em.madePieces x) = em.classMembers x := by
  simp only [madePieces, piecesText_append, piecesText_pieceWhen, piecesText_flatMap]
  rfl

/-- The body has the texts of all pieces, and an empty line after the data. -/
theorem bodyText_eq (em : Emitter) (x : Context) : em.bodyText x
    = em.piecesText x (dataPieces x) ++ "\n" ++ em.piecesText x (em.codePieces x) := by
  have hmade : em.piecesText x (if x.kind.isClass then em.madePieces x else [])
      = if x.kind.isClass then em.classMembers x else "" := by
    split
    next => exact piecesText_madePieces em x
    next => rfl
  have hmethods : em.piecesText x (methodPieces x)
      = String.join ((methodCalls x).map fun (d, form) => em.method x d form) := by
    rw [piecesText, methodPieces, List.map_map]
    rfl
  rw [codePieces, piecesText_append, piecesText_dataPieces, hmade, hmethods, ← String.append_assoc]
  rfl

/-! ## Empty bodies -/

/-- An emitter writes something for every piece. -/
def Visible (em : Emitter) : Prop := ∀ x piece, em.pieceText x piece ≠ ""

/-- Where no piece is an empty text, the text is empty only without pieces. -/
theorem piecesText_eq_empty_iff (hem : em.Visible) {l : List Piece} :
    em.piecesText x l = "" ↔ l = [] := by
  cases l with
  | nil => exact iff_of_true rfl rfl
  | cons piece l =>
    refine iff_of_false ?_ (List.cons_ne_nil piece l)
    rw [piecesText, List.map_cons, String.join_cons, String.append_eq_empty_iff]
    exact fun h => hem x piece h.1

/-- The body is the empty line alone exactly if there is no piece, since it has no room for another
text. -/
theorem bodyText_eq_newline_iff (hem : em.Visible) : em.bodyText x = "\n" ↔ em.pieces x = [] := by
  rw [bodyText_eq, pieces, List.append_eq_nil_iff, ← piecesText_eq_empty_iff hem (x := x),
    ← piecesText_eq_empty_iff hem (x := x)]
  constructor
  · intro h
    have hlength := congrArg String.length h
    have hnewline : "\n".length = 1 := rfl
    rw [String.length_append, String.length_append, hnewline] at hlength
    rw [← String.length_eq_zero_iff, ← String.length_eq_zero_iff]
    omega
  · rintro ⟨hdata, hcode⟩
    rw [hdata, hcode, String.append_empty, String.empty_append]

/-! ## No pieces -/

theorem pieceWhen_eq_nil_iff {condition : Bool} {piece : Piece} :
    pieceWhen condition piece = [] ↔ condition = false := by
  cases condition <;> simp [pieceWhen]

theorem dataPieces_eq_nil_iff : dataPieces x = [] ↔ x.properties = [] := by
  rw [dataPieces]
  split
  next => exact List.mapIdx_eq_nil_iff
  next => exact List.map_eq_nil_iff

/-- There is no method to write if none is declared and none is owed. -/
theorem methodPieces_eq_nil_iff :
    methodPieces x = [] ↔ x.entity.methodList = [] ∧ x.stubs = [] := by
  rw [methodPieces, List.map_eq_nil_iff, methodCalls, List.append_eq_nil_iff,
    List.map_eq_nil_iff, List.map_eq_nil_iff]

theorem instanceProperties_of_properties (h : x.properties = []) : x.instanceProperties = [] := by
  rw [Context.instanceProperties, h]
  rfl

/-- A class without properties has no constructor with parameters. -/
theorem writesFullConstructor_of_properties (h : x.properties = []) :
    writesFullConstructor x = false := by
  rw [writesFullConstructor, instanceProperties_of_properties h]
  exact Bool.and_false _

/-- A class without properties has at most the constructor without parameters made up for it. -/
theorem madePieces_of_properties (em : Emitter) (h : x.properties = []) : em.madePieces x
    = pieceWhen x.options.members.defaultConstructor .defaultConstructor := by
  rw [madePieces, writesDefaultConstructor, writesFullConstructor_of_properties h,
    hiddenProperties, instanceProperties_of_properties h]
  simp [pieceWhen]

/-- Nothing is written for an entity without properties and methods, unless it is a class with a
constructor or with stubs. -/
theorem pieces_eq_nil_iff : em.pieces x = [] ↔ x.properties = [] ∧ x.entity.methodList = [] ∧
    x.stubs = [] ∧ (x.kind.isClass = true → x.options.members.defaultConstructor = false) := by
  have hmade (h : x.properties = []) : (if x.kind.isClass then em.madePieces x else []) = [] ↔
      (x.kind.isClass = true → x.options.members.defaultConstructor = false) := by
    rw [madePieces_of_properties em h]
    cases x.kind.isClass with
    | true => simp [pieceWhen_eq_nil_iff]
    | false => simp
  rw [pieces, List.append_eq_nil_iff, dataPieces_eq_nil_iff, codePieces, List.append_eq_nil_iff,
    methodPieces_eq_nil_iff]
  constructor
  · rintro ⟨hproperties, hclass, hmethods, hstubs⟩
    exact ⟨hproperties, hmethods, hstubs, (hmade hproperties).1 hclass⟩
  · rintro ⟨hproperties, hmethods, hstubs, hclass⟩
    exact ⟨hproperties, (hmade hproperties).2 hclass, hmethods, hstubs⟩

end Emitter

/-! ## Python -/

theorem line_ne_empty (depth : Nat) (text : String) : line depth text ≠ "" := by
  rw [line, ne_eq, String.append_eq_empty_iff]
  exact fun h => absurd h.2 (by decide)

/-- There is always the empty line. -/
theorem spaced_ne_empty (code : String) : spaced code ≠ "" := by
  rw [spaced, ne_eq, String.append_eq_empty_iff]
  exact fun h => absurd h.2 (by decide)

namespace Python

variable {x : Context}

/-- No piece of Python is an empty text. -/
theorem visible : python.Visible := by
  intro x piece
  cases piece with
  | property p =>
    show property x p ≠ ""
    rw [property]
    split
    next => exact line_ne_empty 1 _
    next => exact line_ne_empty 1 _
  | constant p index => exact line_ne_empty 1 _
  | defaultConstructor => exact spaced_ne_empty _
  | fullConstructor => exact spaced_ne_empty _
  | getter p => exact spaced_ne_empty _
  | setter p => exact spaced_ne_empty _
  | equality =>
    show spaced _ ++ spaced _ ≠ ""
    exact fun h => spaced_ne_empty _ (String.append_eq_empty_iff.1 h).2
  | stringForm => exact spaced_ne_empty _
  | method d form => exact spaced_ne_empty _

/-- The condition fails exactly if there is no piece. Only a class owes stubs, so it need not ask
for them elsewhere. -/
theorem hasBody_eq_false_iff : hasBody x = false ↔ python.pieces x = [] := by
  have hclass : (x.kind.isClass && (x.options.members.defaultConstructor
        || Emitter.writesFullConstructor x || x.owesStubs)) = false ↔
      x.kind.isClass = true → x.options.members.defaultConstructor = false ∧
        Emitter.writesFullConstructor x = false ∧ x.stubs = [] := by
    cases x.kind.isClass with
    | true => simp [Context.owesStubs, and_assoc]
    | false => simp
  have hstubs : x.kind.isClass = false → x.stubs = [] := by
    intro h
    rw [Context.stubs, h]
    rfl
  rw [Emitter.pieces_eq_nil_iff, hasBody, Bool.or_eq_false_iff, Bool.or_eq_false_iff, hclass,
    Bool.not_eq_false', Bool.not_eq_false', List.isEmpty_iff, List.isEmpty_iff, and_assoc]
  refine and_congr_right fun hproperties => and_congr_right fun _ => ?_
  rw [Emitter.writesFullConstructor_of_properties hproperties]
  cases hkind : x.kind.isClass with
  | true => simp [and_comm]
  | false => simp [hstubs hkind]

/-- The single condition agrees with all the decisions on pieces. -/
theorem hasBody_iff :
    hasBody x = true ↔ ∃ piece ∈ python.pieces x, python.pieceText x piece ≠ "" := by
  rw [← Bool.not_eq_false, hasBody_eq_false_iff, List.eq_nil_iff_forall_not_mem, not_forall_not]
  exact exists_congr fun piece => (and_iff_left (visible x piece)).symm

/-- The statement that does nothing is written after a body that is an empty line. -/
theorem footer_eq_ite (x : Context) :
    footer x = if python.bodyText x = "\n" then line 1 "pass" else "" := by
  have hbody : python.bodyText x = "\n" ↔ hasBody x = false := by
    rw [Emitter.bodyText_eq_newline_iff visible, hasBody_eq_false_iff]
  simp only [footer, hbody]
  cases hasBody x <;> rfl

end Python

/-- The file of an entity in Python has its first lines, its body and its last lines.  The body is
made of the texts of the pieces, with an empty line after the data.  A statement that does nothing
comes after it exactly if the body is that empty line, and nothing comes after it otherwise.  An
entity counts as one with a body exactly if a text is written for one of its pieces. -/
theorem pass_iff (m : Model) (e : Entity) (o : Options) :
    let x := Context.of m e o python.name
    python.backend.entityText x = Python.header x ++ python.bodyText x ++ Python.footer x ∧
      python.bodyText x = python.piecesText x (Emitter.dataPieces x) ++ "\n"
        ++ python.piecesText x (python.codePieces x) ∧
      (Python.footer x = line 1 "pass" ↔ python.bodyText x = "\n") ∧
      (Python.footer x = "" ↔ python.bodyText x ≠ "\n") ∧
      (Python.hasBody x = true ↔ ∃ piece ∈ python.pieces x, python.pieceText x piece ≠ "") := by
  intro x
  refine ⟨rfl, Emitter.bodyText_eq python x, ?_, ?_, Python.hasBody_iff⟩
  · rw [Python.footer_eq_ite]
    split
    next hbody => exact iff_of_true rfl hbody
    next hbody => exact iff_of_false (line_ne_empty 1 "pass").symm hbody
  · rw [Python.footer_eq_ite]
    split
    next hbody => exact iff_of_false (line_ne_empty 1 "pass") (not_not_intro hbody)
    next hbody => exact iff_of_true rfl hbody

end ClassDiagram.Emit
