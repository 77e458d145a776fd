import ClassDiagram.Json.Printer
import ClassDiagram.Model.Basic

/-!
# Models in JSON

A model is written as an object with one member to an entity, under its cell.
Members of a class are written under their numbers, a link of a mutual relation
as a pair of its direction and the other entity.
-/

namespace ClassDiagram

open Json

/-- A text that may be missing. -/
def optionalText (s : Option String) : Json String := .ofOption .string s

/-- A set of constraints. -/
def Constraints.toJson (c : Constraints) : Json String :=
  .object [
    ("is_static", .bool c.isStatic), ("is_abstract", .bool c.isAbstract),
    ("is_virtual", .bool c.isVirtual), ("is_final", .bool c.isFinal),
    ("required", .bool c.required), ("unique", .bool c.unique), ("pk", .bool c.primary),
    ("identity", .bool c.identity), ("generated", .bool c.generated), ("lob", .bool c.lob),
    ("fk", .bool c.foreign), ("fk_target", optionalText c.foreignTarget),
    ("length", .ofOption (fun n => .nat n.toNat) c.length),
    ("size", .ofOption (fun (p, s) => .array [.nat p.toNat, .nat s.toNat]) c.size),
    ("format", optionalText c.format), ("other", .ofList .string c.other.toList)]

/-- A property. -/
def Property.toJson (p : Property) : Json String :=
  .object [
    ("access", .string p.access.keyword), ("name", .string p.name), ("type", .string p.type),
    ("default_value", optionalText p.initial), ("constraints", p.constraints.toJson)]

/-- A parameter. -/
def Parameter.toJson (p : Parameter) : Json String :=
  .object [("name", .string p.name), ("type", .string p.type)]

/-- A method. -/
def Method.toJson (m : Method) : Json String :=
  .object [
    ("access", .string m.access.keyword), ("name", .string m.name),
    ("parameters", .ofList Parameter.toJson m.parameters), ("return_type", .string m.returns),
    ("constraints", m.constraints.toJson)]

/-- The links of an entity. -/
def Links.toJson (l : Links) : Json String :=
  let pair : Direction × String → Json String :=
    fun (d, id) => .array [.string d.keyword, .string id]
  .object [
    ("extends", .ofList .string l.bases), ("implements", .ofList .string l.interfaces),
    ("association", .ofList pair l.associations), ("aggregation", .ofList pair l.aggregations),
    ("composition", .ofList pair l.compositions)]

/-- The members of a class under their numbers. -/
def numbered {α : Type} (write : α → Json String) (m : OrderedMap Nat α) : Json String :=
  .object (m.toList.map fun (n, a) => (toString n, write a))

/-- An entity. -/
def Entity.toJson (e : Entity) : Json String :=
  .object [
    ("type", .string e.kind.keyword), ("name", .string e.name),
    ("stereotype", optionalText e.stereotype),
    ("properties", numbered Property.toJson e.properties),
    ("methods", numbered Method.toJson e.methods), ("relationships", e.links.toJson)]

/-- A model. -/
def Model.toJson (m : Model) : Json String :=
  .object (m.toList.map fun (id, e) => (id, e.toJson))

/-- The document of a model. -/
def Model.document (m : Model) : String := m.toJson.pretty

end ClassDiagram
