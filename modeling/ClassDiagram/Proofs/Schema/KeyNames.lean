import Mathlib.Data.List.Nodup
import ClassDiagram.Proofs.Schema.Clauses
import ClassDiagram.Proofs.Text.Case

/-!
# Names of foreign keys

A foreign key is named after two tables and its number, in this order, with underscores
between them.  The tables may have underscores and digits in their names as well, and
Oracle cuts the names short.  What no dialect touches is the ending, and a name has only
one: the last underscore of a name is the one before its number (`EndsWith.unique`).  So
the keys of a table have different names, whatever they refer to
(`foreignKeyNames_distinct`).
-/

namespace ClassDiagram.Schema

open Emit (margin)
open Text (toUpper)

variable {d : Dialect} {m : Model} {e : Entity} {name : String}

/-! ## Names with a number -/

/-- A name ends with an underscore and a number. -/
def EndsWith (name : String) (number : Nat) : Prop :=
  ∃ start, name = start ++ "_" ++ toString number

/-- A name ends in one number at most. It is cut at its last underscore, since a numeral has none.
-/
theorem EndsWith.unique {i j : Nat} (hi : EndsWith name i) (hj : EndsWith name j) : i = j := by
  obtain ⟨start, rfl⟩ := hi
  obtain ⟨start', hname⟩ := hj
  have hcut : ∀ (start : String) (n : Nat),
      Text.splitLast '_' (start ++ "_" ++ toString n).toList
        = some (start.toList, (toString n).toList) := by
    intro start n
    rw [String.append_assoc, String.toList_append, String.toList_append]
    exact Text.splitLast_append (Text.notMem_toString n rfl) start.toList
  have hsplit := (hcut start i).symm.trans ((congrArg _ (congrArg _ hname)).trans (hcut start' j))
  have hdigits : Nat.toDigits 10 i = Nat.toDigits 10 j := by
    rw [← Text.toList_toString, ← Text.toList_toString]
    exact congrArg Prod.snd (Option.some.inj hsplit)
  have hvalue := congrArg (Nat.ofDigitChars 10 · 0) hdigits
  simpa only [Nat.ofDigitChars_ten_toDigits] using hvalue

/-- Names that end in their places are distinct. -/
theorem nodup_of_endsWith {names : List String}
    (h : ∀ i (hi : i < names.length), EndsWith names[i] (i + 1)) : names.Nodup := by
  rw [List.nodup_iff_injective_getElem]
  rintro ⟨i, hi⟩ ⟨j, hj⟩ heq
  have hname : names[i] = names[j] := heq
  have hj' : EndsWith names[i] (j + 1) := hname ▸ h j hj
  exact Fin.ext (Nat.succ.inj ((h i hi).unique hj'))

theorem oracleForeignKeyName_endsWith (table target : String) (number : Nat) :
    EndsWith (oracleForeignKeyName table target number) number :=
  ⟨_, String.append_assoc.symm⟩

/-- Only Oracle has names of its own. -/
theorem foreignKeyName_cases (hd : d ∈ dialects) :
    d.foreignKeyName = ansi.foreignKeyName ∨ d.foreignKeyName = oracleForeignKeyName := by
  simp only [dialects, List.mem_cons, List.not_mem_nil, or_false] at hd
  obtain rfl | rfl | rfl | rfl | rfl | rfl | rfl := hd
  case inr.inr.inr.inr.inl => exact .inr rfl
  all_goals exact .inl rfl

/-- In every dialect the name of a foreign key ends in its number. -/
theorem foreignKeyName_endsWith (hd : d ∈ dialects) (table target : String) (number : Nat) :
    EndsWith (d.foreignKeyName table target number) number := by
  obtain hname | hname := foreignKeyName_cases hd
  · rw [hname]
    exact ⟨_, rfl⟩
  · rw [hname]
    exact oracleForeignKeyName_endsWith table target number

/-! ## The names of Oracle -/

/-- The name of a foreign key in Oracle before its number. -/
def stem (table target : String) : String := toUpper ("FK_" ++ table ++ "_" ++ target)

/-- Oracle cuts the stem of a name so that the number still fits. -/
theorem oracleForeignKeyName_eq (table target : String) (number : Nat) :
    oracleForeignKeyName table target number
      = .ofList ((stem table target).toList.take
          (oracleIdentifierLimit - ("_" ++ toString number).length))
        ++ ("_" ++ toString number) := rfl

theorem toUpper_foreignKeyName (table target : String) (number : Nat) :
    toUpper (ansi.foreignKeyName table target number)
      = stem table target ++ ("_" ++ toString number) := by
  have hsmall : toUpper "fk_" = "FK_" := by decide +kernel
  have hcapital : toUpper "FK_" = "FK_" := by decide +kernel
  have hmark : toUpper "_" = "_" := by decide +kernel
  show toUpper ("fk_" ++ table ++ "_" ++ target ++ "_" ++ toString number) = _
  simp only [stem, Text.toUpper_append, Text.toUpper_toString, hsmall, hcapital, hmark,
    String.append_assoc]

/-- In Oracle the name of a foreign key is not longer than an identifier may be. The number of a
machine word has at most 20 digits, so that only the start of a name is cut. -/
theorem length_oracleForeignKeyName_le (table target : String) {number : Nat}
    (hnumber : number < 2 ^ 64) :
    (oracleForeignKeyName table target number).length ≤ oracleIdentifierLimit := by
  have hdigits : (toString number).length ≤ 20 := by
    refine (Nat.length_repr_le_iff (by decide)).2 (hnumber.trans ?_)
    decide
  have hmark : "_".length = 1 := rfl
  have hlimit : oracleIdentifierLimit = 30 := rfl
  simp only [oracleForeignKeyName_eq, String.length_append, String.length_ofList,
    List.length_take]
  omega

/-- A name that fits is only put in upper case. -/
theorem oracleForeignKeyName_of_fits {table target : String} {number : Nat}
    (h : (toUpper (ansi.foreignKeyName table target number)).length ≤ oracleIdentifierLimit) :
    oracleForeignKeyName table target number
      = toUpper (ansi.foreignKeyName table target number) := by
  rw [toUpper_foreignKeyName, String.length_append] at h
  have hroom : (stem table target).toList.length
      ≤ oracleIdentifierLimit - ("_" ++ toString number).length := by
    rw [String.length_toList]
    omega
  rw [toUpper_foreignKeyName, oracleForeignKeyName_eq, List.take_of_length_le hroom,
    String.ofList_toList]

/-! ## The names in a table -/

/-- The names of the foreign keys of a table, in order. -/
def Table.foreignKeyNames (d : Dialect) (t : Table) : List String :=
  t.foreignKeys.mapIdx fun index k => d.foreignKeyName t.name k.table (index + 1)

/-- The clause of a foreign key with a name. -/
def ForeignKey.clause (d : Dialect) (name : String) (k : ForeignKey) : String :=
  margin 1 ++ "CONSTRAINT " ++ name ++ " FOREIGN KEY (" ++ d.quote k.column ++ ") REFERENCES "
    ++ d.quote k.table ++ " (" ++ d.quote k.referenced ++ ")"

theorem foreignItems_eq_zipWith (d : Dialect) (m : Model) (e : Entity) :
    foreignItems d m e = List.zipWith (ForeignKey.clause d)
      ((Table.ofEntity d m e).foreignKeyNames d) (Table.ofEntity d m e).foreignKeys := by
  refine List.ext_getElem ?_ fun i hi hi' => ?_
  · simp [foreignItems, Table.foreignKeyNames]
  · simp only [foreignItems, Table.foreignKeyNames, List.getElem_mapIdx, List.getElem_zipWith]
    rfl

/-- The foreign keys of a table are numbered from one. -/
theorem foreignKeyNames_endsWith (hd : d ∈ dialects) (t : Table) (i : Nat)
    (hi : i < (t.foreignKeyNames d).length) : EndsWith (t.foreignKeyNames d)[i] (i + 1) := by
  simp only [Table.foreignKeyNames, List.getElem_mapIdx]
  exact foreignKeyName_endsWith hd _ _ _

/-- The statement for an entity ends with the clauses of its foreign keys.  Their names are
different, and each ends with its number.  The names of Oracle have room for every number of a
machine word.  They are the names of standard SQL in upper case as long as these are short
enough. -/
theorem foreignKeyNames_distinct (hd : d ∈ dialects) (m : Model) (e : Entity) (o : Options) :
    (backend d).entityText (.of m e o "sql") = creation d e.name
        ((columnProperties e).map (columnItem d m) ++ primaryItems d (primaryNames e)
          ++ List.zipWith (ForeignKey.clause d) ((Table.ofEntity d m e).foreignKeyNames d)
            (Table.ofEntity d m e).foreignKeys) ∧
      ((Table.ofEntity d m e).foreignKeyNames d).Nodup ∧
      (∀ i (hi : i < ((Table.ofEntity d m e).foreignKeyNames d).length),
        EndsWith ((Table.ofEntity d m e).foreignKeyNames d)[i] (i + 1)) ∧
      ∀ (table target : String) (number : Nat), number < 2 ^ 64 →
        (oracle.foreignKeyName table target number).length ≤ 30 ∧
        EndsWith (oracle.foreignKeyName table target number) number ∧
        ((toUpper (ansi.foreignKeyName table target number)).length ≤ 30 →
          oracle.foreignKeyName table target number
            = toUpper (ansi.foreignKeyName table target number)) := by
  have hends := foreignKeyNames_endsWith hd (Table.ofEntity d m e)
  refine ⟨?_, nodup_of_endsWith hends, hends, fun table target number hnumber => ⟨?_, ?_, ?_⟩⟩
  · rw [← foreignItems_eq_zipWith]
    exact entityText_eq_creation d m e o
  · exact length_oracleForeignKeyName_le table target hnumber
  · exact oracleForeignKeyName_endsWith table target number
  · exact oracleForeignKeyName_of_fits

/-- A line of an order for a product, with another one in case the first is sold out. -/
def orderLine : Entity where
  name := "PurchaseOrderLine"
  properties := .ofList [
    (0, { name := "product", type := "Product_1", constraints := { foreign := true } }),
    (1, { name := "other", type := "Product_1", constraints := { foreign := true } })]

/-- The line and the product that it refers to twice. -/
def orderLines : Model := ⟨.ofList [("l", orderLine), ("p", { name := "Product_1" })]⟩

/-- Two keys to one table have two names, and the longest ones are cut to 30 characters. -/
theorem foreignKeyNames_distinct_lines :
    ((Table.ofEntity oracle orderLines orderLine).foreignKeyNames oracle).length = 2 ∧
      ((Table.ofEntity oracle orderLines orderLine).foreignKeyNames oracle).Nodup ∧
      (oracle.foreignKeyName "PurchaseOrderLine" "Product_1" (2 ^ 64 - 1)).length ≤ 30 ∧
      oracle.foreignKeyName "Line" "Straße" 12 = "FK_LINE_STRASSE_12" := by
  have horacle : oracle ∈ dialects := by simp [dialects]
  obtain ⟨-, hdistinct, -, hnames⟩ := foreignKeyNames_distinct horacle orderLines orderLine {}
  have hupper : toUpper (ansi.foreignKeyName "Line" "Straße" 12) = "FK_LINE_STRASSE_12" := by
    decide +kernel
  obtain ⟨-, -, hfits⟩ := hnames "Line" "Straße" 12 (by decide)
  refine ⟨rfl, hdistinct, (hnames _ _ (2 ^ 64 - 1) (by decide)).1, ?_⟩
  rw [← hupper]
  exact hfits (by rw [hupper]; decide)

end ClassDiagram.Schema
