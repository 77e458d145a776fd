import ClassDiagram.LogicalType
import ClassDiagram.Member.Constraints

/-!
# Dialects of SQL

A dialect knows the physical types of columns, how identifiers are quoted, how
foreign keys are named and how a column is filled in by the store.

`Dialect.columnType` chooses the physical type of a column.  A large object is
asked for first, then an automatic value, and then the table of types.  Some
physical types take a length or a size.
-/

namespace ClassDiagram.Schema

open Text

/-- What sets one dialect of SQL apart. -/
structure Dialect where
  /-- Its name. -/
  name : String
  /-- The physical types, under the canonical names of the known types. -/
  types : TypeTable
  /-- The physical types that take a length. -/
  boundedTypes : List String := ["VARCHAR", "NVARCHAR"]
  /-- The physical types that take a precision and a scale. -/
  numericTypes : List String := ["DECIMAL", "NUMERIC"]
  /-- The type of a large text. -/
  textLob : String
  /-- The type of a large run of bytes. -/
  binaryLob : String
  /-- The type of a column that the store fills in, if it has one of its own. -/
  identityType : Option String := none
  /-- The clause of a column that the store fills in, which may be empty. -/
  identityClause : String
  /-- The mark before a quoted identifier. -/
  openQuote : String := "\""
  /-- The mark after a quoted identifier. -/
  closeQuote : String := "\""
  /-- The name of the foreign key of a table to another one with a number. -/
  foreignKeyName : String → String → Nat → String := fun table target number =>
    "fk_" ++ table ++ "_" ++ target ++ "_" ++ toString number

/-- The length of a bounded column that gives none. -/
def defaultLength : Nat := 255

/-- The canonical types of which a column may be a large object. -/
def lobTypes : List String := ["string", "wstring", "bytes"]

namespace Dialect

/-- A quoted identifier. -/
def quote (d : Dialect) (identifier : String) : String := d.openQuote ++ identifier ++ d.closeQuote

/-- The physical type of a large object. -/
def lobType (d : Dialect) (binary : Bool) : String := if binary then d.binaryLob else d.textLob

/-- The physical type that the table of types gives, before its length or size. -/
def physicalType (d : Dialect) (type : String) : String :=
  (d.types.lookup (canonicalType type)).getD (trim type)

/-- A physical type with the length or the size that it takes. -/
def sized (d : Dialect) (physical : String) (c : Constraints) : String :=
  if d.boundedTypes.contains physical then
    let length := (c.length.map UInt32.toNat).getD defaultLength
    physical ++ "(" ++ toString length ++ ")"
  else if d.numericTypes.contains physical then
    match c.size with
    | some (precision, scale) =>
        physical ++ "(" ++ toString precision.toNat ++ "," ++ toString scale.toNat ++ ")"
    | none => physical
  else physical

/-- The physical type of a column of a type with some constraints. -/
def columnType (d : Dialect) (type : String) (c : Constraints) : String :=
  let canonical := canonicalType type
  if c.lob && lobTypes.contains canonical then d.lobType (canonical == "bytes")
  else
    match c.isAutoValued, d.identityType with
    | true, some identity => identity
    | _, _ => d.sized (d.physicalType type) c

end Dialect

/-! ## The dialects -/

/-- Standard SQL. -/
def ansi : Dialect where
  name := "ansi"
  types :=
    [("string", "VARCHAR"), ("wstring", "NVARCHAR"), ("char", "CHAR(1)"), ("bool", "BOOLEAN"),
     ("int8", "SMALLINT"), ("int16", "SMALLINT"), ("int32", "INTEGER"), ("int64", "BIGINT"),
     ("uint8", "SMALLINT"), ("uint16", "INTEGER"), ("uint32", "BIGINT"),
     ("uint64", "NUMERIC(20)"), ("float", "REAL"), ("double", "DOUBLE PRECISION"),
     ("decimal", "DECIMAL"), ("date", "DATE"), ("time", "TIME"), ("datetime", "TIMESTAMP"),
     ("uuid", "CHAR(36)"), ("bytes", "BLOB"), ("unspecified", "VARCHAR")]
  textLob := "CLOB"
  binaryLob := "BLOB"
  identityClause := "GENERATED BY DEFAULT AS IDENTITY"

/-- MySQL. -/
def mysql : Dialect where
  name := "mysql"
  types :=
    [("string", "VARCHAR"), ("wstring", "VARCHAR"), ("char", "CHAR(1)"), ("bool", "BOOLEAN"),
     ("int8", "TINYINT"), ("int16", "SMALLINT"), ("int32", "INT"), ("int64", "BIGINT"),
     ("uint8", "TINYINT UNSIGNED"), ("uint16", "SMALLINT UNSIGNED"), ("uint32", "INT UNSIGNED"),
     ("uint64", "BIGINT UNSIGNED"), ("float", "FLOAT"), ("double", "DOUBLE"),
     ("decimal", "DECIMAL"), ("date", "DATE"), ("time", "TIME"), ("datetime", "DATETIME"),
     ("uuid", "CHAR(36)"), ("bytes", "BLOB"), ("unspecified", "TEXT")]
  boundedTypes := ["VARCHAR"]
  textLob := "LONGTEXT"
  binaryLob := "LONGBLOB"
  identityClause := "AUTO_INCREMENT"
  openQuote := "\x60"
  closeQuote := "\x60"

/-- PostgreSQL. -/
def postgresql : Dialect where
  name := "postgresql"
  types :=
    [("string", "VARCHAR"), ("wstring", "VARCHAR"), ("char", "CHAR(1)"), ("bool", "BOOLEAN"),
     ("int8", "SMALLINT"), ("int16", "SMALLINT"), ("int32", "INTEGER"), ("int64", "BIGINT"),
     ("uint8", "SMALLINT"), ("uint16", "INTEGER"), ("uint32", "BIGINT"),
     ("uint64", "NUMERIC(20)"), ("float", "REAL"), ("double", "DOUBLE PRECISION"),
     ("decimal", "NUMERIC"), ("date", "DATE"), ("time", "TIME"), ("datetime", "TIMESTAMP"),
     ("uuid", "UUID"), ("bytes", "BYTEA"), ("unspecified", "TEXT")]
  boundedTypes := ["VARCHAR"]
  textLob := "TEXT"
  binaryLob := "BYTEA"
  identityClause := "GENERATED BY DEFAULT AS IDENTITY"

/-- SQL Server. -/
def sqlserver : Dialect where
  name := "sqlserver"
  types :=
    [("string", "VARCHAR"), ("wstring", "NVARCHAR"), ("char", "CHAR(1)"), ("bool", "BIT"),
     ("int8", "SMALLINT"), ("int16", "SMALLINT"), ("int32", "INT"), ("int64", "BIGINT"),
     ("uint8", "TINYINT"), ("uint16", "INT"), ("uint32", "BIGINT"), ("uint64", "DECIMAL(20,0)"),
     ("float", "REAL"), ("double", "FLOAT"), ("decimal", "DECIMAL"), ("date", "DATE"),
     ("time", "TIME"), ("datetime", "DATETIME2"), ("uuid", "UNIQUEIDENTIFIER"),
     ("bytes", "VARBINARY(MAX)"), ("unspecified", "NVARCHAR(MAX)")]
  textLob := "NVARCHAR(MAX)"
  binaryLob := "VARBINARY(MAX)"
  identityClause := "IDENTITY(1,1)"
  openQuote := "["
  closeQuote := "]"

/-- The greatest length of an identifier in Oracle. -/
def oracleIdentifierLimit : Nat := 30

/-- The name of a foreign key in Oracle: in upper case, and cut before its number if it is
too long. -/
def oracleForeignKeyName (table target : String) (number : Nat) : String :=
  let ending := "_" ++ toString number
  let room := oracleIdentifierLimit - ending.length
  .ofList ((toUpper ("FK_" ++ table ++ "_" ++ target)).toList.take room) ++ ending

/-- Oracle. -/
def oracle : Dialect where
  name := "oracle"
  types :=
    [("string", "VARCHAR2"), ("wstring", "NVARCHAR2"), ("char", "CHAR(1)"),
     ("bool", "NUMBER(1)"), ("int8", "NUMBER(3)"), ("int16", "NUMBER(5)"),
     ("int32", "NUMBER(10)"), ("int64", "NUMBER(19)"), ("uint8", "NUMBER(3)"),
     ("uint16", "NUMBER(5)"), ("uint32", "NUMBER(10)"), ("uint64", "NUMBER(20)"),
     ("float", "BINARY_FLOAT"), ("double", "BINARY_DOUBLE"), ("decimal", "NUMBER"),
     ("date", "DATE"), ("time", "TIMESTAMP"), ("datetime", "TIMESTAMP"), ("uuid", "RAW(16)"),
     ("bytes", "BLOB"), ("unspecified", "CLOB")]
  boundedTypes := ["VARCHAR2", "NVARCHAR2"]
  numericTypes := ["NUMBER"]
  textLob := "CLOB"
  binaryLob := "BLOB"
  identityClause := "GENERATED BY DEFAULT AS IDENTITY"
  foreignKeyName := oracleForeignKeyName

/-- SQLite, where an integer that is the primary key is filled in without a clause. -/
def sqlite : Dialect where
  name := "sqlite"
  types :=
    [("string", "TEXT"), ("wstring", "TEXT"), ("char", "TEXT"), ("bool", "INTEGER"),
     ("int8", "INTEGER"), ("int16", "INTEGER"), ("int32", "INTEGER"), ("int64", "INTEGER"),
     ("uint8", "INTEGER"), ("uint16", "INTEGER"), ("uint32", "INTEGER"), ("uint64", "INTEGER"),
     ("float", "REAL"), ("double", "REAL"), ("decimal", "NUMERIC"), ("date", "TEXT"),
     ("time", "TEXT"), ("datetime", "TEXT"), ("uuid", "TEXT"), ("bytes", "BLOB"),
     ("unspecified", "TEXT")]
  boundedTypes := []
  numericTypes := []
  textLob := "TEXT"
  binaryLob := "BLOB"
  identityClause := ""

/-- Access. -/
def access : Dialect where
  name := "access"
  types :=
    [("string", "TEXT"), ("wstring", "TEXT"), ("char", "TEXT(1)"), ("bool", "YESNO"),
     ("int8", "BYTE"), ("int16", "SHORT"), ("int32", "LONG"), ("int64", "BIGINT"),
     ("uint8", "BYTE"), ("uint16", "LONG"), ("uint32", "DECIMAL(10,0)"),
     ("uint64", "DECIMAL(20,0)"), ("float", "SINGLE"), ("double", "DOUBLE"),
     ("decimal", "DECIMAL"), ("date", "DATETIME"), ("time", "DATETIME"),
     ("datetime", "DATETIME"), ("uuid", "GUID"), ("bytes", "LONGBINARY"),
     ("unspecified", "MEMO")]
  boundedTypes := ["TEXT"]
  numericTypes := ["DECIMAL"]
  textLob := "MEMO"
  binaryLob := "LONGBINARY"
  identityType := some "COUNTER"
  identityClause := ""
  openQuote := "["
  closeQuote := "]"

/-- All dialects. -/
def dialects : List Dialect := [ansi, mysql, postgresql, sqlserver, oracle, sqlite, access]

/-- The names of the dialects, with other names they go by. -/
def dialectNames : List (String × Dialect) :=
  dialects.map (fun d => (d.name, d))
    ++ [("generic", ansi), ("postgres", postgresql), ("mssql", sqlserver)]

/-- The dialect with a name, in any case. -/
def dialect? (name : String) : Option Dialect := dialectNames.lookup (folded name)

end ClassDiagram.Schema
