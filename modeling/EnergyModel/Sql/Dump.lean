import EnergyModel.Sql.Schema
import EnergyModel.Decimal.Format

/-!
# Databases as SQL text

A database written out as the statements that rebuild it: every schema object's own statement
in creation order, each table's followed by one `INSERT` per row in row id order, then the
counters of the `AUTOINCREMENT` tables. Two databases with the same text hold the same schema
and rows.

A real is written in its shortest round-trip form, so reading the text back gives the same
doubles; an infinity is written as `1e999`, which reads back as one. Text is quoted with its
quotes doubled, and a blob is written in hexadecimal.
-/

namespace EnergyModel.Sql

/-- A name as a quoted identifier. -/
def quoteName (name : String) : String :=
  "\"" ++ String.join (name.toList.map fun c => if c == '"' then "\"\"" else c.toString) ++ "\""

/-- The two hexadecimal digits of a byte. -/
def byteHex (b : UInt8) : String :=
  let digit (n : Nat) : Char := "0123456789ABCDEF".toList.getD n '0'
  String.ofList [digit (b.toNat / 16), digit (b.toNat % 16)]

/-- A value as an SQL literal. -/
def Value.literal : Value → String
  | .null => "NULL"
  | .integer n => toString n
  | .real x =>
    if x.isNaN then "NULL"
    else if x.isInf then (if x > 0 then "1e999" else "-1e999")
    else Decimal.compactText x
  | .text s => "'" ++ String.join (s.toList.map fun c => if c == '\'' then "''" else c.toString) ++ "'"
  | .blob bs => "X'" ++ String.join (bs.map byteHex) ++ "'"

/-- The statements that rebuild one schema object and its rows. -/
def SchemaObject.script : SchemaObject → String
  | .table t =>
    t.sql ++ ";\n" ++
      String.join (t.rows.map fun r =>
        "INSERT INTO " ++ quoteName t.name ++ "(rowid, " ++ ", ".intercalate (t.columns.map (quoteName ·.name)) ++
          ") VALUES (" ++ ", ".intercalate (toString r.rowid :: r.values.map Value.literal) ++ ");\n")
  | .index i => (i.sql.map (· ++ ";\n")).getD ""
  | .view v => v.sql ++ ";\n"
  | .trigger tr => tr.sql ++ ";\n"
  | .counters _ => ""

/-- The statements that rebuild a database, object by object in creation order. -/
def Database.script (db : Database) : String :=
  String.join (db.objects.map SchemaObject.script) ++
    String.join (db.sequence.map fun (n, v) => "-- sequence " ++ quoteName n ++ " " ++ toString v ++ "\n")

end EnergyModel.Sql
