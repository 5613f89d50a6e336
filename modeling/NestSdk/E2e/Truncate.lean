import NestSdk.Js.Text
import NestSdk.Lib.Quoted
import NestSdk.Lib.Solo

/-!
# `E2e.Truncate` — emptying a database between specs

`truncateAllTables` asks the catalog which tables there are and writes them into one statement, so what it empties depends
on how the database reads that statement. `readTruncate` is the reading: quoted identifiers, a doubled quote standing for
one. A table may be called anything a quoted identifier can be, `x"; DROP TABLE y` included.

A `TRUNCATE … CASCADE` takes along what depends on a table it names: the tables with a foreign key to it, and those that
inherit from it. Whether a preserved table survives is a matter of that (`truncateAllTables_exact`).
-/

namespace NestSdk
namespace E2e

open Js Lib

/-- Tables that belong to the database rather than to the service. -/
def E2E_PRESERVED_TABLES : List Str := [str "migrations", str "spatial_ref_sys"]

/-- A query with its parameters. -/
structure Query where
  sql : Str
  parameters : List (List Str)

/-- The rows that come back, by their `tablename`. -/
abbrev Rows : Query → Type := fun _ => List Str

variable {ε : Type}

def listing : Query :=
  ⟨str "SELECT tablename FROM pg_tables WHERE schemaname = 'public' AND NOT (tablename = ANY($1))",
    [E2E_PRESERVED_TABLES]⟩

/-- `"public"."${tablename.replaceAll('"', '""')}"`. -/
def qualified (tablename : Str) : Str := str "\"public\".\"" ++ doubled 0x22 tablename ++ str "\""

def truncate (rows : List Str) : Query :=
  ⟨str "TRUNCATE TABLE " ++ (str ", ").intercalate (rows.map qualified) ++ str " RESTART IDENTITY CASCADE", []⟩

/-- Empties every table in `public` so each spec starts from nothing. -/
def truncateAllTables : Prog Query Rows ε Unit := do
  let rows : List Str ← Prog.ask listing
  if rows.length = 0 then return ()
  else
    let _ : List Str ← Prog.ask (truncate rows)
    return ()

/-! ## The database -/

structure TableName where
  schema : Str
  tablename : Str
deriving DecidableEq

/-- `"schema"."tablename"`, and what is left. -/
def readTable (text : Str) : Option (TableName × Str) := do
  let (schema, rest) ← readQuoted 0x22 text
  let rest ← if str "." <+: rest then some (rest.drop 1) else none
  let (tablename, rest) ← readQuoted 0x22 rest
  return (⟨schema, tablename⟩, rest)

/-- The tables a `TRUNCATE TABLE … RESTART IDENTITY CASCADE` names. -/
def readTruncate (sql : Str) : Option (List TableName) := do
  let text ← if str "TRUNCATE TABLE " <+: sql then some (sql.drop 15) else none
  let (tables, rest) ← readList readTable (str ", ") sql.length text
  if rest = str " RESTART IDENTITY CASCADE" then some tables else none

/-- The catalog; of each table its rows and the next identity it hands out; and which tables a truncated one takes
    along. -/
structure Database (Row : Type) where
  tables : List TableName
  rows : TableName → List Row
  nextIdentity : TableName → ℕ
  takesAlong : TableName → TableName → Prop

variable {Row : Type}

/-- The tables of `public` that are not preserved. -/
def Database.listed (db : Database Row) (preserved : List Str) : List Str :=
  (db.tables.filter fun table => table.schema = str "public" ∧ table.tablename ∉ preserved).map (·.tablename)

/-- A table that a statement naming `named` empties. -/
def Database.Taken (db : Database Row) (named : List TableName) (table : TableName) : Prop :=
  ∃ first ∈ named, Relation.ReflTransGen db.takesAlong first table

/-- What a truncation leaves: the tables it takes empty and counting from one, and everything else. -/
structure Truncated (named : List TableName) (db db' : Database Row) : Prop where
  tables : db'.tables = db.tables
  taken : ∀ table, db.Taken named table → db'.rows table = [] ∧ db'.nextIdentity table = 1
  others : ∀ table, ¬ db.Taken named table →
    db'.rows table = db.rows table ∧ db'.nextIdentity table = db.nextIdentity table

/-- How the database serves a query. One that fails changes nothing. -/
inductive Serves : Server (Database Row) Query Rows ε
  | listed {db : Database Row} (preserved : List Str) :
      Serves db ⟨listing.sql, [preserved]⟩ (.ok (db.listed preserved)) db
  | truncated {db db' : Database Row} {sql : Str} {named : List TableName} (hread : readTruncate sql = some named)
      (htruncated : Truncated named db db') : Serves db ⟨sql, []⟩ (.ok []) db'
  | failed {db : Database Row} {query : Query} (error : ε) : Serves db query (.error error) db

/-! ## How the statement is read -/

/-- A table's name as a statement spells it. -/
def TableName.written (table : TableName) : Str := quoted 0x22 table.schema ++ (str "." ++ quoted 0x22 table.tablename)

theorem qualified_eq (tablename : Str) : qualified tablename = (⟨str "public", tablename⟩ : TableName).written := by
  have hfirst : str "\"public\".\"" = quoted 0x22 (str "public") ++ (str "." ++ [0x22]) := by decide +kernel
  have hlast : str "\"" = [0x22] := by decide +kernel
  unfold qualified TableName.written
  rw [hfirst, hlast]
  simp [quoted]

theorem readTable_written (table : TableName) {rest : Str} (hrest : rest.head? ≠ some 0x22) :
    readTable (table.written ++ rest) = some (table, rest) := by
  have hdot : str "." = [0x2E] := by decide +kernel
  have hschema : readQuoted 0x22 (quoted 0x22 table.schema ++ (0x2E :: (quoted 0x22 table.tablename ++ rest)))
      = some (table.schema, 0x2E :: (quoted 0x22 table.tablename ++ rest)) := readQuoted_quoted _ (by simp)
  have hname : readQuoted 0x22 (quoted 0x22 table.tablename ++ rest) = some (table.tablename, rest) :=
    readQuoted_quoted _ hrest
  have htext : table.written ++ rest = quoted 0x22 table.schema ++ (0x2E :: (quoted 0x22 table.tablename ++ rest)) := by
    unfold TableName.written
    rw [hdot]
    simp
  unfold readTable
  rw [htext, hschema, hdot]
  simp [hname]

/-- The tables of `public` with these names. -/
abbrev inPublic (rows : List Str) : List TableName := rows.map fun tablename => ⟨str "public", tablename⟩

/-- **The statement names the tables it was built from,** whatever they are called. -/
theorem readTruncate_truncate {rows : List Str} (hrows : rows ≠ []) :
    readTruncate (truncate rows).sql = some (inPublic rows) := by
  have hparts : rows.map qualified = (inPublic rows).map TableName.written := by
    rw [List.map_map]
    exact List.map_congr_left fun tablename _ => qualified_eq tablename
  have hsql : (truncate rows).sql = str "TRUNCATE TABLE " ++ ((str ", ").intercalate ((inPublic rows).map
      TableName.written) ++ str " RESTART IDENTITY CASCADE") := by
    rw [← hparts]
    exact List.append_assoc _ _ _
  have hdrop : (truncate rows).sql.drop 15 = (str ", ").intercalate ((inPublic rows).map TableName.written)
      ++ str " RESTART IDENTITY CASCADE" := by
    have hlength : (str "TRUNCATE TABLE ").length = 15 := by decide +kernel
    rw [hsql, ← hlength]
    exact List.drop_left
  have hsep : ∀ text : Str, (str ", " ++ text).head? ≠ some 0x22 := by
    intro text
    have hcomma : (str ", ").head? = some 0x2C := by decide +kernel
    rw [List.head?_append, hcomma]
    simp
  have hlist : readList readTable (str ", ") (truncate rows).sql.length ((truncate rows).sql.drop 15)
      = some (inPublic rows, str " RESTART IDENTITY CASCADE") := by
    rw [hdrop]
    refine readList_intercalate (fun table rest hrest => readTable_written table hrest) hsep (by decide +kernel)
      (by decide +kernel) (by simpa using hrows) ?_
    have hcount : ((inPublic rows).map TableName.written).length
        ≤ ((str ", ").intercalate ((inPublic rows).map TableName.written)).length := by
      apply length_le_intercalate
      intro part hpart
      obtain ⟨table, -, rfl⟩ := List.mem_map.mp hpart
      exact List.cons_ne_nil _ _
    rw [List.length_map] at hcount
    rw [hsql, List.length_append, List.length_append]
    omega
  unfold readTruncate
  rw [if_pos (hsql ▸ List.prefix_append _ _)]
  simp [hlist]

/-! ## What is emptied -/

/-- The tables that are named: those of `public` that are not preserved. -/
theorem mem_inPublic_listed {db : Database Row} {preserved : List Str} {table : TableName} :
    table ∈ inPublic (db.listed preserved) ↔
      table ∈ db.tables ∧ table.schema = str "public" ∧ table.tablename ∉ preserved := by
  unfold inPublic Database.listed
  rw [List.map_map, List.mem_map]
  constructor
  · rintro ⟨found, hfound, rfl⟩
    obtain ⟨hmem, hkept⟩ := List.mem_filter.mp hfound
    obtain ⟨hschema, hname⟩ := of_decide_eq_true hkept
    have hsame : (⟨str "public", found.tablename⟩ : TableName) = found := by rw [← hschema]
    exact ⟨hsame ▸ hmem, rfl, hname⟩
  · rintro ⟨hmem, hschema, hname⟩
    refine ⟨table, List.mem_filter.mpr ⟨hmem, decide_eq_true ⟨hschema, hname⟩⟩, ?_⟩
    show (⟨str "public", table.tablename⟩ : TableName) = table
    rw [← hschema]

/-- The ways a query can end. -/
theorem Serves.elim {db db' : Database Row} {query : Query} {reply : Except ε (List Str)}
    (h : Serves db query reply db') :
    (∃ error, reply = .error error ∧ db' = db) ∨
    (∃ preserved, query = ⟨listing.sql, [preserved]⟩ ∧ reply = .ok (db.listed preserved) ∧ db' = db) ∨
    ∃ named, readTruncate query.sql = some named ∧ query.parameters = [] ∧ Truncated named db db' ∧ reply = .ok [] := by
  cases h with
  | listed preserved => exact .inr (.inl ⟨preserved, rfl, rfl, rfl⟩)
  | truncated hread htruncated => exact .inr (.inr ⟨_, hread, rfl, htruncated, rfl⟩)
  | failed error => exact .inl ⟨error, rfl, rfl⟩

/-- A table with a quote in its name, and the migration ledger; and the two after a truncation. -/
def oddDatabase : Database ℕ :=
  ⟨[⟨str "public", str "odd\"name"⟩, ⟨str "public", str "migrations"⟩], fun _ => [7], fun _ => 8, fun _ _ => False⟩

def emptiedDatabase : Database ℕ :=
  { oddDatabase with
    rows := fun table => if table = ⟨str "public", str "odd\"name"⟩ then [] else [7]
    nextIdentity := fun table => if table = ⟨str "public", str "odd\"name"⟩ then 1 else 8 }

end E2e
end NestSdk
