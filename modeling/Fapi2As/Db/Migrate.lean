import Fapi2As.Async.Run
import Fapi2As.Db.Pg
import Fapi2As.Js.Map
import Fapi2As.Js.Text
import Fapi2As.Txn.Db
import Mathlib.Data.List.Lex
import Mathlib.Data.List.Sort

set_option relaxedAutoImplicit false
set_option autoImplicit false

/-!
# The migration runner

The runner applies the SQL files of a directory in lexical order, each in a transaction that also
records its name in `schema_migrations`. Several runners may work on one database at the same time,
and any of them may fail or stop at any `await`.

A committed SQL file is kept as an entry of a log, so the log says which files took effect, how
often and in which order. The name of a file is the primary key of `schema_migrations`.

## Main definitions

* `Fapi2As.migrationFiles` — the files to apply, in lexical order.
* `Fapi2As.runMigrations` — the runner.
* `Fapi2As.migrations` — any number of runners on one database, as a system.
-/

namespace Fapi2As

open Js Async Txn

/-! ## The files -/

/-- The order of `Array.prototype.sort()` on strings. -/
def lexicalLe (s t : String) : Bool := codeUnits s ≤ codeUnits t

/-- `f.endsWith(".sql")`. -/
def isSqlFile (f : String) : Bool := ".sql".toList.isSuffixOf f.toList

/-- `entries.filter((f) => f.endsWith(".sql")).sort()`. -/
def migrationFiles (entries : List String) : List String :=
  (entries.filter isSqlFile).insertionSort fun f g => lexicalLe f g

/-! ## The runner -/

/-- The awaited operations of the runner. -/
inductive MigrateCall
  /-- `create table if not exists schema_migrations (…)`. -/
  | createTable
  /-- `readdir(migrationsDir)`. -/
  | readdir
  /-- `select 1 from schema_migrations where id = $1`, on any connection. -/
  | isApplied (file : String)
  /-- `readFile(join(migrationsDir, file), "utf8")`. -/
  | readFile (file : String)
  /-- `pool.connect()`. -/
  | connect
  /-- `client.query(…)`: `begin`, a file, the insertion of its name, `commit` or `rollback`. -/
  | query (client : ℕ) (q : Stmt String String)

/-- What an operation resolves to. -/
@[reducible] def MigrateCall.Res : MigrateCall → Type
  | .createTable | .query _ _ => Unit
  | .readdir => List String
  | .isApplied _ => Bool
  | .readFile _ => String
  | .connect => ℕ

/-- The answers of the operations. -/
@[reducible] def MigrateRet (o : MigrateCall) : Type := Except Fault o.Res

/-- A program of the runner. -/
abbrev Migrator (α : Type) := Prog MigrateRet Fault α

/-- Await an operation. -/
def migrate (o : MigrateCall) : Migrator o.Res := do
  let r ← Prog.perform o
  Prog.settle id r

/-- The statements of a file's transaction. -/
def applyStatements (client : ℕ) (file sql : String) : Migrator Unit := do
  migrate (.query client .begin)
  migrate (.query client (.write sql))
  migrate (.query client (.insert file))
  migrate (.query client .commit)

/-- The `catch` of a file's transaction: roll back and fail with the error. -/
def rollBack (client : ℕ) (err : Fault) : Migrator Unit := do
  migrate (.query client .rollback)
  throw err

/-- Apply one file in a transaction. The client is released in either case, without an `await`. -/
def applyMigration (file : String) : Migrator Unit := do
  let sql ← migrate (.readFile file)
  let client ← migrate .connect
  tryCatch (applyStatements client file sql) (rollBack client)

/-- The loop over the files. -/
def applyAll : List String → Migrator Unit
  | [] => pure ()
  | file :: rest => do
    let applied ← migrate (.isApplied file)
    if applied then applyAll rest
    else do
      applyMigration file
      applyAll rest

/-- `runMigrations`. -/
def runMigrations : Migrator Unit := do
  migrate .createTable
  let entries ← migrate .readdir
  applyAll (migrationFiles entries)

/-! ## The database under several runners -/

/-- The database: whether `schema_migrations` is there, and what is committed and pending: the SQL
that took effect, and the names in the table. -/
structure MigrationDb where
  table : Bool := false
  db : Txn.Db String String := {}

variable (dir : Js.Map String String)

/-- The names in the directory. -/
def dirNames : List String := dir.entries.map Prod.fst

/-- The effect of an operation; its outcome is decided outside. An insertion fails while the table
is not there. -/
def migrateExec : (o : MigrateCall) → Outcome → MigrationDb → Option (MigrateRet o × MigrationDb)
  | .createTable, .done, w => some (.ok (), { w with table := true })
  | .createTable, .failed, w => some (.error .rejected, w)
  | .createTable, .lost took, w => some (.error .rejected, { w with table := w.table || took })
  | .readdir, x, w => some (if x = .done then .ok (dirNames dir) else .error .rejected, w)
  | .isApplied file, x, w =>
    some (if x = .done ∧ w.table then .ok (w.db.keys.contains file) else .error .rejected, w)
  | .readFile file, x, w =>
    match dir.get? file with
    | some sql => some (if x = .done then .ok sql else .error .rejected, w)
    | none => some (.error .rejected, w)
  | .connect, x, w =>
    if x = .done then some (.ok w.db.connect.1, { w with db := w.db.connect.2 })
    else some (.error .rejected, w)
  | .query client (.insert file), x, w =>
    (w.db.exec client (if w.table then x else .failed) (.insert file)).map fun y =>
      (if y.1 then .ok () else .error .rejected, { w with db := y.2 })
  | .query client q, x, w =>
    (w.db.exec client x q).map fun y =>
      (if y.1 then .ok () else .error .rejected, { w with db := y.2 })

/-- The loss of a connection: its transaction is dropped. A runner that has crashed loses its
connection. -/
def loseConnection (client : ℕ) (w : MigrationDb) : Option MigrationDb :=
  some { w with db := w.db.put client .lost }

/-- **Any number of runners on one database**, which starts without any migration. -/
@[reducible] def migrations : Sys MigrateRet Fault Unit where
  Req := Unit
  World := MigrationDb
  Oracle := Outcome
  Env := ℕ
  Start w := w = {}
  handler _ := runMigrations
  exec := migrateExec dir
  env := loseConnection

end Fapi2As
