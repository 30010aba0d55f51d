import Fapi2As.Async.BigStep
import Fapi2As.Db.Migrate

set_option relaxedAutoImplicit false
set_option autoImplicit false

/-!
# Migrations are applied exactly once and in order

Whatever the interleaving of several runners and wherever they fail, a file's SQL and its name are
committed together. A runner that applies a file has seen the files before it recorded, and the
primary key lets one of the runners through that try to record the same file, so what is recorded is
always a prefix of the files.

## Main definitions

* `Fapi2As.Phase`, `Fapi2As.Phase.prog` — the points at which a runner awaits, and what is left.
* `Fapi2As.Phase.Holds` — what a runner knows at each of them.
* `Fapi2As.AppliedInOrder` — the invariant of the database.

## Main results

* `Fapi2As.Phase.step` — what one operation of a runner does.
* `Fapi2As.MigrationRun.inv` — the invariant of all runs.
* `Fapi2As.migrations_exactly_once` — exactly once and in order, and a later undisturbed runner
  ends.
-/

namespace Fapi2As

open Js Async Txn

/-- **The points at which a runner awaits.** A file to apply comes with the files after it. -/
inductive Phase
  | create
  | list
  | loop (files : List String)
  | read (file : String) (rest : List String)
  | connect (file sql : String) (rest : List String)
  | begin (client : ℕ) (file sql : String) (rest : List String)
  | write (client : ℕ) (file sql : String) (rest : List String)
  | insert (client : ℕ) (file sql : String) (rest : List String)
  | commit (client : ℕ) (file sql : String) (rest : List String)
  | rollback (client : ℕ) (file : String) (rest : List String) (err : Fault)
  | failed (err : Fault)

namespace Phase

/-- The statements that are left in a file's transaction. -/
def applying (client : ℕ) (rest : List String) (p : Migrator Unit) : Migrator Unit :=
  tryCatch p (rollBack client) >>= fun _ => applyAll rest

/-- **What is left of a runner** at each point. -/
def prog : Phase → Migrator Unit
  | create => runMigrations
  | list => migrate .readdir >>= fun entries => applyAll (migrationFiles entries)
  | loop files => applyAll files
  | read file rest => applyMigration file >>= fun _ => applyAll rest
  | connect file sql rest =>
    (migrate .connect >>= fun client => tryCatch (applyStatements client file sql)
      (rollBack client)) >>= fun _ => applyAll rest
  | begin client file sql rest => applying client rest (applyStatements client file sql)
  | write client file sql rest => applying client rest do
      migrate (.query client (.write sql))
      migrate (.query client (.insert file))
      migrate (.query client .commit)
  | insert client file _ rest => applying client rest do
      migrate (.query client (.insert file))
      migrate (.query client .commit)
  | commit client _ _ rest => applying client rest (migrate (.query client .commit))
  | rollback client _ rest err => rollBack client err >>= fun _ => applyAll rest
  | failed err => .throw err

/-- The connection of a runner. -/
def client? : Phase → Option ℕ
  | begin client _ _ _ | write client _ _ _ | insert client _ _ _ | commit client _ _ _
  | rollback client _ _ _ => some client
  | _ => none

end Phase

variable (dir : Js.Map String String)

/-- The files to apply. -/
def dirFiles : List String := migrationFiles (dirNames dir)

/-- The SQL of a file. -/
def dirSql (file : String) : String := (dir.get? file).getD ""

/-- **Exactly once and in order**: what is recorded is a prefix of the files, and the SQL of exactly
these files took effect, in this order. -/
structure AppliedInOrder (d : Txn.Db String String) : Prop where
  unique : d.Unique
  prefix_ : d.keys <+: dirFiles dir
  writes : d.writes = d.keys.map (dirSql dir)

/-- A runner is at a file: those before it are recorded. -/
def AtFile (d : Txn.Db String String) (files : List String) : Prop :=
  ∃ past, dirFiles dir = past ++ files ∧ past <+: d.keys

/-- **What a runner knows** at each point: the files before its own are recorded, and its connection
is lost or holds what it has done of the transaction. -/
def Phase.Holds (d : Txn.Db String String) : Phase → Prop
  | create | list | failed _ => True
  | loop files => AtFile dir d files
  | read file rest => AtFile dir d (file :: rest)
  | connect file sql rest => AtFile dir d (file :: rest) ∧ sql = dirSql dir file
  | begin client file sql rest => AtFile dir d (file :: rest) ∧ sql = dirSql dir file ∧
      client < d.next ∧ (d.session client = .lost ∨ d.session client = .idle)
  | write client file sql rest => AtFile dir d (file :: rest) ∧ sql = dirSql dir file ∧
      client < d.next ∧ (d.session client = .lost ∨ d.session client = .active {})
  | insert client file sql rest => AtFile dir d (file :: rest) ∧ sql = dirSql dir file ∧
      client < d.next ∧ (d.session client = .lost ∨ d.session client = .active { writes := [sql] })
  | commit client file sql rest => AtFile dir d (file :: rest) ∧ sql = dirSql dir file ∧
      client < d.next ∧ (d.session client = .lost ∨
        d.session client = .active { writes := [sql], keys := [file] })
  | rollback client _ _ _ => client < d.next

variable {dir} {d d' : Txn.Db String String} {φ : Phase}

/-- No file is listed twice. -/
lemma dirFiles_nodup (dir : Js.Map String String) : (dirFiles dir).Nodup :=
  (List.perm_insertionSort _ _).nodup_iff.mpr (dir.nodup.filter _)

lemma AtFile.mono {files : List String} (h : AtFile dir d files) (hkeys : d.keys <+: d'.keys) :
    AtFile dir d' files := by
  obtain ⟨past, heq, hpast⟩ := h
  exact ⟨past, heq, hpast.trans hkeys⟩

/-- A file that is recorded is behind the runner. -/
lemma AtFile.next {file : String} {rest : List String} (h : AtFile dir d (file :: rest))
    (hd : AppliedInOrder dir d) (hfile : file ∈ d.keys) : AtFile dir d rest := by
  obtain ⟨past, heq, more, hmore⟩ := h
  refine ⟨past ++ [file], by simpa using heq, ?_⟩
  cases more with
  | nil =>
    have hpast : file ∈ past := by
      rw [← hmore, List.append_nil] at hfile
      exact hfile
    have hnodup := dirFiles_nodup dir
    rw [heq, List.nodup_append] at hnodup
    exact absurd rfl (hnodup.2.2 file hpast file List.mem_cons_self)
  | cons f more =>
    obtain ⟨after, hafter⟩ := hd.prefix_
    rw [← hmore, heq, List.append_assoc, List.append_cancel_left_eq] at hafter
    obtain rfl : f = file := (List.cons.inj hafter).1
    exact ⟨more, by simpa using hmore⟩

/-- **What a runner knows stays true** while others commit more, and its connection stays as it is
or is lost. -/
lemma Phase.Holds.mono (h : φ.Holds dir d) (hkeys : d.keys <+: d'.keys) (hnext : d.next ≤ d'.next)
    (hclient : ∀ s, φ.client? = some s → d'.session s = d.session s ∨ d'.session s = .lost) :
    φ.Holds dir d' := by
  have hsession : ∀ {s : ℕ} {x : Session String String}, φ.client? = some s →
      (d.session s = .lost ∨ d.session s = x) → d'.session s = .lost ∨ d'.session s = x := by
    intro s x hs hx
    rcases hclient s hs with heq | hlost
    · rw [heq]
      exact hx
    · exact .inl hlost
  cases φ with
  | create => trivial
  | list => trivial
  | failed err => trivial
  | loop files => exact AtFile.mono h hkeys
  | read file rest => exact AtFile.mono h hkeys
  | connect file sql rest => exact ⟨h.1.mono hkeys, h.2⟩
  | rollback client file rest err => exact Nat.lt_of_lt_of_le h hnext
  | begin client file sql rest =>
    obtain ⟨hat, hsql, hlt, hs⟩ := h
    exact ⟨hat.mono hkeys, hsql, by omega, hsession rfl hs⟩
  | write client file sql rest =>
    obtain ⟨hat, hsql, hlt, hs⟩ := h
    exact ⟨hat.mono hkeys, hsql, by omega, hsession rfl hs⟩
  | insert client file sql rest =>
    obtain ⟨hat, hsql, hlt, hs⟩ := h
    exact ⟨hat.mono hkeys, hsql, by omega, hsession rfl hs⟩
  | commit client file sql rest =>
    obtain ⟨hat, hsql, hlt, hs⟩ := h
    exact ⟨hat.mono hkeys, hsql, by omega, hsession rfl hs⟩

/-- The connection of a runner was opened. -/
lemma Phase.Holds.client_lt (h : φ.Holds dir d) {s : ℕ} (hs : φ.client? = some s) : s < d.next := by
  cases φ with
  | rollback client file rest err => exact Option.some.inj hs ▸ h
  | begin client file sql rest => exact Option.some.inj hs ▸ h.2.2.1
  | write client file sql rest => exact Option.some.inj hs ▸ h.2.2.1
  | insert client file sql rest => exact Option.some.inj hs ▸ h.2.2.1
  | commit client file sql rest => exact Option.some.inj hs ▸ h.2.2.1
  | _ => cases hs

/-! ## One operation -/

/-- An operation of a runner takes it from one point to the next and keeps what holds of the
database; it touches no connection but the runner's own, which it may have just opened. -/
structure Moves (dir : Js.Map String String) (d d' : Txn.Db String String) (φ φ' : Phase) :
    Prop where
  holds : φ'.Holds dir d'
  applied : AppliedInOrder dir d'
  keys : d.keys <+: d'.keys
  next : d.next ≤ d'.next
  client : ∀ s, φ'.client? = some s → φ.client? = some s ∨ s = d.next
  others : ∀ t, φ.client? ≠ some t → t < d.next → d'.session t = d.session t

/-- An operation that leaves the database as it is. -/
lemma Moves.same {φ' : Phase} (hd : AppliedInOrder dir d) (h : φ'.Holds dir d)
    (hclient : φ'.client? = none) : Moves dir d d φ φ' where
  holds := h
  applied := hd
  keys := List.prefix_rfl
  next := Nat.le_refl _
  client s hs := by
    rw [hclient] at hs
    cases hs
  others _ _ _ := rfl

/-- A statement of the runner's connection. -/
lemma Moves.of_exec {c : ℕ} {o : Outcome} {q : Stmt String String} {b : Bool} {φ' : Phase}
    (hd : AppliedInOrder dir d) (hc : φ.client? = some c) (hx : d.exec c o q = some (b, d'))
    (hd' : AppliedInOrder dir d') (h : φ'.Holds dir d')
    (hclient : ∀ s, φ'.client? = some s → s = c) : Moves dir d d' φ φ' := by
  have hsince := (Db.exec_effect hd.unique hx).since
  refine ⟨h, hd', hsince.keys, hsince.next, fun s hs => ?_, fun t ht _ => ?_⟩
  · rw [hclient s hs]
    exact .inl hc
  · apply hsince.others t
    rintro rfl
    exact ht hc

/-- A statement of a transaction that commits nothing. -/
lemma Moves.statement {c : ℕ} {o : Outcome} {q : Stmt String String} {b : Bool} {φ' : Phase}
    (hd : AppliedInOrder dir d) (hc : φ.client? = some c) (hx : d.exec c o q = some (b, d'))
    (hq : d.Pends c q) (h : φ'.Holds dir d')
    (hclient : ∀ s, φ'.client? = some s → s = c) : Moves dir d d' φ φ' := by
  obtain ⟨hwrites, hkeys⟩ := Db.exec_keeps hq hx
  refine .of_exec hd hc hx ⟨hd.unique.exec hx, ?_, ?_⟩ h hclient
  · rw [hkeys]
    exact hd.prefix_
  · rw [hwrites, hkeys]
    exact hd.writes

/-- A statement that did not succeed leads to the rollback. -/
lemma Moves.fails {c : ℕ} {file : String} {rest : List String} {o : Outcome}
    {q : Stmt String String} {b : Bool} {err : Fault} (hd : AppliedInOrder dir d)
    (hc : φ.client? = some c) (hlt : c < d.next) (hx : d.exec c o q = some (b, d'))
    (hq : d.Pends c q) : Moves dir d d' φ (.rollback c file rest err) := by
  have hsince := (Db.exec_effect hd.unique hx).since
  exact .statement hd hc hx hq (Nat.lt_of_lt_of_le hlt hsince.next)
    fun s hs => (Option.some.inj hs).symm

/-- A statement of a transaction that succeeds leads to the next one. -/
lemma Moves.inside {c : ℕ} {files : List String} {o : Outcome} {q : Stmt String String}
    {φ' : Phase} (hd : AppliedInOrder dir d) (hc : φ.client? = some c)
    (hx : d.exec c o q = some (true, d')) (hq : d.Pends c q) (hat : AtFile dir d files)
    (hlt : c < d.next) (hc' : φ'.client? = some c)
    (h : AtFile dir d' files → c < d'.next → φ'.Holds dir d') : Moves dir d d' φ φ' := by
  have hsince := (Db.exec_effect hd.unique hx).since
  refine .statement hd hc hx hq (h (hat.mono hsince.keys) (by have := hsince.next; omega)) ?_
  intro s hs
  rw [hc'] at hs
  exact (Option.some.inj hs).symm

/-- A new connection. -/
lemma Moves.connect {file sql : String} {rest : List String} (hd : AppliedInOrder dir d)
    (h : AtFile dir d (file :: rest) ∧ sql = dirSql dir file) :
    Moves dir d d.connect.2 φ (.begin d.next file sql rest) where
  holds := ⟨h.1, h.2, Nat.lt_succ_self _, .inr (Function.update_self _ _ _)⟩
  applied := ⟨hd.unique.connect, hd.prefix_, hd.writes⟩
  keys := List.prefix_rfl
  next := Nat.le_succ _
  client _ hs := .inr (Option.some.inj hs).symm
  others _ _ ht := Function.update_of_ne (Nat.ne_of_lt ht) _ _

/-- The files before the one whose transaction is ready to commit are exactly those recorded. -/
lemma keys_eq_of_ready {past rest : List String} {file : String} (hd : AppliedInOrder dir d)
    (hfiles : dirFiles dir = past ++ file :: rest) (hpast : past <+: d.keys)
    (hnew : file ∉ d.keys) : d.keys = past := by
  obtain ⟨more, hmore⟩ := hpast
  cases more with
  | nil => simpa using hmore.symm
  | cons f more =>
    obtain ⟨after, hafter⟩ := hd.prefix_
    rw [← hmore, hfiles, List.append_assoc, List.append_cancel_left_eq] at hafter
    have hf : f = file := (List.cons.inj hafter).1
    exact absurd (by rw [← hmore, hf]; simp) hnew

/-- A connection that is lost or in a transaction is not outside one. -/
lemma not_idle_of_active {c : ℕ} {p : Pending String String}
    (h : d.session c = .lost ∨ d.session c = .active p) : d.session c ≠ .idle := by
  rcases h with h | h
  · rw [h]
    nofun
  · rw [h]
    nofun

/-- What is recorded next is the next file, with its SQL. -/
lemma AppliedInOrder.snoc {past rest : List String} {file : String}
    (hd : AppliedInOrder dir d) (hfiles : dirFiles dir = past ++ file :: rest)
    (hpast : d.keys = past) (hunique : d'.Unique) (hkeys : d'.keys = d.keys ++ [file])
    (hwrites : d'.writes = d.writes ++ [dirSql dir file]) : AppliedInOrder dir d' := by
  refine ⟨hunique, ?_, ?_⟩
  · rw [hkeys, hpast, hfiles]
    exact ⟨rest, by simp⟩
  · rw [hwrites, hkeys, hd.writes, List.map_append]
    rfl

/-- **The commit of a file's transaction** records the next file, with its SQL. -/
lemma applied_commit {c : ℕ} {past rest : List String} {file : String}
    (hd : AppliedInOrder dir d) (hfiles : dirFiles dir = past ++ file :: rest)
    (hpast : past <+: d.keys)
    (hs : d.session c = .active { writes := [dirSql dir file], keys := [file] })
    (hunique : d'.Unique) (hkeys : d'.keys = d.keys ++ [file])
    (hwrites : d'.writes = d.writes ++ [dirSql dir file]) :
    AppliedInOrder dir d' ∧ d'.keys = past ++ [file] := by
  have hnew : file ∉ d.keys := (hd.unique.pending c _ hs).2 file List.mem_cons_self
  have hpasteq := keys_eq_of_ready hd hfiles hpast hnew
  exact ⟨hd.snoc hfiles hpasteq hunique hkeys hwrites, by rw [hkeys, hpasteq]⟩

/-- What a query does is one statement of the connection. -/
lemma query_cases {c : ℕ} {q : Stmt String String} {x : Outcome} {w w' : MigrationDb}
    {r : Except Fault Unit} (hx : migrateExec dir (.query c q) x w = some (r, w')) :
    ∃ o b, w.db.exec c o q = some (b, w'.db) ∧
      r = if b then .ok () else .error Fault.rejected := by
  cases q with
  | insert file =>
    obtain ⟨y, hy, heq⟩ := Option.map_eq_some_iff.mp hx
    obtain ⟨rfl, rfl⟩ := Prod.mk.inj heq
    exact ⟨_, y.1, hy, rfl⟩
  | _ =>
    obtain ⟨y, hy, heq⟩ := Option.map_eq_some_iff.mp hx
    obtain ⟨rfl, rfl⟩ := Prod.mk.inj heq
    exact ⟨x, y.1, hy, rfl⟩

/-- **What one operation of a runner does.**

**Proof sketch.** By the points of the runner. A statement that does not succeed leads to the
rollback, whatever became of the connection; the commit of a transaction that is ready records the
next file, since the files before it are recorded and its own is not. -/
theorem Phase.step {o : MigrateCall} {k : MigrateRet o → Migrator Unit} {x : Outcome}
    {w w' : MigrationDb} {r : MigrateRet o} (hd : AppliedInOrder dir w.db)
    (h : φ.Holds dir w.db) (hcall : φ.prog = .call o k)
    (hx : migrateExec dir o x w = some (r, w')) :
    ∃ φ', k r = φ'.prog ∧ Moves dir w.db w'.db φ φ' := by
  cases φ with
  | create =>
    have hprog : create.prog = .call .createTable fun r =>
      Prog.settle id r >>= fun _ => list.prog := rfl
    obtain ⟨⟩ := hprog.symm.trans hcall
    have hdb : w'.db = w.db := by
      cases x <;> exact (congrArg (·.2.db) (Option.some.inj hx)).symm
    rw [hdb]
    cases r with
    | ok a => exact ⟨list, rfl, .same hd trivial rfl⟩
    | error e => exact ⟨failed e, rfl, .same hd trivial rfl⟩
  | list =>
    have hprog : list.prog = .call .readdir fun r =>
      Prog.settle id r >>= fun entries => applyAll (migrationFiles entries) := rfl
    obtain ⟨⟩ := hprog.symm.trans hcall
    obtain ⟨hr, rfl⟩ := Prod.mk.inj (Option.some.inj hx)
    split_ifs at hr with hdone
    · subst hr
      exact ⟨loop (dirFiles dir), rfl, .same hd ⟨[], rfl, List.nil_prefix⟩ rfl⟩
    · subst hr
      exact ⟨failed _, rfl, .same hd trivial rfl⟩
  | loop files =>
    cases files with
    | nil => cases hcall
    | cons file rest =>
      have hprog : (loop (file :: rest)).prog = .call (.isApplied file) fun r =>
        Prog.settle id r >>= fun applied => if applied then applyAll rest
          else applyMigration file >>= fun _ => applyAll rest := rfl
      obtain ⟨⟩ := hprog.symm.trans hcall
      obtain ⟨hr, rfl⟩ := Prod.mk.inj (Option.some.inj hx)
      split_ifs at hr with hdone
      · cases hin : w.db.keys.contains file with
        | true =>
          rw [hin] at hr
          subst hr
          exact ⟨loop rest, rfl, .same hd (AtFile.next h hd (by simpa using hin)) rfl⟩
        | false =>
          rw [hin] at hr
          subst hr
          exact ⟨read file rest, rfl, .same hd h rfl⟩
      · subst hr
        exact ⟨failed _, rfl, .same hd trivial rfl⟩
  | read file rest =>
    have hprog : (read file rest).prog = .call (.readFile file) fun r =>
      (Prog.settle id r >>= fun sql => migrate .connect >>= fun client =>
        tryCatch (applyStatements client file sql) (rollBack client)) >>= fun _ =>
          applyAll rest := rfl
    obtain ⟨⟩ := hprog.symm.trans hcall
    simp only [migrateExec] at hx
    split at hx
    · rename_i sql hsql
      obtain ⟨hr, rfl⟩ := Prod.mk.inj (Option.some.inj hx)
      split_ifs at hr
      · subst hr
        exact ⟨connect file sql rest, rfl, .same hd ⟨h, by rw [dirSql, hsql]; rfl⟩ rfl⟩
      · subst hr
        exact ⟨failed _, rfl, .same hd trivial rfl⟩
    · obtain ⟨rfl, rfl⟩ := Prod.mk.inj (Option.some.inj hx)
      exact ⟨failed _, rfl, .same hd trivial rfl⟩
  | connect file sql rest =>
    have hprog : (connect file sql rest).prog = .call .connect fun r =>
      (Prog.settle id r >>= fun client =>
        tryCatch (applyStatements client file sql) (rollBack client)) >>= fun _ =>
          applyAll rest := rfl
    obtain ⟨⟩ := hprog.symm.trans hcall
    simp only [migrateExec] at hx
    split_ifs at hx
    · obtain ⟨rfl, rfl⟩ := Prod.mk.inj (Option.some.inj hx)
      exact ⟨begin w.db.next file sql rest, rfl, .connect hd h⟩
    · obtain ⟨rfl, rfl⟩ := Prod.mk.inj (Option.some.inj hx)
      exact ⟨failed _, rfl, .same hd trivial rfl⟩
  | begin client file sql rest =>
    have hprog : (begin client file sql rest).prog = .call (.query client .begin) fun r =>
      applying client rest (Prog.settle id r >>= fun _ => do
        migrate (.query client (.write sql))
        migrate (.query client (.insert file))
        migrate (.query client .commit)) := rfl
    obtain ⟨⟩ := hprog.symm.trans hcall
    obtain ⟨hat, hsql, hlt, hs⟩ := h
    obtain ⟨o, b, hexec, rfl⟩ := query_cases hx
    cases b with
    | true =>
      have hidle := hs.resolve_left (Db.not_lost_of_ok hexec)
      exact ⟨write client file sql rest, rfl, .inside hd rfl hexec trivial hat hlt rfl
        fun hat hlt => ⟨hat, hsql, hlt, .inr (Db.exec_begin hidle hexec)⟩⟩
    | false => exact ⟨rollback client file rest _, rfl, .fails hd rfl hlt hexec trivial⟩
  | write client file sql rest =>
    have hprog : (write client file sql rest).prog = .call (.query client (.write sql)) fun r =>
      applying client rest (Prog.settle id r >>= fun _ => do
        migrate (.query client (.insert file))
        migrate (.query client .commit)) := rfl
    obtain ⟨⟩ := hprog.symm.trans hcall
    obtain ⟨hat, hsql, hlt, hs⟩ := h
    have hpends : w.db.Pends client (.write sql) := not_idle_of_active hs
    obtain ⟨o, b, hexec, rfl⟩ := query_cases hx
    cases b with
    | true =>
      have hactive := hs.resolve_left (Db.not_lost_of_ok hexec)
      exact ⟨insert client file sql rest, rfl, .inside hd rfl hexec hpends hat hlt rfl
        fun hat hlt => ⟨hat, hsql, hlt, .inr (Db.exec_write hactive hexec)⟩⟩
    | false => exact ⟨rollback client file rest _, rfl, .fails hd rfl hlt hexec hpends⟩
  | insert client file sql rest =>
    have hprog : (insert client file sql rest).prog = .call (.query client (.insert file)) fun r =>
      applying client rest (Prog.settle id r >>= fun _ => migrate (.query client .commit)) := rfl
    obtain ⟨⟩ := hprog.symm.trans hcall
    obtain ⟨hat, hsql, hlt, hs⟩ := h
    have hpends : w.db.Pends client (.insert file) := not_idle_of_active hs
    obtain ⟨o, b, hexec, rfl⟩ := query_cases hx
    cases b with
    | true =>
      have hactive := hs.resolve_left (Db.not_lost_of_ok hexec)
      exact ⟨commit client file sql rest, rfl, .inside hd rfl hexec hpends hat hlt rfl
        fun hat hlt => ⟨hat, hsql, hlt, .inr (Db.exec_insert hactive hexec)⟩⟩
    | false => exact ⟨rollback client file rest _, rfl, .fails hd rfl hlt hexec hpends⟩
  | commit client file sql rest =>
    have hprog : (commit client file sql rest).prog = .call (.query client .commit) fun r =>
      applying client rest (Prog.settle id r) := rfl
    obtain ⟨⟩ := hprog.symm.trans hcall
    obtain ⟨hat, rfl, hlt, hs⟩ := h
    obtain ⟨o, b, hexec, rfl⟩ := query_cases hx
    rcases hs with hlost | hactive
    · -- the connection is lost, and the commit with it
      have hb : b = false := by
        rw [Db.exec_lost hlost] at hexec
        exact (Prod.mk.inj (Option.some.inj hexec)).1.symm
      subst hb
      exact ⟨rollback client file rest _, rfl, .fails hd rfl hlt hexec hlost⟩
    · rcases Db.exec_commit hactive rfl hexec with ⟨hkeys, hwrites⟩ | ⟨rfl, hkeys, hwrites⟩
      · obtain ⟨past, hfiles, hpast⟩ := hat
        obtain ⟨hd', hrecorded⟩ :=
          applied_commit hd hfiles hpast hactive (hd.unique.exec hexec) hkeys hwrites
        have hnext : AtFile dir w'.db rest :=
          ⟨past ++ [file], by simpa using hfiles, hrecorded ▸ List.prefix_rfl⟩
        cases b with
        | true => exact ⟨loop rest, rfl, .of_exec hd rfl hexec hd' hnext fun s hs => by cases hs⟩
        | false => exact ⟨rollback client file rest _, rfl, .of_exec hd rfl hexec hd'
            (Nat.lt_of_lt_of_le hlt (Db.exec_effect hd.unique hexec).since.next)
            fun s hs => (Option.some.inj hs).symm⟩
      · have hd' : AppliedInOrder dir w'.db := ⟨hd.unique.exec hexec, by
          rw [hkeys]
          exact hd.prefix_, by
          rw [hwrites, hkeys]
          exact hd.writes⟩
        exact ⟨rollback client file rest _, rfl, .of_exec hd rfl hexec hd'
          (Nat.lt_of_lt_of_le hlt (Db.exec_effect hd.unique hexec).since.next)
          fun s hs => (Option.some.inj hs).symm⟩
  | rollback client file rest err =>
    have hprog : (rollback client file rest err).prog = .call (.query client .rollback) fun r =>
      (Prog.settle id r >>= fun _ => throw err) >>= fun _ => applyAll rest := rfl
    obtain ⟨⟩ := hprog.symm.trans hcall
    obtain ⟨o, b, hexec, rfl⟩ := query_cases hx
    cases b with
    | true =>
      exact ⟨failed err, rfl, .statement hd rfl hexec trivial trivial fun s hs => by cases hs⟩
    | false =>
      exact ⟨failed _, rfl, .statement hd rfl hexec trivial trivial fun s hs => by cases hs⟩
  | failed err => cases hcall

/-! ## Runs -/

/-- A run of any number of runners on one database. -/
abbrev MigrationRun (dir : Js.Map String String) := Run (migrations dir)

/-- **The runners at a moment**: each is at a point, knows what holds there, and has a connection of
its own. -/
structure MigrationRun.Tracks (R : MigrationRun dir) (i : ℕ) (φ : ℕ → Phase) : Prop where
  prog : ∀ pid p, R.proc i pid = some p → p.todo = (φ pid).prog
  holds : ∀ pid p, R.proc i pid = some p → (φ pid).Holds dir (R.world i).db
  apart : ∀ pid pid' p p' s, pid ≠ pid' → R.proc i pid = some p → R.proc i pid' = some p' →
    (φ pid).client? = some s → (φ pid').client? ≠ some s

namespace MigrationRun

variable {R : MigrationRun dir} {i : ℕ} {φ : ℕ → Phase}

/-- A new runner starts at its first point. -/
lemma Tracks.arrive (h : R.Tracks i φ) (hworld : R.world (i + 1) = R.world i)
    (hprocs : (R.conf (i + 1)).procs =
      (R.conf i).procs ++ [⟨(), [], (migrations dir).handler ()⟩]) :
    R.Tracks (i + 1) (Function.update φ (R.conf i).procs.length .create) := by
  have hold : ∀ pid p, R.proc (i + 1) pid = some p →
      pid = (R.conf i).procs.length ∧ p.todo = Phase.create.prog ∨
        pid ≠ (R.conf i).procs.length ∧ R.proc i pid = some p := by
    intro pid p hp
    rw [Run.proc, hprocs, List.getElem?_append] at hp
    split_ifs at hp with hlt
    · exact .inr ⟨Nat.ne_of_lt hlt, hp⟩
    · obtain ⟨hsub, hp⟩ := List.getElem?_eq_some_iff.mp hp
      have heq : pid = (R.conf i).procs.length := by
        rw [List.length_singleton] at hsub
        omega
      subst heq
      exact .inl ⟨rfl, by simp [← hp]; rfl⟩
  refine ⟨fun pid p hp => ?_, fun pid p hp => ?_, fun pid pid' p p' s hne hp hp' => ?_⟩
  · rcases hold pid p hp with ⟨rfl, htodo⟩ | ⟨hpid, hp⟩
    · rw [Function.update_self]
      exact htodo
    · rw [Function.update_of_ne hpid]
      exact h.prog pid p hp
  · rw [hworld]
    rcases hold pid p hp with ⟨rfl, -⟩ | ⟨hpid, hp⟩
    · rw [Function.update_self]
      trivial
    · rw [Function.update_of_ne hpid]
      exact h.holds pid p hp
  · rcases hold pid p hp with ⟨rfl, -⟩ | ⟨hpid, hp⟩
    · rw [Function.update_self]
      intro h
      cases h
    · rcases hold pid' p' hp' with ⟨rfl, -⟩ | ⟨hpid', hp'⟩
      · rw [Function.update_self]
        intro _ h
        cases h
      · rw [Function.update_of_ne hpid, Function.update_of_ne hpid']
        exact h.apart pid pid' p p' s hne hp hp'

/-- The loss of a connection leaves every runner at its point. -/
lemma Tracks.drop (h : R.Tracks i φ) {c : ℕ}
    (hworld : (R.world (i + 1)).db = (R.world i).db.put c .lost)
    (hprocs : (R.conf (i + 1)).procs = (R.conf i).procs) : R.Tracks (i + 1) φ := by
  have hproc : ∀ pid, R.proc (i + 1) pid = R.proc i pid := fun pid => by
    rw [Run.proc, hprocs]
    rfl
  refine ⟨fun pid p hp => h.prog pid p (hproc pid ▸ hp), fun pid p hp => ?_,
    fun pid pid' p p' s hne hp hp' =>
      h.apart pid pid' p p' s hne (hproc pid ▸ hp) (hproc pid' ▸ hp')⟩
  rw [hworld]
  refine (h.holds pid p (hproc pid ▸ hp)).mono List.prefix_rfl (Nat.le_refl _) fun s _ => ?_
  by_cases hs : s = c
  · subst hs
    exact .inr (Function.update_self _ _ _)
  · exact .inl (Function.update_of_ne hs _ _)

/-- An operation of one runner takes it to its next point and leaves the others at theirs. -/
lemma Tracks.move (h : R.Tracks i φ) {pid : ℕ} {p p' : Proc (migrations dir)} {φ' : Phase}
    (hp : R.proc i pid = some p) (hp' : R.proc (i + 1) pid = some p')
    (htodo : p'.todo = φ'.prog) (hothers : ∀ q, q ≠ pid → R.proc (i + 1) q = R.proc i q)
    (hmoves : Moves dir (R.world i).db (R.world (i + 1)).db (φ pid) φ') :
    R.Tracks (i + 1) (Function.update φ pid φ') := by
  -- the connection of another runner is neither the one's own nor one that it has just opened
  have hclient : ∀ q pq s, q ≠ pid → R.proc i q = some pq → (φ q).client? = some s →
      φ'.client? ≠ some s ∧ (R.world (i + 1)).db.session s = (R.world i).db.session s := by
    intro q pq s hq hpq hs
    have hlt := (h.holds q pq hpq).client_lt hs
    have hown := h.apart q pid pq p s hq hpq hp hs
    refine ⟨fun hs' => ?_, hmoves.others s hown hlt⟩
    rcases hmoves.client s hs' with hold | hnew
    · exact hown hold
    · omega
  refine ⟨fun q pq hq => ?_, fun q pq hq => ?_, fun q q' pq pq' s hne hq hq' => ?_⟩
  · by_cases hqp : q = pid
    · subst hqp
      rw [Function.update_self, Option.some.inj (hq.symm.trans hp')]
      exact htodo
    · rw [Function.update_of_ne hqp]
      exact h.prog q pq (hothers q hqp ▸ hq)
  · by_cases hqp : q = pid
    · subst hqp
      rw [Function.update_self]
      exact hmoves.holds
    · rw [Function.update_of_ne hqp]
      rw [hothers q hqp] at hq
      exact (h.holds q pq hq).mono hmoves.keys hmoves.next fun s hs =>
        .inl (hclient q pq s hqp hq hs).2
  · by_cases hqp : q = pid
    · subst hqp
      have hq'p : q' ≠ q := Ne.symm hne
      rw [Function.update_self, Function.update_of_ne hq'p]
      rw [hothers q' hq'p] at hq'
      exact fun hs hs' => (hclient q' pq' s hq'p hq' hs').1 hs
    · rw [hothers q hqp] at hq
      rw [Function.update_of_ne hqp]
      by_cases hqp' : q' = pid
      · subst hqp'
        rw [Function.update_self]
        exact fun hs => (hclient q pq s hqp hq hs).1
      · rw [Function.update_of_ne hqp']
        rw [hothers q' hqp'] at hq'
        exact h.apart q q' pq pq' s hne hq hq'

/-- **The invariant of all runs**: what took effect is what is recorded, a prefix of the files, and
every runner is at one of its points.

**Proof sketch.** Induction on the number of steps, by what happens at the last one. -/
theorem inv (R : MigrationRun dir) {i : ℕ} (hi : i ≤ R.len) :
    AppliedInOrder dir (R.world i).db ∧ ∃ φ, R.Tracks i φ := by
  induction i with
  | zero =>
    have hstart : R.start = {} := R.isStart
    rw [R.world_zero, hstart]
    refine ⟨⟨⟨List.nodup_nil, nofun, nofun, fun _ _ => rfl⟩, List.nil_prefix, rfl⟩,
      fun _ => .create, fun pid p hp => ?_, fun pid p hp => ?_, fun pid _ p _ _ _ hp => ?_⟩
    all_goals simp at hp
  | succ i ih =>
    obtain ⟨hd, φ, htracks⟩ := ih (by omega)
    cases R.happens (i := i) (by omega) with
    | arrive r hworld hprocs =>
      rw [hworld]
      exact ⟨hd, _, htracks.arrive hworld hprocs⟩
    | does pid p e hdoes hothers =>
      obtain ⟨k, hk, hp'⟩ := hdoes.todo
      obtain ⟨x, -, hx⟩ := hdoes.exec
      have hcall : (φ pid).prog = .call e.op k := (htracks.prog pid p hdoes.proc).symm.trans hk
      obtain ⟨φ', htodo, hmoves⟩ := Phase.step hd (htracks.holds pid p hdoes.proc) hcall hx
      exact ⟨hmoves.applied, _, htracks.move hdoes.proc hp' htodo hothers hmoves⟩
    | env c hact hworld hprocs =>
      have hdb : (R.world (i + 1)).db = (R.world i).db.put c .lost :=
        (congrArg MigrationDb.db (Option.some.inj hworld)).symm
      refine ⟨?_, φ, htracks.drop hdb hprocs⟩
      rw [hdb]
      exact ⟨hd.unique.drop, hd.prefix_, hd.writes⟩

end MigrationRun

/-! ## A runner that nothing disturbs -/

/-- The operation runs the SQL of a file. -/
def MigrateCall.isSql : MigrateCall → Bool
  | .query _ (.write _) => true
  | _ => false

/-- Every operation succeeds. -/
def AllOk (es : List (Async.Event MigrateRet)) : Prop := ∀ e ∈ es, ∃ a, e.res = .ok a

/-- **Nothing but the SQL of a file fails.** -/
def Undisturbed (es : List (Async.Event MigrateRet)) : Prop :=
  ∀ e ∈ es, e.op.isSql = false → ∃ a, e.res = .ok a

/-- No connection is in a transaction. -/
def Quiescent (d : Txn.Db String String) : Prop := ∀ s p, d.session s ≠ .active p

/-- The SQL of a file is the first that fails. -/
def FirstFailure (dir : Js.Map String String) (es : List (Async.Event MigrateRet)) (file : String)
    (err : Fault) : Prop :=
  ∃ before c after, es = before ++ ⟨.query c (.write (dirSql dir file)), .error err⟩ :: after ∧
    AllOk before

variable {w w' : MigrationDb} {es es' : List (Async.Event MigrateRet)}

lemma undisturbed_append : Undisturbed (es ++ es') ↔ Undisturbed es ∧ Undisturbed es' := by
  simp only [Undisturbed, List.mem_append, or_imp, forall_and]

/-- One operation of a runner. -/
lemma alone_migrate {o : MigrateCall} {y : Except Fault o.Res}
    (h : (migrations dir).Alone (migrate o) w es y w') :
    ∃ x, migrateExec dir o x w = some (y, w') ∧ es = [⟨o, y⟩] := by
  rcases h.bind with ⟨r, es₁, es₂, w₁, h1, h2, rfl⟩ | ⟨e, h1, rfl⟩
  · obtain ⟨x, r', hx, rfl, hr⟩ := h1.perform
    obtain rfl := Except.ok.inj hr
    obtain ⟨rfl, rfl, ⟨a, rfl, rfl⟩ | ⟨e, rfl, rfl⟩⟩ := h2.settle
    · exact ⟨x, hx, rfl⟩
    · exact ⟨x, hx, rfl⟩
  · obtain ⟨x, r', hx, -, hr⟩ := h1.perform
    cases hr

/-- An operation that nothing disturbs succeeds, and the runner goes on. -/
lemma alone_then {o : MigrateCall} {β : Type} {f : o.Res → Migrator β} {y : Except Fault β}
    (hquery : o.isSql = false) (hes : Undisturbed es)
    (h : (migrations dir).Alone (migrate o >>= f) w es y w') :
    ∃ a x w₁ es₁, migrateExec dir o x w = some (.ok a, w₁) ∧ es = ⟨o, .ok a⟩ :: es₁ ∧
      Undisturbed es₁ ∧ (migrations dir).Alone (f a) w₁ es₁ y w' := by
  rcases h.bind with ⟨a, es₁, es₂, w₁, h1, h2, rfl⟩ | ⟨e, h1, rfl⟩
  · obtain ⟨x, hx, rfl⟩ := alone_migrate h1
    exact ⟨a, x, w₁, es₂, hx, rfl, (undisturbed_append.mp hes).2, h2⟩
  · obtain ⟨x, hx, rfl⟩ := alone_migrate h1
    obtain ⟨a, ha⟩ := hes _ List.mem_cons_self hquery
    cases ha

/-- A statement that succeeds. -/
lemma query_ok {c : ℕ} {q : Stmt String String} {x : Outcome} {a : Unit}
    (hx : migrateExec dir (.query c q) x w = some (.ok a, w')) :
    ∃ o, w.db.exec c o q = some (true, w'.db) := by
  obtain ⟨o, b, hexec, hr⟩ := query_cases hx
  cases b with
  | true => exact ⟨o, hexec⟩
  | false => cases hr

lemma allOk_append : AllOk (es ++ es') ↔ AllOk es ∧ AllOk es' := by
  simp only [AllOk, List.mem_append, or_imp, forall_and]

lemma allOk_cons {e : Async.Event MigrateRet} (h : ∃ a, e.res = .ok a) (hes : AllOk es) :
    AllOk (e :: es) := by
  intro e' he'
  rcases List.mem_cons.mp he' with rfl | he'
  · exact h
  · exact hes e' he'

/-- A connection in a transaction is not outside one. -/
lemma ne_idle {c : ℕ} {p : Pending String String} (h : d.session c = .active p) :
    d.session c ≠ .idle := not_idle_of_active (.inr h)

/-- **The transaction of a file when only its SQL may fail**: it is committed with the name of the
file, or the SQL fails and nothing is. -/
lemma alone_applyStatements {c : ℕ} {file sql : String} {y : Except Fault Unit}
    (hu : w.db.Unique) (hidle : w.db.session c = .idle) (hes : Undisturbed es)
    (h : (migrations dir).Alone (applyStatements c file sql) w es y w') :
    w'.db.Unique ∧
      (y = .ok () ∧ w'.db.keys = w.db.keys ++ [file] ∧ w'.db.writes = w.db.writes ++ [sql] ∧
          AllOk es ∨
        ∃ e err, y = .error err ∧ w'.db.keys = w.db.keys ∧ w'.db.writes = w.db.writes ∧
          es = [e, ⟨.query c (.write sql), .error err⟩] ∧ ∃ a, e.res = .ok a) := by
  obtain ⟨_, x, w₁, es₁, hx, rfl, hes₁, h⟩ := alone_then rfl hes h
  obtain ⟨o, hbegin⟩ := query_ok hx
  have hactive := Db.exec_begin hidle hbegin
  obtain ⟨hwrites₁, hkeys₁⟩ := Db.exec_keeps (q := .begin) trivial hbegin
  have hu₁ := hu.exec hbegin
  rcases h.bind with ⟨a, es₂, es₃, w₂, h1, h2, rfl⟩ | ⟨err, h1, rfl⟩
  · obtain ⟨x, hx, rfl⟩ := alone_migrate h1
    obtain ⟨o, hwrite⟩ := query_ok hx
    have hactive₂ := Db.exec_write hactive hwrite
    obtain ⟨hwrites₂, hkeys₂⟩ := Db.exec_keeps (q := .write sql) (ne_idle hactive) hwrite
    have hu₂ := hu₁.exec hwrite
    obtain ⟨_, x, w₃, es₄, hx, rfl, hes₄, h⟩ := alone_then rfl (undisturbed_append.mp hes₁).2 h2
    obtain ⟨o, hinsert⟩ := query_ok hx
    have hactive₃ := Db.exec_insert hactive₂ hinsert
    obtain ⟨hwrites₃, hkeys₃⟩ := Db.exec_keeps (q := .insert file) (ne_idle hactive₂) hinsert
    have hu₃ := hu₂.exec hinsert
    obtain ⟨x, hx, rfl⟩ := alone_migrate h
    obtain ⟨a, rfl⟩ : ∃ a, y = .ok a := hes₄ _ List.mem_cons_self rfl
    obtain ⟨o, hcommit⟩ := query_ok hx
    refine ⟨hu₃.exec hcommit, .inl ⟨rfl, ?_⟩⟩
    rcases Db.exec_commit hactive₃ rfl hcommit with ⟨hkeys, hwrites⟩ | ⟨hb, -⟩
    · rw [hkeys, hwrites, hkeys₃, hkeys₂, hkeys₁, hwrites₃, hwrites₂, hwrites₁]
      exact ⟨rfl, rfl, allOk_cons ⟨_, rfl⟩ (allOk_cons ⟨_, rfl⟩ (allOk_cons ⟨_, rfl⟩
        (allOk_cons ⟨_, rfl⟩ nofun)))⟩
    · cases hb
  · obtain ⟨x, hx, rfl⟩ := alone_migrate h1
    obtain ⟨o, b, hwrite, -⟩ := query_cases hx
    obtain ⟨hwrites₂, hkeys₂⟩ := Db.exec_keeps (q := .write sql) (ne_idle hactive) hwrite
    exact ⟨hu₁.exec hwrite, .inr ⟨_, err, rfl, hkeys₂.trans hkeys₁, hwrites₂.trans hwrites₁, rfl,
      (), rfl⟩⟩

/-- **A file when only its SQL may fail**: it is applied and recorded, or its SQL is the first that
fails, and the runner fails with that error. -/
lemma alone_applyMigration {file : String} {y : Except Fault Unit} (hu : w.db.Unique)
    (hes : Undisturbed es) (h : (migrations dir).Alone (applyMigration file) w es y w') :
    w'.db.Unique ∧
      (y = .ok () ∧ w'.db.keys = w.db.keys ++ [file] ∧
          w'.db.writes = w.db.writes ++ [dirSql dir file] ∧ AllOk es ∨
        ∃ err, y = .error err ∧ w'.db.keys = w.db.keys ∧ w'.db.writes = w.db.writes ∧
          FirstFailure dir es file err) := by
  obtain ⟨sql, x, w₁, es₁, hx, rfl, hes₁, h⟩ := alone_then rfl hes h
  obtain ⟨hsql, rfl⟩ : sql = dirSql dir file ∧ w = w₁ := by
    simp only [migrateExec] at hx
    split at hx
    · rename_i sql' hget
      obtain ⟨hr, rfl⟩ := Prod.mk.inj (Option.some.inj hx)
      split_ifs at hr
      · obtain rfl := Except.ok.inj hr
        exact ⟨by rw [dirSql, hget]; rfl, rfl⟩
    · cases (Prod.mk.inj (Option.some.inj hx)).1
  subst hsql
  obtain ⟨c, x, w₂, es₂, hx, rfl, hes₂, h⟩ := alone_then rfl hes₁ h
  obtain ⟨rfl, hw₂⟩ : w.db.next = c ∧ w₂.db = w.db.connect.2 := by
    simp only [migrateExec] at hx
    split_ifs at hx
    · obtain ⟨hr, rfl⟩ := Prod.mk.inj (Option.some.inj hx)
      exact ⟨Except.ok.inj hr, rfl⟩
    · cases (Prod.mk.inj (Option.some.inj hx)).1
  have hu₂ : w₂.db.Unique := hw₂ ▸ hu.connect
  have hidle : w₂.db.session w.db.next = .idle := hw₂ ▸ Function.update_self _ _ _
  have hkeys₂ : w₂.db.keys = w.db.keys := hw₂ ▸ rfl
  have hwrites₂ : w₂.db.writes = w.db.writes := hw₂ ▸ rfl
  rcases h.tryCatch with ⟨a, h1, rfl⟩ | ⟨err, es₃, es₄, w₃, h1, hroll, rfl⟩
  · rcases alone_applyStatements hu₂ hidle hes₂ h1 with
      ⟨hu', ⟨-, hkeys, hwrites, hok⟩ | ⟨e, err, he, -⟩⟩
    · rw [hkeys, hwrites, hkeys₂, hwrites₂]
      exact ⟨hu', .inl ⟨rfl, rfl, rfl, allOk_cons ⟨_, rfl⟩ (allOk_cons ⟨_, rfl⟩ hok)⟩⟩
    · cases he
  · obtain ⟨hes₃, hes₄⟩ := undisturbed_append.mp hes₂
    rcases alone_applyStatements hu₂ hidle hes₃ h1 with
      ⟨hu₃, ⟨he, -⟩ | ⟨e, err', he, hkeys, hwrites, rfl, hok⟩⟩
    · cases he
    · obtain rfl := Except.error.inj he
      obtain ⟨_, x, w₄, es₅, hx, rfl, -, hthrow⟩ := alone_then rfl hes₄ hroll
      obtain ⟨rfl, rfl, rfl⟩ := hthrow.of_throw
      obtain ⟨o, hrollback⟩ := query_ok hx
      obtain ⟨hwrites₄, hkeys₄⟩ := Db.exec_keeps (q := .rollback) trivial hrollback
      refine ⟨hu₃.exec hrollback, .inr ⟨err, rfl, ?_, ?_, ?_⟩⟩
      · rw [hkeys₄, hkeys, hkeys₂]
      · rw [hwrites₄, hwrites, hwrites₂]
      · exact ⟨[_, _, e], _, _, rfl, allOk_cons ⟨_, rfl⟩ (allOk_cons ⟨_, rfl⟩
          (allOk_cons hok fun e he => by cases he))⟩

/-- Operations that succeed come before the first failure. -/
lemma FirstFailure.prepend {file : String} {err : Fault} (h : FirstFailure dir es file err)
    (hok : AllOk es') : FirstFailure dir (es' ++ es) file err := by
  obtain ⟨before, c, after, rfl, hbefore⟩ := h
  exact ⟨es' ++ before, c, after, by simp, allOk_append.mpr ⟨hok, hbefore⟩⟩

/-- **The loop when only the SQL of a file may fail**: all files are applied, or the runner fails at
the first file whose SQL fails, with those before it applied. -/
lemma alone_applyAll {files : List String} {y : Except Fault Unit} (hd : AppliedInOrder dir w.db)
    (hat : AtFile dir w.db files) (hes : Undisturbed es)
    (h : (migrations dir).Alone (applyAll files) w es y w') :
    AppliedInOrder dir w'.db ∧ (y = .ok () ∧ w'.db.keys = dirFiles dir ∨
      ∃ past file rest err, y = .error err ∧ dirFiles dir = past ++ file :: rest ∧
        w'.db.keys = past ∧ FirstFailure dir es file err) := by
  induction files generalizing w es with
  | nil =>
    obtain ⟨rfl, rfl, rfl⟩ := h.of_ret
    obtain ⟨past, hfiles, hpast⟩ := hat
    rw [List.append_nil] at hfiles
    exact ⟨hd, .inl ⟨rfl, (hfiles ▸ hpast).eq_of_length_le hd.prefix_.length_le |>.symm⟩⟩
  | cons file rest ih =>
    obtain ⟨applied, x, w₁, es₁, hx, rfl, hes₁, h⟩ := alone_then rfl hes h
    obtain ⟨rfl, happlied⟩ : w = w₁ ∧ applied = w.db.keys.contains file := by
      obtain ⟨hr, rfl⟩ := Prod.mk.inj (Option.some.inj hx)
      split_ifs at hr
      exact ⟨rfl, (Except.ok.inj hr).symm⟩
    have hfirst : AllOk [⟨.isApplied file, .ok applied⟩] := allOk_cons ⟨_, rfl⟩ nofun
    cases hin : w.db.keys.contains file with
    | true =>
      rw [happlied, hin] at h
      obtain ⟨hd', ⟨rfl, hkeys⟩ | ⟨past, f, later, err, rfl, hfiles, hkeys, hfail⟩⟩ :=
        ih hd (hat.next hd (by simpa using hin)) hes₁ h
      · exact ⟨hd', .inl ⟨rfl, hkeys⟩⟩
      · exact ⟨hd', .inr ⟨past, f, later, err, rfl, hfiles, hkeys, hfail.prepend hfirst⟩⟩
    | false =>
      rw [happlied, hin] at h
      obtain ⟨past, hfiles, hpast⟩ := hat
      have hnew : file ∉ w.db.keys := by simpa using hin
      have hpasteq := keys_eq_of_ready hd hfiles hpast hnew
      rcases h.bind with ⟨a, es₂, es₃, w₂, h1, h2, rfl⟩ | ⟨err, h1, rfl⟩
      · obtain ⟨hes₂, hes₃⟩ := undisturbed_append.mp hes₁
        obtain ⟨hu, ⟨-, hkeys, hwrites, hok⟩ | ⟨err, he, -⟩⟩ :=
          alone_applyMigration hd.unique hes₂ h1
        · have hd₂ := hd.snoc hfiles hpasteq hu hkeys hwrites
          have hrecorded : w₂.db.keys = past ++ [file] := by rw [hkeys, hpasteq]
          have hat₂ : AtFile dir w₂.db rest :=
            ⟨past ++ [file], by simpa using hfiles, hrecorded ▸ List.prefix_rfl⟩
          obtain ⟨hd', ⟨rfl, hkeys'⟩ | ⟨past', f, later, err, rfl, hfiles', hkeys', hfail⟩⟩ :=
            ih hd₂ hat₂ hes₃ h2
          · exact ⟨hd', .inl ⟨rfl, hkeys'⟩⟩
          · exact ⟨hd', .inr ⟨past', f, later, err, rfl, hfiles', hkeys',
              (hfail.prepend hok).prepend hfirst⟩⟩
        · cases he
      · obtain ⟨hu, ⟨he, -⟩ | ⟨err', he, hkeys, hwrites, hfail⟩⟩ :=
          alone_applyMigration hd.unique hes₁ h1
        · cases he
        · obtain rfl := Except.error.inj he
          refine ⟨⟨hu, ?_, ?_⟩, .inr ⟨past, file, rest, err, rfl, hfiles, hkeys.trans hpasteq,
            hfail.prepend hfirst⟩⟩
          · rw [hkeys]
            exact hd.prefix_
          · rw [hwrites, hkeys]
            exact hd.writes

/-! ## A runner that nothing disturbs ends -/

/-- The SQL that fails is the one that is said to. -/
def Decided (fails : String → Bool) (es : List (Async.Event MigrateRet)) : Prop :=
  ∀ c sql r, ⟨.query c (.write sql), r⟩ ∈ es → (r = .ok () ↔ fails sql = false)

/-- The table is there, and no connection is in a transaction. -/
structure Ready (w : MigrationDb) : Prop where
  table : w.table = true
  unique : w.db.Unique
  quiescent : Quiescent w.db

/-- An operation that succeeds, and the rest of the runner. -/
lemma Alone.migrate_then {o : MigrateCall} {β : Type} {f : o.Res → Migrator β} {a : o.Res}
    {x : Outcome} {w₁ : MigrationDb} {y : Except Fault β}
    (hx : migrateExec dir o x w = some (.ok a, w₁)) (h : (migrations dir).Alone (f a) w₁ es y w') :
    (migrations dir).Alone (migrate o >>= f) w (⟨o, .ok a⟩ :: es) y w' := by
  have hprog : migrate o >>= f = .call o fun r => Prog.settle id r >>= f := rfl
  rw [hprog]
  refine Sys.Alone.call (S := migrations dir) o _ x (.ok a) w w₁ w' es y hx ?_
  exact h

/-- The same inside the transaction of a file. -/
lemma Alone.statement {c : ℕ} {q : Stmt String String} {f : Unit → Migrator Unit}
    {h : Fault → Migrator Unit} {x : Outcome} {w₁ : MigrationDb} {y : Except Fault Unit}
    (hx : migrateExec dir (.query c q) x w = some (.ok (), w₁))
    (hrest : (migrations dir).Alone (tryCatch (f ()) h) w₁ es y w') :
    (migrations dir).Alone (tryCatch (migrate (.query c q) >>= f) h) w
      (⟨.query c q, .ok ()⟩ :: es) y w' := by
  have hprog : tryCatch (migrate (.query c q) >>= f) h = .call (.query c q) fun r =>
    tryCatch (Prog.settle id r >>= f) h := rfl
  rw [hprog]
  refine Sys.Alone.call (S := migrations dir) (.query c q) _ x (.ok ()) w w₁ w' es y hx ?_
  exact hrest

/-- A statement that fails there, and the handler. -/
lemma Alone.statement_error {c : ℕ} {q : Stmt String String} {f : Unit → Migrator Unit}
    {h : Fault → Migrator Unit} {x : Outcome} {w₁ : MigrationDb} {y : Except Fault Unit}
    {err : Fault} (hx : migrateExec dir (.query c q) x w = some (.error err, w₁))
    (hrest : (migrations dir).Alone (h err) w₁ es y w') :
    (migrations dir).Alone (tryCatch (migrate (.query c q) >>= f) h) w
      (⟨.query c q, .error err⟩ :: es) y w' := by
  have hprog : tryCatch (migrate (.query c q) >>= f) h = .call (.query c q) fun r =>
    tryCatch (Prog.settle id r >>= f) h := rfl
  rw [hprog]
  refine Sys.Alone.call (S := migrations dir) (.query c q) _ x (.error err) w w₁ w' es y hx ?_
  exact hrest

lemma undisturbed_cons {e : Async.Event MigrateRet} (h : e.op.isSql = false → ∃ a, e.res = .ok a)
    (hes : Undisturbed es) : Undisturbed (e :: es) := by
  intro e' he'
  rcases List.mem_cons.mp he' with rfl | he'
  · exact h
  · exact hes e' he'

lemma Decided.append {fails : String → Bool} (h : Decided fails es) (h' : Decided fails es') :
    Decided fails (es ++ es') := by
  intro c sql r hr
  rcases List.mem_append.mp hr with hr | hr
  · exact h c sql r hr
  · exact h' c sql r hr

/-- No other connection holds anything while none but one's own is in a transaction. -/
lemma heldElsewhere_eq_false {c : ℕ} {k : String} (h : ∀ t p, t ≠ c → d.session t ≠ .active p) :
    d.heldElsewhere c k = false := by
  unfold Db.heldElsewhere
  rw [List.any_eq_false]
  intro t _ ht
  simp only [Bool.and_eq_true, decide_eq_true_eq, Db.holds] at ht
  obtain ⟨hne, hholds⟩ := ht
  split at hholds
  · exact h t _ hne (by assumption)
  · cases hholds

/-- A query that is one statement of the connection, while the table is there. -/
lemma exec_query {c : ℕ} {q : Stmt String String} {x : Outcome} {b : Bool} (hw : w.table = true)
    (hx : w.db.exec c x q = some (b, d')) :
    migrateExec dir (.query c q) x w =
      some (if b then .ok () else .error Fault.rejected, { w with db := d' }) := by
  cases q with
  | insert file => simp [migrateExec, hw, hx]
  | _ => simp [migrateExec, hx]

/-- The rollback of a transaction. -/
lemma alone_rollBack {c : ℕ} {p : Pending String String} (err : Fault)
    (hactive : w.db.session c = .active p) (hw : w.table = true) :
    (migrations dir).Alone (rollBack c err) w [⟨.query c .rollback, .ok ()⟩] (.error err)
      { w with db := w.db.put c .idle } := by
  have hexec : w.db.exec c .done .rollback = some (true, w.db.put c .idle) := by
    simp [Db.exec, hactive]
  exact Alone.migrate_then (exec_query hw hexec) (.throw err _)

/-- A connection outside a transaction, where no other is in one. -/
lemma quiescent_put {c : ℕ} (hq : Quiescent d) (h : ∀ t, t ≠ c → d'.session t = d.session t) :
    Quiescent (d'.put c .idle) := by
  intro t p ht
  by_cases htc : t = c
  · rw [htc, Db.session_put_self] at ht
    cases ht
  · rw [Db.session_put_of_ne _ _ _ htc, h t htc] at ht
    exact hq t p ht

/-- **The transaction of a file whose SQL fails**: it is rolled back. -/
lemma exists_apply_failed {c : ℕ} {file sql : String} (hw : Ready w)
    (hidle : w.db.session c = .idle) :
    ∃ w', (migrations dir).Alone (tryCatch (applyStatements c file sql) (rollBack c)) w
      [⟨.query c .begin, .ok ()⟩, ⟨.query c (.write sql), .error .rejected⟩,
        ⟨.query c .rollback, .ok ()⟩] (.error .rejected) w' ∧ Ready w' := by
  have hbegin : w.db.exec c .done .begin = some (true, w.db.put c (.active {})) := by
    simp [Db.exec, hidle]
  have hu₁ := hw.unique.exec hbegin
  generalize hd₁ : w.db.put c (.active {}) = d₁ at hbegin hu₁
  have hactive₁ : d₁.session c = .active {} := hd₁ ▸ Db.session_put_self _ _ _
  have hwrite : d₁.exec c .failed (.write sql) =
      some (false, d₁.put c (.active { failed := true })) := by
    simp [Db.exec, hactive₁, Db.pend]
  have hu₂ := hu₁.exec hwrite
  generalize hd₂ : d₁.put c (.active { failed := true }) = d₂ at hwrite hu₂
  have hactive₂ : d₂.session c = .active { failed := true } := hd₂ ▸ Db.session_put_self _ _ _
  refine ⟨_, Alone.statement (exec_query hw.table hbegin) (Alone.statement_error
    (exec_query (w := { w with db := d₁ }) hw.table hwrite)
    (alone_rollBack (w := { w with db := d₂ }) .rejected hactive₂ hw.table)), hw.table, ?_, ?_⟩
  · exact hu₂.effect (Db.Effect.put Session.idle_ne) (by
      by_contra hge
      rw [hu₂.bounded c (by omega)] at hactive₂
      cases hactive₂)
  · apply quiescent_put hw.quiescent
    intro t ht
    rw [← hd₂, ← hd₁, Db.session_put_of_ne _ _ _ ht, Db.session_put_of_ne _ _ _ ht]

/-- **The transaction of a new file whose SQL does not fail**: it is committed. -/
lemma exists_apply_done {c : ℕ} {file sql : String} (hw : Ready w)
    (hidle : w.db.session c = .idle) (hnew : file ∉ w.db.keys) :
    ∃ w', (migrations dir).Alone (tryCatch (applyStatements c file sql) (rollBack c)) w
      [⟨.query c .begin, .ok ()⟩, ⟨.query c (.write sql), .ok ()⟩,
        ⟨.query c (.insert file), .ok ()⟩, ⟨.query c .commit, .ok ()⟩] (.ok ()) w' ∧ Ready w' := by
  have hbegin : w.db.exec c .done .begin = some (true, w.db.put c (.active {})) := by
    simp [Db.exec, hidle]
  have hu₁ := hw.unique.exec hbegin
  generalize hd₁ : w.db.put c (.active {}) = d₁ at hbegin hu₁
  have hactive₁ : d₁.session c = .active {} := hd₁ ▸ Db.session_put_self _ _ _
  have hwrite : d₁.exec c .done (.write sql) =
      some (true, d₁.put c (.active { writes := [sql] })) := by
    simp [Db.exec, hactive₁, Db.pend]
  have hu₂ := hu₁.exec hwrite
  generalize hd₂ : d₁.put c (.active { writes := [sql] }) = d₂ at hwrite hu₂
  have hactive₂ : d₂.session c = .active { writes := [sql] } := hd₂ ▸ Db.session_put_self _ _ _
  have hothers : ∀ t, t ≠ c → d₂.session t = w.db.session t := fun t ht => by
    rw [← hd₂, ← hd₁, Db.session_put_of_ne _ _ _ ht, Db.session_put_of_ne _ _ _ ht]
  have hkeys₂ : d₂.keys = w.db.keys := by
    rw [← hd₂, ← hd₁]
    rfl
  have hheld : d₂.heldElsewhere c file = false := by
    apply heldElsewhere_eq_false
    intro t p ht
    rw [hothers t ht]
    exact hw.quiescent t p
  have hinsert : d₂.exec c .done (.insert file) =
      some (true, d₂.put c (.active { writes := [sql], keys := [file] })) := by
    simp [Db.exec, hactive₂, Db.pend, hkeys₂, hnew, hheld]
  have hu₃ := hu₂.exec hinsert
  generalize hd₃ : d₂.put c (.active { writes := [sql], keys := [file] }) = d₃ at hinsert hu₃
  have hactive₃ : d₃.session c = .active { writes := [sql], keys := [file] } :=
    hd₃ ▸ Db.session_put_self _ _ _
  have hcommit : d₃.exec c .done .commit = some (true, (d₃.add [sql] [file]).put c .idle) := by
    simp [Db.exec, hactive₃, Db.finish]
  have hu₄ := hu₃.exec hcommit
  have hlast : (migrations dir).Alone
      (tryCatch (migrate (.query c .commit)) (rollBack c)) { w with db := d₃ }
      [⟨.query c .commit, .ok ()⟩] (.ok ()) { w with db := (d₃.add [sql] [file]).put c .idle } := by
    have hx : migrateExec dir (.query c .commit) .done { w with db := d₃ } =
        some (.ok (), { w with db := (d₃.add [sql] [file]).put c .idle }) :=
      exec_query (w := { w with db := d₃ }) hw.table hcommit
    refine Sys.Alone.call (S := migrations dir) (.query c .commit) _ .done (.ok ()) _ _ _ [] _ hx ?_
    exact .ret () _
  refine ⟨_, Alone.statement (exec_query hw.table hbegin) (Alone.statement
    (exec_query (w := { w with db := d₁ }) hw.table hwrite) (Alone.statement
      (exec_query (w := { w with db := d₂ }) hw.table hinsert) hlast)), hw.table, hu₄, ?_⟩
  apply quiescent_put hw.quiescent
  intro t ht
  show d₃.session t = _
  rw [← hd₃, Db.session_put_of_ne _ _ _ ht, hothers t ht]

/-- A key of a map is found. -/
lemma exists_get?_of_mem {file : String} (h : file ∈ dirNames dir) :
    ∃ sql, dir.get? file = some sql := by
  cases hget : dir.get? file with
  | some sql => exact ⟨sql, rfl⟩
  | none => exact absurd h (not_mem_of_assoc_eq_none hget)

/-- **A file that is not recorded can be run to its end**, whether its SQL fails or not. -/
lemma exists_applyMigration (fails : String → Bool) {file : String} (hw : Ready w)
    (hfile : file ∈ dirNames dir) (hnew : file ∉ w.db.keys) :
    ∃ es y w', (migrations dir).Alone (applyMigration file) w es y w' ∧ Undisturbed es ∧
      Decided fails es ∧ Ready w' := by
  obtain ⟨sql, hsql⟩ := exists_get?_of_mem hfile
  have hread : migrateExec dir (.readFile file) .done w = some (.ok sql, w) := by
    simp [migrateExec, hsql]
  have hconnect : migrateExec dir .connect .done w =
      some (.ok w.db.next, { w with db := w.db.connect.2 }) := by
    simp [migrateExec, Db.connect]
  have hw₁ : Ready { w with db := w.db.connect.2 } := by
    refine ⟨hw.table, hw.unique.connect, fun t p ht => ?_⟩
    by_cases htn : t = w.db.next
    · have : w.db.connect.2.session w.db.next = .idle := Function.update_self _ _ _
      rw [htn, this] at ht
      cases ht
    · have : w.db.connect.2.session t = w.db.session t := Function.update_of_ne htn _ _
      rw [this] at ht
      exact hw.quiescent t p ht
  have hidle : w.db.connect.2.session w.db.next = .idle := Function.update_self _ _ _
  cases hfails : fails sql with
  | true =>
    obtain ⟨w', h, hw'⟩ := @exists_apply_failed dir _ _ file sql hw₁ hidle
    refine ⟨_, _, w', Alone.migrate_then hread (Alone.migrate_then hconnect h), ?_, ?_, hw'⟩
    · simp [Undisturbed, MigrateCall.isSql]
    · simp only [Decided, List.mem_cons, List.not_mem_nil, or_false]
      rintro c' sql' r (h | h | h | h | h) <;> cases h
      simp [hfails]
  | false =>
    obtain ⟨w', h, hw'⟩ := @exists_apply_done dir _ _ file sql hw₁ hidle hnew
    refine ⟨_, _, w', Alone.migrate_then hread (Alone.migrate_then hconnect h), ?_, ?_, hw'⟩
    · simp [Undisturbed, MigrateCall.isSql]
    · simp only [Decided, List.mem_cons, List.not_mem_nil, or_false]
      rintro c' sql' r (h | h | h | h | h | h) <;> cases h
      simp [hfails]

/-- An operation other than the SQL of a file decides nothing. -/
lemma Decided.cons {fails : String → Bool} {e : Async.Event MigrateRet}
    (he : e.op.isSql = false) (h : Decided fails es) : Decided fails (e :: es) := by
  intro c sql r hr
  rcases List.mem_cons.mp hr with rfl | hr
  · cases he
  · exact h c sql r hr

/-- **The loop can be run to its end**, whichever SQL fails. -/
lemma exists_applyAll (fails : String → Bool) {files : List String} (hw : Ready w)
    (hfiles : ∀ file ∈ files, file ∈ dirNames dir) :
    ∃ es y w', (migrations dir).Alone (applyAll files) w es y w' ∧ Undisturbed es ∧
      Decided fails es := by
  induction files generalizing w with
  | nil => exact ⟨[], .ok (), w, Sys.Alone.ret (S := migrations dir) () w, nofun, nofun⟩
  | cons file rest ih =>
    have hrest : ∀ f ∈ rest, f ∈ dirNames dir := fun f hf => hfiles f (List.mem_cons_of_mem _ hf)
    have hx : migrateExec dir (.isApplied file) .done w =
        some (.ok (w.db.keys.contains file), w) := by
      simp [migrateExec, hw.table]
    cases hin : w.db.keys.contains file with
    | true =>
      rw [hin] at hx
      obtain ⟨es, y, w', h, hes, hdecided⟩ := ih hw hrest
      exact ⟨_, y, w', Alone.migrate_then hx h, undisturbed_cons (fun _ => ⟨_, rfl⟩) hes,
        hdecided.cons rfl⟩
    | false =>
      rw [hin] at hx
      obtain ⟨es, y, w₁, h, hes, hdecided, hw₁⟩ := exists_applyMigration fails hw
        (hfiles file List.mem_cons_self) (by simpa using hin)
      cases y with
      | ok a =>
        obtain ⟨es', y, w', h', hes', hdecided'⟩ := ih hw₁ hrest
        exact ⟨_, y, w', Alone.migrate_then hx (h.seq h'),
          undisturbed_cons (fun _ => ⟨_, rfl⟩) (undisturbed_append.mpr ⟨hes, hes'⟩),
          (hdecided.append hdecided').cons rfl⟩
      | error err =>
        exact ⟨_, _, w₁, Alone.migrate_then hx h.seq_error,
          undisturbed_cons (fun _ => ⟨_, rfl⟩) hes, hdecided.cons rfl⟩

/-- The files to apply are in the directory. -/
lemma mem_dirNames {file : String} (h : file ∈ dirFiles dir) : file ∈ dirNames dir :=
  List.mem_of_mem_filter ((List.perm_insertionSort _ _).mem_iff.mp h)

/-- **A runner can be run to its end**, whichever SQL fails. -/
lemma exists_runMigrations (fails : String → Bool) (hu : w.db.Unique) (hq : Quiescent w.db) :
    ∃ es y w', (migrations dir).Alone runMigrations w es y w' ∧ Undisturbed es ∧
      Decided fails es := by
  have hcreate : migrateExec dir .createTable .done w =
      some (.ok (), { w with table := true }) := rfl
  have hlist : migrateExec dir .readdir .done { w with table := true } =
      some (.ok (dirNames dir), { w with table := true }) := rfl
  have hw : Ready { w with table := true } := ⟨rfl, hu, hq⟩
  have hnames : ∀ file ∈ dirFiles dir, file ∈ dirNames dir := fun _ => mem_dirNames
  obtain ⟨es, y, w', h, hes, hdecided⟩ := exists_applyAll fails hw hnames
  exact ⟨_, y, w', Alone.migrate_then hcreate (Alone.migrate_then hlist h),
    undisturbed_cons (fun _ => ⟨_, rfl⟩) (undisturbed_cons (fun _ => ⟨_, rfl⟩) hes),
    (hdecided.cons rfl).cons rfl⟩

/-! ## Exactly once and in order -/

/-- **How an undisturbed runner ends**: with all files applied, or with the error of the first file
whose SQL fails, and those before it applied. -/
def EndsAtFailure (dir : Js.Map String String) (es : List (Async.Event MigrateRet))
    (y : Except Fault Unit) (w' : MigrationDb) : Prop :=
  AppliedInOrder dir w'.db ∧ (y = .ok () ∧ w'.db.keys = dirFiles dir ∨
    ∃ past file rest err, y = .error err ∧ dirFiles dir = past ++ file :: rest ∧
      w'.db.keys = past ∧ FirstFailure dir es file err)

/-- **A runner when only the SQL of a file may fail.** -/
lemma alone_runMigrations {y : Except Fault Unit} (hd : AppliedInOrder dir w.db)
    (hes : Undisturbed es) (h : (migrations dir).Alone runMigrations w es y w') :
    EndsAtFailure dir es y w' := by
  obtain ⟨_, x, w₁, es₁, hx, rfl, hes₁, h⟩ := alone_then rfl hes h
  obtain ⟨entries, x', w₂, es₂, hx', rfl, hes₂, h⟩ := alone_then rfl hes₁ h
  have hdb : w₁.db = w.db := by
    cases x with
    | done => exact (congrArg (fun y => y.2.db) (Option.some.inj hx)).symm
    | failed => exact (congrArg (fun y => y.2.db) (Option.some.inj hx)).symm
    | lost took => exact (congrArg (fun y => y.2.db) (Option.some.inj hx)).symm
  obtain ⟨hentries, rfl⟩ := Prod.mk.inj (Option.some.inj hx')
  split_ifs at hentries
  obtain rfl := Except.ok.inj hentries
  have hd₁ : AppliedInOrder dir w₁.db := hdb ▸ hd
  obtain ⟨hd', hend⟩ := alone_applyAll hd₁ ⟨[], rfl, List.nil_prefix⟩ hes₂ h
  refine ⟨hd', hend.imp_right ?_⟩
  rintro ⟨past, file, rest, err, hy, hfiles, hkeys, hfail⟩
  have hbefore : AllOk [(⟨.createTable, .ok ()⟩ : Async.Event MigrateRet),
      ⟨.readdir, .ok (dirNames dir)⟩] := allOk_cons ⟨_, rfl⟩ (allOk_cons ⟨_, rfl⟩ nofun)
  exact ⟨past, file, rest, err, hy, hfiles, hkeys, hfail.prepend hbefore⟩

/-- The files are in lexical order. -/
lemma dirFiles_sorted (dir : Js.Map String String) :
    (dirFiles dir).Pairwise fun f g => lexicalLe f g := by
  have htotal : Std.Total fun f g : String => (lexicalLe f g : Prop) := ⟨fun f g => by
    simpa [lexicalLe] using le_total (codeUnits f) (codeUnits g)⟩
  have htrans : IsTrans String fun f g => (lexicalLe f g : Prop) := ⟨fun f g h hfg hgh => by
    simp only [lexicalLe, decide_eq_true_eq] at hfg hgh ⊢
    exact hfg.trans hgh⟩
  exact List.pairwise_insertionSort _ _

/-- **Migrations are applied exactly once and in order.** At every moment of every run, of any
number of runners that may fail or stop anywhere: the names recorded are a prefix of the files in
lexical order, none twice, and the SQL that took effect is that of exactly these files, once each
and in this order. A runner that is undisturbed from then on ends with all files applied, or with
the error of the first file whose SQL fails; and it does end, whichever SQL fails, when no other
transaction is open.

**Proof sketch.** A runner that is at a file has seen those before it recorded, so when its commit
succeeds and the key is new, exactly those before it are recorded. This carries the invariant over
all steps; the rest follows the loop. -/
theorem migrations_exactly_once (R : MigrationRun dir) {i : ℕ} (hi : i ≤ R.len) :
    ((dirFiles dir).Pairwise (fun f g => lexicalLe f g) ∧ (dirFiles dir).Nodup) ∧
    (R.world i).db.keys <+: dirFiles dir ∧
    (R.world i).db.writes = (R.world i).db.keys.map (dirSql dir) ∧
    (∀ es y w', (migrations dir).Alone runMigrations (R.world i) es y w' → Undisturbed es →
      EndsAtFailure dir es y w') ∧
    (Quiescent (R.world i).db → ∀ fails, ∃ es y w',
      (migrations dir).Alone runMigrations (R.world i) es y w' ∧ Undisturbed es ∧
        Decided fails es) := by
  obtain ⟨hd, -⟩ := R.inv hi
  refine ⟨⟨?_, dirFiles_nodup dir⟩, hd.prefix_, hd.writes, fun es y w' h hes => ?_,
    fun hq fails => ?_⟩
  · exact dirFiles_sorted dir
  · exact alone_runMigrations hd hes h
  · exact exists_runMigrations fails hd.unique hq

/-- Two files, listed in another order. -/
def sampleDir : Js.Map String String :=
  ⟨[("0002_domain.sql", "create b"), ("0001_init.sql", "create a")], by decide⟩

/-- Two runners find the first file not applied; one of them commits it, and the other one is
refused its name and rolls back. -/
def sampleActs : List (Act (migrations sampleDir)) :=
  [.arrive (), .run 0 .done, .run 0 .done, .run 0 .done,
    .arrive (), .run 1 .done, .run 1 .done, .run 1 .done,
    .run 0 .done, .run 0 .done, .run 0 .done, .run 0 .done,
    .run 1 .done, .run 1 .done, .run 1 .done, .run 1 .done,
    .run 0 .done, .run 0 .done, .run 1 .done, .run 1 .done]

/-- The run of two runners. -/
def sampleMigrations : MigrationRun sampleDir where
  start := {}
  acts := sampleActs
  isStart := rfl
  ok := by decide +kernel

theorem migrations_exactly_once_sample :
    (sampleMigrations.world 20).db.keys = ["0001_init.sql"] ∧
    (sampleMigrations.world 20).db.writes = ["create a"] ∧
    (sampleMigrations.world 20).db.keys <+: dirFiles sampleDir := by
  refine ⟨by decide +kernel, by decide +kernel, ?_⟩
  exact (migrations_exactly_once sampleMigrations (i := 20) (by decide)).2.1

end Fapi2As
