import Fapi2As.Async.Run
import Fapi2As.Crypto.Jwks
import Fapi2As.Js.Map
import Mathlib.Data.List.Sort
import Mathlib.Logic.Function.Basic

set_option relaxedAutoImplicit false
set_option autoImplicit false

/-!
# The keystores

Every process that signs tokens has a keystore: the signing keys that it has loaded from the shared
table, with the active one among them. Keys are loaded once, on first use; a rotation retires the
active key and introduces a new one. Any number of keystores share the table, and every operation on
the table may fail, before or after it has taken effect.

## Main definitions

* `Fapi2As.KeyStore` — the loaded keys of a process.
* `Fapi2As.init`, `Fapi2As.ensure`, `Fapi2As.rotate` — the operations, as programs.
* `Fapi2As.keySystem` — any number of keystores over one table.
-/

namespace Fapi2As

open Js Async

/-! ## The loaded keys -/

/-- Why an operation is rejected. -/
inductive KeyFault
  /-- A unique violation, code `23505`. -/
  | uniqueViolation
  /-- Any other failure. -/
  | failure
  /-- `mustActive()` found no key. -/
  | notInitialised
  deriving DecidableEq

/-- A row of the table: its public JWK names it. -/
structure KeyRow extends SigningKeyRecord where
  stamped : publicJwk.get "kid" = some (.str kid)

/-- A key is retired at a time. -/
def KeyRow.retire (t : ℕ) (r : KeyRow) : KeyRow :=
  { r with status := .retired, retiredAt := some t }

/-- **A keystore.** The active key is one of the loaded keys at all times, so the reference to it is
modelled by its `kid`. -/
structure KeyStore where
  /-- The loaded keys, by `kid`. -/
  keys : Map String KeyRow := .empty
  /-- The active key. -/
  active : Option String := none
  /-- The pending or resolved initialisation. -/
  initPromise : Option ℕ := none
  /-- The initialisations so far, with the outcome of those that have settled. -/
  inits : List (Option (Except KeyFault Unit)) := []
  /-- Keys are loaded under their `kid`. -/
  keyed : ∀ kid r, keys.get? kid = some r → r.kid = kid := by
    intro kid r h
    cases h
  /-- The active key is loaded. -/
  active_loaded : ∀ kid, active = some kid → ∃ r, keys.get? kid = some r := by
    intro kid h
    cases h

/-- The public members of a JWK. -/
def publicMembers (jwk : Params) : Params :=
  ["kty", "crv", "x", "y", "kid", "alg", "use"].filterMap fun name =>
    (jwk.get name).map fun v => (name, v)

lemma toPublicJwk_eq (jwk : Params) : toPublicJwk jwk = .obj (publicMembers jwk) := rfl

/-- A public member is kept as it is. -/
lemma publicMembers_get {jwk : Params} {name : String}
    (h : name ∈ ["kty", "crv", "x", "y", "kid", "alg", "use"]) :
    (publicMembers jwk).get name = jwk.get name := by
  have key : ∀ names : List String,
      assoc name (names.filterMap fun n => (jwk.get n).map fun v => (n, v)) =
        if name ∈ names then jwk.get name else none := by
    intro names
    induction names with
    | nil => rfl
    | cons n names ih =>
      cases hn : jwk.get n with
      | none =>
        rw [List.filterMap_cons_none (by rw [hn]; rfl), ih]
        by_cases hname : name = n
        · subst hname
          simp [hn]
        · simp [hname]
      | some v =>
        rw [List.filterMap_cons_some (by rw [hn]; rfl)]
        by_cases hname : name = n
        · subst hname
          simp [assoc, hn]
        · simp [assoc, hname, Ne.symm hname, ih]
  exact (key _).trans (if_pos h)

namespace KeyStore

variable (s : KeyStore)

/-- `publicJwks(now)`. -/
def publicJwks (now : ℕ) : List Json :=
  Fapi2As.publicJwks (s.keys.values.map (·.toSigningKeyRecord)) now

/-- A key is published at a time: a JWK of the set names it. -/
def Publishes (kid : String) (now : ℕ) : Prop :=
  ∃ jwk : Params, .obj jwk ∈ s.publicJwks now ∧ jwk.get "kid" = some (.str kid)

/-- **A key is published exactly when it is loaded and its record is published.** -/
lemma publishes_iff_exists {kid : String} {now : ℕ} : s.Publishes kid now ↔
    ∃ r, s.keys.get? kid = some r ∧ r.isPublished now = true := by
  have hmem : ∀ r' : SigningKeyRecord,
      r' ∈ publishedKeys (s.keys.values.map (·.toSigningKeyRecord)) now ↔
      r' ∈ s.keys.values.map (·.toSigningKeyRecord) ∧ r'.isPublished now = true := by
    intro r'
    rw [publishedKeys, List.mem_append, List.mem_filter, List.mem_filter, List.mem_filter]
    by_cases hactive : r'.status = .active <;> simp [hactive]
  have hjwk : ∀ r' : KeyRow, (publicMembers r'.publicJwk).get "kid" = some (.str r'.kid) :=
    fun r' => by
    rw [publicMembers_get (by decide), r'.stamped]
  constructor
  · rintro ⟨jwk, hin, hkid⟩
    obtain ⟨r', hr', heq⟩ := List.mem_map.mp hin
    obtain ⟨hvalue, hpub⟩ := (hmem r').mp hr'
    obtain ⟨row, hrow, rfl⟩ := List.mem_map.mp hvalue
    rw [toPublicJwk_eq, Json.obj.injEq] at heq
    rw [← heq, hjwk, Option.some.injEq, Json.str.injEq] at hkid
    obtain ⟨kid', hget⟩ := Map.mem_values_iff.mp hrow
    obtain rfl := (s.keyed kid' row hget).symm.trans hkid
    exact ⟨row, hget, hpub⟩
  · rintro ⟨r, h, hr⟩
    refine ⟨publicMembers r.publicJwk, List.mem_map.mpr ⟨r.toSigningKeyRecord, ?_, rfl⟩, ?_⟩
    · exact (hmem _).mpr ⟨List.mem_map_of_mem (Map.mem_values h), hr⟩
    · rw [hjwk, s.keyed kid r h]

/-- A loaded key is published exactly for as long as its record is. -/
lemma publishes_iff {kid : String} {r : KeyRow} {now : ℕ} (h : s.keys.get? kid = some r) :
    s.Publishes kid now ↔ r.isPublished now = true := by
  simp [publishes_iff_exists, h]

/-- `this.keys.set(record.kid, { record, … })` and `this.active` set to the entry. -/
def adopt (r : KeyRow) : KeyStore where
  keys := s.keys.set r.kid r
  active := some r.kid
  initPromise := s.initPromise
  inits := s.inits
  keyed := by
    intro kid r' h
    rw [Map.get?_set] at h
    split_ifs at h with hk
    · rw [← Option.some.inj h, hk]
    · exact s.keyed kid r' h
  active_loaded := by
    intro kid h
    obtain rfl := Option.some.inj h
    exact ⟨r, Map.get?_set_self _ _ _⟩

/-- The keys of records, by `kid`. -/
def loadedKeys (records : List KeyRow) : Map String KeyRow :=
  records.foldl (fun m r => m.set r.kid r) .empty

lemma loadedKeys_keyed (records : List KeyRow) {kid : String} {r : KeyRow}
    (h : (loadedKeys records).get? kid = some r) : r.kid = kid := by
  have key : ∀ (records : List KeyRow) (m : Map String KeyRow),
      (∀ kid r, m.get? kid = some r → r.kid = kid) → ∀ kid r,
      (records.foldl (fun m r => m.set r.kid r) m).get? kid = some r → r.kid = kid := by
    intro records
    induction records with
    | nil => exact fun m hm => hm
    | cons r rs ih =>
      refine fun m hm => ih _ fun kid r' h => ?_
      rw [Map.get?_set] at h
      split_ifs at h with hk
      · rw [← Option.some.inj h, hk]
      · exact hm kid r' h
  exact key records .empty (fun kid r h => by cases h) kid r h

/-- A loaded key is one of the records. -/
lemma mem_of_loadedKeys {records : List KeyRow} {kid : String} {r : KeyRow}
    (h : (loadedKeys records).get? kid = some r) : r ∈ records := by
  have key : ∀ (records : List KeyRow) (m : Map String KeyRow),
      (records.foldl (fun m r => m.set r.kid r) m).get? kid = some r →
      r ∈ records ∨ m.get? kid = some r := by
    intro records
    induction records with
    | nil => exact fun m h => .inr h
    | cons r₀ rs ih =>
      intro m h
      rcases ih _ h with h | h
      · exact .inl (List.mem_cons_of_mem _ h)
      · rw [Map.get?_set] at h
        split_ifs at h with hk
        · exact .inl (Option.some.inj h ▸ List.mem_cons_self)
        · exact .inr h
  rcases key records .empty h with h | h
  · exact h
  · cases h

/-- The loaded keys hold every record that was loaded, up to records of the same `kid`. -/
lemma exists_loadedKeys {records : List KeyRow} {r : KeyRow}
    (h : r ∈ records) : ∃ r', (loadedKeys records).get? r.kid = some r' := by
  have key : ∀ (records : List KeyRow) (m : Map String KeyRow),
      (r ∈ records ∨ ∃ r', m.get? r.kid = some r') →
      ∃ r', (records.foldl (fun m r => m.set r.kid r) m).get? r.kid = some r' := by
    intro records
    induction records with
    | nil =>
      rintro m (h | h)
      · cases h
      · exact h
    | cons r₀ rs ih =>
      intro m h
      refine ih _ ?_
      by_cases hk : r.kid = r₀.kid
      · exact .inr ⟨r₀, by rw [Map.get?_set, if_pos hk]⟩
      · rcases h with h | ⟨r', h⟩
        · rcases List.mem_cons.mp h with rfl | h
          · exact absurd rfl hk
          · exact .inl h
        · exact .inr ⟨r', by rw [Map.get?_set, if_neg hk]; exact h⟩
  exact key records .empty (.inl h)

/-- `this.keys = loaded` and `this.active` set to one of the entries, or to none. -/
def load (records : List KeyRow) (active : Option KeyRow) : KeyStore where
  keys := loadedKeys records
  active := (active.bind fun r => (loadedKeys records).get? r.kid).map (·.kid)
  initPromise := s.initPromise
  inits := s.inits
  keyed _ _ h := loadedKeys_keyed records h
  active_loaded := by
    intro kid h
    obtain ⟨r, hr, rfl⟩ := Option.map_eq_some_iff.mp h
    obtain ⟨a, -, ha⟩ := Option.bind_eq_some_iff.mp hr
    exact ⟨r, by rw [loadedKeys_keyed records ha]; exact ha⟩

/-- The start of a rotation: the active key is retired in memory, and stays the active one. -/
def retireActive (t : ℕ) : KeyStore where
  keys := s.keys.mapVals fun kid r => if s.active = some kid then r.retire t else r
  active := s.active
  initPromise := s.initPromise
  inits := s.inits
  keyed := by
    intro kid r h
    rw [Map.get?_mapVals] at h
    obtain ⟨r', hr, rfl⟩ := Option.map_eq_some_iff.mp h
    rw [← s.keyed kid r' hr]
    split_ifs <;> rfl
  active_loaded := by
    intro kid h
    obtain ⟨r, hr⟩ := s.active_loaded kid h
    exact ⟨_, by rw [Map.get?_mapVals, hr]; rfl⟩

/-- An initialisation starts. -/
def start : KeyStore :=
  { s with initPromise := some s.inits.length, inits := s.inits ++ [none] }

/-- An initialisation settles; a rejection clears the promise. -/
def settle (n : ℕ) (r : Except KeyFault Unit) : KeyStore :=
  { s with
    initPromise := match r with
      | .ok _ => s.initPromise
      | .error _ => none
    inits := s.inits.set n (some r) }

end KeyStore

/-! ## The awaited operations -/

/-- A key that was generated: its thumbprint, its exported JWK, and the time. -/
structure GeneratedKey where
  kid : String
  privateJwk : Params
  createdAt : ℕ

/-- The exported JWK with `kid`, `alg` and `use`. -/
def GeneratedKey.stamped (key : GeneratedKey) : Params :=
  assocSet "use" (.str "sig") (assocSet "alg" (.str "ES256")
    (assocSet "kid" (.str key.kid) key.privateJwk))

lemma GeneratedKey.stamped_kid (key : GeneratedKey) :
    (publicMembers key.stamped).get "kid" = some (.str key.kid) := by
  rw [publicMembers_get (by decide)]
  simp [stamped, Params.get, assoc_assocSet]

/-- Its record, as the new active key. -/
def GeneratedKey.record (key : GeneratedKey) : KeyRow where
  kid := key.kid
  status := .active
  publicJwk := publicMembers key.stamped
  createdAt := key.createdAt
  retiredAt := none
  stamped := key.stamped_kid

/-- The operations of a keystore that are awaited, or run without interruption between two awaits.
The keystores are numbered. -/
inductive KeyCall
  /-- The start of `ensure()`. -/
  | ensure (i : ℕ)
  /-- The await of a pending initialisation. -/
  | join (i n : ℕ)
  /-- The end of an initialisation. -/
  | settle (i n : ℕ) (r : Except KeyFault Unit)
  /-- `repo.list()`. -/
  | list
  /-- `repo.insert(rec)`. -/
  | insert (rec : KeyRow)
  /-- `repo.setStatus(kid, status, retiredAt)`. -/
  | setStatus (kid : String) (status : KeyStatus) (retiredAt : Option ℕ)
  /-- `importPrivate(record)`. -/
  | importPrivate (rec : KeyRow)
  /-- `generateKeyPair`, `exportJWK` and `calculateJwkThumbprint`, and the time after them. -/
  | generate
  /-- `new Date()`. -/
  | now
  /-- The swap of the loaded keys. -/
  | load (i : ℕ) (records : List KeyRow) (active : Option KeyRow)
  /-- The start of `rotate()`. -/
  | retireActive (i : ℕ)
  /-- A key becomes the active one. -/
  | adopt (i : ℕ) (rec : KeyRow)
  /-- `mustActive()`, by `activeKid()` and `signJwt()`. -/
  | mustActive (i : ℕ)

/-- The answers of the operations. -/
@[reducible] def KeyRet : KeyCall → Type
  | .ensure _ => ℕ × Bool
  | .join _ _ | .insert _ | .setStatus _ _ _ | .importPrivate _ => Except KeyFault Unit
  | .settle _ _ _ | .load _ _ _ | .adopt _ _ => Unit
  | .list => Except KeyFault (List KeyRow)
  | .generate => GeneratedKey
  | .now => ℕ
  | .retireActive _ => Option (String × ℕ)
  | .mustActive _ => Except KeyFault String

/-- A program of a keystore. -/
abbrev KeyProg (α : Type) := Prog KeyRet KeyFault α

/-- An operation and its answer. -/
def keyCall (o : KeyCall) : KeyProg (KeyRet o) := Prog.perform o

/-- A promise whose rejection is passed on. -/
def keyAwaited {α : Type} (x : Except KeyFault α) : KeyProg α := Prog.settle id x

/-! ## The operations of a keystore -/

/-- Import the private keys of records. -/
def importAll : List KeyRow → KeyProg Unit
  | [] => pure ()
  | rec :: recs => do
    let r ← keyCall (.importPrivate rec)
    keyAwaited r
    importAll recs

/-- Retire records in the table, each at its own time. -/
def retireAll : List KeyRow → KeyProg (List (String × ℕ))
  | [] => pure []
  | stale :: recs => do
    let t ← keyCall .now
    let r ← keyCall (.setStatus stale.kid .retired (some t))
    keyAwaited r
    let rest ← retireAll recs
    return (stale.kid, t) :: rest

/-- The active records, by the time of their creation. -/
def activesOf (records : List KeyRow) : List KeyRow :=
  (records.filter (·.status = .active)).insertionSort fun a b => a.createdAt ≤ b.createdAt

/-- The records with the stale ones among them retired. -/
def withRetired (stale : List (String × ℕ)) (records : List KeyRow) :
    List KeyRow :=
  records.map fun r =>
    match assoc r.kid stale with
    | some t => r.retire t
    | none => r

/-- Retiring stale records keeps their `kid`s. -/
lemma exists_withRetired (stale : List (String × ℕ)) {records : List KeyRow}
    {r : KeyRow} (h : r ∈ records) : ∃ r' ∈ withRetired stale records, r'.kid = r.kid := by
  refine ⟨_, List.mem_map_of_mem h, ?_⟩
  split <;> rfl

/-- Without stale records, the records stay as they are. -/
lemma withRetired_nil {stale : List (String × ℕ)} {records : List KeyRow}
    (h : ∀ e ∈ stale, ∃ r ∈ ([] : List KeyRow), r.kid = e.1) :
    withRetired stale records = records := by
  obtain rfl : stale = [] := List.eq_nil_iff_forall_not_mem.mpr fun e he => by
    obtain ⟨_, hr, -⟩ := h e he
    cases hr
  simp [withRetired, assoc]

/-- The newest active record is one of the records. -/
lemma mem_of_newest {records : List KeyRow} {r : KeyRow}
    (h : (activesOf records).getLast? = some r) : r ∈ records ∧ r.status = .active := by
  have hmem : r ∈ activesOf records := List.mem_of_getLast? h
  have hfilter := (List.perm_insertionSort _ _).mem_iff.mp hmem
  simpa using List.mem_filter.mp hfilter

/-- The part of `rotate()` after the old key is retired: generate a key and persist it, or adopt the
key of another keystore that was faster. -/
def introduceKey (i : ℕ) : KeyProg String := do
  let key ← keyCall .generate
  let inserted ← keyCall (.insert key.record)
  match inserted with
  | .ok _ => do
    keyCall (.adopt i key.record)
    return key.kid
  | .error .uniqueViolation => do
    let r ← keyCall .list
    let records ← keyAwaited r
    match records.find? (·.status = .active) with
    | none => throw .uniqueViolation
    | some winner => do
      let r ← keyCall (.importPrivate winner)
      keyAwaited r
      keyCall (.adopt i winner)
      return winner.kid
  | .error e => throw e

/-- `rotate()`. -/
def rotate (i : ℕ) : KeyProg String := do
  let previous ← keyCall (.retireActive i)
  match previous with
  | some (kid, t) => do
    let r ← keyCall (.setStatus kid .retired (some t))
    keyAwaited r
    introduceKey i
  | none => introduceKey i

/-- `init()`. There is no active key when it rotates, so nothing is retired then. -/
def init (i : ℕ) : KeyProg Unit := do
  let r ← keyCall .list
  let records ← keyAwaited r
  importAll records
  let stale ← retireAll (activesOf records).dropLast
  keyCall (.load i (withRetired stale records) (activesOf records).getLast?)
  if (activesOf records).getLast?.isNone then do
    let _ ← introduceKey i
    return ()

/-- The outcome of a program, caught. -/
def settled {α : Type} (p : KeyProg α) : KeyProg (Except KeyFault α) :=
  tryCatch (p >>= fun a => pure (.ok a)) fun e => pure (.error e)

/-- `ensure()`: the initialisation is shared by all callers until it is rejected. -/
def ensure (i : ℕ) : KeyProg Unit := do
  let (n, started) ← keyCall (.ensure i)
  if started then do
    let r ← settled (init i)
    keyCall (.settle i n r)
    keyAwaited r
  else do
    let r ← keyCall (.join i n)
    keyAwaited r

/-- `activeKid()`, and the key that `signJwt()` signs with. -/
def activeKid (i : ℕ) : KeyProg String := do
  let r ← keyCall (.mustActive i)
  keyAwaited r

/-- The key rotation command. -/
def rotateKeys (i : ℕ) : KeyProg (String × String) := do
  ensure i
  let oldKid ← activeKid i
  let newKid ← rotate i
  return (oldKid, newKid)

/-! ## The system -/

/-- The requests: an `ensure()`, a `rotate()` or a `signJwt()` of a keystore, or the command. -/
inductive KeyReq
  | ensure (i : ℕ)
  | rotate (i : ℕ)
  | signJwt (i : ℕ)
  | rotateKeys (i : ℕ)

/-- The `kid`s that a request ends with. -/
def keyHandler : KeyReq → KeyProg (List String)
  | .ensure i => do
    ensure i
    return []
  | .rotate i => do
    let kid ← rotate i
    return [kid]
  | .signJwt i => do
    let kid ← activeKid i
    return [kid]
  | .rotateKeys i => do
    let (oldKid, newKid) ← rotateKeys i
    return [oldKid, newKid]

/-- How an operation on the table ends: it is carried out, it fails without effect, or its effect
takes place and the answer is lost. -/
inductive KeyOutcome
  | done
  | refused
  | lost

/-- What an operation leaves to the outside. -/
structure KeyOracle where
  outcome : KeyOutcome := .done
  /-- The key that is generated. -/
  kid : String := ""
  privateJwk : Params := []

/-- The table, the keystores and the clock. -/
structure KeyWorld where
  table : Map String KeyRow := .empty
  stores : ℕ → KeyStore := fun _ => {}
  clock : ℕ := 0
  /-- The `kid`s of all keys so far. -/
  kids : List String := []

namespace KeyWorld

/-- Change a keystore. -/
def setStore (w : KeyWorld) (i : ℕ) (s : KeyStore) : KeyWorld :=
  { w with stores := Function.update w.stores i s }

/-- The answer and the effect of an operation on the table, as it ends. -/
def carry {α : Type} (w : KeyWorld) (a : α) (w' : KeyWorld) :
    KeyOutcome → Except KeyFault α × KeyWorld
  | .done => (.ok a, w')
  | .refused => (.error .failure, w)
  | .lost => (.error .failure, w')

/-- The table has an active row. -/
def hasActive (w : KeyWorld) : Bool := w.table.values.any (·.status = .active)

end KeyWorld

/-- The effect of an operation. -/
def keyExec : (o : KeyCall) → KeyOracle → KeyWorld → Option (KeyRet o × KeyWorld)
  | .ensure i, _, w =>
    match (w.stores i).initPromise with
    | some n => some ((n, false), w)
    | none => some (((w.stores i).inits.length, true), w.setStore i (w.stores i).start)
  | .join i n, _, w =>
    match (w.stores i).inits[n]? with
    | some (some r) => some (r, w)
    | _ => none
  | .settle i n r, _, w => some ((), w.setStore i ((w.stores i).settle n r))
  | .list, x, w => some (w.carry w.table.values w x.outcome)
  | .insert rec, x, w =>
    if rec.status = .active ∧ w.hasActive then some (.error .uniqueViolation, w)
    else some (w.carry () { w with table := w.table.set rec.kid rec } x.outcome)
  | .setStatus kid status retiredAt, x, w =>
    some (w.carry () { w with table := w.table.modify kid fun r =>
      { r with status := status, retiredAt := retiredAt } } x.outcome)
  | .importPrivate _, x, w => some (w.carry () w x.outcome)
  | .generate, x, w =>
    if x.kid ∈ w.kids then none
    else some (⟨x.kid, x.privateJwk, w.clock⟩, { w with kids := x.kid :: w.kids })
  | .now, _, w => some (w.clock, w)
  | .load i records active, _, w => some ((), w.setStore i ((w.stores i).load records active))
  | .retireActive i, _, w =>
    some ((w.stores i).active.map fun kid => (kid, w.clock),
      w.setStore i ((w.stores i).retireActive w.clock))
  | .adopt i rec, _, w => some ((), w.setStore i ((w.stores i).adopt rec))
  | .mustActive i, _, w =>
    match (w.stores i).active with
    | some kid => some (.ok kid, w)
    | none => some (.error .notInitialised, w)

/-- The clock is set. -/
structure KeyMove where
  clock : ℕ

/-- A run starts with keystores that have loaded nothing, and a table by `kid`. -/
structure KeyWorld.Initial (w : KeyWorld) : Prop where
  stores : w.stores = fun _ => {}
  keyed : ∀ kid r, w.table.get? kid = some r → r.kid = kid
  kids : ∀ kid r, w.table.get? kid = some r → kid ∈ w.kids

/-- Any number of keystores over one table. -/
@[reducible] def keySystem : Sys KeyRet KeyFault (List String) where
  Req := KeyReq
  World := KeyWorld
  Oracle := KeyOracle
  Env := KeyMove
  Start := KeyWorld.Initial
  handler := keyHandler
  exec := keyExec
  env m w := some { w with clock := m.clock }

end Fapi2As
