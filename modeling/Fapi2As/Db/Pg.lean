import Fapi2As.Db.Memory
import Fapi2As.Sql.Table

set_option relaxedAutoImplicit false
set_option autoImplicit false

/-!
# The PostgreSQL storage adapter

Every repository method of the adapter, by its SQL statements. The database refuses a statement
whose parameters or rows break the schema (a text with the character U+0000, a grant id that is no
`uuid`, a date that is no `timestamptz`, a foreign key without its row, a primary key that exists).
The replay guard has no cap, and expired rows are reaped at random, up to a thousand at a time. A
refused or failed statement rejects the promise.

A code is redeemed by an `UPDATE` and, when that hits no row, a `SELECT`; the statements are run
here one right after the other.

## Main definitions

* `Fapi2As.Pg.refuses` — the statements the schema refuses.
* `Fapi2As.DbChoice` — what the database does on its own: rows reaped, statements failed.
* `Fapi2As.Pg.exec` — the statements of a repository call.
* `Fapi2As.Backend.exec` — a repository call on either adapter.

## Main results

* `Fapi2As.Pg.exec_eq_memory` — the statements of a call that reaps nothing do what the in-memory
  adapter does.
-/

namespace Fapi2As

open Js Sql

/-- A rejected repository promise. -/
inductive Fault
  | rejected
  deriving DecidableEq

/-- What the database decides: the rows that a reap deletes, and whether the statement fails. A
statement that fails here is not carried out; the answers that are lost after a statement was
committed are added to the runs of the server (`LossyRun`). -/
structure DbChoice where
  /-- The replay entries deleted, if they are expired. -/
  reapJti : List (String × String) := []
  /-- The interactions deleted, if they are expired. -/
  reapInteractions : List String := []
  /-- The statement fails: it has no effect, and the promise rejects. -/
  fails : Bool := false

namespace Pg

/-- The texts among the parameters of a statement, including those inside `jsonb` values that the
server builds itself. -/
def texts : Query → List String
  | .clientsFindById clientId => [clientId]
  | .parInsert rec =>
    [rec.requestUri, rec.clientId] ++ rec.params.flatMap (fun e => [e.1, e.2]) ++ rec.dpopJkt.toList
  | .parPeek requestUri _ | .parConsume requestUri _ => [requestUri]
  | .grantsInsert rec => [rec.grantId, rec.clientId, rec.subject, rec.scope]
  | .grantsFind grantId | .grantsRevoke grantId _ => [grantId]
  | .codesInsert rec => [rec.codeHash, rec.grantId, rec.clientId, rec.redirectUri,
      rec.codeChallenge] ++ rec.dpopJkt.toList ++ rec.nonce.toList
  | .codesRedeem codeHash _ => [codeHash]
  | .accessTokensInsert rec =>
    [rec.jti, rec.grantId, rec.clientId, rec.subject, rec.scope] ++ rec.cnfJkt.toList
  | .accessTokensFindByJti jti | .accessTokensRevoke jti _ => [jti]
  | .accessTokensRevokeByGrant grantId _ => [grantId]
  | .refreshTokensInsert rec => [rec.tokenHash, rec.grantId, rec.clientId, rec.scope]
  | .refreshTokensFindByHash tokenHash | .refreshTokensRevoke tokenHash _ => [tokenHash]
  | .refreshTokensRevokeByGrant grantId _ => [grantId]
  | .jtiRegister context jti _ _ => [context, jti]
  | .interactionsInsert rec =>
    [rec.id, rec.clientId, rec.requestUri] ++ rec.subject.toList
  | .interactionsFind id _ | .interactionsComplete id _ => [id]
  | .interactionsSetSubject id subject _ _ _ => [id, subject]

/-- The dates among the parameters of a statement that do not come from the clock. -/
def dates : Query → List Date
  | .parInsert rec => [rec.expiresAt]
  | .grantsInsert rec => [rec.authTime]
  | .codesInsert rec => [rec.expiresAt]
  | .accessTokensInsert rec => [rec.expiresAt]
  | .refreshTokensInsert rec => [rec.expiresAt]
  | .jtiRegister _ _ expiresAt _ => [expiresAt]
  | .interactionsInsert rec => rec.authTime.toList ++ [rec.expiresAt]
  | .interactionsSetSubject _ _ authTime _ _ => [authTime]
  | _ => []

/-- The parameters of a statement that are grant ids, of type `uuid` in the schema. -/
def uuids : Query → List String
  | .grantsInsert rec => [rec.grantId]
  | .grantsFind grantId | .grantsRevoke grantId _ => [grantId]
  | .codesInsert rec => [rec.grantId]
  | .accessTokensInsert rec => [rec.grantId]
  | .accessTokensRevokeByGrant grantId _ => [grantId]
  | .refreshTokensInsert rec => [rec.grantId]
  | .refreshTokensRevokeByGrant grantId _ => [grantId]
  | _ => []

/-- The spelling of a UUID that `randomUUID` returns and the database returns. (The database reads
other spellings of it too; no caller has them.) -/
def isUuid (t : String) : Bool :=
  t.toList.length == 36 && t.toList.zipIdx.all fun (c, i) =>
    if [8, 13, 18, 23].contains i then c == '-' else c.isDigit || ('a' ≤ c && c ≤ 'f')

/-- A date is a `timestamptz`: valid, and not before 4714-11-24 BC. -/
def isTimestamptz : Date → Bool
  | some t => -210866803200000 ≤ t
  | none => false

/-- The row a statement refers to by a foreign key is there. -/
def referenced (s : Store) : Query → Bool
  | .parInsert rec => (s.clients.get? rec.clientId).isSome
  | .grantsInsert rec => (s.clients.get? rec.clientId).isSome
  | .interactionsInsert rec => (s.clients.get? rec.clientId).isSome
  | .codesInsert rec => (s.grants.get? rec.grantId).isSome
  | .accessTokensInsert rec => (s.grants.get? rec.grantId).isSome
  | .refreshTokensInsert rec => (s.grants.get? rec.grantId).isSome
  | _ => true

/-- The primary key of an inserted row is taken. -/
def duplicate (s : Store) : Query → Bool
  | .parInsert rec => (s.par.get? rec.requestUri).isSome
  | .grantsInsert rec => (s.grants.get? rec.grantId).isSome
  | .interactionsInsert rec => (s.interactions.get? rec.id).isSome
  | .codesInsert rec => (s.codes.get? rec.codeHash).isSome
  | .accessTokensInsert rec => (s.accessTokens.get? rec.jti).isSome
  | .refreshTokensInsert rec => (s.refreshTokens.get? rec.tokenHash).isSome
  | _ => false

/-- The statements the schema refuses. -/
def refuses (s : Store) (q : Query) : Bool :=
  (texts q).any (fun t => t.toList.contains '\x00') || (uuids q).any (fun t => !isUuid t) ||
    (dates q).any (fun d => !isTimestamptz d) || !referenced s q || duplicate s q

/-- `expires_at > $1`. A `timestamptz` is a point in time, so this is what `expires_at <= $1` is
not. -/
def isLater (expiresAt : Date) (now : ℕ) : Bool := !expiresAt.isPast now

/-- `PgClients.findById`. -/
def clientsFindById (s : Store) (clientId : String) : Option ClientRecord :=
  (select s.clients fun k _ => decide (k = clientId)).head?

/-- `PgParRequests.insert`. -/
def parInsert (s : Store) (rec : ParRequestRecord) : Store :=
  { s with par := insert s.par rec.requestUri ⟨rec, none⟩ }

/-- `PgParRequests.peek`. -/
def parPeek (s : Store) (requestUri : String) (now : ℕ) : Option ParRequestRecord :=
  let rows := select s.par fun k row =>
    decide (k = requestUri) && (row.consumedAt.isNone && isLater row.record.expiresAt now)
  rows.head?.map (·.record)

/-- `PgParRequests.consume`. -/
def parConsume (s : Store) (requestUri : String) (now : ℕ) : Option ParRequestRecord × Store :=
  let (rows, par) := update s.par
    (fun k row =>
      decide (k = requestUri) && (row.consumedAt.isNone && isLater row.record.expiresAt now))
    fun row => { row with consumedAt := some now }
  (rows.head?.map (·.record), { s with par := par })

/-- `PgGrants.insert`. -/
def grantsInsert (s : Store) (rec : GrantRecord) : Store :=
  { s with grants := insert s.grants rec.grantId rec }

/-- `PgGrants.find`. -/
def grantsFind (s : Store) (grantId : String) : Option GrantRecord :=
  (select s.grants fun k _ => decide (k = grantId)).head?

/-- `PgGrants.revoke`. -/
def grantsRevoke (s : Store) (grantId : String) (at_ : ℕ) : Store :=
  let (_, grants) := update s.grants (fun k r => decide (k = grantId) && r.revokedAt.isNone)
    fun r => { r with revokedAt := some at_ }
  { s with grants := grants }

/-- `PgAuthorizationCodes.insert`. -/
def codesInsert (s : Store) (rec : AuthorizationCodeRecord) : Store :=
  { s with codes := insert s.codes rec.codeHash ⟨rec, none⟩ }

/-- The `UPDATE` of `PgAuthorizationCodes.redeem`: the row that it hits, and the tables after it. -/
def redeemUpdate (s : Store) (codeHash : String) (now : ℕ) :
    Option AuthorizationCodeRecord × Store :=
  let (rows, codes) := update s.codes
    (fun k row =>
      decide (k = codeHash) && (row.consumedAt.isNone && isLater row.record.expiresAt now))
    fun row => { row with consumedAt := some now }
  (rows.head?.map (·.record), { s with codes := codes })

/-- The row that the `SELECT` of `PgAuthorizationCodes.redeem` hits. -/
def redeemSelect (s : Store) (codeHash : String) : Option AuthorizationCodeRecord :=
  let rows := select s.codes fun k row => decide (k = codeHash) && row.consumedAt.isSome
  rows.head?.map (·.record)

/-- `PgAuthorizationCodes.redeem`: the `SELECT` is run when the `UPDATE` hits no row. -/
def codesRedeem (s : Store) (codeHash : String) (now : ℕ) : CodeRedemption × Store :=
  let (upd, s) := redeemUpdate s codeHash now
  match upd with
  | some record => (.ok record, s)
  | none =>
    match redeemSelect s codeHash with
    | some record => (.consumed record, s)
    | none => (.invalid, s)

/-- `PgAccessTokens.insert`. -/
def accessTokensInsert (s : Store) (rec : AccessTokenRecord) : Store :=
  { s with accessTokens := insert s.accessTokens rec.jti rec }

/-- `PgAccessTokens.findByJti`. -/
def accessTokensFindByJti (s : Store) (jti : String) : Option AccessTokenRecord :=
  (select s.accessTokens fun k _ => decide (k = jti)).head?

/-- `PgAccessTokens.revoke`. -/
def accessTokensRevoke (s : Store) (jti : String) (at_ : ℕ) : Store :=
  let (_, accessTokens) := update s.accessTokens
    (fun k r => decide (k = jti) && r.revokedAt.isNone)
    fun r => { r with revokedAt := some at_ }
  { s with accessTokens := accessTokens }

/-- `PgAccessTokens.revokeByGrant`. -/
def accessTokensRevokeByGrant (s : Store) (grantId : String) (at_ : ℕ) : Store :=
  let (_, accessTokens) := update s.accessTokens
    (fun _ r => decide (r.grantId = grantId) && r.revokedAt.isNone)
    fun r => { r with revokedAt := some at_ }
  { s with accessTokens := accessTokens }

/-- `PgRefreshTokens.insert`. -/
def refreshTokensInsert (s : Store) (rec : RefreshTokenRecord) : Store :=
  { s with refreshTokens := insert s.refreshTokens rec.tokenHash rec }

/-- `PgRefreshTokens.findByHash`. -/
def refreshTokensFindByHash (s : Store) (tokenHash : String) : Option RefreshTokenRecord :=
  (select s.refreshTokens fun k _ => decide (k = tokenHash)).head?

/-- `PgRefreshTokens.revoke`. -/
def refreshTokensRevoke (s : Store) (tokenHash : String) (at_ : ℕ) : Store :=
  let (_, refreshTokens) := update s.refreshTokens
    (fun k r => decide (k = tokenHash) && r.revokedAt.isNone)
    fun r => { r with revokedAt := some at_ }
  { s with refreshTokens := refreshTokens }

/-- `PgRefreshTokens.revokeByGrant`. -/
def refreshTokensRevokeByGrant (s : Store) (grantId : String) (at_ : ℕ) : Store :=
  let (_, refreshTokens) := update s.refreshTokens
    (fun _ r => decide (r.grantId = grantId) && r.revokedAt.isNone)
    fun r => { r with revokedAt := some at_ }
  { s with refreshTokens := refreshTokens }

/-- The most rows one reap deletes. -/
def reapLimit : ℕ := 1000

/-- `PgJtiReplay.register`: the reap of this call, then the conditional upsert. -/
def jtiRegister (s : Store) (reap : List (String × String)) (context jti : String)
    (expiresAt : Date) (now : ℕ) : Bool × Store :=
  let rows := deleteLimit s.jti (Date.isPast · now) reapLimit reap
  let (rowCount, rows) := upsert rows (context, jti) expiresAt (Date.isPast · now)
  (rowCount == 1, { s with jti := rows })

/-- `PgInteractions.insert`: the reap of this call, then the insertion. -/
def interactionsInsert (s : Store) (reap : List String) (rec : InteractionRecord) : Store :=
  let rows := deleteLimit s.interactions (fun row => row.record.expiresAt.isPast rec.createdAt)
    reapLimit reap
  { s with interactions := insert rows rec.id ⟨rec, none⟩ }

/-- `PgInteractions.find`. -/
def interactionsFind (s : Store) (id : String) (now : ℕ) : Option InteractionRecord :=
  let rows := select s.interactions fun k row =>
    decide (k = id) && (row.completedAt.isNone && isLater row.record.expiresAt now)
  rows.head?.map (·.record)

/-- `PgInteractions.setSubject`. -/
def interactionsSetSubject (s : Store) (id subject : String) (authTime : Date)
    (acr amr : Option Json) : Store :=
  let (_, interactions) := update s.interactions
    (fun k row => decide (k = id) && row.completedAt.isNone)
    fun row => { row with record := { row.record with
      subject := some subject, authTime := some authTime, acr := acr, amr := amr } }
  { s with interactions := interactions }

/-- `PgInteractions.complete`. -/
def interactionsComplete (s : Store) (id : String) (now : ℕ) :
    Option InteractionRecord × Store :=
  let (rows, interactions) := update s.interactions
    (fun k row =>
      decide (k = id) && (row.completedAt.isNone && isLater row.record.expiresAt now))
    fun row => { row with completedAt := some now }
  (rows.head?.map (·.record), { s with interactions := interactions })

/-- The result of a call whose statements are carried out, and the tables after it. -/
def exec (s : Store) (x : DbChoice) : (q : Query) → q.Res × Store
  | .clientsFindById clientId => (clientsFindById s clientId, s)
  | .parInsert rec => ((), parInsert s rec)
  | .parPeek requestUri now => (parPeek s requestUri now, s)
  | .parConsume requestUri now => parConsume s requestUri now
  | .grantsInsert rec => ((), grantsInsert s rec)
  | .grantsFind grantId => (grantsFind s grantId, s)
  | .grantsRevoke grantId at_ => ((), grantsRevoke s grantId at_)
  | .codesInsert rec => ((), codesInsert s rec)
  | .codesRedeem codeHash now => codesRedeem s codeHash now
  | .accessTokensInsert rec => ((), accessTokensInsert s rec)
  | .accessTokensFindByJti jti => (accessTokensFindByJti s jti, s)
  | .accessTokensRevoke jti at_ => ((), accessTokensRevoke s jti at_)
  | .accessTokensRevokeByGrant grantId at_ => ((), accessTokensRevokeByGrant s grantId at_)
  | .refreshTokensInsert rec => ((), refreshTokensInsert s rec)
  | .refreshTokensFindByHash tokenHash => (refreshTokensFindByHash s tokenHash, s)
  | .refreshTokensRevoke tokenHash at_ => ((), refreshTokensRevoke s tokenHash at_)
  | .refreshTokensRevokeByGrant grantId at_ => ((), refreshTokensRevokeByGrant s grantId at_)
  | .jtiRegister context jti expiresAt now => jtiRegister s x.reapJti context jti expiresAt now
  | .interactionsInsert rec => ((), interactionsInsert s x.reapInteractions rec)
  | .interactionsFind id now => (interactionsFind s id now, s)
  | .interactionsSetSubject id subject authTime acr amr =>
    ((), interactionsSetSubject s id subject authTime acr amr)
  | .interactionsComplete id now => interactionsComplete s id now

/-! ### The statements and the methods of the in-memory adapter -/

section

variable (s : Store)

/-- The condition of the statements on pushed requests is `parLive`. -/
lemma filter_parLive (found : Option ParRow) (now : ℕ) :
    found.filter (fun row => row.consumedAt.isNone && isLater row.record.expiresAt now) =
      found.filter (Memory.parLive · now) := rfl

/-- The condition of the statements on interactions is `interactionLive`. -/
lemma filter_interactionLive (found : Option InteractionRow) (now : ℕ) :
    found.filter (fun row => row.completedAt.isNone && isLater row.record.expiresAt now) =
      found.filter (Memory.interactionLive · now) := rfl

/-- A peek is that of the in-memory adapter. -/
lemma parPeek_eq (requestUri : String) (now : ℕ) :
    parPeek s requestUri now = Memory.parPeek s requestUri now := by
  unfold parPeek Memory.parPeek
  dsimp only
  rw [head?_select_key, filter_parLive]
  cases s.par.get? requestUri with
  | none => rfl
  | some row => cases h : Memory.parLive row now <;> simp [Option.filter, h]

/-- A consumption is that of the in-memory adapter. -/
lemma parConsume_eq (requestUri : String) (now : ℕ) :
    parConsume s requestUri now = Memory.parConsume s requestUri now := by
  unfold parConsume Memory.parConsume
  rw [update_key, filter_parLive]
  cases s.par.get? requestUri with
  | none => rfl
  | some row => cases h : Memory.parLive row now <;> simp [Option.filter, h]

/-- The revocation of a grant sets `revoked_at` unless it is set. -/
lemma grantsRevoke_eq (grantId : String) (at_ : ℕ) :
    grantsRevoke s grantId at_ =
      { s with grants := s.grants.modify grantId (GrantRecord.revoke at_) } := by
  unfold grantsRevoke
  dsimp only
  rw [update_key_snd]
  simp only [Option.isNone_iff_eq_none]
  rfl

/-- The `UPDATE` of a redemption redeems an unused, unexpired code. -/
lemma redeemUpdate_eq (codeHash : String) (now : ℕ) :
    redeemUpdate s codeHash now =
      match s.codes.get? codeHash with
      | none => (none, s)
      | some row =>
        if row.consumedAt.isNone ∧ row.record.expiresAt.isPast now = false then
          (some row.record,
            { s with codes := s.codes.set codeHash { row with consumedAt := some now } })
        else (none, s) := by
  unfold redeemUpdate
  rw [update_key]
  cases s.codes.get? codeHash with
  | none => rfl
  | some row =>
    cases hused : row.consumedAt <;> cases hpast : row.record.expiresAt.isPast now <;>
      simp [Option.filter, isLater, hused, hpast]

/-- The `SELECT` of a redemption finds a used code. -/
lemma redeemSelect_eq (codeHash : String) :
    redeemSelect s codeHash =
      match s.codes.get? codeHash with
      | none => none
      | some row => if row.consumedAt.isSome then some row.record else none := by
  unfold redeemSelect
  dsimp only
  rw [head?_select_key]
  cases s.codes.get? codeHash with
  | none => rfl
  | some row => cases hused : row.consumedAt <;> simp [Option.filter, hused]

/-- **The `UPDATE` and the `SELECT` of a redemption** report and change what the in-memory adapter
does. -/
lemma codesRedeem_eq (codeHash : String) (now : ℕ) :
    codesRedeem s codeHash now = Memory.codesRedeem s codeHash now := by
  unfold codesRedeem Memory.codesRedeem
  rw [redeemUpdate_eq]
  cases hrow : s.codes.get? codeHash with
  | none => simp [redeemSelect_eq, hrow]
  | some row =>
    cases hused : row.consumedAt <;> cases hpast : row.record.expiresAt.isPast now <;>
      simp [redeemSelect_eq, hrow, hused, hpast]

/-- The revocation of an access token sets `revoked_at` unless it is set. -/
lemma accessTokensRevoke_eq (jti : String) (at_ : ℕ) :
    accessTokensRevoke s jti at_ =
      { s with accessTokens := s.accessTokens.modify jti (AccessTokenRecord.revoke at_) } := by
  unfold accessTokensRevoke
  dsimp only
  rw [update_key_snd]
  simp only [Option.isNone_iff_eq_none]
  rfl

/-- The revocation of the access tokens of a grant sets `revoked_at` where it is not set. -/
lemma accessTokensRevokeByGrant_eq (grantId : String) (at_ : ℕ) :
    accessTokensRevokeByGrant s grantId at_ =
      { s with accessTokens := s.accessTokens.mapVals fun _ r =>
          if r.grantId = grantId then r.revoke at_ else r } := by
  unfold accessTokensRevokeByGrant update
  dsimp only
  congr 1
  refine Map.mapVals_congr fun _ r _ => ?_
  by_cases hg : r.grantId = grantId <;> simp [hg, AccessTokenRecord.revoke]

/-- The revocation of a refresh token sets `revoked_at` unless it is set. -/
lemma refreshTokensRevoke_eq (tokenHash : String) (at_ : ℕ) :
    refreshTokensRevoke s tokenHash at_ =
      { s with refreshTokens :=
          s.refreshTokens.modify tokenHash (RefreshTokenRecord.revoke at_) } := by
  unfold refreshTokensRevoke
  dsimp only
  rw [update_key_snd]
  simp only [Option.isNone_iff_eq_none]
  rfl

/-- The revocation of the refresh tokens of a grant sets `revoked_at` where it is not set. -/
lemma refreshTokensRevokeByGrant_eq (grantId : String) (at_ : ℕ) :
    refreshTokensRevokeByGrant s grantId at_ =
      { s with refreshTokens := s.refreshTokens.mapVals fun _ r =>
          if r.grantId = grantId then r.revoke at_ else r } := by
  unfold refreshTokensRevokeByGrant update
  dsimp only
  congr 1
  refine Map.mapVals_congr fun _ r _ => ?_
  by_cases hg : r.grantId = grantId <;> simp [hg, RefreshTokenRecord.revoke]

/-- A lookup of an interaction is that of the in-memory adapter. -/
lemma interactionsFind_eq (id : String) (now : ℕ) :
    interactionsFind s id now = Memory.interactionsFind s id now := by
  unfold interactionsFind Memory.interactionsFind
  dsimp only
  rw [head?_select_key, filter_interactionLive]
  cases s.interactions.get? id with
  | none => rfl
  | some row => cases h : Memory.interactionLive row now <;> simp [Option.filter, h]

/-- The subject is set on an interaction that is not completed. -/
lemma interactionsSetSubject_eq (id subject : String) (authTime : Date) (acr amr : Option Json) :
    interactionsSetSubject s id subject authTime acr amr =
      { s with interactions :=
          s.interactions.modify id (Memory.withSubject subject authTime acr amr) } := by
  unfold interactionsSetSubject
  dsimp only
  rw [update_key_snd]
  rfl

/-- A completion is that of the in-memory adapter. -/
lemma interactionsComplete_eq (id : String) (now : ℕ) :
    interactionsComplete s id now = Memory.interactionsComplete s id now := by
  unfold interactionsComplete Memory.interactionsComplete
  rw [update_key, filter_interactionLive]
  cases s.interactions.get? id with
  | none => rfl
  | some row => cases h : Memory.interactionLive row now <;> simp [Option.filter, h]

end

end Pg

/-- The calls that reap expired rows. -/
def Query.reaps : Query → Bool
  | .jtiRegister _ _ _ _ | .interactionsInsert _ => true
  | _ => false

/-- **The adapters agree on every call that reaps nothing**: the statements of the call have the
result and the effect of the method of the in-memory adapter. -/
lemma Pg.exec_eq_memory (s : Store) (x : DbChoice) {q : Query} (hq : q.reaps = false) :
    Pg.exec s x q = Memory.exec s q := by
  cases q with
  | clientsFindById clientId => exact congrArg (·, s) (head?_select_pk _ _)
  | parInsert rec => rfl
  | parPeek requestUri now => exact congrArg (·, s) (parPeek_eq s requestUri now)
  | parConsume requestUri now => exact parConsume_eq s requestUri now
  | grantsInsert rec => rfl
  | grantsFind grantId => exact congrArg (·, s) (head?_select_pk _ _)
  | grantsRevoke grantId at_ => exact congrArg ((), ·) (grantsRevoke_eq s grantId at_)
  | codesInsert rec => rfl
  | codesRedeem codeHash now => exact codesRedeem_eq s codeHash now
  | accessTokensInsert rec => rfl
  | accessTokensFindByJti jti => exact congrArg (·, s) (head?_select_pk _ _)
  | accessTokensRevoke jti at_ => exact congrArg ((), ·) (accessTokensRevoke_eq s jti at_)
  | accessTokensRevokeByGrant grantId at_ =>
    exact congrArg ((), ·) (accessTokensRevokeByGrant_eq s grantId at_)
  | refreshTokensInsert rec => rfl
  | refreshTokensFindByHash tokenHash => exact congrArg (·, s) (head?_select_pk _ _)
  | refreshTokensRevoke tokenHash at_ =>
    exact congrArg ((), ·) (refreshTokensRevoke_eq s tokenHash at_)
  | refreshTokensRevokeByGrant grantId at_ =>
    exact congrArg ((), ·) (refreshTokensRevokeByGrant_eq s grantId at_)
  | jtiRegister context jti expiresAt now => cases hq
  | interactionsInsert rec => cases hq
  | interactionsFind id now => exact congrArg (·, s) (interactionsFind_eq s id now)
  | interactionsSetSubject id subject authTime acr amr =>
    exact congrArg ((), ·) (interactionsSetSubject_eq s id subject authTime acr amr)
  | interactionsComplete id now => exact interactionsComplete_eq s id now

/-- The storage backends. -/
inductive Backend
  | memory
  | pg
  deriving DecidableEq

/-- A repository call: how its promise settles, and the tables after it. -/
def Backend.exec (b : Backend) (s : Store) (x : DbChoice) (q : Query) :
    Except Fault q.Res × Store :=
  match b with
  | .memory =>
    let (r, s') := Memory.exec s q
    (.ok r, s')
  | .pg =>
    if Pg.refuses s q ∨ x.fails then (.error .rejected, s)
    else
      let (r, s') := Pg.exec s x q
      (.ok r, s')

end Fapi2As
