import Fapi2As.Db.Store

set_option relaxedAutoImplicit false
set_option autoImplicit false

/-!
# The in-memory storage adapter

Every repository method of the adapter, as a function of the tables. A method runs to its end
without an `await`, so it is one atomic step, and none of them fails.

## Main definitions

* `Fapi2As.Memory.exec` — the result of a repository call and the tables after it.
-/

namespace Fapi2As

open Js

namespace Memory

/-- A pushed request is live: not consumed and not expired. -/
def parLive (row : ParRow) (now : ℕ) : Bool :=
  row.consumedAt.isNone && !row.record.expiresAt.isPast now

/-- A parked interaction is live: not completed and not expired. -/
def interactionLive (row : InteractionRow) (now : ℕ) : Bool :=
  row.completedAt.isNone && !row.record.expiresAt.isPast now

/-- `MemoryParRequests.peek`. -/
def parPeek (s : Store) (requestUri : String) (now : ℕ) : Option ParRequestRecord :=
  match s.par.get? requestUri with
  | none => none
  | some row => if parLive row now then some row.record else none

/-- `MemoryParRequests.consume`. -/
def parConsume (s : Store) (requestUri : String) (now : ℕ) : Option ParRequestRecord × Store :=
  match s.par.get? requestUri with
  | none => (none, s)
  | some row =>
    if parLive row now then
      (some row.record, { s with par := s.par.set requestUri { row with consumedAt := some now } })
    else (none, s)

/-- `MemoryAuthorizationCodes.redeem`: replay is reported even after expiry. -/
def codesRedeem (s : Store) (codeHash : String) (now : ℕ) : CodeRedemption × Store :=
  match s.codes.get? codeHash with
  | none => (.invalid, s)
  | some row =>
    if row.consumedAt.isSome then (.consumed row.record, s)
    else if row.record.expiresAt.isPast now then (.invalid, s)
    else (.ok row.record,
      { s with codes := s.codes.set codeHash { row with consumedAt := some now } })

/-- The number of rows from which the replay guard sweeps. -/
def jtiSweepThreshold : ℕ := 4096

/-- The number of rows at which the replay guard refuses new registrations. -/
def jtiCap : ℕ := 8192

/-- The sweep of `MemoryJtiReplay.register`: expired entries go when the map is large and the
last sweep is a second old. -/
def jtiSweep (s : Store) (now : ℕ) : Store :=
  if jtiSweepThreshold ≤ s.jti.size ∧ 1000 + s.jtiLastSweep ≤ now then
    { s with jtiLastSweep := now, jti := s.jti.filter fun _ exp => !exp.isPast now }
  else s

/-- `MemoryJtiReplay.register`. -/
def jtiRegister (s : Store) (context jti : String) (expiresAt : Date) (now : ℕ) : Bool × Store :=
  let s := jtiSweep s now
  if jtiCap ≤ s.jti.size then (false, s)
  else match s.jti.get? (context, jti) with
    | some existing =>
      if existing.isAfter now then (false, s)
      else (true, { s with jti := s.jti.set (context, jti) expiresAt })
    | none => (true, { s with jti := s.jti.set (context, jti) expiresAt })

/-- The number of rows from which expired interactions are swept. -/
def interactionsSweepThreshold : ℕ := 1024

/-- `MemoryInteractions.insert`. -/
def interactionsInsert (s : Store) (rec : InteractionRecord) : Store :=
  let rows := if interactionsSweepThreshold ≤ s.interactions.size then
      s.interactions.filter fun _ row => !row.record.expiresAt.isPast rec.createdAt
    else s.interactions
  { s with interactions := rows.set rec.id ⟨rec, none⟩ }

/-- `MemoryInteractions.find`. -/
def interactionsFind (s : Store) (id : String) (now : ℕ) : Option InteractionRecord :=
  match s.interactions.get? id with
  | none => none
  | some row => if interactionLive row now then some row.record else none

/-- The change of `setSubject` to a row. -/
def withSubject (subject : String) (authTime : Date) (acr amr : Option Json)
    (row : InteractionRow) : InteractionRow :=
  if row.completedAt.isNone then
    { row with record := { row.record with
        subject := some subject, authTime := some authTime, acr := acr, amr := amr } }
  else row

/-- `MemoryInteractions.complete`. -/
def interactionsComplete (s : Store) (id : String) (now : ℕ) : Option InteractionRecord × Store :=
  match s.interactions.get? id with
  | none => (none, s)
  | some row =>
    if interactionLive row now then
      (some row.record,
        { s with interactions := s.interactions.set id { row with completedAt := some now } })
    else (none, s)

/-- The result of a repository call and the tables after it. -/
def exec (s : Store) : (q : Query) → q.Res × Store
  | .clientsFindById clientId => (s.clients.get? clientId, s)
  | .parInsert rec => ((), { s with par := s.par.set rec.requestUri ⟨rec, none⟩ })
  | .parPeek requestUri now => (parPeek s requestUri now, s)
  | .parConsume requestUri now => parConsume s requestUri now
  | .grantsInsert rec => ((), { s with grants := s.grants.set rec.grantId rec })
  | .grantsFind grantId => (s.grants.get? grantId, s)
  | .grantsRevoke grantId at_ =>
    ((), { s with grants := s.grants.modify grantId (GrantRecord.revoke at_) })
  | .codesInsert rec => ((), { s with codes := s.codes.set rec.codeHash ⟨rec, none⟩ })
  | .codesRedeem codeHash now => codesRedeem s codeHash now
  | .accessTokensInsert rec =>
    ((), { s with accessTokens := s.accessTokens.set rec.jti rec })
  | .accessTokensFindByJti jti => (s.accessTokens.get? jti, s)
  | .accessTokensRevoke jti at_ =>
    ((), { s with accessTokens := s.accessTokens.modify jti (AccessTokenRecord.revoke at_) })
  | .accessTokensRevokeByGrant grantId at_ =>
    ((), { s with accessTokens := s.accessTokens.mapVals fun _ r =>
      if r.grantId = grantId then r.revoke at_ else r })
  | .refreshTokensInsert rec =>
    ((), { s with refreshTokens := s.refreshTokens.set rec.tokenHash rec })
  | .refreshTokensFindByHash tokenHash => (s.refreshTokens.get? tokenHash, s)
  | .refreshTokensRevoke tokenHash at_ =>
    ((), { s with refreshTokens :=
      s.refreshTokens.modify tokenHash (RefreshTokenRecord.revoke at_) })
  | .refreshTokensRevokeByGrant grantId at_ =>
    ((), { s with refreshTokens := s.refreshTokens.mapVals fun _ r =>
      if r.grantId = grantId then r.revoke at_ else r })
  | .jtiRegister context jti expiresAt now => jtiRegister s context jti expiresAt now
  | .interactionsInsert rec => ((), interactionsInsert s rec)
  | .interactionsFind id now => (interactionsFind s id now, s)
  | .interactionsSetSubject id subject authTime acr amr =>
    ((), { s with interactions :=
      s.interactions.modify id (withSubject subject authTime acr amr) })
  | .interactionsComplete id now => interactionsComplete s id now

end Memory

end Fapi2As
