import Fapi2As.Db.Types

set_option relaxedAutoImplicit false
set_option autoImplicit false

/-!
# The tables

The rows that both storage adapters keep, as one map per table: the `Map`s of the in-memory
adapter, the tables of the PostgreSQL schema by primary key. Rows of one-time records carry the
time of their use next to the record.

## Main definitions

* `Fapi2As.ParRow`, `Fapi2As.CodeRow`, `Fapi2As.InteractionRow` — records with their mark of use.
* `Fapi2As.Store` — the tables.
-/

namespace Fapi2As

open Js

/-- A pushed request with its time of consumption. -/
structure ParRow where
  record : ParRequestRecord
  consumedAt : Option ℕ
  deriving DecidableEq

/-- An authorization code with its time of redemption. -/
structure CodeRow where
  record : AuthorizationCodeRecord
  consumedAt : Option ℕ
  deriving DecidableEq

/-- A parked interaction with its time of completion. -/
structure InteractionRow where
  record : InteractionRecord
  completedAt : Option ℕ

/-- The rows of the protocol state. -/
structure Store where
  clients : Map String ClientRecord := .empty
  par : Map String ParRow := .empty
  grants : Map String GrantRecord := .empty
  codes : Map String CodeRow := .empty
  accessTokens : Map String AccessTokenRecord := .empty
  refreshTokens : Map String RefreshTokenRecord := .empty
  /-- Replay entries by context and id, with their expiry. -/
  jti : Map (String × String) Date := .empty
  /-- `lastSweepMs` of the in-memory replay guard. -/
  jtiLastSweep : ℕ := 0
  interactions : Map String InteractionRow := .empty

/-- `r.revokedAt` set to `at_` unless it is set already. -/
def GrantRecord.revoke (at_ : ℕ) (r : GrantRecord) : GrantRecord :=
  if r.revokedAt = none then { r with revokedAt := some at_ } else r

/-- `r.revokedAt` set to `at_` unless it is set already. -/
def AccessTokenRecord.revoke (at_ : ℕ) (r : AccessTokenRecord) : AccessTokenRecord :=
  if r.revokedAt = none then { r with revokedAt := some at_ } else r

/-- `r.revokedAt` set to `at_` unless it is set already. -/
def RefreshTokenRecord.revoke (at_ : ℕ) (r : RefreshTokenRecord) : RefreshTokenRecord :=
  if r.revokedAt = none then { r with revokedAt := some at_ } else r

/-- A revoked record is revoked. -/
lemma AccessTokenRecord.revokedAt_revoke (at_ : ℕ) (r : AccessTokenRecord) :
    (r.revoke at_).revokedAt ≠ none := by
  unfold revoke
  split_ifs with h
  · simp
  · exact h

/-- A revoked record is revoked. -/
lemma RefreshTokenRecord.revokedAt_revoke (at_ : ℕ) (r : RefreshTokenRecord) :
    (r.revoke at_).revokedAt ≠ none := by
  unfold revoke
  split_ifs with h
  · simp
  · exact h

end Fapi2As
