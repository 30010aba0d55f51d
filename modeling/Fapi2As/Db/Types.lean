import Fapi2As.Js.Value

set_option relaxedAutoImplicit false
set_option autoImplicit false

/-!
# Storage ports

The records of the storage layer and the calls of its repositories, with the type of what each
call resolves to. The engine depends only on these; the in-memory and the PostgreSQL adapter
give them their effects.

## Main definitions

* `Fapi2As.ParRequestRecord`, `Fapi2As.GrantRecord`, `Fapi2As.AuthorizationCodeRecord`,
  `Fapi2As.AccessTokenRecord`, `Fapi2As.RefreshTokenRecord`, `Fapi2As.InteractionRecord`,
  `Fapi2As.ClientRecord` — the records.
* `Fapi2As.Query`, `Fapi2As.Query.Res` — the repository calls and their results.
-/

namespace Fapi2As

open Js

/-- A registered client; the metadata are untyped until they are validated on load. -/
structure ClientRecord where
  clientId : String
  clientName : Option String
  metadata : Json
  deriving DecidableEq

/-- A pushed authorization request. -/
structure ParRequestRecord where
  requestUri : String
  clientId : String
  params : List (String × String)
  dpopJkt : Option String
  expiresAt : Date
  deriving DecidableEq

/-- One authorization: everything issued from it refers to it. -/
structure GrantRecord where
  grantId : String
  clientId : String
  subject : String
  scope : String
  authTime : Date
  createdAt : ℕ
  revokedAt : Option ℕ
  deriving DecidableEq

/-- An authorization code, stored by hash. The challenge method is always `S256`. -/
structure AuthorizationCodeRecord where
  codeHash : String
  grantId : String
  clientId : String
  redirectUri : String
  codeChallenge : String
  dpopJkt : Option String
  nonce : Option String
  expiresAt : Date
  deriving DecidableEq

/-- What `redeem` reports. -/
inductive CodeRedemption
  | ok (record : AuthorizationCodeRecord)
  | consumed (record : AuthorizationCodeRecord)
  | invalid
  deriving DecidableEq

/-- An issued access token. -/
structure AccessTokenRecord where
  jti : String
  grantId : String
  clientId : String
  subject : String
  scope : String
  cnfJkt : Option String
  expiresAt : Date
  revokedAt : Option ℕ
  deriving DecidableEq

/-- An issued refresh token, stored by hash. -/
structure RefreshTokenRecord where
  tokenHash : String
  grantId : String
  clientId : String
  scope : String
  expiresAt : Date
  revokedAt : Option ℕ
  deriving DecidableEq

/-- A parked authorization request. -/
structure InteractionRecord where
  id : String
  clientId : String
  requestUri : String
  subject : Option String
  authTime : Option Date
  acr : Option Json
  amr : Option Json
  createdAt : ℕ
  expiresAt : Date
  deriving DecidableEq

/-- The calls of the repositories, without the signing keys. -/
inductive Query
  | clientsFindById (clientId : String)
  | parInsert (rec : ParRequestRecord)
  | parPeek (requestUri : String) (now : ℕ)
  | parConsume (requestUri : String) (now : ℕ)
  | grantsInsert (rec : GrantRecord)
  | grantsFind (grantId : String)
  | grantsRevoke (grantId : String) (at_ : ℕ)
  | codesInsert (rec : AuthorizationCodeRecord)
  | codesRedeem (codeHash : String) (now : ℕ)
  | accessTokensInsert (rec : AccessTokenRecord)
  | accessTokensFindByJti (jti : String)
  | accessTokensRevoke (jti : String) (at_ : ℕ)
  | accessTokensRevokeByGrant (grantId : String) (at_ : ℕ)
  | refreshTokensInsert (rec : RefreshTokenRecord)
  | refreshTokensFindByHash (tokenHash : String)
  | refreshTokensRevoke (tokenHash : String) (at_ : ℕ)
  | refreshTokensRevokeByGrant (grantId : String) (at_ : ℕ)
  | jtiRegister (context jti : String) (expiresAt : Date) (now : ℕ)
  | interactionsInsert (rec : InteractionRecord)
  | interactionsFind (id : String) (now : ℕ)
  | interactionsSetSubject (id subject : String) (authTime : Date) (acr amr : Option Json)
  | interactionsComplete (id : String) (now : ℕ)
  deriving DecidableEq

/-- What a call resolves to. -/
@[reducible] def Query.Res : Query → Type
  | clientsFindById _ => Option ClientRecord
  | parPeek _ _ | parConsume _ _ => Option ParRequestRecord
  | grantsFind _ => Option GrantRecord
  | codesRedeem _ _ => CodeRedemption
  | accessTokensFindByJti _ => Option AccessTokenRecord
  | refreshTokensFindByHash _ => Option RefreshTokenRecord
  | jtiRegister _ _ _ _ => Bool
  | interactionsFind _ _ | interactionsComplete _ _ => Option InteractionRecord
  | parInsert _ | grantsInsert _ | grantsRevoke _ _ | codesInsert _ | accessTokensInsert _
  | accessTokensRevoke _ _ | accessTokensRevokeByGrant _ _ | refreshTokensInsert _
  | refreshTokensRevoke _ _ | refreshTokensRevokeByGrant _ _ | interactionsInsert _
  | interactionsSetSubject _ _ _ _ _ => Unit

instance (q : Query) : DecidableEq q.Res := by
  cases q <;> exact inferInstance

end Fapi2As
