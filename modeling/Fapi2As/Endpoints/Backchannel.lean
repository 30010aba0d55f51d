import Fapi2As.Domain.Grant
import Fapi2As.Domain.Par
import Fapi2As.Domain.TokenLookup
import Fapi2As.Endpoints.Http

set_option relaxedAutoImplicit false
set_option autoImplicit false

/-!
# The back-channel endpoints

The handlers of the endpoints that clients and resource servers call directly: `/par`, `/token`,
`/revoke`, `/introspect` and `/userinfo`.

## Main definitions

* `Fapi2As.handlePar`, `Fapi2As.handleToken`, `Fapi2As.handleRevoke`, `Fapi2As.handleIntrospect`,
  `Fapi2As.handleUserinfo`.
-/

namespace Fapi2As

open Js Async

variable (P : Platform) (config : AppConfig)

/-! ## PAR -/

/-- What a proof at the PAR endpoint is verified for. -/
def parDpopContext : DpopContext :=
  { htm := "POST", htu := (endpointUrls P config).par, replayContext := some "dpop-par" }

/-- The key of a DPoP proof that accompanies a push. -/
def parDpopJkt (req : HttpRequest) : Handler (Option String) :=
  match req.dpop with
  | none => pure none
  | some header => do
    let jkt ← verifyDpopProof P config (some header) (parDpopContext P config)
    pure (some jkt)

/-- `POST /par`. -/
def handlePar (req : HttpRequest) : Handler Reply :=
  rateLimited req.ip do
    requireForm req "RFC9126 §2"
    let client ← authenticateClient P config req.body req.authorization
    let dpopHeaderJkt ← parDpopJkt P config req
    let result ← pushAuthorizationRequest config req.body client dpopHeaderJkt
    pure { status := 201
           headers := [("cache-control", "no-cache, no-store")]
           body := .json [("request_uri", .str result.requestUri),
             ("expires_in", .num result.expiresIn)] }

/-- Every other method at `/par`. -/
def parMethodNotAllowed : Reply :=
  { status := 405
    headers := [("allow", "POST")]
    body := .json [("error", .str "invalid_request"),
      ("error_description", .str "method not allowed [RFC9126 §2.3]")] }

/-! ## Token -/

/-- `scopeSubset`. -/
def scopeSubset (requested granted : String) : Bool :=
  (words requested).all fun s => (words granted).contains s

/-- What tokens are issued for when a code is redeemed. -/
def codeInput (client : Client) (jkt : String) (record : AuthorizationCodeRecord)
    (grant : GrantRecord) : TokenIssuanceInput :=
  { grantId := grant.grantId
    clientId := client.clientId
    subject := grant.subject
    scope := grant.scope
    cnfJkt := jkt
    authTime := some grant.authTime
    nonce := record.nonce }

/-- `handleAuthorizationCode`. -/
def handleAuthorizationCode (body : Params) (client : Client) (jkt : String) :
    Handler IssuedTokens :=
  match str (body.get "code") with
  | none => throwOAuth (invalidRequest "code is required [RFC6749 §4.1.3]")
  | some code => do
    let (record, grant) ← redeemAuthorizationCode P code client.clientId
      (str (body.get "redirect_uri")) (str (body.get "code_verifier")) jkt
    issueTokenSet P config (codeInput client jkt record grant)
      ((split ' ' grant.scope).contains "openid")
      (client.metadata.grantTypes.contains .refreshToken)

/-- The requested scope of a refresh; a blank one counts as omitted. -/
def refreshScope (body : Params) (granted : String) : Except OAuthError String :=
  match (str (body.get "scope")).filter fun s => !isBlank s with
  | none => .ok granted
  | some requested => do
    reject (scopeSubset requested granted = false)
      { error := .invalidScope
        description := "requested scope exceeds the original grant [RFC6749 §6]" }
    .ok requested

/-- What tokens are issued for when a refresh token is used. -/
def refreshInput (client : Client) (jkt scope : String) (grant : GrantRecord) :
    TokenIssuanceInput :=
  { grantId := grant.grantId
    clientId := client.clientId
    subject := grant.subject
    scope := scope
    cnfJkt := jkt
    authTime := some grant.authTime }

/-- `handleRefreshToken`: the refresh token is echoed, not rotated. -/
def handleRefreshToken (body : Params) (client : Client) (jkt : String) : Handler IssuedTokens :=
  match str (body.get "refresh_token") with
  | none => throwOAuth (invalidRequest "refresh_token is required [RFC6749 §6]")
  | some refreshToken => do
    let (grant, granted) ← loadRefreshGrant P refreshToken client.clientId
    let scope ← Prog.settle Exn.oauth (refreshScope body granted)
    let tokens ← issueTokenSet P config (refreshInput client jkt scope grant)
      ((split ' ' scope).contains "openid") false
    pure { tokens with refreshToken := some refreshToken }

/-- What a proof at the token endpoint is verified for. -/
def tokenDpopContext : DpopContext := { htm := "POST", htu := (endpointUrls P config).token }

/-- The grant that a token request asks for. -/
def handleGrant (req : HttpRequest) (client : Client) (jkt : String) : Handler IssuedTokens :=
  match str (req.body.get "grant_type") with
  | none => throwOAuth (invalidRequest "grant_type is required [RFC6749 §3.2]")
  | some grantType =>
    if grantType = "authorization_code" then handleAuthorizationCode P config req.body client jkt
    else if grantType = "refresh_token" then handleRefreshToken P config req.body client jkt
    else throwOAuth (unsupportedGrantType ("unsupported grant_type: " ++ grantType))

/-- `POST /token`. -/
def handleToken (req : HttpRequest) : Handler Reply :=
  rateLimited req.ip do
    requireForm req "RFC6749 §3.2"
    throwIf (str (req.body.get "grant_type") = some "password") (unsupportedGrantType
      "the resource owner password credentials grant is not supported [FAPI2 5.3.2.1(2)]")
    let client ← authenticateClient P config req.body req.authorization
    throwIf (client.metadata.dpopBoundAccessTokens = false) (invalidRequest
      "this authorization server only issues sender-constrained tokens [FAPI2 5.3.2.1(4)]")
    let jkt ← verifyDpopProof P config req.dpop (tokenDpopContext P config)
    let ready ← Prog.perform Call.ensure
    awaited ready
    let response ← handleGrant P config req client jkt
    pure { status := 200
           headers := [noStore, ("pragma", "no-cache")]
           body := .json response.toBody }

/-! ## Revocation -/

/-- A recognised token type hint; any other is ignored. -/
def revokeHint (body : Params) : Option String :=
  (str (body.get "token_type_hint")).filter fun h => h = "access_token" || h = "refresh_token"

/-- Revoke a token of the client: a refresh token with the access tokens of its grant. -/
def revokeResolved (client : Client) (resolved : Option ResolvedToken) (now : ℕ) : Handler Unit :=
  match resolved with
  | none => pure ()
  | some token =>
    if token.clientId ≠ client.clientId then pure ()
    else match token with
      | .refreshToken record => do
        db (.refreshTokensRevoke record.tokenHash now)
        db (.accessTokensRevokeByGrant record.grantId now)
      | .accessToken record => db (.accessTokensRevoke record.jti now)

/-- `POST /revoke`. -/
def handleRevoke (req : HttpRequest) : Handler Reply :=
  rateLimited req.ip do
    requireForm req "RFC7009 §2.1"
    let client ← authenticateClient P config req.body req.authorization
    match str (req.body.get "token") with
    | none => throwOAuth (invalidRequest "token is required [RFC7009 §2.1]")
    | some token => do
      let resolved ← resolveToken P config token (revokeHint req.body)
      let now ← now
      revokeResolved client resolved now
      pure { status := 200, headers := [noStore] }

/-! ## Introspection -/

/-- `{ active: false }`. -/
def inactive : Reply := { headers := [noStore], body := .json [("active", .bool false)] }

/-- What introspection says of an active refresh token. -/
def refreshTokenActive (r : RefreshTokenRecord) : Params :=
  [("active", .bool true), ("token_type", .str "refresh_token"), ("client_id", .str r.clientId),
    ("scope", .str r.scope), ("exp", r.expiresAt.seconds), ("iss", .str config.issuer)]

/-- What introspection says of an active access token. -/
def accessTokenActive (a : AccessTokenRecord) : Params :=
  let jkt := a.cnfJkt.filter (· ≠ "")
  [("active", .bool true), ("token_type", .str (if jkt.isSome then "DPoP" else "Bearer")),
    ("scope", .str a.scope), ("client_id", .str a.clientId), ("sub", .str a.subject),
    ("aud", .str config.accessTokenAudience), ("iss", .str config.issuer),
    ("exp", a.expiresAt.seconds), ("jti", .str a.jti)] ++
    (jkt.map fun k => ("cnf", Json.obj [("jkt", .str k)])).toList

/-- The state of a token of the client at an instant. -/
def introspectionOf (resolved : ResolvedToken) (now : ℕ) : Reply :=
  match resolved with
  | .refreshToken r =>
    if r.revokedAt ≠ none ∨ r.expiresAt.isPast now = true then inactive
    else { headers := [noStore], body := .json (refreshTokenActive config r) }
  | .accessToken a =>
    if a.revokedAt ≠ none ∨ a.expiresAt.isPast now = true then inactive
    else { headers := [noStore], body := .json (accessTokenActive config a) }

/-- `POST /introspect`. -/
def handleIntrospect (req : HttpRequest) : Handler Reply :=
  rateLimited req.ip do
    requireForm req "RFC7662 §2.1"
    let client ← authenticateClient P config req.body req.authorization
    match str (req.body.get "token") with
    | none => throwOAuth (invalidRequest "token is required [RFC7662 §2.1]")
    | some token => do
      let resolved ← resolveToken P config token (str (req.body.get "token_type_hint"))
      match resolved with
      | none => pure inactive
      | some resolved =>
        if resolved.clientId ≠ client.clientId then pure inactive
        else do
          let now ← now
          pure (introspectionOf config resolved now)

/-! ## Userinfo -/

/-- `challenge`. -/
def challenge (status : ℕ) (error : Option (String × String)) : Reply :=
  let scheme := "DPoP algs=\"ES256 PS256 EdDSA\""
  match error with
  | none =>
    { status := status, headers := [("www-authenticate", scheme), noStore] }
  | some (code, description) =>
    { status := status
      headers := [("www-authenticate", scheme ++ ", error=\"" ++ code ++
        "\", error_description=\"" ++ description ++ "\""), noStore]
      body := .json [("error", .str code)] }

/-- A line terminator, which `.` does not match. -/
def isLineTerminator (c : Char) : Bool :=
  c = '\n' || c = '\r' || c.toNat = 0x2028 || c.toNat = 0x2029

/-- The credentials of the DPoP scheme, `authz.match(/^DPoP +(.+)$/i)`, trimmed; `none` when the
header does not match. -/
def dpopCredentials (authorization : String) : Option String :=
  match authorization.toList.splitAt 4 with
  | (scheme, ' ' :: c :: rest) =>
    if scheme.map Char.toLower = "dpop".toList ∧ ¬(c :: rest).any isLineTerminator then
      some (trim (String.ofList (c :: rest)))
    else none
  | _ => none

/-- What a proof at the userinfo endpoint is verified for. -/
def userinfoDpopContext (method token : String) : DpopContext :=
  { htm := method
    htu := (endpointUrls P config).userinfo
    ath := some (P.sha256Base64Url token)
    replayContext := some "dpop-rs:userinfo" }

/-- The challenge for a token that cannot be used. -/
def invalidToken (description : String) : Reply :=
  challenge 401 (some ("invalid_token", description))

/-- The subject of a token, as the userinfo endpoint answers it. -/
def subjectReply (subject : String) : Reply :=
  { headers := [noStore], body := .json [("sub", .str subject)] }

/-- The checks of a resolved access token and of its proof. -/
def userinfoOf (req : HttpRequest) (token : String) (record : AccessTokenRecord) :
    Handler Reply := do
  if record.revokedAt ≠ none then pure (invalidToken "access token is expired or revoked")
  else
    let now ← now
    if record.expiresAt.isPast now then pure (invalidToken "access token is expired or revoked")
    else match record.cnfJkt.filter (· ≠ "") with
      | none => pure (invalidToken "access token is not sender-constrained")
      | some cnfJkt => do
        let proof ← attempt (verifyDpopProof P config req.dpop
          (userinfoDpopContext P config req.method token))
        match proof with
        | .error _ => pure (challenge 401 (some ("invalid_dpop_proof", "DPoP proof is invalid")))
        | .ok jkt =>
          if jkt ≠ cnfJkt then
            pure (invalidToken "DPoP key does not match the access token binding")
          else pure (subjectReply record.subject)

/-- `GET /userinfo` and `POST /userinfo`. -/
def handleUserinfo (req : HttpRequest) : Handler Reply :=
  match req.authorization.bind dpopCredentials with
  | none => pure (challenge 401 none)
  | some token =>
    if token = "" then pure (invalidToken "missing access token")
    else do
      let found ← findAccessToken P config token
      match found with
      | none => pure (invalidToken "access token is invalid")
      | some record => userinfoOf P config req token record

end Fapi2As
