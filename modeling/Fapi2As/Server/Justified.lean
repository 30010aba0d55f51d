import Fapi2As.Endpoints.Routes

set_option relaxedAutoImplicit false
set_option autoImplicit false

/-!
# What the handlers guarantee

For every call that writes the protocol state, what the request and the calls made for it so far
must look like when it is made; for every reply that shows or accepts something, what must have
happened before it.

## Main definitions

* `Fapi2As.PushStores`, `Fapi2As.Authorizes`, `Fapi2As.CodeAuthorized`, `Fapi2As.Exchange`,
  `Fapi2As.Revokes` — the circumstances of a push, an authorization, a code, tokens, a revocation.
* `Fapi2As.Justified` — the circumstances of every call.
* `Fapi2As.Answered` — the circumstances of every reply.
-/

namespace Fapi2As

open Js Async

variable (P : Platform) (config : AppConfig) (req : HttpRequest) (q : List Event)

/-! ## Pushes -/

/-- The key of the DPoP proof that accompanied a push, if one did. -/
def PushProof (jkt : Option String) : Prop :=
  match req.dpop with
  | none => jkt = none
  | some header =>
    ∃ k, jkt = some k ∧ ProofAccepted P config (some header) (parDpopContext P config)
      k q

/-- A push of an authenticated client stores a record. -/
def PushStores (rec : ParRequestRecord) : Prop :=
  req.route = .par ∧ ∃ client jkt, Authenticated P config req.body client q ∧
    PushProof P config req q jkt ∧ Pushed config req.body client jkt rec q

/-! ## Authorizations -/

/-- A pushed request that was read, and validates for the client it names. -/
structure RequestRead (requestUri : String) (pushed : ParRequestRecord) (client : Client)
    (request : ValidatedAuthorizationRequest) : Prop where
  /-- The pushed request was live. -/
  peeked : ∃ t, ⟨.db (.parPeek requestUri t), .ok (some pushed)⟩ ∈ q
  /-- The client was loaded under the identifier of the push. -/
  loaded : Loaded P pushed.clientId client q
  /-- The pushed parameters validate. -/
  valid : validateAuthorizationRequest (storedBody pushed.params) client = .ok request

/-- A session that a request carries at a clock reading. -/
def SessionRead (session : LoginSession) (t : ℕ) : Prop :=
  ⟨.now, t⟩ ∈ q ∧ sessionAt P config req (t / 1000) = some session

/-- The context of an interaction was loaded. -/
def ContextLoaded (id : String) (ctx : InteractionContext) : Prop :=
  ∃ t interaction pushed, ⟨.db (.interactionsFind id t), .ok (some interaction)⟩ ∈ q ∧
    pushed.clientId = interaction.clientId ∧ ctx.requestUri = interaction.requestUri ∧
    ctx.subject = interaction.subject ∧
    RequestRead P q interaction.requestUri pushed ctx.client ctx.request

/-- A consent submission that passed the session, CSRF and subject checks. -/
structure ConsentChecked (id : String) (ctx : InteractionContext) (session : LoginSession) :
    Prop where
  /-- It is a submission of the consent form. -/
  route : req.route = .interactionConsent
  /-- It names the interaction. -/
  interaction : str (req.body.get "interaction_id") = some id
  /-- It carries a valid session. -/
  carries : ∃ t, SessionRead P config req q session t
  /-- Its CSRF token was minted for the session. -/
  csrf : verifyCsrfToken P (str (req.body.get "csrf")) session.sid config.sessionSecret = true
  /-- The interaction can go on. -/
  context : ContextLoaded P q id ctx
  /-- The interaction is bound to the subject of the session. -/
  subject : ctx.subject = some session.sub

/-- The submitted decision. -/
def isApproval : Bool := str (req.body.get "decision") = some "approve"

/-- A `prompt=none` request with a valid session that needs no re-authentication. -/
structure SilentChecked (requestUri : String) (client : Client)
    (request : ValidatedAuthorizationRequest) (session : LoginSession) : Prop where
  /-- It is a request to the authorization endpoint. -/
  route : req.route = .authorize
  /-- It names the pushed request. -/
  requested : str ((authorizeParams req).get "request_uri") = some requestUri
  /-- The pushed request was read. -/
  names : ∃ pushed, RequestRead P q requestUri pushed client request
  /-- The pushed prompt contains `none`. -/
  prompt : promptNone request = true
  /-- It carries a valid session that is fresh enough. -/
  carries : ∃ t, SessionRead P config req q session t ∧
    needsReauthentication (some session) request (t / 1000) = false

/-- A request may decide about a pushed request, for the subject of a session and with the answer
of the user, if one was asked: by a consent submission that completed its interaction, or
silently. -/
inductive Authorizes : String → Client → ValidatedAuthorizationRequest → LoginSession →
    Option Bool → Prop
  | consent (id : String) (ctx : InteractionContext) (session : LoginSession) (t : ℕ)
      (done : InteractionRecord) (h : ConsentChecked P config req q id ctx session)
      (completed : ⟨.db (.interactionsComplete id t), .ok (some done)⟩ ∈ q) :
      Authorizes ctx.requestUri ctx.client ctx.request session (some (isApproval req))
  | silent (requestUri : String) (client : Client) (request : ValidatedAuthorizationRequest)
      (session : LoginSession)
      (h : SilentChecked P config req q requestUri client request session) :
      Authorizes requestUri client request session none

/-- A decision about a pushed request that allows: the user did not deny, and the policy decision
point answered true. -/
def Approves (requestUri : String) (client : Client) (request : ValidatedAuthorizationRequest)
    (session : LoginSession) (userApproved : Option Bool) : Prop :=
  Authorizes P config req q requestUri client request session userApproved ∧
    userApproved ≠ some false ∧
    ⟨.evaluate (evaluationRequest session.user client request userApproved), .ok true⟩ ∈ q

/-- The issuing of a code for a pushed request may go on: right after an allowing decision, this
request's own consumption of the pushed request returned it. -/
def CodeAuthorized (requestUri : String) (client : Client)
    (request : ValidatedAuthorizationRequest) (session : LoginSession)
    (userApproved : Option Bool) : Prop :=
  ∃ q₀ t pushed, q = q₀ ++ [⟨.db (.parConsume requestUri t), .ok (some pushed)⟩] ∧
    Approves P config req q₀ requestUri client request session userApproved

/-- An allowed authorization creates its grant, under an id that has just been drawn. -/
def GrantCreated (rec : GrantRecord) : Prop :=
  ∃ uri client request session ua q₀ t grantId,
    CodeAuthorized P config req q₀ uri client request session ua ∧
    q = q₀ ++ [⟨.now, t⟩, ⟨.randomUUID, grantId⟩] ∧
    rec = grantRecord grantId client session.user request t

/-- An allowed authorization creates its code, which has just been drawn, for the grant that it
has just created. -/
def CodeCreated (rec : AuthorizationCodeRecord) : Prop :=
  ∃ uri client request session ua q₀ t grantId code,
    CodeAuthorized P config req q₀ uri client request session ua ∧
    q = q₀ ++ [⟨.now, t⟩, ⟨.randomUUID, grantId⟩,
      ⟨.db (.grantsInsert (grantRecord grantId client session.user request t)), .ok ()⟩,
      ⟨.randomBytes 32, code⟩] ∧
    rec = codeRecord P config code grantId client request t

/-- A pushed request is parked, under an id that has just been drawn. -/
def Parked (rec : InteractionRecord) : Prop :=
  req.route = .authorize ∧ ∃ uri pushed client request q₀ id t,
    RequestRead P q uri pushed client request ∧ promptNone request = false ∧
    q = q₀ ++ [⟨.randomUUID, id⟩] ∧ rec = parkedInteraction config id uri client t

/-- A visit of an interaction by a valid session that needs no re-authentication. -/
structure ConsentVisited (id : String) (ctx : InteractionContext) (session : LoginSession) :
    Prop where
  /-- It is a visit of the interaction page. -/
  route : req.route = .interaction
  /-- It names the interaction. -/
  interaction : str (req.query.get "id") = some id
  /-- It carries a valid session. -/
  carries : ∃ t, SessionRead P config req q session t
  /-- The session is fresh enough. -/
  fresh : ∃ t, ⟨.now, t⟩ ∈ q ∧ needsReauthentication (some session) ctx.request (t / 1000) = false
  /-- The interaction can go on. -/
  context : ContextLoaded P q id ctx

/-- A visit binds an interaction to the subject of its session. -/
def SubjectBound (id subject : String) : Prop :=
  ∃ ctx session, ConsentVisited P config req q id ctx session ∧ subject = session.sub

/-! ## Tokens -/

/-- A token request of an authenticated client with an accepted DPoP proof. -/
structure TokenRequest (client : Client) (jkt : String) : Prop where
  /-- It is a request to the token endpoint. -/
  route : req.route = .token
  /-- The client is authenticated. -/
  client : Authenticated P config req.body client q
  /-- The proof is accepted. -/
  proof : ProofAccepted P config req.dpop (tokenDpopContext P config) jkt q

/-- The exchange of a code for tokens. -/
def CodeExchange (client : Client) (jkt : String) (record : AuthorizationCodeRecord)
    (grant : GrantRecord) : Prop :=
  TokenRequest P config req q client jkt ∧
  str (req.body.get "grant_type") = some "authorization_code" ∧
  ∃ code, str (req.body.get "code") = some code ∧
    Redeemed P code client.clientId (str (req.body.get "redirect_uri"))
      (str (req.body.get "code_verifier")) jkt record grant q

/-- The use of a refresh token for a scope. -/
def RefreshExchange (client : Client) (jkt scope : String) (rec : RefreshTokenRecord)
    (grant : GrantRecord) : Prop :=
  TokenRequest P config req q client jkt ∧ str (req.body.get "grant_type") = some "refresh_token" ∧
    refreshScope req.body rec.scope = .ok scope ∧
    ∃ token, str (req.body.get "refresh_token") = some token ∧
      RefreshLoaded P token client.clientId rec grant q

/-- What tokens are issued for. -/
inductive Exchange : TokenIssuanceInput → Prop
  | code (client : Client) (jkt : String) (record : AuthorizationCodeRecord) (grant : GrantRecord)
      (h : CodeExchange P config req q client jkt record grant) :
      Exchange (codeInput client jkt record grant)
  | refresh (client : Client) (jkt scope : String) (rec : RefreshTokenRecord) (grant : GrantRecord)
      (h : RefreshExchange P config req q client jkt scope rec grant) :
      Exchange (refreshInput client jkt scope grant)

/-- An exchange stores an access token. -/
def AccessTokenIssued (rec : AccessTokenRecord) : Prop :=
  ∃ input, Exchange P config req q input ∧ AccessTokenStored config input rec q

/-- The exchange of a code stores a refresh token. -/
def RefreshTokenIssued (rec : RefreshTokenRecord) : Prop :=
  ∃ client jkt record grant, CodeExchange P config req q client jkt record grant ∧
    RefreshTokenStored P config (codeInput client jkt record grant) rec q

/-! ## Revocations -/

/-- A code that is presented by an authenticated client is redeemed. -/
def CodePresented (codeHash : String) : Prop :=
  ∃ client jkt code, TokenRequest P config req q client jkt ∧
    str (req.body.get "code") = some code ∧ codeHash = P.sha256Base64Url code

/-- An authenticated client revokes a token that was found to be its own. -/
def RevokeRequest (resolved : ResolvedToken) : Prop :=
  req.route = .revoke ∧ ∃ client token, Authenticated P config req.body client q ∧
    str (req.body.get "token") = some token ∧ Resolves P config token q resolved ∧
    resolved.clientId = client.clientId

/-- A revocation: after a replayed code, or of a token of the client. -/
inductive Revokes : Call → Prop
  | replay (client : Client) (jkt code : String) (o : Call)
      (h : TokenRequest P config req q client jkt) (hcode : str (req.body.get "code") = some code)
      (ho : ReplayRevokes P code q o) : Revokes o
  | accessToken (record : AccessTokenRecord) (t : ℕ)
      (h : RevokeRequest P config req q (.accessToken record)) :
      Revokes (.db (.accessTokensRevoke record.jti t))
  | refreshToken (record : RefreshTokenRecord) (t : ℕ)
      (h : RevokeRequest P config req q (.refreshToken record)) :
      Revokes (.db (.refreshTokensRevoke record.tokenHash t))
  | cascade (record : RefreshTokenRecord) (t : ℕ)
      (h : RevokeRequest P config req q (.refreshToken record)) :
      Revokes (.db (.accessTokensRevokeByGrant record.grantId t))

/-! ## Replay entries -/

/-- What a request's DPoP proof is verified for. -/
inductive ProofContext : DpopContext → Prop
  | par (h : req.route = .par) : ProofContext (parDpopContext P config)
  | token (h : req.route = .token) : ProofContext (tokenDpopContext P config)
  | userinfo (token : String) (h : req.route = .userinfo) :
      ProofContext (userinfoDpopContext P config req.method token)

/-- A replay entry of a client assertion or of a DPoP proof. -/
def Registers (o : Call) : Prop :=
  AssertionRegisters P config req.body o ∨
    ∃ ctx, ProofContext P config req ctx ∧ ProofRegisters P config req.dpop ctx o

/-! ## All calls and replies -/

/-- **What the handlers guarantee of their calls**: the circumstances of each write. -/
def Justified (o : Call) : Prop :=
  match o with
  | .db (.parInsert rec) => PushStores P config req q rec
  | .db (.parConsume uri _) =>
    ∃ client request session ua, Authorizes P config req q uri client request session ua
  | .db (.grantsInsert rec) => GrantCreated P config req q rec
  | .db (.codesInsert rec) => CodeCreated P config req q rec
  | .db (.codesRedeem codeHash _) => CodePresented P config req q codeHash
  | .db (.accessTokensInsert rec) => AccessTokenIssued P config req q rec
  | .db (.refreshTokensInsert rec) => RefreshTokenIssued P config req q rec
  | .db (.grantsRevoke _ _) | .db (.accessTokensRevoke _ _) | .db (.accessTokensRevokeByGrant _ _)
  | .db (.refreshTokensRevoke _ _) | .db (.refreshTokensRevokeByGrant _ _) =>
    Revokes P config req q o
  | .db (.jtiRegister _ _ _ _) => Registers P config req o
  | .db (.interactionsInsert rec) => Parked P config req q rec
  | .db (.interactionsSetSubject id subject _ _ _) => SubjectBound P config req q id subject
  | .db (.interactionsComplete id _) =>
    ∃ ctx session, ConsentChecked P config req q id ctx session
  | .signJwt _ _ => ∃ input, Exchange P config req q input ∧ TokenSigned config input q o
  | _ => True

/-- The quiet calls need no justification. -/
lemma justified_quiet : Quiet (Justified P config req) := by
  intro q o ho
  cases o with
  | db s => cases s <;> trivial
  | signJwt _ _ => cases ho
  | _ => trivial

/-- The consent page that a visit shows, after it bound the interaction to its subject. -/
def ConsentShown (view : ConsentView) : Prop :=
  ∃ id ctx session authTime, ConsentVisited P config req q id ctx session ∧
    ⟨.db (.interactionsSetSubject id session.sub authTime session.acr session.amr), .ok ()⟩ ∈ q ∧
    view = consentView P config id ctx session

/-- The access token that the userinfo endpoint accepted, with its proof. -/
structure UserinfoAccepted (token subject : String) (record : AccessTokenRecord) (jkt : String) :
    Prop where
  /-- The token is the one of the `Authorization` header. -/
  presented : req.authorization.bind dpopCredentials = some token
  /-- The record is the one of the token. -/
  found : AccessTokenFound P config token record q
  /-- The record was not revoked when it was read. -/
  unrevoked : record.revokedAt = none
  /-- The record had not expired at a later clock reading. -/
  unexpired : ∃ t, ⟨.now, t⟩ ∈ q ∧ record.expiresAt.isPast t = false
  /-- The proof is accepted for this request and token. -/
  proof : ProofAccepted P config req.dpop (userinfoDpopContext P config req.method token) jkt q
  /-- The token is bound to the key of the proof. -/
  bound : record.cnfJkt = some jkt
  /-- The subject is the one of the token. -/
  subject_eq : subject = record.subject

/-- The token that introspection reports as active. -/
structure IntrospectedActive (resolved : ResolvedToken) : Prop where
  /-- The client is authenticated and the record is its own. -/
  client : ∃ client, Authenticated P config req.body client q ∧ resolved.clientId = client.clientId
  /-- The record is the one of the presented token. -/
  found : ∃ token, str (req.body.get "token") = some token ∧ Resolves P config token q resolved
  /-- The record was not revoked when it was read. -/
  unrevoked : resolved.revokedAt = none

/-- **What the handlers guarantee of their replies.** -/
structure Answered (reply : Reply) : Prop where
  /-- A consent page is shown by a visit of the interaction. -/
  consent : req.route = .interaction → ∀ view, reply.body = .html (.consent view) →
    ConsentShown P config req q view
  /-- The userinfo endpoint names the subject of an accepted token. -/
  userinfo : req.route = .userinfo → ∀ subject, reply.body = .json [("sub", .str subject)] →
    ∃ token record jkt, UserinfoAccepted P config req q token subject record jkt
  /-- Introspection reports a token as active that was found unrevoked. -/
  introspect : req.route = .introspect → ∀ rest,
    reply.body = .json (("active", .bool true) :: rest) →
    ∃ resolved, IntrospectedActive P config req q resolved
  /-- The token endpoint answers with tokens after an exchange. -/
  token : req.route = .token → ∀ token rest, reply.body = .json (("access_token", token) :: rest) →
    ∃ input rec, Exchange P config req q input ∧
      ⟨.db (.accessTokensInsert rec), .ok ()⟩ ∈ q ∧ rec.grantId = input.grantId

/-- What the handlers guarantee of their outcomes: a reply, or an exception that the error handler
answers. -/
def Replies : List Event → Except Exn Reply → Prop
  | q, .ok reply => Answered P config req q reply
  | q, .error e => Answered P config req q (errorReply e)

variable {P config req q}

/-- A reply that shows no consent page and names no subject, token or active token. -/
lemma Answered.plain {reply : Reply} (h1 : ∀ view, reply.body ≠ .html (.consent view))
    (h2 : ∀ v, reply.body ≠ .json [("sub", v)])
    (h3 : ∀ rest, reply.body ≠ .json (("active", .bool true) :: rest))
    (h4 : ∀ t rest, reply.body ≠ .json (("access_token", t) :: rest)) :
    Answered P config req q reply :=
  ⟨fun _ v h => absurd h (h1 v), fun _ _ h => absurd h (h2 _), fun _ rest h => absurd h (h3 rest),
    fun _ t rest h => absurd h (h4 t rest)⟩

/-- A reply of a route that shows and accepts nothing. -/
lemma Answered.other {reply : Reply} (h1 : req.route ≠ .interaction) (h2 : req.route ≠ .userinfo)
    (h3 : req.route ≠ .introspect) (h4 : req.route ≠ .token) :
    Answered P config req q reply :=
  ⟨fun h => absurd h h1, fun h => absurd h h2, fun h => absurd h h3, fun h => absurd h h4⟩

/-- The body of an error is a JSON object whose first member is the error. -/
lemma errorReply_body (e : Exn) :
    ∃ v rest, (errorReply e).body = .json (("error", v) :: rest) := by
  cases e with
  | oauth e =>
    simp only [errorReply, OAuthError.toBody]
    split
    · split_ifs
      · exact ⟨_, _, rfl⟩
      · exact ⟨_, _, rfl⟩
    · exact ⟨_, _, rfl⟩
  | invalidClientMetadata => exact ⟨_, _, rfl⟩
  | jwksUnavailable => exact ⟨_, _, rfl⟩
  | jwsVerification => exact ⟨_, _, rfl⟩
  | other => exact ⟨_, _, rfl⟩

/-- An error shows and accepts nothing. -/
lemma answered_errorReply (e : Exn) : Answered P config req q (errorReply e) := by
  obtain ⟨v, rest, h⟩ := errorReply_body e
  exact .plain (by simp [h]) (by simp [h]) (by simp [h]) (by simp [h])

/-- The hook that adds headers changes nothing that a reply shows. -/
lemma Answered.onSend {reply : Reply} (h : Answered P config req q reply) :
    Answered P config req q (onSend reply) :=
  ⟨by simpa using h.consent, by simpa using h.userinfo, by simpa using h.introspect,
    by simpa using h.token⟩

end Fapi2As
