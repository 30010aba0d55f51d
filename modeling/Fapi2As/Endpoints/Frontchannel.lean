import Fapi2As.Domain.Grant
import Fapi2As.Domain.ClientAuth
import Fapi2As.Endpoints.Http

set_option relaxedAutoImplicit false
set_option autoImplicit false

/-!
# The front-channel endpoints

The handlers of the endpoints that browsers visit: `/authorize`, which parks a pushed request or
decides it without interaction, and the login and consent pages.

## Main definitions

* `Fapi2As.handleAuthorize`, `Fapi2As.handleInteraction`, `Fapi2As.handleLogin`,
  `Fapi2As.handleConsent`.
* `Fapi2As.loadInteractionContext` — the parked request, validated again.
* `Fapi2As.issueCodeForInteraction` — consume the pushed request and issue the code.
-/

namespace Fapi2As

open Js Async

variable (P : Platform) (config : AppConfig)

/-! ## Issuing the code -/

/-- The user of a login session. -/
def LoginSession.user (session : LoginSession) : AuthenticatedUser :=
  { sub := session.sub
    authTime := newDate (session.authTime * 1000)
    acr := session.acr
    amr := session.amr }

/-- `issueCodeForInteraction`: consume the pushed request, then issue the code. -/
def issueCodeForInteraction (requestUri : String) (client : Client)
    (request : ValidatedAuthorizationRequest) (user : AuthenticatedUser) : Handler Reply := do
  let t ← now
  let consumed ← db (.parConsume requestUri t)
  match consumed with
  | none =>
    redirectError P request.redirectUri .invalidRequest (some "request_uri is no longer valid")
      request.state config.issuer
  | some _ => do
    let code ← issueAuthorizationCode P config client user request
    redirectCode P request.redirectUri code request.state config.issuer

/-- The decision about a request, and what follows from it: a refusal uses the pushed request up
and is redirected with an error, an approval issues the code. A decision that fails refuses. -/
def decideAndIssue (requestUri : String) (client : Client)
    (request : ValidatedAuthorizationRequest) (user : AuthenticatedUser)
    (userApproved : Option Bool) (refusal : AuthorizeErrorCode) (description : String) :
    Handler Reply := do
  let decision ← attempt (decideAuthorization user client request userApproved)
  match decision with
  | .ok true => issueCodeForInteraction P config requestUri client request user
  | _ => do
    let t ← now
    let _ ← db (.parConsume requestUri t)
    redirectError P request.redirectUri refusal (some description) request.state config.issuer

/-! ## The authorization endpoint -/

/-- `toAuthorizeCode`. -/
def toAuthorizeCode : TokenErrorCode → AuthorizeErrorCode
  | .invalidRequest => .invalidRequest
  | .unauthorizedClient => .unauthorizedClient
  | .unsupportedResponseType => .unsupportedResponseType
  | .invalidScope => .invalidScope
  | _ => .invalidRequest

/-- The answer to a pushed request that no longer validates: by redirect to a registered URI,
shown directly otherwise. -/
def invalidPushedRequest (pushed : ParRequestRecord) (client : Client) (err : OAuthError) :
    Handler Reply :=
  let error := toAuthorizeCode err.error
  match (assoc "redirect_uri" pushed.params).filter fun u =>
      u ≠ "" && redirectUriRegistered client u with
  | none => pure (errorPage error (err.description.getD err.error.text))
  | some trusted =>
    redirectError P trusted error err.description (assoc "state" pushed.params) config.issuer

/-- The session of a request at an instant in seconds. -/
def sessionAt (req : HttpRequest) (nowSec : ℕ) : Option LoginSession :=
  openSession P (readCookie req.cookie sessionCookieName) config.sessionSecret nowSec

/-- `prompt` contains `none`. -/
def promptNone (request : ValidatedAuthorizationRequest) : Bool :=
  match request.prompt with
  | some prompt => (split ' ' prompt).contains "none"
  | none => false

/-- A pushed request is parked for the login and consent pages. -/
def parkedInteraction (id requestUri : String) (client : Client) (now : ℕ) : InteractionRecord :=
  { id := id
    clientId := client.clientId
    requestUri := requestUri
    subject := none
    authTime := none
    acr := none
    amr := none
    createdAt := now
    expiresAt := newDate ((now + config.interactionTtlSec * 1000 : ℕ) : ℚ) }

/-- The page of an interaction. -/
def interactionLocation (id : String) : String :=
  (endpointPaths P config).interaction ++ "?id=" ++ encodeURIComponent id

/-- Park a request and hand it off to the interaction pages. -/
def parkRequest (requestUri : String) (client : Client) (t : ℕ) : Handler Reply := do
  let id ← randomUUID
  db (.interactionsInsert (parkedInteraction config id requestUri client t))
  pure (redirectReply (interactionLocation P config id))

/-- The `prompt=none` path: a fresh session and an allowing decision, without any page. -/
def authorizeSilently (requestUri : String) (client : Client)
    (request : ValidatedAuthorizationRequest) (session : Option LoginSession) (nowSec : ℕ) :
    Handler Reply :=
  match session.filter fun _ => !needsReauthentication session request nowSec with
  | none => redirectError P request.redirectUri .loginRequired (some "authentication required")
      request.state config.issuer
  | some session => decideAndIssue P config requestUri client request session.user none
      .interactionRequired "consent required"

/-- A pushed request that validates: decided silently, or parked. -/
def authorizePushed (req : HttpRequest) (requestUri : String) (client : Client)
    (request : ValidatedAuthorizationRequest) : Handler Reply := do
  let t ← now
  let nowSec := t / 1000
  let session := sessionAt P config req nowSec
  if promptNone request then
    authorizeSilently P config requestUri client request session nowSec
  else parkRequest P config requestUri client t

/-- The load of the client of a pushed request and the validation of the request. -/
def authorizeFor (req : HttpRequest) (requestUri : String) (pushed : ParRequestRecord)
    (clientId : String) : Handler Reply := do
  let loaded ← attempt (loadClient P clientId)
  match loaded with
  | .error .invalidClientMetadata =>
    pure (errorPage .invalidRequest "client registration is invalid")
  | .error e => throw e
  | .ok none => pure (errorPage .invalidRequest "unknown client")
  | .ok (some client) =>
    match validateAuthorizationRequest (storedBody pushed.params) client with
    | .error err => invalidPushedRequest P config pushed client err
    | .ok request => authorizePushed P config req requestUri client request

/-- `handleAuthorize`. -/
def handleAuthorize (req : HttpRequest) (params : Params) : Handler Reply :=
  if isArray (params.get "client_id") ∨ isArray (params.get "request_uri") then
    pure (errorPage .invalidRequest "request parameters must not be repeated [RFC6749 §3.1]")
  else match str (params.get "request_uri"), str (params.get "client_id") with
  | none, _ =>
    pure (errorPage .invalidRequest "PAR is required: request_uri missing [FAPI2 5.3.2.2(3)]")
  | some _, none => pure (errorPage .invalidRequest "client_id is required [RFC6749 §3.1]")
  | some requestUri, some clientId => do
    let t ← now
    let pushed ← db (.parPeek requestUri t)
    match pushed with
    | none =>
      pure (errorPage .invalidRequest
        "request_uri is invalid, expired, or already used [RFC9126 §4]")
    | some pushed =>
      if pushed.clientId ≠ clientId then
        pure (errorPage .invalidRequest
          "client_id does not match the pushed request [RFC9126 §2.2]")
      else authorizeFor P config req requestUri pushed clientId

/-! ## The interaction pages -/

/-- A parked request, validated again: what the pages work with. -/
structure InteractionContext where
  client : Client
  request : ValidatedAuthorizationRequest
  requestUri : String
  subject : Option String

/-- `loadInteractionContext`: `none` when the interaction cannot go on. -/
def loadInteractionContext (id : String) (t : ℕ) : Handler (Option InteractionContext) := do
  let interaction ← db (.interactionsFind id t)
  match interaction with
  | none => pure none
  | some interaction => do
    let pushed ← db (.parPeek interaction.requestUri t)
    match pushed with
    | none => pure none
    | some pushed =>
      if pushed.clientId ≠ interaction.clientId then pure none
      else do
        let loaded ← attempt (loadClient P interaction.clientId)
        match loaded with
        | .ok (some client) =>
          match validateAuthorizationRequest (storedBody pushed.params) client with
          | .ok request =>
            pure (some ⟨client, request, interaction.requestUri, interaction.subject⟩)
          | .error _ => pure none
        | _ => pure none

/-- An error page. -/
def errorHtml (status : ℕ) (message : String) : Reply := htmlReply status (.error message)

/-- The page for an interaction that cannot go on. -/
def interactionGone : Reply :=
  errorHtml 400 "this authorization request is invalid or has expired"

/-- The login page of an interaction. -/
def loginPage (id : String) (error : Option String) : Reply :=
  htmlReply 200 (.login
    { action := (endpointPaths P config).interactionLogin
      interactionId := id
      csrfToken := issueCsrfToken P id config.sessionSecret
      users := config.devLoginUsers
      error := error })

/-- What the consent page of an interaction shows to a session. -/
def consentView (id : String) (ctx : InteractionContext) (session : LoginSession) : ConsentView :=
  { action := (endpointPaths P config).interactionConsent
    interactionId := id
    csrfToken := issueCsrfToken P session.sid config.sessionSecret
    clientName := ctx.client.clientName.getD ctx.client.clientId
    scopes := words ctx.request.scope
    subject := session.sub }

/-- The consent page, with the policy that lets its form redirect to the client. -/
def consentPage (id : String) (ctx : InteractionContext) (session : LoginSession) :
    Handler Reply :=
  match consentCsp P ctx.request.redirectUri with
  | none => throw .other
  | some csp =>
    let page := htmlReply 200 (.consent (consentView P config id ctx session))
    pure { page with headers := ("content-security-policy", csp) :: page.headers }

/-- `sessionFrom`: the session of a request at the current instant. -/
def sessionFrom (req : HttpRequest) : Handler (Option LoginSession) := do
  let t ← now
  pure (sessionAt P config req (t / 1000))

/-- Bind an interaction to the subject of a session and show the consent page. -/
def showConsent (id : String) (ctx : InteractionContext) (session : LoginSession) :
    Handler Reply := do
  db (.interactionsSetSubject id session.sub (newDate (session.authTime * 1000)) session.acr
    session.amr)
  consentPage P config id ctx session

/-- `GET /interaction`: the login page, or the consent page bound to the session's subject. -/
def handleInteraction (req : HttpRequest) : Handler Reply :=
  match str (req.query.get "id") with
  | none => pure (errorHtml 400 "missing interaction id")
  | some id => do
    let t ← now
    let ctx ← loadInteractionContext P id t
    match ctx with
    | none => pure interactionGone
    | some ctx => do
      let session ← sessionFrom P config req
      let t' ← now
      match session.filter fun _ => !needsReauthentication session ctx.request (t' / 1000) with
      | none => pure (loginPage P config id none)
      | some session => showConsent P config id ctx session

/-- The session that a login establishes. -/
def newSession (sid : String) (user : AuthenticatedUser) (t : ℕ) : LoginSession :=
  { sid := sid
    sub := user.sub
    authTime := match user.authTime with
      | some a => (a / 1000 : ℤ)
      | none => 0
    exp := (t / 1000 + config.sessionTtlSec : ℕ)
    acr := user.acr
    amr := user.amr }

/-- `POST /interaction/login`. -/
def handleLogin (req : HttpRequest) : Handler Reply :=
  match str (req.body.get "interaction_id") with
  | none => pure (errorHtml 400 "missing interaction id")
  | some id =>
    if verifyCsrfToken P (str (req.body.get "csrf")) id config.sessionSecret = false then
      pure (errorHtml 403 "invalid or missing CSRF token")
    else do
      let t ← now
      let ctx ← loadInteractionContext P id t
      match ctx with
      | none => pure interactionGone
      | some _ => do
        let user ← devLogin config (str (req.body.get "username"))
        match user with
        | none => pure (loginPage P config id (some "unknown user"))
        | some user => do
          let sid ← randomBytes 16
          let t' ← now
          let cookie := sealSession P (newSession config sid user t') config.sessionSecret
          pure { status := 303
                 headers := [("set-cookie", sessionCookie cookie config.sessionTtlSec), noStore,
                   ("location", interactionLocation P config id)] }

/-- Complete an interaction once and decide the request. -/
def completeAndDecide (id : String) (ctx : InteractionContext) (session : LoginSession)
    (approved : Bool) : Handler Reply := do
  let t ← now
  let done ← db (.interactionsComplete id t)
  match done with
  | none => pure (errorHtml 400 "this authorization request has already been completed")
  | some _ =>
    decideAndIssue P config ctx.requestUri ctx.client ctx.request session.user (some approved)
      .accessDenied "authorization was not granted"

/-- `POST /interaction/consent`. -/
def handleConsent (req : HttpRequest) : Handler Reply :=
  match str (req.body.get "interaction_id") with
  | none => pure (errorHtml 400 "missing interaction id")
  | some id => do
    let session ← sessionFrom P config req
    match session with
    | none => pure (errorHtml 400 "your session has expired; please restart the flow")
    | some session =>
      if verifyCsrfToken P (str (req.body.get "csrf")) session.sid config.sessionSecret = false then
        pure (errorHtml 403 "invalid or missing CSRF token")
      else do
        let t ← now
        let ctx ← loadInteractionContext P id t
        match ctx with
        | none => pure interactionGone
        | some ctx =>
          if ctx.subject ≠ some session.sub then
            pure (errorHtml 400 "your session changed; please restart the authorization")
          else
            completeAndDecide P config id ctx session
              (str (req.body.get "decision") = some "approve")

end Fapi2As
