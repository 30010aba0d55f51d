import Fapi2As.Domain.AuthzRequest
import Fapi2As.Domain.Sessions

set_option relaxedAutoImplicit false
set_option autoImplicit false

/-!
# Authentication and the authorization decision

## Main definitions

* `Fapi2As.AuthenticatedUser`, `Fapi2As.devLogin` — a user, and the development login.
* `Fapi2As.needsReauthentication` — whether a session has to be established again.
* `Fapi2As.decideAuthorization` — the decision of the user and the policy decision point.

## Main results

* `Fapi2As.wp_decideAuthorization` — what an allowing decision means.
-/

namespace Fapi2As

open Js Async

/-- A user who has been authenticated. -/
structure AuthenticatedUser where
  sub : String
  authTime : Date
  acr : Option Json
  amr : Option Json

/-- `DevLoginProvider.authenticate`: a name from the configured list. -/
def devLogin (config : AppConfig) (username : Option String) : Handler (Option AuthenticatedUser) :=
  match username.map trim with
  | none => pure none
  | some username =>
    if username = "" ∨ ¬config.devLoginUsers.contains username then pure none
    else do
      let authTime ← now
      pure (some { sub := username, authTime := some (authTime : ℤ),
                   acr := some (.str "urn:dev:pwd"), amr := some (.arr [.str "pwd"]) })

/-- `needsReauthentication`: no session, `prompt=login`, or `max_age` exceeded. -/
def needsReauthentication (session : Option LoginSession) (request : ValidatedAuthorizationRequest)
    (nowSec : ℕ) : Bool :=
  match session with
  | none => true
  | some session =>
    (match request.prompt with
      | some prompt => (words prompt).contains "login"
      | none => false) ||
    match request.maxAge with
      | some maxAge => (nowSec : ℚ) - session.authTime > maxAge
      | none => false

/-- The evaluation request for releasing a code. -/
def evaluationRequest (user : AuthenticatedUser) (client : Client)
    (request : ValidatedAuthorizationRequest) (userApproved : Option Bool) : EvaluationRequest :=
  { subjectType := "user"
    subjectId := user.sub
    actionName := "oauth.authorize"
    resourceType := "oauth_client"
    resourceId := client.clientId
    scope := request.scope
    redirectUri := request.redirectUri
    acr := user.acr
    userApproved := userApproved }

/-- `decideAuthorization`: a denial of the user is final, otherwise the policy decides. -/
def decideAuthorization (user : AuthenticatedUser) (client : Client)
    (request : ValidatedAuthorizationRequest) (userApproved : Option Bool) : Handler Bool :=
  if userApproved = some false then pure false
  else do
    let decision ← Prog.perform (Call.evaluate (evaluationRequest user client request userApproved))
    awaited decision

/-- **The decision**: it allows only when the user did not deny and the policy decision point
answered true for exactly this user, client and request. -/
lemma wp_decideAuthorization {pre : List Event → Call → Prop}
    {post : List Event → Except Exn Bool → Prop} {past : List Event} {user : AuthenticatedUser}
    {client : Client} {request : ValidatedAuthorizationRequest} {userApproved : Option Bool}
    (hq : Quiet pre)
    (hyes : ∀ q, past <+: q → userApproved ≠ some false →
      ⟨.evaluate (evaluationRequest user client request userApproved), .ok true⟩ ∈ q →
      post q (.ok true))
    (hno : ∀ q, past <+: q → post q (.ok false))
    (herr : ∀ q e, past <+: q → post q (.error e)) :
    Prog.wp pre post past (decideAuthorization user client request userApproved) := by
  unfold decideAuthorization
  split_ifs with hu
  · exact hno _ List.prefix_rfl
  · rw [Prog.wp_bind, Prog.wp_perform]
    refine ⟨hq _ _ rfl, fun r => ?_⟩
    have h1 : past <+: past ++ [⟨_, r⟩] := List.prefix_append _ _
    simp only [Prog.Next]
    rw [wp_awaited]
    refine ⟨fun b hb => ?_, fun e _ => herr _ _ h1⟩
    subst hb
    cases b with
    | false => exact hno _ h1
    | true => exact hyes _ h1 hu (mem_past_last _ _)

end Fapi2As
