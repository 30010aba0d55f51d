import Fapi2As.Endpoints.Form
import Fapi2As.Sample
import Fapi2As.Server.TokenReplies

set_option relaxedAutoImplicit false
set_option autoImplicit false

/-!
# Repeated parameters

The form parser turns the values of a repeated parameter into an array and leaves its rejection to
the endpoints. An endpoint refuses the request when it reads the parameter as one that is required,
or as a parameter of an authorization request. A parameter that is optional at its endpoint, or that
belongs to another grant type, is read as absent when it is repeated.

## Main definitions

* `Fapi2As.recognised` — the parameters that an endpoint recognises.
* `Fapi2As.checkedParams` — those whose repetition is refused.
* `Fapi2As.ServerRun.Refuses` — a request is answered with an error only and issues nothing.

## Main results

* `Fapi2As.repeats_refused` — which repetitions are refused, and what happens to the others.
-/

namespace Fapi2As

open Js Async

/-! ## Parameters -/

/-- The parameters of client authentication. -/
def clientAuthParams : List String :=
  ["client_assertion", "client_assertion_type", "client_id", "client_secret"]

/-- The parameters of an authorization request, but for the client identifier. -/
def authorizationParams : List String :=
  ["request", "request_uri", "response_type", "redirect_uri", "scope", "code_challenge",
    "code_challenge_method", "state", "nonce", "dpop_jkt", "prompt"] ++ passthroughParams

/-- The parameters of a token request. -/
def tokenParams : List String :=
  ["grant_type", "code", "redirect_uri", "code_verifier", "refresh_token", "scope"]

/-- The parameters that an endpoint recognises. -/
def recognised : Route → List String
  | .par => clientAuthParams ++ authorizationParams
  | .token => clientAuthParams ++ tokenParams
  | .revoke | .introspect => clientAuthParams ++ ["token", "token_type_hint"]
  | _ => []

/-- The parameters whose repetition is refused: at the token endpoint those that the grant type
requires, and all of them when the grant type is missing or unknown. -/
def checkedParams (route : Route) (body : Params) : List String :=
  match route with
  | .token =>
    clientAuthParams ++
      if str (body.get "grant_type") = some "authorization_code" then
        ["code", "redirect_uri", "code_verifier"]
      else if str (body.get "grant_type") = some "refresh_token" then ["refresh_token"]
      else tokenParams
  | .revoke | .introspect => clientAuthParams ++ ["token"]
  | r => recognised r

/-! ## Refused requests -/

/-- The calls that issue a code, a token or a request URI. -/
def Call.issues : Call → Bool
  | .db (.parInsert _) | .db (.grantsInsert _) | .db (.codesInsert _)
  | .db (.accessTokensInsert _) | .db (.refreshTokensInsert _) | .signJwt _ _ => true
  | _ => false

/-- A reply that is an error. -/
def Reply.isError (reply : Reply) : Bool := (reply.field "error").isSome

/-- **A request is refused** in a run: it issues nothing, and its answer is an error. -/
structure ServerRun.Refuses {P : Platform} {config : AppConfig} {backend : Backend}
    (R : ServerRun P config backend) (req : HttpRequest) : Prop where
  /-- No call of the request issues anything. -/
  nothing : ∀ {i pid : ℕ} {p : Proc (server P config backend)} {e : Event}, R.Does i pid p e →
    p.req = req → e.op.issues = false
  /-- Its answer is an error. -/
  error : ∀ {i pid : ℕ} {past : List Event} {reply : Reply}, i ≤ R.len →
    R.proc i pid = some ⟨req, past, .ret reply⟩ → reply.isError = true

variable {P : Platform} {config : AppConfig}

/-- A program that issues nothing and whose reply is an error. -/
abbrev Refusing (past : List Event) (p : Handler Reply) : Prop :=
  Prog.wp (fun _ o => o.issues = false) (fun _ x => ∀ reply, x = .ok reply → reply.isError = true)
    past p

lemma quiet_issues : Quiet fun _ o => o.issues = false := by
  intro q o ho
  cases o with
  | db s => cases s <;> first | rfl | cases ho
  | signJwt _ _ => cases ho
  | _ => rfl

/-- The error handler answers with an error. -/
lemma errorReply_isError (e : Exn) : (errorReply e).isError = true := by
  obtain ⟨v, rest, h⟩ := errorReply_body e
  simp only [Reply.isError, Reply.field, h]
  rfl

/-- A handler that is refused is a request that is refused. -/
lemma ServerRun.refuses_of_refused {backend : Backend} {req : HttpRequest}
    (h : Refusing [] (dispatch P config req)) (R : ServerRun P config backend) : R.Refuses req := by
  have hspec : ∀ r, Prog.wp (fun _ o => r = req → o.issues = false)
      (fun _ x => ∀ reply, x = .ok reply → r = req → reply.isError = true) []
        (handler P config r) := by
    intro r
    by_cases hr : r = req
    · subst hr
      refine wp_respond (Prog.wp_mono_pre (fun _ o ho _ => ho) (Prog.wp_mono (fun q x hx => ?_) h))
      cases x with
      | ok reply =>
        intro reply' he _
        obtain rfl := Except.ok.inj he
        simpa [Reply.isError] using hx reply rfl
      | error e =>
        intro reply' he _
        obtain rfl := Except.ok.inj he
        simpa [Reply.isError] using errorReply_isError e
    · exact Prog.wp_of_forall (fun _ _ hc => absurd hc hr) fun _ _ _ _ hc => absurd hc hr
  exact ⟨fun hd hreq => hd.meets hspec hreq, fun hi hp => R.answered hspec hi hp _ rfl rfl⟩

/-! ## Repetitions that are refused -/

/-- A repeated parameter is read as absent. -/
lemma str_of_isArray {v : Option Json} (h : isArray v = true) : str v = none := by
  unfold isArray at h
  split at h
  · rfl
  · cases h

/-- A repeated parameter was sent with a value. -/
lemma isPresent_of_isArray {v : Option Json} (h : isArray v = true) : isPresent v = true := by
  unfold isArray at h
  split at h
  · rfl
  · cases h

/-- A repeated parameter of client authentication is refused by its checks. -/
lemma presentedAssertion_of_isArray {body : Params} {authorization : Option String} {name : String}
    (hname : name ∈ clientAuthParams) (h : isArray (body.get name) = true) {assertion : String} :
    presentedAssertion body authorization ≠ .ok assertion := by
  intro hok
  simp only [presentedAssertion, bind_eq_ok, reject_eq_ok, present_eq_ok] at hok
  obtain ⟨_, -, _, hother, _, harray, -⟩ := hok
  simp only [not_or, Bool.not_eq_true] at hother harray
  simp only [clientAuthParams, List.mem_cons, List.not_mem_nil, or_false] at hname
  rcases hname with rfl | rfl | rfl | rfl
  · exact absurd h (by simp [harray.1])
  · exact absurd h (by simp [harray.2.1])
  · exact absurd h (by simp [harray.2.2])
  · exact absurd (isPresent_of_isArray h) (by simp [hother.1])

/-- A request is refused at the rate limit, at its content type, or by the rest of its handler. -/
lemma refused_form {req : HttpRequest} {section_ : String} {p : Handler Reply} {past : List Event}
    (h : ∀ q, Refusing q p) :
    Refusing past (rateLimited req.ip do requireForm req section_; p) := by
  unfold rateLimited
  rw [Refusing, Prog.wp_bind, Prog.wp_perform]
  refine ⟨rfl, fun ok => ?_⟩
  simp only [Prog.Next]
  split_ifs
  · unfold requireForm
    rw [Prog.wp_bind, wp_throwIf]
    exact ⟨fun _ _ h => (by cases h), fun _ => h _⟩
  · intro reply hr
    obtain rfl := Except.ok.inj hr
    rfl

/-- A request whose client authentication has a repeated parameter is refused. -/
lemma refused_unauthenticated {body : Params} {authorization : Option String} {name : String}
    (hname : name ∈ clientAuthParams) (h : isArray (body.get name) = true)
    {f : Client → Handler Reply} {past : List Event} :
    Refusing past (authenticateClient P config body authorization >>= f) := by
  rw [Refusing, Prog.wp_bind]
  unfold authenticateClient
  rw [Prog.wp_bind, wp_now]
  refine ⟨rfl, fun t => ?_⟩
  simp only [Prog.Next]
  rw [Prog.wp_bind, Prog.wp_settle]
  exact ⟨fun assertion hok => absurd hok (presentedAssertion_of_isArray hname h),
    fun _ _ _ h => by cases h⟩

/-- A request is refused by its client authentication or by the rest of its handler. -/
lemma refused_authenticated {body : Params} {authorization : Option String}
    {f : Client → Handler Reply} {past : List Event} (h : ∀ q client, Refusing q (f client)) :
    Refusing past (authenticateClient P config body authorization >>= f) := by
  rw [Refusing, Prog.wp_bind]
  refine wp_authenticateClient quiet_issues (fun q o _ ho => ?_) (fun q client _ _ => h q client)
    fun _ _ _ => nofun
  obtain ⟨_, _, _, _, _, -, -, rfl⟩ := ho
  rfl

/-- A request is refused by the check of its proof or by the rest of its handler. -/
lemma refused_proven {header : Option DpopHeader} {ctx : DpopContext} {f : String → Handler Reply}
    {past : List Event} (h : ∀ q jkt, Refusing q (f jkt)) :
    Refusing past (verifyDpopProof P config header ctx >>= f) := by
  rw [Refusing, Prog.wp_bind]
  refine wp_verifyDpopProof quiet_issues (fun q o _ ho => ?_) (fun q jkt _ _ => h q jkt)
    fun _ _ _ => nofun
  obtain ⟨_, _, _, _, _, rfl⟩ := ho
  rfl

/-! ### Pushes -/

lemma param_of_isArray {body : Params} {name : String} {v : Option String}
    (h : param body name = .ok v) : isArray (body.get name) = false := by
  unfold param at h
  split at h
  · rename_i hb
    rw [hb]
    rfl
  · cases h
  · rename_i v hnot hb
    rw [hb]
    unfold isArray
    split
    · rename_i l heq
      exact absurd (Option.some.inj heq) (hnot l)
    · rfl

lemma requiredParam_of_isArray {body : Params} {name v : String} {e : OAuthError}
    (h : requiredParam body name e = .ok v) : isArray (body.get name) = false := by
  obtain ⟨x, hx, -⟩ := bind_eq_ok.mp h
  exact param_of_isArray hx

lemma readPassthrough_of_isArray {body : Params} :
    ∀ {names : List String} {v : List (String × String)}, readPassthrough body names = .ok v →
      ∀ name ∈ names, isArray (body.get name) = false
  | [], _, _, name, hname => absurd hname List.not_mem_nil
  | n :: names, _, h, name, hname => by
    simp only [readPassthrough, bind_eq_ok] at h
    obtain ⟨value, hvalue, _, -, rest, hrest, -⟩ := h
    rcases List.mem_cons.mp hname with rfl | hname
    · exact param_of_isArray hvalue
    · exact readPassthrough_of_isArray hrest name hname

/-- **No parameter of a request that validates is repeated.** -/
lemma validateAuthorizationRequest_of_isArray {body : Params} {client : Client}
    {v : ValidatedAuthorizationRequest} (h : validateAuthorizationRequest body client = .ok v)
    {name : String} (hname : name ∈ authorizationParams) (hne : name ≠ "request_uri") :
    isArray (body.get name) = false := by
  simp only [validateAuthorizationRequest, bind_eq_ok] at h
  obtain ⟨_, hrequest, _, -, _, -, _, -, _, htype, _, -, _, hredirect, _, -, _, hscope, _, -, _, -,
      _,
    hchallenge, _, hmethod, _, -, _, -, _, hstate, _, -, _, hnonce, _, -, _, hjkt, _, -, _, hprompt,
    _, -, _, hpass, -⟩ := h
  simp only [authorizationParams, List.cons_append, List.nil_append, List.mem_cons] at hname
  rcases hname with rfl | rfl | rfl | rfl | rfl | rfl | rfl | rfl | rfl | rfl | rfl | hname
  · exact param_of_isArray hrequest
  · exact absurd rfl hne
  · exact requiredParam_of_isArray htype
  · exact requiredParam_of_isArray hredirect
  · exact param_of_isArray hscope
  · exact requiredParam_of_isArray hchallenge
  · exact param_of_isArray hmethod
  · exact param_of_isArray hstate
  · exact param_of_isArray hnonce
  · exact param_of_isArray hjkt
  · exact param_of_isArray hprompt
  · exact readPassthrough_of_isArray hpass name hname

/-- A push with a repeated parameter does not pass its checks. -/
lemma checkPush_of_isArray {body : Params} {client : Client} {jkt : Option String} {name : String}
    (hname : name ∈ authorizationParams) (h : isArray (body.get name) = true)
    {x : ValidatedAuthorizationRequest × Option String} : checkPush body client jkt ≠ .ok x := by
  intro hok
  simp only [checkPush, bind_eq_ok, reject_eq_ok] at hok
  obtain ⟨_, huri, v, hv, -⟩ := hok
  by_cases hne : name = "request_uri"
  · subst hne
    exact huri (isPresent_of_isArray h)
  · rw [validateAuthorizationRequest_of_isArray hv hname hne] at h
    cases h

/-- **A push with a repeated parameter is refused.** -/
lemma refused_push {req : HttpRequest} {name : String} (hname : name ∈ recognised .par)
    (h : isArray (req.body.get name) = true) : Refusing [] (handlePar P config req) := by
  refine refused_form fun q => ?_
  rcases List.mem_append.mp hname with hauth | hname
  · exact refused_unauthenticated hauth h
  refine refused_authenticated fun q' client => ?_
  have hpush : ∀ q'' jkt, Refusing q'' (pushAuthorizationRequest config req.body client jkt >>=
      fun result => pure
        { status := 201
          headers := [("cache-control", "no-cache, no-store")]
          body := .json [("request_uri", .str result.requestUri),
            ("expires_in", .num result.expiresIn)] }) := by
    intro q'' jkt
    rw [Refusing, Prog.wp_bind]
    unfold pushAuthorizationRequest
    rw [Prog.wp_bind, wp_now]
    refine ⟨rfl, fun t => ?_⟩
    simp only [Prog.Next]
    rw [Prog.wp_bind, Prog.wp_settle]
    exact ⟨fun x hok => absurd hok (checkPush_of_isArray hname h), fun _ _ _ h => by cases h⟩
  unfold parDpopJkt
  split
  · exact hpush _ _
  · rw [Prog.bind_assoc]
    exact refused_proven fun q'' jkt => hpush q'' (some jkt)

/-! ### Token requests -/

/-- A redemption with a repeated parameter of its own issues nothing and fails. -/
lemma wp_repeated_code {req : HttpRequest} {client : Client} {jkt name : String}
    (hname : name ∈ ["code", "redirect_uri", "code_verifier"])
    (h : isArray (req.body.get name) = true) {past : List Event} :
    Prog.wp (fun _ o => o.issues = false) (fun _ x => ∀ tokens, x ≠ .ok tokens) past
      (handleAuthorizationCode P config req.body client jkt) := by
  have hnone := str_of_isArray h
  unfold handleAuthorizationCode
  cases hcode : str (req.body.get "code") with
  | none => exact fun _ => nofun
  | some code =>
    simp only
    rw [Prog.wp_bind]
    refine wp_redeemAuthorizationCode quiet_issues (fun _ _ _ => rfl) (fun q o _ ho => ?_)
      (fun q record grant _ hr => ?_) fun _ _ _ _ => nofun
    · cases ho <;> rfl
    · exfalso
      obtain ⟨-, hchecked, -⟩ := hr
      simp only [List.mem_cons, List.not_mem_nil, or_false] at hname
      rcases hname with rfl | rfl | rfl
      · rw [hcode] at hnone
        cases hnone
      · have hredirect := hchecked.redirect
        rw [hnone] at hredirect
        cases hredirect
      · obtain ⟨v, hv, -⟩ := hchecked.pkce
        rw [hnone] at hv
        cases hv

/-- The handler of a grant type with a repeated parameter of its own issues nothing and fails. -/
lemma wp_repeated_grant {req : HttpRequest} {client : Client} {jkt name : String}
    (hname : name ∈ checkedParams .token req.body) (hauth : name ∉ clientAuthParams)
    (h : isArray (req.body.get name) = true) {past : List Event} :
    Prog.wp (fun _ o => o.issues = false) (fun _ x => ∀ tokens, x ≠ .ok tokens) past
      (handleGrant P config req client jkt) := by
  have hname := (List.mem_append.mp hname).resolve_left hauth
  unfold handleGrant
  cases hgrant : str (req.body.get "grant_type") with
  | none => exact fun _ => nofun
  | some grantType =>
    simp only
    rw [hgrant] at hname
    split_ifs with hcode hrefresh
    · subst hcode
      exact wp_repeated_code (by simpa using hname) h
    · subst hrefresh
      have hname : name = "refresh_token" := by simpa using hname
      unfold handleRefreshToken
      rw [← hname, str_of_isArray h]
      exact fun _ => nofun
    · exact fun _ => nofun

/-- **A token request with a repeated parameter of its grant type is refused.** -/
lemma refused_token {req : HttpRequest} {name : String}
    (hname : name ∈ checkedParams .token req.body) (h : isArray (req.body.get name) = true) :
    Refusing [] (handleToken P config req) := by
  refine refused_form fun q => ?_
  rw [Refusing, Prog.wp_bind, wp_throwIf]
  refine ⟨fun _ _ h => (by cases h), fun _ => ?_⟩
  simp only [Prog.Next]
  by_cases hauth : name ∈ clientAuthParams
  · exact refused_unauthenticated hauth h
  refine refused_authenticated fun q' client => ?_
  rw [Refusing, Prog.wp_bind, wp_throwIf]
  refine ⟨fun _ _ h => (by cases h), fun _ => ?_⟩
  simp only [Prog.Next]
  refine refused_proven fun q'' jkt => ?_
  rw [Refusing, Prog.wp_bind, Prog.wp_perform]
  refine ⟨rfl, fun ready => ?_⟩
  simp only [Prog.Next]
  rw [Prog.wp_bind, wp_awaited]
  refine ⟨fun _ _ => ?_, fun _ _ _ h => by cases h⟩
  simp only [Prog.Next]
  rw [Prog.wp_bind]
  refine Prog.wp_mono (fun q x hx => ?_) (wp_repeated_grant hname hauth h)
  cases x with
  | ok tokens => exact absurd rfl (hx tokens)
  | error e => exact fun _ h => by cases h

/-! ### Revocation and introspection -/

/-- **A revocation with a repeated token is refused.** -/
lemma refused_revoke {req : HttpRequest} {name : String}
    (hname : name ∈ clientAuthParams ++ ["token"])
    (h : isArray (req.body.get name) = true) : Refusing [] (handleRevoke P config req) := by
  refine refused_form fun q => ?_
  rcases List.mem_append.mp hname with hauth | hname
  · exact refused_unauthenticated hauth h
  · obtain rfl := List.mem_singleton.mp hname
    refine refused_authenticated fun q' client => ?_
    rw [str_of_isArray h]
    exact nofun

/-- **An introspection with a repeated token is refused.** -/
lemma refused_introspect {req : HttpRequest} {name : String}
    (hname : name ∈ clientAuthParams ++ ["token"]) (h : isArray (req.body.get name) = true) :
    Refusing [] (handleIntrospect P config req) := by
  refine refused_form fun q => ?_
  rcases List.mem_append.mp hname with hauth | hname
  · exact refused_unauthenticated hauth h
  · obtain rfl := List.mem_singleton.mp hname
    refine refused_authenticated fun q' client => ?_
    rw [str_of_isArray h]
    exact nofun

/-- **A request with a repeated parameter that is checked is refused.** -/
lemma refused_checked {req : HttpRequest} (hmethod : req.method = "POST") {name : String}
    (hrecognised : name ∈ recognised req.route) (hname : name ∈ checkedParams req.route req.body)
    (h : isArray (req.body.get name) = true) : Refusing [] (dispatch P config req) := by
  unfold dispatch
  cases hr : req.route with
  | par =>
    simp only [hmethod, if_true]
    exact refused_push (hr ▸ hrecognised) h
  | token =>
    simp only [hmethod, if_true]
    exact refused_token (hr ▸ hname) h
  | revoke =>
    simp only [hmethod, if_true]
    exact refused_revoke (by simpa [hr, checkedParams] using hname) h
  | introspect =>
    simp only [hmethod, if_true]
    exact refused_introspect (by simpa [hr, checkedParams] using hname) h
  | _ => simp [hr, recognised] at hrecognised

/-! ## Repetitions that are not seen -/

/-- The client authentication reads the parameters of client authentication only. -/
lemma authenticateClient_congr {body body' : Params} {authorization : Option String}
    (h : ∀ name ∈ clientAuthParams, body.get name = body'.get name) :
    authenticateClient P config body authorization =
      authenticateClient P config body' authorization := by
  have hassertion := h "client_assertion" (by decide)
  have htype := h "client_assertion_type" (by decide)
  have hclient := h "client_id" (by decide)
  have hsecret := h "client_secret" (by decide)
  simp only [authenticateClient, presentedAssertion, checkAssertion, hassertion, htype, hclient,
    hsecret]

/-- The endpoints other than `/par` read the other parameters as strings. -/
lemma dispatch_congr {req : HttpRequest} {body : Params}
    (hauth : ∀ name ∈ clientAuthParams, req.body.get name = body.get name)
    (hstr : ∀ name, str (req.body.get name) = str (body.get name))
    (hroute : req.route = .token ∨ req.route = .revoke ∨ req.route = .introspect) :
    dispatch P config req = dispatch P config { req with body := body } := by
  rcases hroute with hr | hr | hr
  · simp only [dispatch, hr, handleToken, requireForm, HttpRequest.isForm, handleGrant,
      handleAuthorizationCode, handleRefreshToken, refreshScope, hstr,
      authenticateClient_congr hauth]
    rfl
  · simp only [dispatch, hr, handleRevoke, requireForm, HttpRequest.isForm, revokeHint, hstr,
      authenticateClient_congr hauth]
    rfl
  · simp only [dispatch, hr, handleIntrospect, requireForm, HttpRequest.isForm, hstr,
      authenticateClient_congr hauth]
    rfl

/-! ## All repetitions -/

/-- The parameters of an endpoint that a body repeats. -/
def repeatedParams (route : Route) (entries : List (String × String)) : List String :=
  (recognised route).filter fun name => 2 ≤ (valuesOf name entries).length

/-- The request whose body has the entries without the repeated parameters. -/
def HttpRequest.withoutRepeats (req : HttpRequest) (entries : List (String × String)) :
    HttpRequest :=
  { req with body := formOf (withoutNames (repeatedParams req.route entries) entries) }

/-- **Which repetitions are refused.** A form that repeats a parameter that its endpoint checks is
refused in every run. A form that repeats unchecked parameters only is served exactly as the one in
which they are left out.

**Proof sketch.** A repeated name has an array in the parsed form. The checks of client
authentication and of an authorization request throw for an array, and every other parameter is read
as a string, so that an array is read as absent; a required parameter that is absent throws. -/
theorem repeats_refused (P : Platform) (config : AppConfig)
    (urlSearchParams : String → List (String × String)) {raw : String} {req : HttpRequest}
    (hform : parseFormBody urlSearchParams raw = some req.body) (hmethod : req.method = "POST") :
    ((∃ name ∈ repeatedParams req.route (urlSearchParams raw),
        name ∈ checkedParams req.route req.body) →
      ∀ (backend : Backend) (R : ServerRun P config backend), R.Refuses req) ∧
    ((∀ name ∈ repeatedParams req.route (urlSearchParams raw),
        name ∉ checkedParams req.route req.body) →
      handler P config req = handler P config (req.withoutRepeats (urlSearchParams raw))) := by
  have hbody : req.body = formOf (urlSearchParams raw) := by
    unfold parseFormBody at hform
    split_ifs at hform
    exact (Option.some.inj hform).symm
  have hrepeated : ∀ {name : String}, name ∈ repeatedParams req.route (urlSearchParams raw) →
      name ∈ recognised req.route ∧ isArray (req.body.get name) = true := by
    intro name hname
    obtain ⟨hrecognised, hlength⟩ := List.mem_filter.mp hname
    exact ⟨hrecognised, hbody ▸ (isArray_formOf _ _).mpr (by simpa using hlength)⟩
  constructor
  · rintro ⟨name, hname, hchecked⟩ backend R
    obtain ⟨hrecognised, harray⟩ := hrepeated hname
    exact R.refuses_of_refused (refused_checked hmethod hrecognised hchecked harray)
  · intro hunchecked
    have hkept : ∀ name ∉ repeatedParams req.route (urlSearchParams raw),
        req.body.get name =
          (req.withoutRepeats (urlSearchParams raw)).body.get name := by
      intro name hname
      rw [hbody, HttpRequest.withoutRepeats, get_formOf, get_formOf,
        valuesOf_withoutNames_of_notMem hname]
    have hstr : ∀ name, str (req.body.get name) =
        str ((req.withoutRepeats (urlSearchParams raw)).body.get name) := by
      intro name
      by_cases hname : name ∈ repeatedParams req.route (urlSearchParams raw)
      · rw [str_of_isArray (hrepeated hname).2, HttpRequest.withoutRepeats, get_formOf,
          valuesOf_withoutNames_of_mem hname]
        rfl
      · rw [hkept name hname]
    have hauth : ∀ name ∈ clientAuthParams, name ∈ recognised req.route →
        req.body.get name = (req.withoutRepeats (urlSearchParams raw)).body.get name := by
      intro name hname hrecognised
      refine hkept name fun hmem => hunchecked name hmem ?_
      cases hr : req.route <;> simp_all [checkedParams, recognised]
    have hsame : dispatch P config req =
        dispatch P config (req.withoutRepeats (urlSearchParams raw)) := by
      by_cases hroute : req.route = .token ∨ req.route = .revoke ∨ req.route = .introspect
      · refine dispatch_congr (fun name hname => hauth name hname ?_) hstr hroute
        rcases hroute with hr | hr | hr <;> rw [hr] <;> exact List.mem_append_left _ hname
      · -- every recognised parameter of the other endpoints is checked, so that none is repeated
        have hall : repeatedParams req.route (urlSearchParams raw) = [] := by
          rw [List.eq_nil_iff_forall_not_mem]
          intro name hname
          refine hunchecked name hname ?_
          simp only [not_or] at hroute
          obtain ⟨hrecognised, -⟩ := hrepeated hname
          unfold checkedParams
          split
          · rename_i hr
            exact absurd hr hroute.1
          · rename_i hr
            exact absurd hr hroute.2.1
          · rename_i hr
            exact absurd hr hroute.2.2
          · exact hrecognised
        have hentries : withoutNames [] (urlSearchParams raw) = urlSearchParams raw := by
          simp [withoutNames]
        rw [HttpRequest.withoutRepeats, hall, hentries, ← hbody]
    simp only [handler, hsame]

namespace Sample

/-! ## A scope that is sent twice -/

/-- The entries of a form without escapes, as `URLSearchParams` lists them. -/
def plainEntries (raw : String) : List (String × String) := (split '&' raw).filterMap (cut '=')

/-- The text of a refresh with its scope sent twice. -/
def twiceText : String :=
  "client_assertion_type=urn:ietf:params:oauth:client-assertion-type:jwt-bearer" ++
    "&client_assertion=.3.&grant_type=refresh_token" ++
    "&refresh_token=fffffffffffffffffffffffffffffffffffffffffff&scope=r&scope=r"

/-- Its entries. -/
def twiceEntries : List (String × String) :=
  [("client_assertion_type", clientAssertionTypeJwtBearer), ("client_assertion", ".3."),
    ("grant_type", "refresh_token"), ("refresh_token", refresh), ("scope", "r"), ("scope", "r")]

lemma plainEntries_twiceText : plainEntries twiceText = twiceEntries := by decide +kernel

/-- The refresh with its scope sent twice. -/
def refreshTwice : HttpRequest :=
  form .token (authentication "3" ++ [("grant_type", .str "refresh_token"),
    ("refresh_token", .str refresh), ("scope", .arr [.str "r", .str "r"])]) (some "q")

/-- The id of the access token of the refresh. -/
def nextJti : String := "iiiiiiiiiiiiiiiiiiiiiiiiiiiiiiiiiiii"

/-- The platform with the access token of the refresh. -/
def refreshPlatform : Platform :=
  .ofTables { tables with tokens := tables.tokens ++ [accessToken "s" "A" nextJti 100] }

/-- The deployment with this platform. -/
abbrev refreshSystem : Sys Ret Exn Reply := server refreshPlatform Sample.config .memory

/-- Client `A` is issued a code, redeems it, and uses the refresh token with its scope sent twice.
-/
def refreshSteps : List (Act refreshSystem) :=
  .arrive (par "1") :: nextCalls 0 5 ++ [.run 0 { random := reference }] ++ nextCalls 0 1 ++
    .arrive (authorize "A") :: nextCalls 1 4 ++ [.run 1 { decision := .ok true }] ++
    nextCalls 1 3 ++
    [.run 1 { random := grantId }] ++ nextCalls 1 1 ++ [.run 1 { random := code }] ++
    nextCalls 1 1 ++
    .arrive (redeem "2" "p") :: nextCalls 2 6 ++ [.run 2 { loaded := some [signingKey] }] ++
    nextCalls 2 4 ++ [.run 2 { random := jti }, .run 2 { token := .ok "t" }] ++ nextCalls 2 2 ++
    [.run 2 { random := refresh }] ++ nextCalls 2 1 ++
    .arrive refreshTwice :: nextCalls 3 11 ++
    [.run 3 { random := nextJti }, .run 3 { token := .ok "s" }] ++ nextCalls 3 1

/-- The refresh is answered with an access token of the whole scope. -/
def refreshesWhole (t : List (TraceStep refreshSystem) × Conf refreshSystem) : Bool :=
  t.2.answers 3 fun r _ reply => r.route = .token && r.method = "POST" &&
    r.body = refreshTwice.body && reply.isGrant && reply.field "scope" = some (Json.str "r") &&
    !reply.isError

set_option maxRecDepth 4000 in
lemma refresh_trace :
    (refreshSystem.trace ⟨world, []⟩ refreshSteps).any refreshesWhole = true := by
  decide +kernel

/-- The run of the refresh. -/
def refreshRun : ServerRun refreshPlatform Sample.config .memory :=
  .ofTrace world refreshSteps world_initial refreshesWhole refresh_trace

lemma twiceText_parsed : parseFormBody plainEntries twiceText = some refreshTwice.body := by
  have hfew : ¬256 ≤ twiceText.toList.count '&' := by decide +kernel
  rw [parseFormBody, if_neg hfew, plainEntries_twiceText]
  decide +kernel

/-- **A refresh with its scope sent twice is answered with an access token of the whole scope.** -/
theorem scope_twice_served : ∃ req past reply,
    parseFormBody plainEntries twiceText = some req.body ∧ req.route = .token ∧
      req.method = "POST" ∧ "scope" ∈ repeatedParams req.route (plainEntries twiceText) ∧
      refreshRun.proc refreshRun.len 3 = some ⟨req, past, .ret reply⟩ ∧ reply.isGrant = true ∧
      reply.field "scope" = some (.str "r") ∧ ¬refreshRun.Refuses req := by
  obtain ⟨steps, last, ht, h⟩ : ∃ steps last, refreshRun.HasTrace steps last ∧
    refreshesWhole (steps, last) = true := Run.hasTrace_ofTrace refresh_trace
  obtain ⟨req, past, reply, hp, htest⟩ := ht.answers h
  simp only [Bool.and_eq_true, decide_eq_true_eq, Bool.not_eq_true'] at htest
  obtain ⟨⟨⟨⟨⟨hroute, hmethod⟩, hbody⟩, hgrant⟩, hscope⟩, herror⟩ := htest
  refine ⟨req, past, reply, hbody ▸ twiceText_parsed, hroute, hmethod, ?_, hp, hgrant, hscope,
    fun hrefused => ?_⟩
  · rw [hroute, plainEntries_twiceText]
    decide +kernel
  · rw [hrefused.error le_rfl hp] at herror
    cases herror

/-- The refresh is served as the one without a scope. -/
theorem scope_twice_unseen : handler refreshPlatform Sample.config refreshTwice =
    handler refreshPlatform Sample.config
    (refreshTwice.withoutRepeats (plainEntries twiceText)) := by
  refine (repeats_refused refreshPlatform Sample.config plainEntries twiceText_parsed rfl).2 ?_
  rw [plainEntries_twiceText]
  decide +kernel

end Sample

end Fapi2As
