import Fapi2As.Properties.Lineage
import Fapi2As.Properties.Pushes
import Fapi2As.Server.TokenReplies

set_option relaxedAutoImplicit false
set_option autoImplicit false

/-!
# The authentication context of an ID token

The subject and the time of a login, and the nonce of a push, travel from the session and the pushed
request through the grant and the code into the ID token of the redemption. The authentication
context class and the authentication methods of the session do not: no record after the session has
them, and the input that a redeemed code issues tokens for leaves them out.

## Main definitions

* `Fapi2As.IssuedThrough` — a code is issued through a session.
* `Fapi2As.CarriesContext` — an ID token carries the context of a session and a nonce.

## Main results

* `Fapi2As.ServerRun.id_token_context_iff` — the ID token of a redemption carries the context
  exactly when the session has no context class and no methods.
-/

namespace Fapi2As

open Js Async

/-! ## Sessions and ID tokens -/

/-- A session that a login established, for a user of an authentication provider. -/
def FromLogin (config : AppConfig) (session : LoginSession) : Prop :=
  ∃ sid user a t, user.authTime = some a ∧ |a| ≤ (maxTime : ℤ) ∧
    session = newSession config sid user t

/-- A code record is inserted after the calls `past` by a request that authorized a pushed request
through a session. -/
def IssuedThrough (P : Platform) (config : AppConfig) (req : HttpRequest) (past : List Event)
    (rec : AuthorizationCodeRecord) (uri : String) (request : ValidatedAuthorizationRequest)
    (session : LoginSession) : Prop :=
  ∃ client ua q₀ t grantId code, CodeAuthorized P config req q₀ uri client request session ua ∧
    past = q₀ ++ [⟨.now, t⟩, ⟨.randomUUID, grantId⟩,
      ⟨.db (.grantsInsert (grantRecord grantId client session.user request t)), .ok ()⟩,
      ⟨.randomBytes 32, code⟩] ∧
    rec = codeRecord P config code grantId client request t

/-- **An ID token carries the context** of a session and a pushed nonce, for a client. -/
structure CarriesContext (claims : Params) (clientId : String) (session : LoginSession)
    (nonce : Option String) : Prop where
  /-- The audience is the client. -/
  aud : claims.get "aud" = some (.str clientId)
  /-- The subject is the one of the session. -/
  sub : claims.get "sub" = some (.str session.sub)
  /-- The time of the authentication is the one of the session. -/
  authTime : claims.get "auth_time" = some (.num session.authTime)
  /-- There is a nonce when one was pushed, and it is the pushed one. -/
  nonce : claims.get "nonce" = nonce.map Json.str
  /-- There is a context class when the session has one, and it is that of the session. -/
  acr : claims.get "acr" = session.acr
  /-- There are methods when the session has them, and they are those of the session. -/
  amr : claims.get "amr" = session.amr

/-- A whole number in range is its own time value. -/
lemma newDate_intCast {n : ℤ} (h : |n| ≤ (maxTime : ℤ)) : newDate (n : ℚ) = some n := by
  have hq : |(n : ℚ)| ≤ (maxTime : ℚ) := by exact_mod_cast h
  simp [newDate, hq]

/-- **The time of a login reaches the user of its session in whole seconds.** -/
lemma FromLogin.authTime {config : AppConfig} {session : LoginSession}
    (h : FromLogin config session) : session.user.authTime.seconds = .num session.authTime := by
  obtain ⟨sid, user, a, t, ha, hbound, rfl⟩ := h
  have hsec : (newSession config sid user t).authTime = ((a / 1000 : ℤ) : ℚ) := by
    simp [newSession, ha]
  have hrange : |a / 1000 * 1000| ≤ (maxTime : ℤ) := by
    rw [abs_le] at hbound ⊢
    simp only [maxTime] at hbound ⊢
    omega
  have hdate : (newSession config sid user t).user.authTime = some (a / 1000 * 1000) := by
    have hcast : ((a / 1000 : ℤ) : ℚ) * 1000 = ((a / 1000 * 1000 : ℤ) : ℚ) := by push_cast; ring
    rw [LoginSession.user, hsec, hcast]
    exact newDate_intCast hrange
  rw [hdate, hsec, Date.seconds]
  congr 2
  omega

/-- An optional claim is found under its own name only. -/
lemma assoc_optionalClaim (k name : String) (v : Option Json) :
    assoc k (optionalClaim name v) = if name = k then v else none := by
  cases v <;> simp [optionalClaim, assoc]

/-- The claims of the ID token of a redemption. -/
lemma idTokenClaims_code (config : AppConfig) (client : Client) (jkt : String)
    (record : AuthorizationCodeRecord) (grant : GrantRecord) (t : ℕ) :
    let claims := idTokenClaims config (codeInput client jkt record grant) t
    claims.get "aud" = some (.str client.clientId) ∧ claims.get "sub" = some (.str grant.subject) ∧
      claims.get "auth_time" = some grant.authTime.seconds ∧
      claims.get "nonce" = truthy (record.nonce.map Json.str) ∧
      claims.get "acr" = none ∧ claims.get "amr" = none := by
  simp [idTokenClaims, codeInput, Params.get, assoc_append, assoc_optionalClaim, assoc, truthy]

/-- A value that is read as a string is read as itself. -/
lemma str_map_str (v : Option Json) : str ((str v).map Json.str) = str v := by
  cases h : str v with
  | none => rfl
  | some s => simp [str, str_ne_empty h]

/-- A string that is read is a truthy claim. -/
lemma truthy_str (v : Option Json) : truthy ((str v).map Json.str) = (str v).map Json.str := by
  cases h : str v with
  | none => rfl
  | some s => simp [truthy, str_ne_empty h]

/-- The ID token in the body of a token response. -/
lemma field_idToken {reply : Reply} {tokens : IssuedTokens} (h : reply.body = .json tokens.toBody) :
    reply.field "id_token" = tokens.idToken.map Json.str := by
  obtain ⟨_, _, _, refreshToken, idToken⟩ := tokens
  simp only [Reply.field, h]
  cases refreshToken <;> cases idToken <;> rfl

namespace ServerRun

variable {P : Platform} {config : AppConfig} {backend : Backend} (R : ServerRun P config backend)

/-- A code is issued through a session for the request of a push. -/
def IssuedFor (rec : AuthorizationCodeRecord) (session : LoginSession)
    (request : ValidatedAuthorizationRequest) (push : Proc (server P config backend)) : Prop :=
  ∃ k pid p pushed, R.Does k pid p ⟨.db (.codesInsert rec), .ok ()⟩ ∧
    IssuedThrough P config p.req p.past rec pushed.requestUri request session ∧
    ∃ j pid', R.Does j pid' push ⟨.db (.parInsert pushed), .ok ()⟩

/-- A code was redeemed with success before step `i`. -/
def RedeemedBy (i : ℕ) (rec : AuthorizationCodeRecord) (reply : Reply) : Prop :=
  ∃ pid req past code, R.proc i pid = some ⟨req, past, .ret reply⟩ ∧ req.route = .token ∧
    reply.isGrant = true ∧ str (req.body.get "grant_type") = some "authorization_code" ∧
    str (req.body.get "code") = some code ∧ P.sha256Base64Url code = rec.codeHash

variable {R}

/-- **The nonce of the request that a code is issued for is the one that was pushed.** -/
lemma issued_nonce {k pid : ℕ} {p : Proc (server P config backend)} {e : Event}
    (hd : R.Does k pid p e) {q : List Event} (hq : q <+: p.past) {pushed : ParRequestRecord}
    {client : Client} {request : ValidatedAuthorizationRequest} {session : LoginSession}
    {ua : Option Bool}
    (h : CodeAuthorized P config p.req q pushed.requestUri client request session ua) {j pid' : ℕ}
    {push : Proc (server P config backend)}
    (hpush : R.Does j pid' push ⟨.db (.parInsert pushed), .ok ()⟩) :
    request.nonce = str (push.req.body.get "nonce") := by
  obtain ⟨pushed', hread, huri, -, j', -, pid'', push', hpush', -⟩ :=
    grant_pushed (Nat.le_of_lt hd.lt) hd.proc hq h
  obtain rfl := par_insert_once ⟨_, _, _, hpush⟩ ⟨_, _, _, hpush'⟩ huri.symm
  obtain ⟨-, -, heq⟩ := hpush.functional hpush'
  obtain rfl : pushed = pushed' := by
    have hop := congrArg Event.op heq
    simpa using hop
  rw [(Validated.of_eq_ok hread.valid).nonce_eq, get_storedBody, (R.storedPush hpush).nonce,
    str_map_str]

/-- **The ID token of a redemption carries the context of the session** exactly when the session has
no context class and no methods.

**Proof sketch.** The redeemed record is the one that was inserted, and its grant is the one that
was inserted before it by the same request, with the subject and the time of the session and the
scope of the request. The nonce of the code is the one of the request, which is read back as it was
pushed. The ID token is signed for these, and for no context class and no methods. -/
theorem id_token_context_iff (R : ServerRun P config backend) {rec : AuthorizationCodeRecord}
    {session : LoginSession} {request : ValidatedAuthorizationRequest}
    {push : Proc (server P config backend)} (hissued : R.IssuedFor rec session request push)
    (hlogin : FromLogin config session) (hopenid : "openid" ∈ split ' ' request.scope) {i : ℕ}
    {reply : Reply} (hi : i ≤ R.len) (hredeemed : R.RedeemedBy i rec reply) :
    ∃ token, reply.field "id_token" = some (.str token) ∧
      (CarriesContext (P.jwtClaims token) rec.clientId session (str (push.req.body.get "nonce")) ↔
        session.acr = none ∧ session.amr = none) := by
  obtain ⟨k, pid, p, pushed, hd, ⟨client, ua, q₀, t, gid, code', hauth, hpast, hrec⟩, j, pid',
      hpush⟩ :=
    hissued
  obtain ⟨pid'', req, past, code, hp, hroute, hgrant, hgt, hcode, hhash⟩ := hredeemed
  cases R.tokenReplied hi hp hroute hgrant with
  | refresh client' jkt scope token rt grant tokens hexchange =>
    have hgt' := hexchange.2.1
    exact absurd (hgt.symm.trans hgt') (by decide)
  | code client' jkt record grant tokens hexchange hsigned hbody =>
    obtain ⟨-, -, code₁, hcode₁, ⟨t₁, hredeem⟩, hchecked, hfind, -⟩ := hexchange
    obtain rfl := Option.some.inj (hcode.symm.trans hcode₁)
    -- The redeemed record is the one that was inserted.
    obtain rfl : record = rec := by
      obtain ⟨a, ha, q, hda, -⟩ := R.did hi hp hredeem
      obtain ⟨row, hrow, rfl, -⟩ := (R.carried hda).codesRedeem
      obtain ⟨hkey, b, -, hb⟩ := R.codes_origin (by omega) hrow
      obtain rfl := codes_insert_once hb ⟨pid, p, (), hd⟩ (hkey.trans hhash)
      exact Query.codesInsert.inj (hb.functional ⟨pid, p, (), hd⟩)
    obtain ⟨k', -, p', hdk, -⟩ := code_grant hd hpast
    have hfresh : grant.fresh = grantRecord gid client session.user request t :=
      found_grant ⟨pid, p', (), hdk⟩ hi hp hfind (by rw [hrec]; rfl)
    have hsub : grant.subject = session.sub := congrArg GrantRecord.subject hfresh
    have htime : grant.authTime = session.user.authTime := congrArg GrantRecord.authTime hfresh
    have hscope : grant.scope = request.scope := congrArg GrantRecord.scope hfresh
    have hnonce : record.nonce = str (push.req.body.get "nonce") := by
      rw [hrec]
      exact issued_nonce hd (hpast ▸ List.prefix_append _ _) hauth hpush
    -- There is an ID token, with the claims that it was signed for.
    obtain ⟨token, htoken⟩ : ∃ token, tokens.idToken = some token := by
      have hsome := hsigned.idToken
      rw [hscope, show (split ' ' request.scope).contains "openid" = true by
        simpa using hopenid] at hsome
      exact Option.isSome_iff_exists.mp hsome
    obtain ⟨t₂, hsign⟩ := hsigned.signed token htoken
    obtain ⟨b, -, q, hdb, -⟩ := R.did hi hp hsign
    refine ⟨token, by rw [field_idToken hbody, htoken]; rfl, ?_⟩
    rw [(signed hdb).1]
    obtain ⟨haud, hsubject, hauthTime, hn, hacr, hamr⟩ :=
      idTokenClaims_code config client' jkt record grant t₂
    constructor
    · intro h
      exact ⟨h.acr.symm.trans hacr, h.amr.symm.trans hamr⟩
    · rintro ⟨hnoAcr, hnoAmr⟩
      exact
        { aud := haud.trans (by rw [hchecked.client])
          sub := hsubject.trans (by rw [hsub])
          authTime := hauthTime.trans (by rw [htime, hlogin.authTime])
          nonce := hn.trans (by rw [hnonce, truthy_str])
          acr := hacr.trans hnoAcr.symm
          amr := hamr.trans hnoAmr.symm }

end ServerRun

namespace Sample

/-! ## A login with a context class -/

/-- The session of a login with a context class and methods, as it is sealed in the cookie. -/
def passwordSession : Json :=
  .obj [("sid", .str "i"), ("sub", .str "u"), ("authTime", .num 90), ("exp", .num 9000),
    ("acr", .str "urn:dev:pwd"), ("amr", .arr [.str "pwd"])]

/-- The access token of the redemption. -/
def contextAccess : SignedToken where
  text := "y"
  header := [("alg", .str "ES256"), ("kid", .str "1"), ("typ", .str "at+jwt")]
  claims := [("iss", .str "https://as"), ("aud", .str "https://rs"), ("sub", .str "u"),
    ("client_id", .str "A"), ("iat", .num 100), ("exp", .num 400), ("jti", .str jti),
    ("scope", .str "openid"), ("cnf", .obj [("jkt", .str "k")])]
  signer := publicKey "as"

/-- The ID token of the redemption. -/
def contextId : SignedToken where
  text := "d"
  header := [("alg", .str "ES256"), ("kid", .str "1")]
  claims := [("iss", .str "https://as"), ("sub", .str "u"), ("aud", .str "A"), ("iat", .num 100),
    ("exp", .num 400), ("nonce", .str "n"), ("auth_time", .num 90)]
  signer := publicKey "as"

/-- The platform with this session and these tokens. -/
def contextPlatform : Platform := .ofTables { tables with
  documents := ("e", passwordSession) :: tables.documents
  tokens := contextAccess :: contextId :: tables.tokens }

/-- The registration of client `A` with the default scope. -/
def contextRegistration : ClientRecord where
  clientId := "A"
  clientName := none
  metadata := .obj [("redirect_uris", .arr [.str "https://c"]),
    ("jwks", .obj [("keys", .arr [.obj (publicKey "A")])])]

/-- The state at the start. -/
def contextWorld : World where
  store := { clients := Map.empty.set "A" contextRegistration }
  clock := 100000

lemma contextWorld_initial : World.Initial contextWorld where
  store := rfl
  clients := by
    intro id rec h
    simp only [contextWorld, Map.get?_set, Map.get?_empty] at h
    split_ifs at h with h1
    rw [← Option.some.inj h, h1]
    rfl
  keys := rfl
  drawn := rfl
  clock := by decide

/-- The push with a nonce. -/
def contextPar : HttpRequest :=
  form .par (authentication "1" ++ [("response_type", .str "code"),
    ("redirect_uri", .str "https://c"), ("code_challenge", .str challenge),
    ("code_challenge_method", .str "S256"), ("prompt", .str "none"), ("nonce", .str "n")]) none

/-- The deployment with this platform. -/
abbrev contextSystem : Sys Ret Exn Reply := server contextPlatform config .memory

/-- Client `A` is issued a code through the session and redeems it. -/
def contextSteps : List (Act contextSystem) :=
  .arrive contextPar :: nextCalls 0 5 ++ [.run 0 { random := reference }] ++ nextCalls 0 1 ++
    .arrive (authorize "A") :: nextCalls 1 4 ++ [.run 1 { decision := .ok true }] ++
    nextCalls 1 3 ++
    [.run 1 { random := grantId }] ++ nextCalls 1 1 ++ [.run 1 { random := code }] ++
    nextCalls 1 1 ++
    .arrive (redeem "2" "p") :: nextCalls 2 6 ++ [.run 2 { loaded := some [signingKey] }] ++
    nextCalls 2 4 ++ [.run 2 { random := jti }, .run 2 { token := .ok "y" }] ++ nextCalls 2 2 ++
    [.run 2 { token := .ok "d" }] ++ nextCalls 2 1 ++ [.run 2 { random := refresh }] ++
    nextCalls 2 1

/-- The session is the one that is sealed in the cookie. -/
def isPassword (s : LoginSession) : Bool :=
  s.sid = "i" && s.sub = "u" && s.authTime = 90 && s.exp = 9000 &&
    s.acr = some (Json.str "urn:dev:pwd") && s.amr = some (Json.arr [Json.str "pwd"])

/-- A session that is sealed in the cookie comes from a login. -/
lemma isPassword_fromLogin {s : LoginSession} (h : isPassword s = true) : FromLogin config s := by
  obtain ⟨sid, sub, authTime, exp, acr, amr⟩ := s
  simp only [isPassword, Bool.and_eq_true, decide_eq_true_eq] at h
  obtain ⟨⟨⟨⟨⟨rfl, rfl⟩, rfl⟩, rfl⟩, rfl⟩, rfl⟩ := h
  refine ⟨"i", ⟨"u", some 90000, some (.str "urn:dev:pwd"), some (.arr [.str "pwd"])⟩, 90000,
    5400000, rfl, by decide, ?_⟩
  simp only [newSession, config, LoginSession.mk.injEq, true_and, and_true]
  norm_num

/-- A call that inserts the code. -/
def insertsCode (e : Event) : Bool :=
  match e with
  | ⟨.db (.codesInsert rec), .ok ()⟩ => rec.codeHash = code
  | _ => false

/-- A call inserts no grant of another scope than `openid`. -/
def grantsOpenid (e : Event) : Bool :=
  match e with
  | ⟨.db (.grantsInsert g), _⟩ => g.scope = "openid"
  | _ => true

/-- The code is issued through the session, and its redemption is answered with the ID token. -/
def contextServed (t : List (TraceStep contextSystem) × Conf contextSystem) : Bool :=
  (t.2.answers 1 fun req past _ => (sessionAt contextPlatform config req 0).any isPassword &&
    past.any insertsCode && past.all grantsOpenid) &&
  t.2.answers 2 fun req _ reply => req.route = .token && reply.isGrant &&
    req.body = (redeem "2" "p").body && reply.field "id_token" = some (Json.str "d")

set_option maxRecDepth 4000 in
lemma context_trace :
    (contextSystem.trace ⟨contextWorld, []⟩ contextSteps).any contextServed = true := by
  decide +kernel

/-- The run of the redemption. -/
def contextRun : ServerRun contextPlatform config .memory :=
  .ofTrace contextWorld contextSteps contextWorld_initial contextServed context_trace

/-- A decision about a pushed request carries a valid session. -/
lemma authorizes_carries {P : Platform} {config : AppConfig} {req : HttpRequest} {q : List Event}
    {uri : String} {client : Client} {request : ValidatedAuthorizationRequest}
    {session : LoginSession} {ua : Option Bool}
    (h : Authorizes P config req q uri client request session ua) :
    ∃ t, SessionRead P config req q session t := by
  cases h with
  | consent id ctx session t done hchecked _ => exact hchecked.carries
  | silent _ _ _ _ hchecked =>
    obtain ⟨t, hread, -⟩ := hchecked.carries
    exact ⟨t, hread⟩

/-- The two requests of the run: a code is issued through the session, and it is redeemed. -/
lemma contextRun_flow : ∃ rec session request push reply,
    contextRun.IssuedFor rec session request push ∧ isPassword session = true ∧
      "openid" ∈ split ' ' request.scope ∧ contextRun.RedeemedBy contextRun.len rec reply ∧
      reply.field "id_token" = some (.str "d") := by
  obtain ⟨steps, last, ht, h⟩ : ∃ steps last, contextRun.HasTrace steps last ∧
    contextServed (steps, last) = true := Run.hasTrace_ofTrace context_trace
  simp only [contextServed, Bool.and_eq_true] at h
  obtain ⟨req₁, past₁, reply₁, hp₁, htest₁⟩ := ht.answers h.1
  obtain ⟨req₂, past₂, reply₂, hp₂, htest₂⟩ := ht.answers h.2
  simp only [Bool.and_eq_true, decide_eq_true_eq] at htest₁ htest₂
  obtain ⟨⟨hpassword, hinserts⟩, hgrants⟩ := htest₁
  obtain ⟨⟨⟨hroute, hgrant⟩, hbody⟩, hfield⟩ := htest₂
  obtain ⟨e, he, hcode⟩ := List.any_eq_true.mp hinserts
  obtain ⟨k, -, p, hd, hreq, hpre⟩ := contextRun.did le_rfl hp₁ he
  unfold insertsCode at hcode
  split at hcode
  · rename_i rec
    have hcreated : CodeCreated contextPlatform config p.req p.past rec := contextRun.justified hd
    obtain ⟨uri, client, request, session, ua, q₀, t, gid, c, hauth, hpast, hrec⟩ := hcreated
    obtain ⟨pushed, -, rfl, -, j, -, pid', push, hpush, -⟩ := ServerRun.grant_pushed
      (Nat.le_of_lt hd.lt) hd.proc (hpast ▸ List.prefix_append _ _) hauth
    refine ⟨rec, session, request, push, reply₂, ⟨k, 1, p, pushed, hd,
      ⟨client, ua, q₀, t, gid, c, hauth, hpast, hrec⟩, j, pid', hpush⟩, ?_, ?_,
      ⟨2, req₂, past₂, code, hp₂, hroute, hgrant, by rw [hbody]; decide, by rw [hbody]; decide, ?_⟩,
      hfield⟩
    · obtain ⟨q₁, t₁, consumed, rfl, hauthorizes, -⟩ := hauth
      obtain ⟨t₂, -, hread⟩ := authorizes_carries hauthorizes
      have hzero : sessionAt contextPlatform config p.req 0 = some session :=
        openSession_mono (Nat.zero_le _) hread
      rw [hreq] at hzero
      rw [hzero] at hpassword
      simpa using hpassword
    · have hmem : (⟨.db (.grantsInsert (grantRecord gid client session.user request t)), .ok ()⟩ :
          Event) ∈ past₁ := by
        refine ((List.prefix_append _ _).trans hpre).mem ?_
        rw [hpast]
        simp
      have hscope := List.all_eq_true.mp hgrants _ hmem
      have hscope : request.scope = "openid" := of_decide_eq_true hscope
      rw [hscope]
      decide
    · have hhash : contextPlatform.sha256Base64Url code = code := by decide
      rw [hhash]
      exact (of_decide_eq_true hcode).symm
  · cases hcode

/-- **The ID token of a password login has no context class.** -/
theorem password_context_lost : ∃ rec session request push reply,
    contextRun.IssuedFor rec session request push ∧ FromLogin config session ∧
      "openid" ∈ split ' ' request.scope ∧ contextRun.RedeemedBy contextRun.len rec reply ∧
      ∀ token, reply.field "id_token" = some (.str token) →
        ¬CarriesContext (contextPlatform.jwtClaims token) rec.clientId session
          (str (push.req.body.get "nonce")) := by
  obtain ⟨rec, session, request, push, reply, hissued, hpassword, hopenid, hredeemed, hfield⟩ :=
    contextRun_flow
  refine ⟨rec, session, request, push, reply, hissued, isPassword_fromLogin hpassword, hopenid,
    hredeemed, fun token htoken hcarries => ?_⟩
  obtain rfl : "d" = token := Json.str.inj (Option.some.inj (hfield.symm.trans htoken))
  have hnone : (contextPlatform.jwtClaims "d").get "acr" = none := by decide
  have hacr := hcarries.acr
  simp only [isPassword, Bool.and_eq_true, decide_eq_true_eq] at hpassword
  rw [hnone, hpassword.1.2] at hacr
  cases hacr

/-- The ID token of the sample redemption carries the context exactly when its session has no
context class and no methods. -/
theorem password_context_iff : ∃ rec session request push reply,
    contextRun.IssuedFor rec session request push ∧
      contextRun.RedeemedBy contextRun.len rec reply ∧
      ∃ token, reply.field "id_token" = some (.str token) ∧
        (CarriesContext (contextPlatform.jwtClaims token) rec.clientId session
            (str (push.req.body.get "nonce")) ↔ session.acr = none ∧ session.amr = none) := by
  obtain ⟨rec, session, request, push, reply, hissued, hpassword, hopenid, hredeemed, -⟩ :=
    contextRun_flow
  exact ⟨rec, session, request, push, reply, hissued, hredeemed,
    ServerRun.id_token_context_iff contextRun hissued (isPassword_fromLogin hpassword) hopenid
      le_rfl
      hredeemed⟩

end Sample

end Fapi2As
