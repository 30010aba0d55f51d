import Fapi2As.Domain.Dpop

set_option relaxedAutoImplicit false
set_option autoImplicit false

/-!
# Client authentication with `private_key_jwt`

The authentication used by the PAR, token, revocation and introspection endpoints. The subject of
the assertion is read unverified only to find the client and its keys; every claim is then checked
on the verified assertion, and its jti is registered so that it can be used once.

## Main definitions

* `Fapi2As.presentedAssertion` — the checks of the request up to the assertion string.
* `Fapi2As.checkAssertion` — the checks of the verified claims up to the replay guard.
* `Fapi2As.authenticateClient`.
* `Fapi2As.AssertionChecked`, `Fapi2As.Authenticated` — what an authenticated client has passed.

## Main results

* `Fapi2As.AssertionChecked.of_eq_ok` — what the checks of the claims establish.
* `Fapi2As.wp_authenticateClient` — the calls of the authentication and its outcome.
* `Fapi2As.authenticateClient_onlyCalls` — it makes no other calls.
-/

namespace Fapi2As

open Js Async

variable (P : Platform) (config : AppConfig)

/-- `CLIENT_ASSERTION_TYPE_JWT_BEARER`. -/
def clientAssertionTypeJwtBearer : String :=
  "urn:ietf:params:oauth:client-assertion-type:jwt-bearer"

/-- `AUTH_FAILED`. -/
def authFailed : OAuthError := invalidClient "client authentication failed"

/-- A form value was sent with a value, `v !== undefined && v !== ""`. -/
def isPresent (v : Option Json) : Bool :=
  match v with
  | none => false
  | some (.str s) => s ≠ ""
  | some _ => true

/-- A header value was sent with a value. -/
def isPresentHeader (v : Option String) : Bool := (v.filter (· ≠ "")).isSome

/-- The assertion is one JWT: three parts, no blank and no comma. -/
def isSingleJwt (assertion : String) : Bool :=
  (split '.' assertion).length = 3 && !assertion.toList.any fun c => isSpace c || c = ','

/-- The checks of the request up to the assertion string. -/
def presentedAssertion (body : Params) (authorization : Option String) :
    Except OAuthError String := do
  let assertionPresent :=
    isPresent (body.get "client_assertion") || isPresent (body.get "client_assertion_type")
  let secretPresent := isPresent (body.get "client_secret")
  let headerPresent := isPresentHeader authorization
  reject (1 < ([assertionPresent, secretPresent, headerPresent].filter id).length)
    (invalidRequest "multiple client authentication mechanisms used [RFC7521 §4.2.1]")
  reject (secretPresent = true ∨ headerPresent = true)
    (invalidClient "unsupported client authentication method [FAPI2 5.3.2.1(6)]")
  reject (isArray (body.get "client_assertion") = true ∨
      isArray (body.get "client_assertion_type") = true ∨ isArray (body.get "client_id") = true)
    (invalidRequest "request parameters must not be repeated [RFC6749 §3.2]")
  let required :=
    invalidClient "client authentication required (private_key_jwt) [FAPI2 5.3.2.2(4)]"
  let assertion ← present (str (body.get "client_assertion")) required
  let type ← present (str (body.get "client_assertion_type")) required
  reject (type ≠ clientAssertionTypeJwtBearer)
    (invalidClient "unsupported client_assertion_type [RFC7523 §2.2]")
  reject (isSingleJwt assertion = false) authFailed
  .ok assertion

/-- `decodeSubjectHint`: the subject of an assertion, unverified. -/
def decodeSubjectHint (assertion : String) : Option String :=
  match P.jsonParse (P.base64urlDecode ((split '.' assertion).getD 1 "")) with
  | some (.obj payload) => str (Params.get payload "sub")
  | _ => none

/-- The replay id of a client and a jti. -/
def replayId (clientId jti : String) : String := base64urlText clientId ++ "." ++ base64urlText jti

/-- The replay context shared by all endpoints that authenticate clients. -/
def assertionContext : String := "client-assertion"

/-- The instant until which the replay entry of an assertion is kept. -/
def assertionExpiry (exp : ℚ) : Date := newDate (exp * 1000)

/-- `iat` or `nbf` is absent, or a number not too far in the future. -/
def checkNotBefore (claims : Params) (claim : String) (latest : ℚ) : Except OAuthError Unit :=
  match claims.get claim with
  | none => .ok ()
  | some (.num v) => reject (v > latest)
      (invalidClient ("client assertion " ++ claim ++ " is in the future [FAPI2 5.3.2.1(13)]"))
  | some _ => .error (invalidClient ("client assertion " ++ claim ++ " must be a number"))

/-- The checks of the verified claims up to the replay guard: the expiry and the jti. -/
def checkAssertion (claims body : Params) (client : Client) (now : ℕ) :
    Except OAuthError (ℚ × String) := do
  reject (isText (claims.get "sub") client.clientId = false ∨
    isText (claims.get "iss") client.clientId = false) authFailed
  reject (∃ c ∈ str (body.get "client_id"), c ≠ client.clientId) authFailed
  reject (isText (claims.get "aud") config.issuer = false) (invalidClient
    "client assertion aud must be the issuer identifier string [FAPI2 5.3.2.1(8)]")
  let nowSec := now / 1000
  let exp ← present (num (claims.get "exp"))
    (invalidClient "client assertion exp is required [RFC7523 §3(4)]")
  reject (exp ≤ nowSec) (invalidClient "client assertion has expired [RFC7523 §3(4)]")
  reject (exp - nowSec > config.clientAssertionMaxLifetimeSec)
    (invalidClient "client assertion exp is unreasonably far in the future [RFC7523 §3(4)]")
  let latest := (nowSec : ℚ) + config.clockSkewFutureAcceptSec
  checkNotBefore claims "iat" latest
  checkNotBefore claims "nbf" latest
  let jti ← present (str (claims.get "jti"))
    (invalidClient "client assertion jti is required [OIDC Core §9]")
  .ok (exp, jti)

/-- How the failures of loading a client appear to the caller. -/
def loadFailure : Exn → Exn
  | .invalidClientMetadata => .oauth authFailed
  | e => e

/-- How the failures of verifying an assertion appear to the caller. -/
def verifyFailure : Exn → Exn
  | .jwksUnavailable => .oauth
      { error := .serverError
        description := "client key set is temporarily unavailable"
        status := 503 }
  | .jwsVerification => .oauth authFailed
  | e => e

/-- The client that the subject of an assertion names. -/
def locateClient (assertion : String) : Handler Client := do
  let found ← tryCatch (match decodeSubjectHint P assertion with
      | some subjectHint => loadClient P subjectHint
      | none => pure none) fun e => throw (loadFailure e)
  match found with
  | some client => pure client
  | none => throwOAuth authFailed

/-- The claims of an assertion that verifies under the keys of a client. -/
def verifyAssertion (assertion : String) (client : Client) : Handler Params :=
  tryCatch (do
    let resolver ← Prog.settle id (clientKeyResolver client)
    verifyJws P assertion resolver config.clientAuthSigningAlgs) fun e => throw (verifyFailure e)

/-- `authenticateClient`. -/
def authenticateClient (body : Params) (authorization : Option String) : Handler Client := do
  let now ← now
  let assertion ← Prog.settle Exn.oauth (presentedAssertion body authorization)
  let client ← locateClient P assertion
  let claims ← verifyAssertion P config assertion client
  let (exp, jti) ← Prog.settle Exn.oauth (checkAssertion config claims body client now)
  let fresh ← db (.jtiRegister assertionContext (replayId client.clientId jti) (assertionExpiry exp)
    now)
  throwIf (fresh = false)
    (invalidClient "client assertion jti has already been used [RFC7523 §3(7)]")
  pure client

/-! ## What an authenticated client has passed -/

variable {P config}

lemma presentedAssertion_eq_ok {body : Params} {authorization : Option String} {assertion : String}
    (h : presentedAssertion body authorization = .ok assertion) :
    str (body.get "client_assertion") = some assertion := by
  simp only [presentedAssertion, bind_eq_ok, reject_eq_ok, present_eq_ok] at h
  obtain ⟨_, -, _, -, _, -, a, ha, _, -, _, -, _, -, h⟩ := h
  rw [ha, Except.ok.inj h]

/-- The claims of a verified assertion, checked for a client at an instant. -/
structure AssertionChecked (config : AppConfig) (claims : Params) (client : Client) (now : ℕ)
    (exp : ℚ) (jti : String) : Prop where
  /-- The subject is the client. -/
  sub : claims.get "sub" = some (.str client.clientId)
  /-- The issuer is the client. -/
  iss : claims.get "iss" = some (.str client.clientId)
  /-- The expiry is a claim. -/
  expiry : num (claims.get "exp") = some exp
  /-- The assertion has not expired. -/
  notExpired : (now / 1000 : ℕ) < exp
  /-- The expiry is not too far away. -/
  lifetime : exp - (now / 1000 : ℕ) ≤ config.clientAssertionMaxLifetimeSec
  /-- The jti is a claim. -/
  jtiClaim : str (claims.get "jti") = some jti

lemma isText_eq_true {v : Option Json} {s : String} : isText v s = true ↔ v = some (.str s) := by
  unfold isText
  split <;> simp_all

/-- **The checks of the claims are sound.** -/
lemma AssertionChecked.of_eq_ok {claims body : Params} {client : Client} {now : ℕ} {exp : ℚ}
    {jti : String} (h : checkAssertion config claims body client now = .ok (exp, jti)) :
    AssertionChecked config claims client now exp jti := by
  simp only [checkAssertion, bind_eq_ok, reject_eq_ok, present_eq_ok] at h
  obtain ⟨_, hid, _, -, _, -, x, hx, _, hexp, _, hlife, _, -, _, -, j, hj, h⟩ := h
  simp only [Except.ok.injEq, Prod.mk.injEq] at h
  obtain ⟨rfl, rfl⟩ := h
  simp only [not_or, Bool.not_eq_false, isText_eq_true] at hid
  exact ⟨hid.1, hid.2, hx, not_le.mp hexp, not_lt.mp hlife, hj⟩

/-- A client that was found by its identifier: its registration was read and validates. -/
def Loaded (P : Platform) (clientId : String) (client : Client) (q : List Event) : Prop :=
  ∃ rec : ClientRecord, ⟨.db (.clientsFindById clientId), .ok (some rec)⟩ ∈ q ∧
    rec.toClient P = .ok client

lemma Loaded.mono {clientId : String} {client : Client} {q q' : List Event}
    (h : Loaded P clientId client q) (hq : q <+: q') : Loaded P clientId client q' := by
  obtain ⟨rec, h1, h2⟩ := h
  exact ⟨rec, hq.mem h1, h2⟩

/-- The outcomes of loading a client. -/
lemma wp_loadClient {pre : List Event → Call → Prop}
    {post : List Event → Except Exn (Option Client) → Prop} {past : List Event} {clientId : String}
    (hq : Quiet pre)
    (hsome : ∀ q client, past <+: q → Loaded P clientId client q → post q (.ok (some client)))
    (hnone : ∀ q, past <+: q → post q (.ok none))
    (herr : ∀ q e, past <+: q → e = .other ∨ e = .invalidClientMetadata → post q (.error e)) :
    Prog.wp pre post past (loadClient P clientId) := by
  unfold loadClient
  split_ifs
  · exact hnone _ List.prefix_rfl
  · rw [Prog.wp_bind, wp_db]
    have h1 : ∀ r, past <+: past ++ [r] := fun r => List.prefix_append _ _
    refine ⟨hq _ _ rfl, fun rec => ?_, fun e => herr _ _ (h1 _) (.inl rfl)⟩
    cases rec with
    | none => exact hnone _ (h1 _)
    | some rec =>
      simp only [Prog.Next]
      rw [Prog.wp_bind, Prog.wp_settle]
      refine ⟨fun client hc => hsome _ _ (h1 _) ⟨rec, mem_past_last _ _, hc⟩,
        fun e he => herr _ _ (h1 _) (rec.toClient_error he)⟩

/-- The assertion of a request verified under the keys of a client: the library accepted it under
keys that come from the registration. -/
def AssertionVerified (P : Platform) (config : AppConfig) (assertion : String) (client : Client)
    (q : List Event) : Prop :=
  ∃ resolver keys, clientKeyResolver client = .ok resolver ∧ KeysFrom resolver q keys ∧
    P.jwtVerify assertion keys (algsOnly (acceptedJwsAlgs config.clientAuthSigningAlgs)) = .ok ()

lemma KeysFrom.mono {resolver : KeyResolver} {keys : KeyInput} {q q' : List Event}
    (h : KeysFrom resolver q keys) (hq : q <+: q') : KeysFrom resolver q' keys := by
  cases keys with
  | localJwks keys => exact h
  | remoteJwks fetched =>
    obtain ⟨uri, h1, h2⟩ := h
    exact ⟨uri, h1, hq.mem h2⟩
  | embeddedJwk => exact h

/-- A client that was authenticated after the calls `q` by the assertion of a body: it was loaded
under the subject of the assertion, the assertion verified and its claims passed at a clock
reading, and its jti was fresh. -/
def Authenticated (P : Platform) (config : AppConfig) (body : Params) (client : Client)
    (q : List Event) : Prop :=
  ∃ assertion hint now exp jti, str (body.get "client_assertion") = some assertion ∧
    Loaded P hint client q ∧ AssertionVerified P config assertion client q ∧
    ⟨.now, now⟩ ∈ q ∧ AssertionChecked config (P.jwtClaims assertion) client now exp jti ∧
    ⟨.db (.jtiRegister assertionContext (replayId client.clientId jti) (assertionExpiry exp) now),
      .ok true⟩ ∈ q

lemma Authenticated.mono {body : Params} {client : Client} {q q' : List Event}
    (h : Authenticated P config body client q) (hq : q <+: q') :
    Authenticated P config body client q' := by
  obtain ⟨a, hint, now, exp, jti, h1, h2, ⟨rs, ks, h3, h4, h5⟩, h6, h7, h8⟩ := h
  exact ⟨a, hint, now, exp, jti, h1, h2.mono hq, ⟨rs, ks, h3, h4.mono hq, h5⟩, hq.mem h6, h7,
    hq.mem h8⟩

/-- The registration of the jti of a checked assertion of a body. -/
def AssertionRegisters (P : Platform) (config : AppConfig) (body : Params) (o : Call) : Prop :=
  ∃ assertion client now exp jti, str (body.get "client_assertion") = some assertion ∧
    AssertionChecked config (P.jwtClaims assertion) client now exp jti ∧
    o = .db (.jtiRegister assertionContext (replayId client.clientId jti) (assertionExpiry exp) now)

/-- The calls that authenticate a client. -/
def Call.authenticates : Call → Bool
  | .now | .fetchJwks _ | .db (.clientsFindById _) | .db (.jtiRegister _ _ _ _) => true
  | _ => false

lemma keys_onlyCalls (resolver : KeyResolver) :
    resolver.keys.OnlyCalls fun o => o.authenticates = true := by
  cases resolver with
  | localSet keys => trivial
  | remoteSet uri => exact .bind (fun _ => by trivial) (Prog.onlyCalls_perform rfl)

/-- **An authentication makes no other calls.** -/
lemma authenticateClient_onlyCalls (body : Params) (authorization : Option String) :
    (authenticateClient P config body authorization).OnlyCalls fun o => o.authenticates = true := by
  refine .bind (fun t => ?_) (Prog.onlyCalls_perform rfl)
  refine .bind (fun assertion => ?_) (Prog.onlyCalls_settle _ _)
  refine .bind (fun client => ?_) ?_
  · refine .bind (fun claims => ?_) ?_
    · refine .bind (fun x => ?_) (Prog.onlyCalls_settle _ _)
      refine .bind (fun fresh => ?_) (onlyCalls_db rfl)
      exact .bind (fun _ => by trivial) (Prog.onlyCalls_throwIf _ _)
    · refine .tryCatch (fun _ => by trivial)
        (.bind (fun resolver => ?_) (Prog.onlyCalls_settle _ _))
      unfold verifyJws
      split
      · trivial
      · refine .bind (fun _ => .bind (fun keys => ?_) (keys_onlyCalls resolver))
          (Prog.onlyCalls_throwIf _ _)
        split <;> trivial
  · refine .bind (fun found => ?_) (.tryCatch (fun _ => by trivial) ?_)
    · cases found <;> trivial
    · split
      · unfold loadClient
        split_ifs
        · trivial
        · refine .bind (fun rec => ?_) (onlyCalls_db rfl)
          cases rec with
          | none => trivial
          | some rec => exact .bind (fun _ => by trivial) (Prog.onlyCalls_settle _ _)
      · trivial

lemma wp_locateClient {pre : List Event → Call → Prop}
    {post : List Event → Except Exn Client → Prop} {past : List Event} {assertion : String}
    (hq : Quiet pre)
    (hok : ∀ q hint client, past <+: q → Loaded P hint client q → post q (.ok client))
    (herr : ∀ q e, past <+: q → post q (.error e)) :
    Prog.wp pre post past (locateClient P assertion) := by
  unfold locateClient
  rw [Prog.wp_bind, Prog.wp_tryCatch]
  cases decodeSubjectHint P assertion with
  | none => exact herr _ _ List.prefix_rfl
  | some hint =>
    exact wp_loadClient hq (fun q client hpq hl => hok q hint client hpq hl)
      (fun q hpq => herr q _ hpq) (fun q e hpq _ => herr q _ hpq)

lemma wp_verifyAssertion {pre : List Event → Call → Prop}
    {post : List Event → Except Exn Params → Prop} {past : List Event} {assertion : String}
    {client : Client} (hq : Quiet pre)
    (hok : ∀ q, past <+: q → AssertionVerified P config assertion client q →
      post q (.ok (P.jwtClaims assertion)))
    (herr : ∀ q e, past <+: q → post q (.error e)) :
    Prog.wp pre post past (verifyAssertion P config assertion client) := by
  unfold verifyAssertion
  rw [Prog.wp_tryCatch, Prog.wp_bind, Prog.wp_settle]
  refine ⟨fun resolver hr => ?_, fun e _ => herr _ _ List.prefix_rfl⟩
  exact wp_verifyJws P hq (fun q keys hpq hk hv => hok q hpq ⟨resolver, keys, hr, hk, hv⟩)
    (fun q e hpq => herr q _ hpq)

/-- **The calls of an authentication and its outcome**: it reads the clock, the registration and
the keys of the client, registers the jti of a checked assertion, and returns an authenticated
client. -/
lemma wp_authenticateClient {pre : List Event → Call → Prop}
    {post : List Event → Except Exn Client → Prop} {past : List Event} {body : Params}
    {authorization : Option String} (hq : Quiet pre)
    (hreg : ∀ q o, past <+: q → AssertionRegisters P config body o → pre q o)
    (hok : ∀ q client, past <+: q → Authenticated P config body client q → post q (.ok client))
    (herr : ∀ q e, past <+: q → post q (.error e)) :
    Prog.wp pre post past (authenticateClient P config body authorization) := by
  unfold authenticateClient
  rw [Prog.wp_bind, wp_now]
  refine ⟨hq _ _ rfl, fun t => ?_⟩
  have h1 : past <+: past ++ [⟨.now, t⟩] := List.prefix_append _ _
  simp only [Prog.Next]
  rw [Prog.wp_bind, Prog.wp_settle]
  refine ⟨fun assertion ha => ?_, fun e _ => herr _ _ h1⟩
  simp only [Prog.Next]
  rw [Prog.wp_bind]
  refine wp_locateClient hq (fun q2 hint client h2 hl => ?_) fun q e hpq => herr _ _ (h1.trans hpq)
  simp only [Prog.Next]
  rw [Prog.wp_bind]
  refine wp_verifyAssertion hq (fun q3 h3 hv => ?_) fun q e hpq =>
    herr _ _ ((h1.trans h2).trans hpq)
  simp only [Prog.Next]
  have h13 := (h1.trans h2).trans h3
  rw [Prog.wp_bind, Prog.wp_settle]
  refine ⟨fun x hx => ?_, fun e _ => herr _ _ h13⟩
  have hc := AssertionChecked.of_eq_ok hx
  have ha := presentedAssertion_eq_ok ha
  simp only [Prog.Next]
  rw [Prog.wp_bind, wp_db]
  have h4 : ∀ r, past <+: q3 ++ [r] := fun r => h13.trans (List.prefix_append _ _)
  refine ⟨hreg _ _ h13 ⟨assertion, client, t, x.1, x.2, ha, hc, rfl⟩, fun fresh => ?_,
    fun e => herr _ _ (h4 _)⟩
  simp only [Prog.Next]
  rw [Prog.wp_bind, wp_throwIf]
  refine ⟨fun _ => herr _ _ (h4 _), fun hf => hok _ _ (h4 _) ?_⟩
  obtain rfl : fresh = true := by simpa using hf
  obtain ⟨rs, ks, hr, hk, hver⟩ := hv
  have h34 := List.prefix_append q3
  exact ⟨assertion, hint, t, x.1, x.2, ha, (hl.mono h3).mono (h34 _),
    ⟨rs, ks, hr, hk.mono (h34 _), hver⟩,
    (h34 _).mem (h3.mem (h2.mem (mem_past_last _ _))), hc, mem_past_last _ _⟩

end Fapi2As
