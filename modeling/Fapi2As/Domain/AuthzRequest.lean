import Fapi2As.Domain.Clients

set_option relaxedAutoImplicit false
set_option autoImplicit false

/-!
# Authorization request validation

The validation shared by the PAR endpoint and by every later step that rebuilds the request from
the pushed parameters, and the flattening of a validated request into the stored string map.

## Main definitions

* `Fapi2As.param` — a form value: absent, a single string, or an error when it is repeated.
* `Fapi2As.validateAuthorizationRequest`, `Fapi2As.ValidatedAuthorizationRequest`.
* `Fapi2As.toStoredParams` — the stored parameters of a validated request.

## Main results

* `Fapi2As.Validated.of_eq_ok` — what is known of a request that validates.
-/

namespace Fapi2As

open Js

/-- A validated authorization request. The response type is always `code` and the challenge
method always `S256`. -/
structure ValidatedAuthorizationRequest where
  clientId : String
  redirectUri : String
  scope : String
  codeChallenge : String
  state : Option String
  nonce : Option String
  dpopJkt : Option String
  prompt : Option String
  maxAge : Option ℕ
  passthrough : List (String × String)

/-- The OIDC parameters that are kept from PAR to the authorization endpoint. -/
def passthroughParams : List String :=
  ["acr_values", "max_age", "login_hint", "id_token_hint", "ui_locales", "claims",
    "claims_locales", "display"]

/-- `VSCHAR`: every character is printable ASCII. -/
def isVschars (s : String) : Bool := s.toList.all isVschar

/-- An unreserved character of RFC 3986. -/
def isUnreserved (c : Char) : Bool := c.isAlphanum || c = '-' || c = '.' || c = '_' || c = '~'

/-- `CODE_CHALLENGE`: 43 to 128 unreserved characters. -/
def isCodeChallenge (s : String) : Bool :=
  s.toList.all isUnreserved && 43 ≤ s.toList.length && s.toList.length ≤ 128

/-- `JKT`: 43 base64url characters. -/
def isJkt (s : String) : Bool := s.toList.all isBase64urlChar && s.toList.length = 43

/-- The value of a string of digits. -/
def digitsToNat (s : String) : ℕ :=
  s.toList.foldl (fun n c => 10 * n + (c.toNat - '0'.toNat)) 0

/-- A form value: `none` for an absent or empty one and for one that is no string. A repeated
parameter arrives as an array and throws. -/
def param (body : Params) (name : String) : Except OAuthError (Option String) :=
  match body.get name with
  | none => .ok none
  | some (.arr _) => .error (invalidRequest ("parameter " ++ name ++
      " must not be repeated [RFC6749 §3.1]"))
  | some v => .ok (str (some v))

/-- A parameter that must be given. -/
def requiredParam (body : Params) (name : String) (e : OAuthError) : Except OAuthError String := do
  match ← param body name with
  | some v => .ok v
  | none => .error e

/-- A value that is absent or passes a test. -/
def checked (v : Option String) (ok : String → Bool) (e : OAuthError) : Except OAuthError Unit :=
  reject (∃ s ∈ v, ok s = false) e

/-- The scope that is asked for: the registered default when none is given or it is blank. -/
def effectiveScope (rawScope : Option String) (client : Client) : String :=
  match rawScope with
  | some s => if isBlank s then client.metadata.scope else s
  | none => client.metadata.scope

/-- A bounded printable value. -/
def isPrintable (bound : ℕ) (s : String) : Bool := isVschars s && s.toList.length ≤ bound

/-- `prompt` does not combine `none` with other values. -/
def promptOk (prompt : String) : Bool :=
  !((words prompt).contains "none" && 1 < (words prompt).length)

/-- The recognised OIDC parameters that are given, in order. -/
def readPassthrough (body : Params) : List String → Except OAuthError (List (String × String))
  | [] => .ok []
  | name :: names => do
    let value ← param body name
    checked value (isPrintable 2048) (invalidRequest ("malformed " ++ name))
    let rest ← readPassthrough body names
    .ok ((value.map fun v => (name, v)).toList ++ rest)

/-- `validateAuthorizationRequest`. -/
def validateAuthorizationRequest (body : Params) (client : Client) :
    Except OAuthError ValidatedAuthorizationRequest := do
  let request ← param body "request"
  reject (request ≠ none) (invalidRequest "request objects are not supported [RFC9126 §3]")
  let clientId ← param body "client_id"
  checked clientId (· = client.clientId)
    (invalidRequest "client_id does not match the authenticated client [RFC9126 §2.1]")
  let responseType ← requiredParam body "response_type"
    (invalidRequest "response_type is required [RFC6749 §4.1.1]")
  reject (responseType ≠ "code")
    { error := .unsupportedResponseType
      description := "only response_type=code is supported [FAPI2 5.3.2.2(1)]" }
  let redirectUri ← requiredParam body "redirect_uri"
    (invalidRequest "redirect_uri is required [FAPI2 5.3.2.2(6)]")
  reject (redirectUriRegistered client redirectUri = false)
    (invalidRequest "redirect_uri is not registered for this client [RFC9700 §2.1]")
  let rawScope ← param body "scope"
  let scope := effectiveScope rawScope client
  reject (isPrintable 512 scope = false) (invalidRequest "malformed scope")
  reject (scopeAllowed client scope = false)
    (invalidScope "requested scope exceeds the client registration [RFC6749 §3.3]")
  let codeChallenge ← requiredParam body "code_challenge"
    (invalidRequest "code challenge required [RFC7636 §4.4.1]")
  let method ← param body "code_challenge_method"
  reject (method ≠ some "S256") (invalidRequest
    "transform algorithm not supported (S256 required) [RFC7636 §4.4.1; FAPI2 5.3.2.2(5)]")
  reject (isCodeChallenge codeChallenge = false)
    (invalidRequest "malformed code_challenge [RFC7636 §4.2]")
  let state ← param body "state"
  checked state (isPrintable 512) (invalidRequest "malformed state [RFC6749 §10.14]")
  let nonce ← param body "nonce"
  checked nonce (isPrintable 512) (invalidRequest "malformed nonce")
  let dpopJkt ← param body "dpop_jkt"
  checked dpopJkt isJkt (invalidRequest
    "malformed dpop_jkt (expected a base64url SHA-256 JWK thumbprint) [RFC9449 §10]")
  let prompt ← param body "prompt"
  checked prompt promptOk
    (invalidRequest "prompt=none must not be combined with other values [OIDC §3.1.2.1]")
  let passthrough ← readPassthrough body passthroughParams
  let maxAgeRaw ← param body "max_age"
  checked maxAgeRaw (fun s => s.toList.all Char.isDigit && s ≠ "")
    (invalidRequest "malformed max_age [OIDC §3.1.2.1]")
  .ok { clientId := client.clientId, redirectUri, scope, codeChallenge, state, nonce, dpopJkt,
        prompt, maxAge := maxAgeRaw.map digitsToNat, passthrough }

/-- An optional member of the stored map. -/
def member (name : String) (v : Option String) : List (String × String) :=
  (v.map fun v => (name, v)).toList

/-- Flatten a request for storage: a string map without `undefined`. -/
def toStoredParams (v : ValidatedAuthorizationRequest) : List (String × String) :=
  [("client_id", v.clientId), ("response_type", "code"), ("redirect_uri", v.redirectUri),
    ("scope", v.scope), ("code_challenge", v.codeChallenge), ("code_challenge_method", "S256")] ++
  member "state" v.state ++ member "nonce" v.nonce ++ member "dpop_jkt" v.dpopJkt ++
  member "prompt" v.prompt ++ v.passthrough

/-- The stored string map as a record of untyped values. -/
def storedBody (params : List (String × String)) : Params := params.map fun e => (e.1, .str e.2)

/-! ## What validation establishes -/

lemma param_eq_ok {body : Params} {name : String} {v : Option String}
    (h : param body name = .ok v) : v = str (body.get name) := by
  unfold param at h
  split at h
  · rename_i hb
    simp only [Except.ok.injEq] at h
    simp [hb, ← h, str]
  · cases h
  · rename_i hb
    simp only [Except.ok.injEq] at h
    rw [hb, h]

lemma requiredParam_eq_ok {body : Params} {name v : String} {e : OAuthError}
    (h : requiredParam body name e = .ok v) : str (body.get name) = some v := by
  obtain ⟨x, hx, h⟩ := bind_eq_ok.mp h
  rw [← param_eq_ok hx]
  split at h <;> simp_all

@[simp] lemma checked_eq_ok {v : Option String} {ok : String → Bool} {e : OAuthError} {u : Unit} :
    checked v ok e = .ok u ↔ ∀ s ∈ v, ok s = true := by
  simp [checked]

/-- What is known of a request that validates against a client: it is the client's, its redirect
URI and scope are registered, and its values are those of the body. -/
structure Validated (body : Params) (client : Client) (v : ValidatedAuthorizationRequest) :
    Prop where
  /-- The request is the client's. -/
  client_eq : v.clientId = client.clientId
  /-- A client identifier in the body is the client's. -/
  bodyClient : ∀ c ∈ str (body.get "client_id"), c = client.clientId
  /-- The redirect URI is the one of the body. -/
  redirect_eq : str (body.get "redirect_uri") = some v.redirectUri
  /-- The redirect URI is registered. -/
  redirect : redirectUriRegistered client v.redirectUri = true
  /-- The scope is the one of the body, or the registered one. -/
  scope_eq : v.scope = effectiveScope (str (body.get "scope")) client
  /-- The scope is registered. -/
  scope : scopeAllowed client v.scope = true
  /-- The challenge is the one of the body. -/
  challenge_eq : str (body.get "code_challenge") = some v.codeChallenge
  /-- The DPoP key is the one of the body. -/
  dpopJkt_eq : v.dpopJkt = str (body.get "dpop_jkt")
  /-- A DPoP key has the form of a thumbprint. -/
  dpopJkt : ∀ k ∈ v.dpopJkt, isJkt k = true
  /-- The nonce is the one of the body. -/
  nonce_eq : v.nonce = str (body.get "nonce")
  /-- The prompt is the one of the body. -/
  prompt_eq : v.prompt = str (body.get "prompt")
  /-- The maximal age is the one of the body. -/
  maxAge_eq : v.maxAge = (str (body.get "max_age")).map digitsToNat

/-- **Validation is sound**: a request that is returned has passed every check. -/
lemma Validated.of_eq_ok {body : Params} {client : Client} {v : ValidatedAuthorizationRequest}
    (h : validateAuthorizationRequest body client = .ok v) : Validated body client v := by
  simp only [validateAuthorizationRequest, bind_eq_ok, reject_eq_ok, checked_eq_ok] at h
  obtain ⟨_, -, _, -, cid, hcid, _, hcid', _, -, _, -, redir, hredir, _, hreg, raw, hraw, _, -, _,
    hscope, ch, hch, _, -, _, -, _, -, _, -, _, -, nonce, hnonce, _, -, jkt, hjkt, _, hjkt', prompt,
    hprompt, _, -, _, -, ma, hma, _, -, h⟩ := h
  simp only [Except.ok.injEq] at h
  subst h
  have hcid := param_eq_ok hcid
  exact
    { client_eq := rfl
      bodyClient := fun c hc => by simpa using hcid' c (hcid ▸ hc)
      redirect_eq := requiredParam_eq_ok hredir
      redirect := by simpa using hreg
      scope_eq := by rw [param_eq_ok hraw]
      scope := by simpa using hscope
      challenge_eq := requiredParam_eq_ok hch
      dpopJkt_eq := param_eq_ok hjkt
      dpopJkt := hjkt'
      nonce_eq := param_eq_ok hnonce
      prompt_eq := param_eq_ok hprompt
      maxAge_eq := by rw [param_eq_ok hma] }

end Fapi2As
