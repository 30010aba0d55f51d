import Fapi2As.Async.Trace
import Fapi2As.Server.Runs

set_option relaxedAutoImplicit false
set_option autoImplicit false

/-!
# A sample deployment

A platform that is given by tables, and a small deployment on it: two clients, one user, one
signing key. Runs of it can be evaluated. Tokens, proofs and hashes are abbreviated to short texts;
the tables say what the external functions return for them.

## Main definitions

* `Fapi2As.PlatformTables`, `Fapi2As.Platform.ofTables` — a platform given by tables.
* `Fapi2As.Sample.config`, `Fapi2As.Sample.world`, `Fapi2As.Sample.tables` — the deployment.
* `Fapi2As.Sample.par`, `Fapi2As.Sample.authorize`, … — its requests.

## Main results

* `Fapi2As.Platform.ofTables_verified` — a token that verifies stands in the table, under a key
  that was asked for and with the issuer and type that were asked for.
-/

namespace Fapi2As

open Js Async

/-! ## Platforms given by tables -/

/-- A signed token: its text, protected header and claims, and the key that signed it. -/
structure SignedToken where
  text : String
  header : Params
  claims : Params
  signer : Params

/-- What the external functions return for the texts of a deployment. -/
structure PlatformTables where
  /-- SHA-256 digests; any other text is its own digest. -/
  digests : List (String × String) := []
  /-- MACs, by secret and data. -/
  macs : List ((String × String) × String) := []
  urls : List (String × Url) := []
  /-- JSON documents, by their text. -/
  documents : List (String × Json) := []
  tokens : List SignedToken := []
  thumbprints : List (Json × String) := []

/-- The token of a text. -/
def PlatformTables.token (t : PlatformTables) (text : String) : Option SignedToken :=
  t.tokens.find? (·.text = text)

/-- A member of a header or of claims is a given text, when one is asked for. -/
def memberIs (members : Params) (name : String) (asked : Option String) : Bool :=
  match asked with
  | some s => members.get name = some (.str s)
  | none => true

/-- The algorithm of a header is one of those asked for. -/
def algIn (header : Params) (algs : Option (List String)) : Bool :=
  match algs, header.get "alg" with
  | some l, some (.str a) => l.contains a
  | some _, _ => false
  | none, _ => true

/-- The key of a token is one of those it is verified under. -/
def SignedToken.keyIn (k : SignedToken) : KeyInput → Bool
  | .localJwks keys => keys.contains (.obj k.signer)
  | .remoteJwks (.ok keys) => keys.contains (.obj k.signer)
  | .remoteJwks (.error _) => false
  | .embeddedJwk => k.header.get "jwk" = some (.obj k.signer)

/-- A token verifies under keys and options. -/
def SignedToken.verifies (k : SignedToken) (keys : KeyInput) (o : VerifyOptions) : Bool :=
  k.keyIn keys && algIn k.header o.algorithms && memberIs k.header "typ" o.typ &&
    memberIs k.claims "iss" o.issuer

/-- The error of a signature that does not verify. -/
def signatureError : JoseError := ⟨some "ERR_JWS_SIGNATURE_VERIFICATION_FAILED"⟩

/-- The platform of tables. -/
def Platform.ofTables (t : PlatformTables) : Platform where
  sha256Base64Url s := (assoc s t.digests).getD s
  hmacBase64Url secret data := (assoc (secret, data) t.macs).getD ""
  newURL s := assoc s t.urls
  urlToString u := u.origin ++ u.pathname ++ "?" ++
    String.intercalate "&" (u.searchParams.map fun e => e.1 ++ "=" ++ encodeURIComponent e.2)
  jsonParse s := assoc s t.documents
  stringOf v := match v with
    | some (.str s) => s
    | _ => "undefined"
  jsonStringify v := ((t.documents.find? (·.2 = v)).map Prod.fst).getD ""
  base64urlDecode s := s
  decodeProtectedHeader s := (t.token s).map SignedToken.header
  jwtVerify s keys o :=
    match t.token s with
    | some k => if k.verifies keys o then .ok () else .error signatureError
    | none => .error signatureError
  jwtClaims s := ((t.token s).map SignedToken.claims).getD []
  calculateJwkThumbprint jwk := assoc jwk t.thumbprints

/-- **A token that verifies stands in the table**, signed by a key it was verified under, with the
issuer and the type that were asked for. -/
lemma Platform.ofTables_verified {t : PlatformTables} {text : String} {keys : KeyInput}
    {o : VerifyOptions} (h : (Platform.ofTables t).jwtVerify text keys o = .ok ()) :
    ∃ k ∈ t.tokens, k.text = text ∧ k.keyIn keys = true ∧ memberIs k.header "typ" o.typ = true ∧
      memberIs k.claims "iss" o.issuer = true := by
  simp only [Platform.ofTables] at h
  split at h
  · rename_i k hk
    split_ifs at h with hv
    simp only [SignedToken.verifies, Bool.and_eq_true] at hv
    exact ⟨k, List.mem_of_find?_eq_some hk, by simpa using List.find?_some hk, hv.1.1.1,
      hv.1.2, hv.2⟩
  · cases h

namespace Sample

/-! ## The deployment -/

/-- The configuration. -/
def config : AppConfig where
  issuer := "https://as"
  devLoginUsers := ["u"]
  sessionSecret := "s"
  interactionTtlSec := 600
  sessionTtlSec := 3600
  authCodeTtlSec := 60
  parTtlSec := 60
  accessTokenTtlSec := 300
  refreshTokenTtlSec := 86400
  idTokenTtlSec := 300
  clientAssertionMaxLifetimeSec := 300
  clockSkewFutureAcceptSec := 10
  dpopProofMaxAgeSec := 60
  dpopNonceRequired := false
  dpopNonceSecret := "n"
  accessTokenAudience := "https://rs"
  rateLimitPerMin := 0
  clientAuthSigningAlgs := ["ES256"]
  dpopSigningAlgs := ["ES256"]
  interactionTtl_bounds := by decide
  sessionTtl_pos := by decide
  authCodeTtl_bounds := by decide
  parTtl_bounds := by decide
  accessTokenTtl_bounds := by decide
  refreshTokenTtl_pos := by decide
  idTokenTtl_bounds := by decide
  clientAssertionMaxLifetime_pos := by decide
  clockSkew_le := by decide
  dpopProofMaxAge_pos := by decide

/-- A URL of the authorization server. -/
def asUrl (path : String) : String × Url :=
  ("https://as" ++ path,
    { protocol := "https:", hostname := "as", host := "as", port := "", origin := "https://as"
      pathname := path, hash := "", searchParams := [] })

/-- The public key of a party. -/
def publicKey (party : String) : Params := [("kty", .str "EC"), ("x", .str party)]

/-- The claims of a client assertion. -/
def assertionClaims (client jti : String) (exp : ℚ) : Params :=
  [("sub", .str client), ("iss", .str client), ("aud", .str "https://as"), ("exp", .num exp),
    ("jti", .str jti)]

/-- A client assertion whose payload is `body`. -/
def assertion (client body : String) (exp : ℚ) : SignedToken where
  text := "." ++ body ++ "."
  header := [("alg", .str "ES256")]
  claims := assertionClaims client body exp
  signer := publicKey client

/-- A DPoP proof. -/
def proof (text htm htu : String) (iat : ℚ) (ath : Option String) : SignedToken where
  text := text
  header := [("typ", .str "dpop+jwt"), ("alg", .str "ES256"), ("jwk", .obj (publicKey "k"))]
  claims := [("jti", .str text), ("htm", .str htm), ("htu", .str htu), ("iat", .num iat)] ++
    (ath.map fun a => ("ath", Json.str a)).toList
  signer := publicKey "k"

/-- The claims of an access token for the user `u` and the key `k`. -/
def accessClaims (client jti : String) (iat : ℚ) : Params :=
  [("iss", .str "https://as"), ("aud", .str "https://rs"), ("sub", .str "u"),
    ("client_id", .str client), ("iat", .num iat), ("exp", .num (iat + 300)), ("jti", .str jti),
    ("scope", .str "r"), ("cnf", .obj [("jkt", .str "k")])]

/-- An access token. -/
def accessToken (text client jti : String) (iat : ℚ) : SignedToken where
  text := text
  header := [("alg", .str "ES256"), ("kid", .str "1"), ("typ", .str "at+jwt")]
  claims := accessClaims client jti iat
  signer := publicKey "as"

/-- A PKCE verifier. -/
def verifier : String := "vvvvvvvvvvvvvvvvvvvvvvvvvvvvvvvvvvvvvvvvvvv"

/-- The S256 challenge of the verifier. -/
def challenge : String := "wwwwwwwwwwwwwwwwwwwwwwwwwwwwwwwwwwwwwwwwwww"

/-- A reference, a code and a refresh token are 43 characters, an id is 36 characters long. -/
def reference : String := "rrrrrrrrrrrrrrrrrrrrrrrrrrrrrrrrrrrrrrrrrrr"

@[inherit_doc reference]
def code : String := "ccccccccccccccccccccccccccccccccccccccccccc"

@[inherit_doc reference]
def refresh : String := "fffffffffffffffffffffffffffffffffffffffffff"

@[inherit_doc reference]
def grantId : String := "gggggggggggggggggggggggggggggggggggg"

@[inherit_doc reference]
def jti : String := "jjjjjjjjjjjjjjjjjjjjjjjjjjjjjjjjjjjj"

/-- The session of the user, as it is sealed in the cookie. -/
def session : Json :=
  .obj [("sid", .str "i"), ("sub", .str "u"), ("authTime", .num 90), ("exp", .num 9000)]

/-- The tables. -/
def tables : PlatformTables where
  digests := [(verifier, challenge)]
  macs := [(("s", "e"), "m"), (("s", "csrf:i"), "x")]
  urls := [asUrl "", asUrl "/token", asUrl "/userinfo", asUrl "/par",
    ("https://c", { protocol := "https:", hostname := "c", host := "c", port := ""
                    origin := "https://c", pathname := "/", hash := "", searchParams := [] })]
  documents :=
    [("1", .obj (assertionClaims "A" "1" 160)), ("2", .obj (assertionClaims "A" "2" 160)),
    ("3", .obj (assertionClaims "A" "3" 160)), ("4", .obj (assertionClaims "A" "4" 160)),
    ("5", .obj (assertionClaims "B" "5" 160)), ("6", .obj (assertionClaims "A" "6" (321 / 2))),
    ("e", session)]
  tokens := [assertion "A" "1" 160, assertion "A" "2" 160, assertion "A" "3" 160,
    assertion "A" "4" 160, assertion "B" "5" 160, assertion "A" "6" (321 / 2),
    proof "p" "POST" "https://as/token" 100 none, proof "q" "POST" "https://as/token" 100 none,
    proof "z" "POST" "https://as/token" 100 none,
    accessToken "t" "A" jti 100, proof "u" "GET" "https://as/userinfo" 100 (some "t")]
  thumbprints := [(.obj (publicKey "k"), "k")]

/-- The platform. -/
def platform : Platform := Platform.ofTables tables

/-- The registration of a client. -/
def registration (client : String) : ClientRecord where
  clientId := client
  clientName := none
  metadata := .obj [("redirect_uris", .arr [.str "https://c"]),
    ("jwks", .obj [("keys", .arr [.obj (publicKey client)])]), ("scope", .str "r")]

/-- The state at the start: two registered clients, at second 100. -/
def world : World where
  store := { clients := (Map.empty.set "A" (registration "A")).set "B" (registration "B") }
  clock := 100000

/-- The signing key of the server. -/
def signingKey : SigningKeyRecord where
  kid := "1"
  status := .active
  publicJwk := publicKey "as"
  createdAt := 0
  retiredAt := none

/-- A run can start from the state at the start. -/
lemma world_initial : World.Initial world where
  store := rfl
  clients := by
    intro id rec h
    simp only [world, Map.get?_set, Map.get?_empty] at h
    split_ifs at h with h1 h2
    · rw [← Option.some.inj h, h1]
      rfl
    · rw [← Option.some.inj h, h2]
      rfl
  keys := rfl
  drawn := rfl
  clock := by decide

/-! ## Requests -/

/-- A form request. -/
def form (route : Route) (body : Params) (proof : Option String) : HttpRequest where
  route := route
  method := "POST"
  contentType := some "application/x-www-form-urlencoded"
  dpop := proof.map .one
  body := body

/-- The members of a body that authenticate a client by an assertion. -/
def authentication (body : String) : Params :=
  [("client_assertion_type", .str clientAssertionTypeJwtBearer),
    ("client_assertion", .str ("." ++ body ++ "."))]

/-- The push of an authorization request that is decided silently. -/
def par (body : String) : HttpRequest :=
  form .par (authentication body ++ [("response_type", .str "code"),
    ("redirect_uri", .str "https://c"), ("code_challenge", .str challenge),
    ("code_challenge_method", .str "S256"), ("prompt", .str "none")]) none

/-- The authorization of the pushed request, with a login session. -/
def authorize (client : String) : HttpRequest where
  route := .authorize
  method := "GET"
  cookie := some "__Host-as_session=e.m"
  query := [("client_id", .str client), ("request_uri", .str (requestUriPrefix ++ reference))]

/-- The push of a request that bounds the age of the authentication to 20 seconds. -/
def parAged : HttpRequest :=
  form .par (authentication "1" ++ [("response_type", .str "code"),
    ("redirect_uri", .str "https://c"), ("code_challenge", .str challenge),
    ("code_challenge_method", .str "S256"), ("max_age", .str "20")]) none

/-- A visit of the interaction. -/
def visit : HttpRequest where
  route := .interaction
  method := "GET"
  cookie := some "__Host-as_session=e.m"
  query := [("id", .str jti)]

/-- The approval of the interaction. -/
def approve : HttpRequest where
  route := .interactionConsent
  method := "POST"
  cookie := some "__Host-as_session=e.m"
  body := [("interaction_id", .str jti), ("csrf", .str "x"), ("decision", .str "approve")]

/-- The redemption of the code. -/
def redeem (body proof : String) : HttpRequest :=
  form .token (authentication body ++ [("grant_type", .str "authorization_code"),
    ("code", .str code), ("redirect_uri", .str "https://c"), ("code_verifier", .str verifier)])
    (some proof)

/-- The introspection of a token. -/
def introspect (body token : String) : HttpRequest :=
  form .introspect (authentication body ++ [("token", .str token)]) none

/-- A userinfo request with an access token and a proof. -/
def userinfo (token proof : String) : HttpRequest where
  route := .userinfo
  method := "GET"
  authorization := some ("DPoP " ++ token)
  dpop := some (.one proof)

/-! ## Rows -/

/-- The code, as it is stored. -/
def codeRow : AuthorizationCodeRecord where
  codeHash := code
  grantId := grantId
  clientId := "A"
  redirectUri := "https://c"
  codeChallenge := challenge
  dpopJkt := none
  nonce := none
  expiresAt := some 160000

/-- The access token of the redemption, as it is stored. -/
def accessRow : AccessTokenRecord where
  jti := jti
  grantId := grantId
  clientId := "A"
  subject := "u"
  scope := "r"
  cnfJkt := some "k"
  expiresAt := some 400000
  revokedAt := none

/-! ## Runs -/

/-- The deployment as a system, with the in-memory adapter. -/
abbrev system : Sys Ret Exn Reply := server platform config .memory

/-- The next calls of a request of any deployment, with nothing left to the outside. -/
def nextCalls {P : Platform} {config : AppConfig} {backend : Backend} (pid n : ℕ) :
    List (Act (server P config backend)) := List.replicate n (.run pid {})

/-- The next calls of a request, with nothing left to the outside. -/
def calls (pid n : ℕ) : List (Act system) := List.replicate n (.run pid {})

/-- A request draws a random value. -/
def draws (pid : ℕ) (s : String) : Act system := .run pid { random := s }

/-- The policy decision point allows a request. -/
def allowed (pid : ℕ) : Act system := .run pid { decision := .ok true }

/-- A request loads the signing key. -/
def loads (pid : ℕ) : Act system := .run pid { loaded := some [signingKey] }

/-- The signature of a token for a request. -/
def signs (pid : ℕ) (token : String) : Act system := .run pid { token := .ok token }

/-- Client `A` pushes a request, and a browser with a session authorizes it. -/
def authorized : List (Act system) :=
  .arrive (par "1") :: calls 0 5 ++ [draws 0 reference] ++ calls 0 1 ++
    .arrive (authorize "A") :: calls 1 4 ++ [allowed 1] ++ calls 1 3 ++ [draws 1 grantId] ++
    calls 1 1 ++ [draws 1 code] ++ calls 1 1

/-- The request is parked and its page visited, ten seconds after the login of the session; the
consent is submitted at the instant `t`. -/
def consented (t : ℕ) : List (Act system) :=
  .arrive parAged :: calls 0 5 ++ [draws 0 reference] ++ calls 0 1 ++
    .arrive (authorize "A") :: calls 1 4 ++ [draws 1 jti] ++ calls 1 1 ++
    .arrive visit :: calls 2 7 ++
    .env (.setClock t) :: .arrive approve :: calls 3 7 ++ [allowed 3] ++ calls 3 3 ++
    [draws 3 grantId] ++ calls 3 1 ++ [draws 3 code] ++ calls 3 1

/-- Client `A` redeems the code, up to the issuing of tokens. -/
def redeemed : List (Act system) :=
  .arrive (redeem "2" "p") :: calls 2 6 ++ [loads 2] ++ calls 2 3

/-- The tokens of the redemption are issued. -/
def issued : List (Act system) :=
  calls 2 1 ++ [draws 2 jti, signs 2 "t"] ++ calls 2 2 ++ [draws 2 refresh] ++ calls 2 1

/-- Client `A` presents the code again. -/
def replayed : List (Act system) := .arrive (redeem "3" "q") :: calls 3 12

end Sample

end Fapi2As
