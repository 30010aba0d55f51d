import Fapi2As.Config
import Fapi2As.Crypto.Jws

set_option relaxedAutoImplicit false
set_option autoImplicit false

/-!
# Loading the configuration

`loadConfig` after the schema has read the environment: the checks between settings, those on the
issuer among them, and the configuration they lead to. What the schema library guarantees of each
setting is carried as a field of its result.

## Main definitions

* `Fapi2As.ParsedEnv`, `Fapi2As.Startup` — the parsed environment, and what Node computes of it.
* `Fapi2As.loadConfig`.
* `Fapi2As.wellKnownPaths` — the paths of the discovery documents.

## Main results

* `Fapi2As.loadConfig_issuer` — what is checked of the issuer of an accepted configuration.
-/

namespace Fapi2As

open Js

/-- `STORAGE`. -/
inductive StorageKind
  | memory
  | postgres
  deriving DecidableEq

/-- `PDP_KIND`. -/
inductive PdpKind
  | mock
  | authzenHttp
  deriving DecidableEq

/-- **The environment as the schema parses it**, as far as a check reads it or the configuration
keeps it. -/
structure ParsedEnv where
  issuer : String
  databaseUrl : String
  storage : StorageKind
  pdpKind : PdpKind
  databaseSsl : String
  devInteractionSub : String
  devLoginUsers : String
  sessionSecret : String
  interactionTtlSec : ℕ
  sessionTtlSec : ℕ
  authCodeTtlSec : ℕ
  parTtlSec : ℕ
  accessTokenTtlSec : ℕ
  refreshTokenTtlSec : ℕ
  idTokenTtlSec : ℕ
  clientAssertionMaxLifetimeSec : ℕ
  clockSkewFutureAcceptSec : ℕ
  dpopProofMaxAgeSec : ℕ
  dpopNonceRequired : String
  dpopNonceSecret : String
  accessTokenAudience : String
  keystoreKek : String
  rateLimitPerMin : ℕ
  metadataScopesSupported : String
  metadataClaimsSupported : String
  metadataClientAuthSigningAlgs : String
  metadataDpopSigningAlgs : String
  interactionTtl_bounds : 0 < interactionTtlSec ∧ interactionTtlSec ≤ 3600
  sessionTtl_pos : 0 < sessionTtlSec
  authCodeTtl_bounds : 0 < authCodeTtlSec ∧ authCodeTtlSec ≤ 60
  parTtl_bounds : 0 < parTtlSec ∧ parTtlSec ≤ 599
  accessTokenTtl_bounds : 0 < accessTokenTtlSec ∧ accessTokenTtlSec ≤ 86400
  refreshTokenTtl_pos : 0 < refreshTokenTtlSec
  idTokenTtl_bounds : 0 < idTokenTtlSec ∧ idTokenTtlSec ≤ 86400
  clientAssertionMaxLifetime_pos : 0 < clientAssertionMaxLifetimeSec
  clockSkew_le : clockSkewFutureAcceptSec ≤ 60
  dpopProofMaxAge_pos : 0 < dpopProofMaxAgeSec

/-- What a process finds when it starts: `NODE_ENV`, functions of Node on settings, and its two
random secrets. -/
structure Startup where
  /-- `env.NODE_ENV ?? ""`. -/
  nodeEnv : String
  /-- `Buffer.from(s, "base64").length`. -/
  base64Length : String → ℕ
  /-- `new URL(s).password`. -/
  urlPassword : String → String
  /-- `randomBytes(32).toString("base64url")`, for sessions and for nonces. -/
  randomSessionSecret : String
  randomNonceSecret : String

/-- `if (c) throw new Error(message)`. -/
def rejectIf (c : Prop) [Decidable c] (message : String) : Except String Unit :=
  if c then .error message else .ok ()

/-- A check that is passed, and what comes after it. -/
lemma rejectIf_bind {c : Prop} [Decidable c] {message : String} {α : Type}
    {f : Unit → Except String α} {a : α} (h : (rejectIf c message >>= f) = .ok a) :
    ¬c ∧ f () = .ok a := by
  unfold rejectIf at h
  split_ifs at h with hc
  · cases h
  · exact ⟨hc, h⟩

/-- What comes before another step has gone well. -/
lemma ok_of_bind {α β : Type} {x : Except String α} {f : α → Except String β} {b : β}
    (h : (x >>= f) = .ok b) : ∃ a, x = .ok a ∧ f a = .ok b := by
  cases x with
  | ok a => exact ⟨a, rfl, h⟩
  | error e => cases h

/-- `[...new Set(s.split(",").map((x) => x.trim()).filter(Boolean))]`. -/
def splitList (s : String) : List String :=
  (((split ',' s).map trim).filter (· ≠ "")).eraseDups

/-- Whether a database is one for development: a loopback host or the well-known password. -/
def isDevDatabaseUrl (P : Platform) (S : Startup) (databaseUrl : String) : Bool :=
  match P.newURL databaseUrl with
  | some u => u.hostname = "localhost" || u.hostname = "127.0.0.1" || u.hostname = "[::1]" ||
      startsWith "127." u.hostname || S.urlPassword databaseUrl = "devpassword"
  | none => true

/-- The issuer is on a loopback host. -/
def isLoopback (issuerUrl : Url) : Bool :=
  issuerUrl.hostname = "localhost" || issuerUrl.hostname = "127.0.0.1"

/-- The settings that are for development, itemised. -/
def devGrade (P : Platform) (S : Startup) (parsed : ParsedEnv) (issuerUrl : Url) : List String :=
  (if parsed.pdpKind = .mock then ["PDP_KIND=mock authorizes everything"] else []) ++
  (if parsed.storage ≠ .postgres then ["STORAGE=memory is volatile (no durable state)"] else []) ++
  (if isLoopback issuerUrl then ["ISSUER is a loopback host"] else []) ++
  (if issuerUrl.protocol ≠ "https:" then ["ISSUER is not https"] else []) ++
  (if isDevDatabaseUrl P S parsed.databaseUrl then
    ["DATABASE_URL uses the built-in dev default / loopback"] else []) ++
  (if parsed.databaseSsl ≠ "true" then ["DATABASE_SSL is disabled"] else []) ++
  (if parsed.keystoreKek = "" then
    ["KEYSTORE_KEK unset: private signing keys stored unencrypted"] else []) ++
  (if parsed.sessionSecret = "" then
    ["SESSION_SECRET unset: login-session/CSRF secret is a per-process random value"] else []) ++
  (if parsed.dpopNonceRequired = "true" ∧ parsed.dpopNonceSecret = "" then
    ["DPOP_NONCE_SECRET unset while DPOP_NONCE_REQUIRED=true (per-process random secret)"] else [])

/-- The algorithms of an advertised set are permitted ones. -/
def checkAlgs (name : String) (algs : List String) : Except String Unit := do
  rejectIf (algs = []) (name ++ " must list at least one algorithm")
  algs.forM fun a => rejectIf (¬fapi2JwsAlgs.contains a)
    (name ++ ": '" ++ a ++ "' is not a FAPI2-permitted JWS alg (" ++
      String.intercalate "/" fapi2JwsAlgs ++ ") [FAPI2 5.4.1]")

/-- `s || other`. -/
def orElse (s other : String) : String := if s = "" then other else s

/-- **`loadConfig`**, from the parsed environment on. -/
def loadConfig (P : Platform) (S : Startup) (parsed : ParsedEnv) : Except String AppConfig := do
  let issuerUrl ← (P.newURL parsed.issuer).elim (.error "Invalid URL") .ok
  rejectIf (parsed.keystoreKek ≠ "" ∧ S.base64Length parsed.keystoreKek ≠ 32)
    "KEYSTORE_KEK must be base64 of exactly 32 bytes (AES-256-GCM)"
  rejectIf (parsed.sessionSecret ≠ "" ∧ (codeUnits parsed.sessionSecret).length < 32)
    "SESSION_SECRET must be at least 32 characters"
  rejectIf (parsed.dpopNonceSecret ≠ "" ∧ (codeUnits parsed.dpopNonceSecret).length < 32)
    "DPOP_NONCE_SECRET must be at least 32 characters"
  rejectIf (S.nodeEnv = "production" ∧ devGrade P S parsed issuerUrl ≠ [])
    ("insecure production config: " ++ String.intercalate "; " (devGrade P S parsed issuerUrl))
  rejectIf (issuerUrl.protocol ≠ "https:" ∧ ¬isLoopback issuerUrl)
    "ISSUER must use the https scheme [RFC8414 §2; FAPI2 5.2.1]"
  rejectIf ('?' ∈ parsed.issuer.toList ∨ '#' ∈ parsed.issuer.toList)
    "ISSUER must not contain query or fragment components [RFC8414 §2]"
  rejectIf (parsed.issuer.toList.getLast? = some '/')
    "ISSUER must not end with a trailing slash (issuer comparison is byte-for-byte)"
  rejectIf (¬(splitList parsed.metadataScopesSupported).contains "openid")
    "METADATA_SCOPES_SUPPORTED must include 'openid' [OIDC Core §3.1.2.1]"
  rejectIf (splitList parsed.metadataClaimsSupported = [])
    "METADATA_CLAIMS_SUPPORTED must list at least one claim"
  checkAlgs "METADATA_CLIENT_AUTH_SIGNING_ALGS" (splitList parsed.metadataClientAuthSigningAlgs)
  checkAlgs "METADATA_DPOP_SIGNING_ALGS" (splitList parsed.metadataDpopSigningAlgs)
  return {
    issuer := parsed.issuer
    devLoginUsers :=
      if parsed.devLoginUsers ≠ "" then ((split ',' parsed.devLoginUsers).map trim).filter (· ≠ "")
      else [parsed.devInteractionSub]
    sessionSecret := orElse parsed.sessionSecret S.randomSessionSecret
    interactionTtlSec := parsed.interactionTtlSec
    sessionTtlSec := parsed.sessionTtlSec
    authCodeTtlSec := parsed.authCodeTtlSec
    parTtlSec := parsed.parTtlSec
    accessTokenTtlSec := parsed.accessTokenTtlSec
    refreshTokenTtlSec := parsed.refreshTokenTtlSec
    idTokenTtlSec := parsed.idTokenTtlSec
    clientAssertionMaxLifetimeSec := parsed.clientAssertionMaxLifetimeSec
    clockSkewFutureAcceptSec := parsed.clockSkewFutureAcceptSec
    dpopProofMaxAgeSec := parsed.dpopProofMaxAgeSec
    dpopNonceRequired := parsed.dpopNonceRequired = "true"
    dpopNonceSecret := orElse parsed.dpopNonceSecret S.randomNonceSecret
    accessTokenAudience := orElse parsed.accessTokenAudience parsed.issuer
    rateLimitPerMin := parsed.rateLimitPerMin
    clientAuthSigningAlgs := splitList parsed.metadataClientAuthSigningAlgs
    dpopSigningAlgs := splitList parsed.metadataDpopSigningAlgs
    interactionTtl_bounds := parsed.interactionTtl_bounds
    sessionTtl_pos := parsed.sessionTtl_pos
    authCodeTtl_bounds := parsed.authCodeTtl_bounds
    parTtl_bounds := parsed.parTtl_bounds
    accessTokenTtl_bounds := parsed.accessTokenTtl_bounds
    refreshTokenTtl_pos := parsed.refreshTokenTtl_pos
    idTokenTtl_bounds := parsed.idTokenTtl_bounds
    clientAssertionMaxLifetime_pos := parsed.clientAssertionMaxLifetime_pos
    clockSkew_le := parsed.clockSkew_le
    dpopProofMaxAge_pos := parsed.dpopProofMaxAge_pos }

/-- **What is checked of an issuer**: it parses, it is https or on a loopback host, it has no query
and no fragment, and it does not end with a slash. -/
structure AcceptedIssuer (P : Platform) (issuer : String) (u : Url) : Prop where
  parses : P.newURL issuer = some u
  scheme : u.protocol = "https:" ∨ isLoopback u = true
  query : '?' ∉ issuer.toList
  fragment : '#' ∉ issuer.toList
  slash : issuer.toList.getLast? ≠ some '/'

/-- **The issuer of an accepted configuration** passed these checks. -/
theorem loadConfig_issuer {P : Platform} {S : Startup} {parsed : ParsedEnv} {config : AppConfig}
    (h : loadConfig P S parsed = .ok config) : ∃ u, AcceptedIssuer P config.issuer u := by
  unfold loadConfig at h
  cases hurl : P.newURL parsed.issuer with
  | none =>
    rw [hurl] at h
    cases h
  | some u =>
    rw [hurl] at h
    obtain ⟨-, h⟩ := rejectIf_bind h
    obtain ⟨-, h⟩ := rejectIf_bind h
    obtain ⟨-, h⟩ := rejectIf_bind h
    obtain ⟨-, h⟩ := rejectIf_bind h
    obtain ⟨hscheme, h⟩ := rejectIf_bind h
    obtain ⟨hquery, h⟩ := rejectIf_bind h
    obtain ⟨hslash, h⟩ := rejectIf_bind h
    obtain ⟨-, h⟩ := rejectIf_bind h
    obtain ⟨-, h⟩ := rejectIf_bind h
    obtain ⟨_, -, h⟩ := ok_of_bind h
    obtain ⟨_, -, h⟩ := ok_of_bind h
    obtain rfl := Except.ok.inj h
    refine ⟨u, hurl, ?_, fun hin => hquery (.inl hin), fun hin => hquery (.inr hin), hslash⟩
    by_contra hnot
    obtain ⟨hprotocol, hloopback⟩ := not_or.mp hnot
    exact hscheme ⟨hprotocol, hloopback⟩

/-! ## Discovery -/

/-- The paths of the discovery documents. -/
structure WellKnown where
  oidc : String
  oauth : String

/-- Well-known paths derived from the issuer: appended to its path, or inserted before it. The
issuer of an accepted configuration parses; the empty path stands for the exception otherwise. -/
def wellKnownPaths (P : Platform) (issuer : String) : WellKnown :=
  let issuerPath := match P.newURL issuer with
    | some u => dropTrailingSlash u.pathname
    | none => ""
  { oidc := issuerPath ++ "/.well-known/openid-configuration"
    oauth := "/.well-known/oauth-authorization-server" ++ issuerPath }

end Fapi2As
