import Fapi2As.Platform

set_option relaxedAutoImplicit false
set_option autoImplicit false

/-!
# Configuration

The configuration the protocol engine reads, with the bounds `loadConfig` enforces carried as
fields, and the endpoint paths and URLs derived from the issuer.

## Main definitions

* `Fapi2As.AppConfig` — an accepted configuration.
* `Fapi2As.endpointPaths`, `Fapi2As.endpointUrls`.
-/

namespace Fapi2As

/-- A configuration that `loadConfig` accepts, as far as the endpoints read it. -/
structure AppConfig where
  issuer : String
  devLoginUsers : List String
  sessionSecret : String
  interactionTtlSec : ℕ
  sessionTtlSec : ℕ
  authCodeTtlSec : ℕ
  parTtlSec : ℕ
  accessTokenTtlSec : ℕ
  refreshTokenTtlSec : ℕ
  idTokenTtlSec : ℕ
  clientAssertionMaxLifetimeSec : ℕ
  clockSkewFutureAcceptSec : ℕ
  dpopProofMaxAgeSec : ℕ
  dpopNonceRequired : Bool
  dpopNonceSecret : String
  accessTokenAudience : String
  rateLimitPerMin : ℕ
  /-- `metadata.clientAuthSigningAlgs`. -/
  clientAuthSigningAlgs : List String
  /-- `metadata.dpopSigningAlgs`. -/
  dpopSigningAlgs : List String
  interactionTtl_bounds : 0 < interactionTtlSec ∧ interactionTtlSec ≤ 3600
  sessionTtl_pos : 0 < sessionTtlSec
  authCodeTtl_bounds : 0 < authCodeTtlSec ∧ authCodeTtlSec ≤ 60
  parTtl_bounds : 0 < parTtlSec ∧ parTtlSec ≤ 599
  accessTokenTtl_bounds : 0 < accessTokenTtlSec ∧ accessTokenTtlSec ≤ 86400
  refreshTokenTtl_pos : 0 < refreshTokenTtlSec
  idTokenTtl_bounds : 0 < idTokenTtlSec ∧ idTokenTtlSec ≤ 86400
  clientAssertionMaxLifetime_pos : 0 < clientAssertionMaxLifetimeSec
  clockSkew_le : clockSkewFutureAcceptSec ≤ 60
  dpopProofMaxAge_pos : 0 < dpopProofMaxAgeSec

/-- The paths of the endpoints, or their URLs. -/
structure Endpoints where
  authorization : String
  token : String
  par : String
  jwks : String
  revocation : String
  introspection : String
  userinfo : String
  interaction : String
  interactionLogin : String
  interactionConsent : String

/-- Drop one trailing slash, `path.replace(/\/$/, "")`. -/
def dropTrailingSlash (path : String) : String :=
  if path.toList.getLast? = some '/' then String.ofList path.toList.dropLast else path

/-- Route paths relative to the server root, honouring an issuer path prefix. The issuer of an
accepted configuration parses; the empty prefix stands for the exception otherwise. -/
def endpointPaths (P : Platform) (config : AppConfig) : Endpoints :=
  let pre := match P.newURL config.issuer with
    | some u => dropTrailingSlash u.pathname
    | none => ""
  { authorization := pre ++ "/authorize"
    token := pre ++ "/token"
    par := pre ++ "/par"
    jwks := pre ++ "/jwks"
    revocation := pre ++ "/revoke"
    introspection := pre ++ "/introspect"
    userinfo := pre ++ "/userinfo"
    interaction := pre ++ "/interaction"
    interactionLogin := pre ++ "/interaction/login"
    interactionConsent := pre ++ "/interaction/consent" }

/-- The URLs of the endpoints that are advertised, derived from the configured issuer and never
from a request. The interaction pages are only ever addressed by path. -/
def endpointUrls (P : Platform) (config : AppConfig) : Endpoints :=
  let origin := match P.newURL config.issuer with
    | some u => u.origin
    | none => ""
  let paths := endpointPaths P config
  { paths with
    authorization := origin ++ paths.authorization
    token := origin ++ paths.token
    par := origin ++ paths.par
    jwks := origin ++ paths.jwks
    revocation := origin ++ paths.revocation
    introspection := origin ++ paths.introspection
    userinfo := origin ++ paths.userinfo }

end Fapi2As
