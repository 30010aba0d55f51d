import Fapi2As.Calls

set_option relaxedAutoImplicit false
set_option autoImplicit false

/-!
# Registered clients

Client metadata are stored as JSON and validated whenever a client is loaded. A registration that
does not validate throws; a key-set address that is no URL makes the check of its scheme throw
before the validator can report it.

## Main definitions

* `Fapi2As.ClientMetadata`, `Fapi2As.parseClientMetadata` — metadata and their validation.
* `Fapi2As.Client`, `Fapi2As.loadClient`.
* `Fapi2As.redirectUriRegistered`, `Fapi2As.scopeAllowed`.
-/

namespace Fapi2As

open Js Async

/-- A grant type a client can register. -/
inductive GrantType
  | authorizationCode
  | refreshToken
  deriving DecidableEq

/-- Validated client metadata. The members that can have one value only are checked and left out. -/
structure ClientMetadata where
  redirectUris : List String
  jwks : Option (List Json)
  jwksUri : Option String
  grantTypes : List GrantType
  scope : String
  dpopBoundAccessTokens : Bool

/-- `z.string()`. -/
def asString : Json → Option String
  | .str s => some s
  | _ => none

/-- `z.boolean()`. -/
def asBool : Json → Option Bool
  | .bool b => some b
  | _ => none

/-- `z.array(...)` of elements read by `elem`. -/
def asArray {α : Type} (elem : Json → Option α) : Json → Option (List α)
  | .arr l => l.mapM elem
  | _ => none

/-- `z.literal(value)`. -/
def isLiteral (value : String) (v : Json) : Option Unit :=
  if asString v = some value then some () else none

/-- `z.enum(["authorization_code", "refresh_token"])`. -/
def asGrantType : Json → Option GrantType
  | .str s =>
    if s = "authorization_code" then some .authorizationCode
    else if s = "refresh_token" then some .refreshToken else none
  | _ => none

/-- `z.object({ kty: z.string() }).passthrough()`. -/
def asJwk : Json → Option Json
  | .obj fields =>
    match Params.get fields "kty" with
    | some (.str _) => some (.obj fields)
    | _ => none
  | _ => none

/-- `z.object({ keys: z.array(jwkSchema) })`. -/
def asJwks : Json → Option (List Json)
  | .obj fields => (Params.get fields "keys").bind (asArray asJwk)
  | _ => none

/-- `.default(value)`: the value of an absent member. -/
def withDefault {α : Type} (value : α) (read : Json → Option α) : Option Json → Option α
  | none => some value
  | some v => read v

/-- `.optional()`: an absent member stays absent. -/
def optional {α : Type} (read : Json → Option α) : Option Json → Option (Option α)
  | none => some none
  | some v => (read v).map some

variable (P : Platform)

/-- `z.string().url()`. -/
def asUrlString (v : Json) : Option String :=
  (asString v).filter fun s => (P.newURL s).isSome

/-- The members of `metadataSchema`, `none` when one of them does not validate. -/
def metadataSchema (md : Params) : Option ClientMetadata := do
  let redirectUris ← (md.get "redirect_uris").bind (asArray (asUrlString P))
  guard (redirectUris ≠ [])
  withDefault () (isLiteral "private_key_jwt") (md.get "token_endpoint_auth_method")
  let jwks ← optional asJwks (md.get "jwks")
  let jwksUri ← optional (asUrlString P) (md.get "jwks_uri")
  guard (∀ u ∈ jwksUri, (P.newURL u).map (·.protocol) = some "https:")
  let grantTypes ← withDefault [.authorizationCode, .refreshToken] (asArray asGrantType)
    (md.get "grant_types")
  let _ ← withDefault [()] (asArray (isLiteral "code")) (md.get "response_types")
  let scope ← withDefault "openid" asString (md.get "scope")
  withDefault () (isLiteral "ES256") (md.get "id_token_signed_response_alg")
  let dpopBoundAccessTokens ← withDefault true asBool (md.get "dpop_bound_access_tokens")
  let _ ← withDefault true asBool (md.get "require_pushed_authorization_requests")
  return { redirectUris, jwks, jwksUri, grantTypes, scope, dpopBoundAccessTokens }

/-- A redirect URI is https and has no fragment. -/
def redirectUriSecure (uri : String) : Bool :=
  match P.newURL uri with
  | some u => u.protocol = "https:" && u.hash = ""
  | none => false

/-- The refinement of `jwks_uri` applies `new URL` to a member that is no URL. -/
def jwksUriThrows (md : Params) : Bool :=
  match md.get "jwks_uri" with
  | some (.str u) => (P.newURL u).isNone
  | _ => false

/-- `parseClientMetadata`. -/
def parseClientMetadata (metadata : Json) : Except Exn ClientMetadata :=
  match metadata with
  | .obj md =>
    if jwksUriThrows P md then .error .other
    else match metadataSchema P md with
      | none => .error .invalidClientMetadata
      | some m =>
        if ¬m.redirectUris.all (redirectUriSecure P) then .error .invalidClientMetadata
        else if m.jwks = none ∧ m.jwksUri = none then .error .invalidClientMetadata
        else .ok m
  | _ => .error .invalidClientMetadata

/-- A client, loaded and validated. -/
structure Client where
  clientId : String
  clientName : Option String
  metadata : ClientMetadata

/-- The client of a registration row. -/
def ClientRecord.toClient (rec : ClientRecord) : Except Exn Client :=
  (parseClientMetadata P rec.metadata).map fun md => ⟨rec.clientId, rec.clientName, md⟩

lemma ClientRecord.toClient_clientId {P : Platform} (rec : ClientRecord) {client : Client}
    (h : rec.toClient P = .ok client) : client.clientId = rec.clientId := by
  unfold toClient at h
  cases hp : parseClientMetadata P rec.metadata with
  | error e => rw [hp] at h; cases h
  | ok md =>
    rw [hp] at h
    rw [← Except.ok.inj h]

/-- A registration that does not validate throws no OAuth error. -/
lemma ClientRecord.toClient_error {P : Platform} (rec : ClientRecord) {e : Exn}
    (h : rec.toClient P = .error e) : e = .other ∨ e = .invalidClientMetadata := by
  unfold toClient parseClientMetadata at h
  split at h
  · split_ifs at h
    · cases h
      exact .inl rfl
    · split at h
      · cases h
        exact .inr rfl
      · split_ifs at h
        · cases h
          exact .inr rfl
        · cases h
        · cases h
          exact .inr rfl
  · cases h
    exact .inr rfl

/-- The redirect URIs of a client are URLs. -/
lemma ClientRecord.toClient_redirectUris {P : Platform} (rec : ClientRecord) {client : Client}
    (h : rec.toClient P = .ok client) {uri : String} (hu : uri ∈ client.metadata.redirectUris) :
    (P.newURL uri).isSome = true := by
  have hsecure : redirectUriSecure P uri = true := by
    unfold toClient parseClientMetadata at h
    split at h
    · split_ifs at h
      · cases h
      · split at h
        · cases h
        · rename_i m _
          split_ifs at h with h1
          · cases h
          · obtain rfl := Except.ok.inj h
            exact List.all_eq_true.mp h1 uri hu
          · cases h
    · cases h
  unfold redirectUriSecure at hsecure
  split at hsecure
  · rename_i u hurl
    rw [hurl]
    rfl
  · cases hsecure

/-- `loadClient`: `none` for an unknown client. -/
def loadClient (clientId : String) : Handler (Option Client) :=
  if clientId = "" then pure none
  else do
    let rec ← db (.clientsFindById clientId)
    match rec with
    | none => pure none
    | some rec => do
      let client ← Prog.settle id (rec.toClient P)
      pure (some client)

/-- Registered redirect URIs match by exact string comparison. -/
def redirectUriRegistered (client : Client) (redirectUri : String) : Bool :=
  client.metadata.redirectUris.contains redirectUri

/-- The requested scope is a subset of the client's registered scopes. -/
def scopeAllowed (client : Client) (requestedScope : String) : Bool :=
  (words requestedScope).all fun s => (words client.metadata.scope).contains s

end Fapi2As
