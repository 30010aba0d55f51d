import Fapi2As.Domain.Clients

set_option relaxedAutoImplicit false
set_option autoImplicit false

/-!
# JWS verification

The signature algorithms that are accepted, the keys of a client, and the split of verification
failures into bad credentials and unavailable key sets.

## Main definitions

* `Fapi2As.acceptedJwsAlgs`, `Fapi2As.headerAlg`.
* `Fapi2As.KeyResolver`, `Fapi2As.clientKeyResolver` — where the keys of a client come from.
* `Fapi2As.verifyJws` — the claims of a token that verifies.

## Main results

* `Fapi2As.wp_verifyJws` — the calls of a verification and its outcome.
-/

namespace Fapi2As

open Js Async

/-- `FAPI2_JWS_ALGS`. -/
def fapi2JwsAlgs : List String := ["ES256", "PS256", "EdDSA"]

/-- The requested algorithms within the ceiling, or the whole ceiling when none is left. -/
def acceptedJwsAlgs (requested : List String) : List String :=
  let narrowed := requested.filter fapi2JwsAlgs.contains
  if narrowed ≠ [] then narrowed else fapi2JwsAlgs

/-- The algorithm of a header, when it is one of the allowed ones. -/
def headerAlg (header : Params) (allowed : List String) : Option String :=
  (str (header.get "alg")).filter allowed.contains

/-- The key set itself could not be obtained: a timeout, or an error without a JOSE code. -/
def isJwksUnavailable (err : JoseError) : Bool :=
  match err.code with
  | some code => code = "ERR_JWKS_TIMEOUT" || !startsWith "ERR_JW" code
  | none => true

/-- A local key set, or a remote one. -/
inductive KeyResolver
  | localSet (keys : List Json)
  | remoteSet (uri : String)

/-- `clientKeyResolver`. -/
def clientKeyResolver (client : Client) : Except Exn KeyResolver :=
  match client.metadata.jwks, client.metadata.jwksUri with
  | some keys, _ => .ok (.localSet keys)
  | none, some uri => .ok (.remoteSet uri)
  | none, none => .error .jwsVerification

/-- The keys of a resolver; a remote set is fetched. -/
def KeyResolver.keys : KeyResolver → Handler KeyInput
  | .localSet keys => pure (.localJwks keys)
  | .remoteSet uri => do
    let fetched ← Prog.perform (Call.fetchJwks uri)
    pure (.remoteJwks fetched)

/-- The options of a verification that only restricts the algorithms. -/
def algsOnly (allowed : List String) : VerifyOptions := { algorithms := some allowed }

variable (P : Platform)

/-- `verifyJws`: the claims of a token that verifies under the keys with an accepted algorithm. -/
def verifyJws (token : String) (resolver : KeyResolver) (algs : List String) : Handler Params :=
  match P.decodeProtectedHeader token with
  | none => throw .jwsVerification
  | some header => do
    let allowed := acceptedJwsAlgs algs
    Prog.throwIf (headerAlg header allowed = none) .jwsVerification
    let keys ← resolver.keys
    match P.jwtVerify token keys (algsOnly allowed) with
    | .ok () => pure (P.jwtClaims token)
    | .error err => throw (if isJwksUnavailable err then .jwksUnavailable else .jwsVerification)

/-- A key set that is used is the local one of the resolver, or was fetched from its address. -/
def KeysFrom (resolver : KeyResolver) (q : List Event) : KeyInput → Prop
  | .localJwks keys => resolver = .localSet keys
  | .remoteJwks fetched => ∃ uri, resolver = .remoteSet uri ∧ ⟨.fetchJwks uri, fetched⟩ ∈ q
  | .embeddedJwk => False

/-- **The calls of a verification and its outcome**: it makes quiet calls only, and the claims it
returns are those of the token, which the library accepted under the resolver's keys. -/
lemma wp_verifyJws {pre : List Event → Call → Prop} {post : List Event → Except Exn Params → Prop}
    {past : List Event} {token : String} {resolver : KeyResolver} {algs : List String}
    (hq : ∀ q o, o.isQuiet = true → pre q o)
    (hok : ∀ q keys, past <+: q → KeysFrom resolver q keys →
      P.jwtVerify token keys (algsOnly (acceptedJwsAlgs algs)) = .ok () →
      post q (.ok (P.jwtClaims token)))
    (herr : ∀ q e, past <+: q → post q (.error e)) :
    Prog.wp pre post past (verifyJws P token resolver algs) := by
  have hlast : ∀ q keys, past <+: q → KeysFrom resolver q keys →
      Prog.wp pre post q (match P.jwtVerify token keys (algsOnly (acceptedJwsAlgs algs)) with
        | .ok () => pure (P.jwtClaims token)
        | .error err =>
          throw (if isJwksUnavailable err then .jwksUnavailable else .jwsVerification)) := by
    intro q keys hpq hkeys
    split
    · rename_i hv
      exact hok q keys hpq hkeys hv
    · exact herr q _ hpq
  unfold verifyJws
  split
  · exact herr _ _ List.prefix_rfl
  · rw [Prog.wp_bind, Prog.wp_throwIf]
    refine ⟨fun _ => herr _ _ List.prefix_rfl, fun _ => ?_⟩
    cases resolver with
    | localSet keys => exact hlast _ _ List.prefix_rfl rfl
    | remoteSet uri =>
      refine ⟨hq _ _ rfl, fun fetched => hlast _ _ (List.prefix_append _ _) ⟨uri, rfl, ?_⟩⟩
      exact List.mem_append_right _ (List.mem_singleton_self _)

end Fapi2As
