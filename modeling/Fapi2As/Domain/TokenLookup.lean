import Fapi2As.Config
import Fapi2As.Domain.Tokens

set_option relaxedAutoImplicit false
set_option autoImplicit false

/-!
# Token lookup

A presented token is resolved to its stored record: an access token by the jti of a JWT that
verifies under the published keys, a refresh token by its hash.

## Main definitions

* `Fapi2As.ResolvedToken`, `Fapi2As.findAccessToken`, `Fapi2As.resolveToken`.
* `Fapi2As.Resolves` — where a resolved record was found.

## Main results

* `Fapi2As.wp_findAccessToken`, `Fapi2As.wp_resolveToken` — the outcome of a lookup.
-/

namespace Fapi2As

open Js Async

variable (P : Platform) (config : AppConfig)

/-- A token that was found. -/
inductive ResolvedToken
  | accessToken (record : AccessTokenRecord)
  | refreshToken (record : RefreshTokenRecord)

/-- The client a token was issued to. -/
def ResolvedToken.clientId : ResolvedToken → String
  | accessToken record => record.clientId
  | refreshToken record => record.clientId

/-- When a token was revoked. -/
def ResolvedToken.revokedAt : ResolvedToken → Option ℕ
  | accessToken record => record.revokedAt
  | refreshToken record => record.revokedAt

/-- The options under which an access token is verified. -/
def accessTokenOptions : VerifyOptions := { issuer := some config.issuer, typ := some atJwt }

/-- The jti of a token that verifies as one of the access tokens signed by the server. -/
def verifiedJti (token : String) (keys : List Json) : Option String :=
  match P.jwtVerify token (.localJwks keys) (accessTokenOptions config) with
  | .ok () =>
    match (P.jwtClaims token).get "jti" with
    | some (.str jti) => some jti
    | _ => none
  | .error _ => none

/-- `findAccessToken`. -/
def findAccessToken (token : String) : Handler (Option AccessTokenRecord) := do
  let ready ← Prog.perform Call.ensure
  awaited ready
  let keys ← Prog.perform Call.publicJwks
  match verifiedJti P config token keys with
  | some jti => db (.accessTokensFindByJti jti)
  | none => pure none

/-- `findRefreshToken`. -/
def findRefreshToken (token : String) : Handler (Option RefreshTokenRecord) :=
  db (.refreshTokensFindByHash (P.sha256Base64Url token))

/-- `resolveToken`: the hint decides which kind is looked up first. -/
def resolveToken (token : String) (hint : Option String) : Handler (Option ResolvedToken) :=
  if hint = some "refresh_token" then do
    match ← findRefreshToken P token with
    | some record => pure (some (.refreshToken record))
    | none => do
      let found ← findAccessToken P config token
      pure (found.map .accessToken)
  else do
    match ← findAccessToken P config token with
    | some record => pure (some (.accessToken record))
    | none => do
      let found ← findRefreshToken P token
      pure (found.map .refreshToken)

/-! ## Where a record was found -/

variable {P config}

lemma verifiedJti_eq_some {token jti : String} {keys : List Json}
    (h : verifiedJti P config token keys = some jti) :
    P.jwtVerify token (.localJwks keys) (accessTokenOptions config) = .ok () ∧
      (P.jwtClaims token).get "jti" = some (.str jti) := by
  unfold verifiedJti at h
  split at h
  · rename_i hv
    split at h
    · rename_i hj
      exact ⟨hv, by rw [hj, Option.some.inj h]⟩
    · cases h
  · cases h

/-- An access token record that was found by the calls `q` for a presented token: the token
verifies under the published keys, and the record is the one of its jti. -/
def AccessTokenFound (P : Platform) (config : AppConfig) (token : String)
    (record : AccessTokenRecord) (q : List Event) : Prop :=
  ∃ keys jti, ⟨.publicJwks, keys⟩ ∈ q ∧ verifiedJti P config token keys = some jti ∧
    ⟨.db (.accessTokensFindByJti jti), .ok (some record)⟩ ∈ q

/-- A record that was found by the calls `q` for a presented token. -/
inductive Resolves (P : Platform) (config : AppConfig) (token : String) (q : List Event) :
    ResolvedToken → Prop
  | accessToken (record : AccessTokenRecord) (h : AccessTokenFound P config token record q) :
      Resolves P config token q (.accessToken record)
  | refreshToken (record : RefreshTokenRecord)
      (h : ⟨.db (.refreshTokensFindByHash (P.sha256Base64Url token)), .ok (some record)⟩ ∈ q) :
      Resolves P config token q (.refreshToken record)

lemma AccessTokenFound.mono {token : String} {record : AccessTokenRecord} {q q' : List Event}
    (h : AccessTokenFound P config token record q) (hq : q <+: q') :
    AccessTokenFound P config token record q' := by
  obtain ⟨keys, jti, h1, h2, h3⟩ := h
  exact ⟨keys, jti, hq.mem h1, h2, hq.mem h3⟩

/-- **The outcome of looking up an access token.** -/
lemma wp_findAccessToken {pre : List Event → Call → Prop}
    {post : List Event → Except Exn (Option AccessTokenRecord) → Prop} {past : List Event}
    {token : String} (hq : Quiet pre)
    (hsome : ∀ q record, past <+: q → AccessTokenFound P config token record q →
      post q (.ok (some record)))
    (hnone : ∀ q, past <+: q → post q (.ok none))
    (herr : ∀ q e, past <+: q → post q (.error e)) :
    Prog.wp pre post past (findAccessToken P config token) := by
  unfold findAccessToken
  rw [Prog.wp_bind, Prog.wp_perform]
  refine ⟨hq _ _ rfl, fun ready => ?_⟩
  have h1 := fun e => List.prefix_append past [e]
  simp only [Prog.Next]
  rw [Prog.wp_bind, wp_awaited]
  refine ⟨fun _ _ => ?_, fun e _ => herr _ _ (h1 _)⟩
  simp only [Prog.Next]
  rw [Prog.wp_bind, Prog.wp_perform]
  refine ⟨hq _ _ rfl, fun keys => ?_⟩
  have h2 := fun e e' => (h1 e).trans (List.prefix_append _ [e'])
  simp only [Prog.Next]
  split
  · rename_i jti hj
    have h3 := fun e e' e'' => (h2 e e').trans (List.prefix_append _ [e''])
    refine wp_db.mpr ⟨hq _ _ rfl, fun record => ?_, fun e => herr _ _ (h3 _ _ _)⟩
    cases record with
    | none => exact hnone _ (h3 _ _ _)
    | some record =>
      exact hsome _ _ (h3 _ _ _) ⟨keys, jti, List.mem_append_left _ (mem_past_last _ _), hj,
        mem_past_last _ _⟩
  · exact hnone _ (h2 _ _)

/-- **The outcome of resolving a token.** -/
lemma wp_resolveToken {pre : List Event → Call → Prop}
    {post : List Event → Except Exn (Option ResolvedToken) → Prop} {past : List Event}
    {token : String} {hint : Option String} (hq : Quiet pre)
    (hsome : ∀ q r, past <+: q → Resolves P config token q r → post q (.ok (some r)))
    (hnone : ∀ q, past <+: q → post q (.ok none))
    (herr : ∀ q e, past <+: q → post q (.error e)) :
    Prog.wp pre post past (resolveToken P config token hint) := by
  unfold resolveToken
  split_ifs
  · rw [Prog.wp_bind]
    have h1 := fun e => List.prefix_append past [e]
    refine wp_db.mpr ⟨hq _ _ rfl, fun record => ?_, fun e => herr _ _ (h1 _)⟩
    cases record with
    | some record => exact hsome _ _ (h1 _) (.refreshToken record (mem_past_last _ _))
    | none =>
      simp only [Prog.Next]
      rw [Prog.wp_bind]
      exact wp_findAccessToken hq
        (fun q record h hf => hsome _ _ ((h1 _).trans h) (.accessToken record hf))
        (fun q h => hnone _ ((h1 _).trans h)) (fun q e h => herr _ _ ((h1 _).trans h))
  · rw [Prog.wp_bind]
    refine wp_findAccessToken hq (fun q record h hf => hsome _ _ h (.accessToken record hf))
      (fun q h => ?_) herr
    simp only [Prog.Next]
    rw [Prog.wp_bind]
    have h2 := fun e => h.trans (List.prefix_append q [e])
    refine wp_db.mpr ⟨hq _ _ rfl, fun record => ?_, fun e => herr _ _ (h2 _)⟩
    cases record with
    | some record => exact hsome _ _ (h2 _) (.refreshToken record (mem_past_last _ _))
    | none => exact hnone _ (h2 _)

end Fapi2As
