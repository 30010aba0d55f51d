import Fapi2As.Sample
import Fapi2As.Server.Rows
import Fapi2As.Server.TokenReplies

set_option relaxedAutoImplicit false
set_option autoImplicit false

/-!
# Registered grant types

A client registers the grant types it uses, and a registration can be replaced while codes and
tokens of the client are out. The token endpoint consults the registered grant types at one point
only, when it decides whether a redeemed code comes with a refresh token. It enforces them as long
as no client holds an unused code or an unrevoked refresh token that its registration does not
allow.

## Main definitions

* `Fapi2As.registeredFor` — a client is registered for a grant type.
* `Fapi2As.ServerRun.EnforcesGrantTypes` — a request was served by a registered grant type.
* `Fapi2As.GrantTypesKept` — the codes and refresh tokens that are out are registered for.

## Main results

* `Fapi2As.ServerRun.grant_types_enforced` — the grant types are enforced in every run of such
  states.
-/

namespace Fapi2As

open Js Async

/-! ## Registered grant types -/

/-- The name of a grant type in a request. -/
def GrantType.name : GrantType → String
  | .authorizationCode => "authorization_code"
  | .refreshToken => "refresh_token"

/-- A client is registered for a grant type, by a registration that validates. -/
def registeredFor (P : Platform) (s : Store) (clientId : String) (g : GrantType) : Bool :=
  match s.clients.get? clientId with
  | none => false
  | some rec =>
    match rec.toClient P with
    | .ok client => client.metadata.grantTypes.contains g
    | .error _ => false

lemma registeredFor_of_mem {P : Platform} {s : Store} {clientId : String} {g : GrantType}
    {rec : ClientRecord} {client : Client} (hrec : s.clients.get? clientId = some rec)
    (hclient : rec.toClient P = .ok client) (hg : g ∈ client.metadata.grantTypes) :
    registeredFor P s clientId g = true := by
  simp only [registeredFor, hrec, hclient]
  simpa using hg

/-- **The codes and refresh tokens that are out are registered for**: a client that holds an unused
code is registered for `authorization_code`, and one that holds an unrevoked refresh token is
registered for `refresh_token`. -/
structure GrantTypesKept (P : Platform) (s : Store) : Prop where
  /-- The unused codes. -/
  codes : ∀ row ∈ s.codes.values, row.consumedAt = none →
    registeredFor P s row.record.clientId .authorizationCode = true
  /-- The unrevoked refresh tokens. -/
  refreshTokens : ∀ rec ∈ s.refreshTokens.values, rec.revokedAt = none →
    registeredFor P s rec.clientId .refreshToken = true

instance decidableGrantTypesKept (P : Platform) (s : Store) : Decidable (GrantTypesKept P s) :=
  decidable_of_iff
    ((∀ row ∈ s.codes.values, row.consumedAt = none →
        registeredFor P s row.record.clientId .authorizationCode = true) ∧
      ∀ rec ∈ s.refreshTokens.values, rec.revokedAt = none →
        registeredFor P s rec.clientId .refreshToken = true)
    ⟨fun h => ⟨h.1, h.2⟩, fun h => ⟨h.codes, h.refreshTokens⟩⟩

/-! ## Token replies -/

/-- The refresh token in the body of a token response. -/
lemma IssuedTokens.toBody_refreshToken (tokens : IssuedTokens) :
    tokens.toBody.get "refresh_token" = tokens.refreshToken.map Json.str := by
  obtain ⟨_, _, _, refreshToken, idToken⟩ := tokens
  cases refreshToken <;> cases idToken <;> rfl

/-- A reply with the body of a token response carries its refresh token. -/
lemma field_refreshToken {reply : Reply} {tokens : IssuedTokens}
    (h : reply.body = .json tokens.toBody) :
    reply.field "refresh_token" = tokens.refreshToken.map Json.str := by
  simp only [Reply.field, h, tokens.toBody_refreshToken]

/-- A request is authenticated as one client. -/
lemma Authenticated.clientId_unique {P : Platform} {config : AppConfig} {body : Params}
    {client client' : Client} {q q' : List Event} (h : Authenticated P config body client q)
    (h' : Authenticated P config body client' q') : client.clientId = client'.clientId := by
  obtain ⟨a, _, _, _, _, ha, -, -, -, hchecked, -⟩ := h
  obtain ⟨a', _, _, _, _, ha', -, -, -, hchecked', -⟩ := h'
  obtain rfl := Option.some.inj (ha.symm.trans ha')
  exact Json.str.inj (Option.some.inj (hchecked.sub.symm.trans hchecked'.sub))

namespace ServerRun

variable {P : Platform} {config : AppConfig} {backend : Backend} (R : ServerRun P config backend)

/-- At an instant of a request that was answered before step `i`, a client was registered for a
grant type. -/
def RegisteredDuring (i pid : ℕ) (clientId : String) (g : GrantType) : Prop :=
  ∃ j ≤ i, (R.proc j pid).isSome = true ∧ registeredFor P (R.store j) clientId g = true

/-- **A request was served by a registered grant type**: the one that it asked for is registered for
its client, and a refresh token was returned only if `refresh_token` is. -/
structure EnforcesGrantTypes (i pid : ℕ) (req : HttpRequest) (reply : Reply) (clientId : String) :
    Prop where
  /-- The grant type that was asked for is registered. -/
  asked : ∃ g : GrantType, str (req.body.get "grant_type") = some g.name ∧
    R.RegisteredDuring i pid clientId g
  /-- A refresh token is returned only for a registered grant type. -/
  refreshToken : (reply.field "refresh_token").isSome = true →
    R.RegisteredDuring i pid clientId .refreshToken

variable {R}

/-- A client that a request loaded was registered for its grant types at an instant of the request.
-/
lemma registeredDuring_loaded {i pid : ℕ} {p : Proc (server P config backend)} (hi : i ≤ R.len)
    (hp : R.proc i pid = some p) {client : Client}
    (h : Authenticated P config p.req.body client p.past) {g : GrantType}
    (hg : g ∈ client.metadata.grantTypes) : R.RegisteredDuring i pid client.clientId g := by
  obtain ⟨_, hint, _, _, _, -, hloaded, -⟩ := h
  have hid := R.loaded_clientId hi hp hloaded
  obtain ⟨rec, hmem, hclient⟩ := hloaded
  obtain ⟨j, hj, q, hd, -⟩ := R.did hi hp hmem
  refine ⟨j, hj.le, by rw [hd.proc]; rfl, ?_⟩
  rw [hid]
  exact registeredFor_of_mem (R.carried hd).clientsFindById hclient hg

/-- **The registered grant types are enforced** in every run in which the codes and refresh tokens
that are out are registered for.

**Proof sketch.** A reply with tokens follows the redemption of a code that was unused, or the use
of a refresh token that was unrevoked, and either belongs to the authenticated client. At that step
the client was registered for the grant type. A redeemed code comes with a refresh token only if the
client, as it was loaded, was registered for one. -/
theorem grant_types_enforced (R : ServerRun P config backend)
    (hkept : ∀ j ≤ R.len, GrantTypesKept P (R.store j)) {i pid : ℕ} {req : HttpRequest}
    {past : List Event} {reply : Reply} (hi : i ≤ R.len)
    (h : R.proc i pid = some ⟨req, past, .ret reply⟩) (hr : req.route = .token)
    (hg : reply.isGrant = true) {client : Client}
    (hc : Authenticated P config req.body client past) :
    R.EnforcesGrantTypes i pid req reply client.clientId := by
  cases R.tokenReplied hi h hr hg with
  | code client' jkt record grant tokens hexchange hissued hbody =>
    obtain ⟨hreq, hgt, code, -, ⟨t, hredeem⟩, hchecked, -⟩ := hexchange
    have hid : client.clientId = client'.clientId := hc.clientId_unique hreq.client
    obtain ⟨j, hj, q, hd, -⟩ := R.did hi h hredeem
    obtain ⟨row, hrow, rfl, hunused, -⟩ := (R.carried hd).codesRedeem
    have hregistered := (hkept j (by omega)).codes row (Map.mem_values hrow) hunused
    rw [hchecked.client, ← hid] at hregistered
    refine ⟨⟨.authorizationCode, hgt, j, hj.le, by rw [hd.proc]; rfl, hregistered⟩, fun hrt => ?_⟩
    have hasked : client'.metadata.grantTypes.contains .refreshToken = true := by
      rw [← hissued.refreshToken]
      simpa [field_refreshToken hbody] using hrt
    rw [hid]
    exact registeredDuring_loaded hi h hreq.client (by simpa using hasked)
  | refresh client' jkt scope token rec grant tokens hexchange hissued hpresented hbody =>
    obtain ⟨hreq, hgt, -, token', -, hfound, hunrevoked, -, howner, -⟩ := hexchange
    have hid : client.clientId = client'.clientId := hc.clientId_unique hreq.client
    obtain ⟨j, hj, q, hd, -⟩ := R.did hi h hfound
    have hrow := (R.carried hd).refreshTokensFindByHash
    have hregistered := (hkept j (by omega)).refreshTokens rec (Map.mem_values hrow) hunrevoked
    rw [howner, ← hid] at hregistered
    have hduring : R.RegisteredDuring i pid client.clientId .refreshToken :=
      ⟨j, hj.le, by rw [hd.proc]; rfl, hregistered⟩
    exact ⟨⟨.refreshToken, hgt, hduring⟩, fun _ => hduring⟩

end ServerRun

namespace Sample

/-! ## A narrowed registration -/

/-- The registration of a client without the grant type `authorization_code`. -/
def narrowed (client : String) : ClientRecord where
  clientId := client
  clientName := none
  metadata := .obj [("redirect_uris", .arr [.str "https://c"]),
    ("jwks", .obj [("keys", .arr [.obj (publicKey client)])]), ("scope", .str "r"),
    ("grant_types", .arr [.str "refresh_token"])]

/-- Client `A` is registered anew before it redeems its code. -/
def narrowedSteps : List (Act system) :=
  authorized ++ .env (.upsertClient (narrowed "A")) :: redeemed ++ issued

/-- The registration of client `A` does not allow a redemption while request `2` is served. -/
def unregistered (c : Conf system) : Bool :=
  (c.procs[2]?).isNone || !registeredFor platform c.world.store "A" .authorizationCode

/-- Request `2` redeems the code and is answered with tokens. -/
def redeemsCode (c : Conf system) : Bool :=
  c.answers 2 fun req _ reply => req.route = .token && reply.isGrant &&
    req.body = (redeem "2" "p").body

/-- The redemption is served although the registration does not allow it. -/
def servedUnregistered (t : List (TraceStep system) × Conf system) : Bool :=
  (t.1.all fun s => unregistered s.before) && unregistered t.2 && redeemsCode t.2

set_option maxRecDepth 4000 in
lemma narrowed_trace :
    (system.trace ⟨world, []⟩ narrowedSteps).any servedUnregistered = true := by
  decide +kernel

/-- The run of the redemption after the new registration. -/
def narrowedRun : ServerRun platform config .memory :=
  .ofTrace world narrowedSteps world_initial servedUnregistered narrowed_trace

/-- What the test of a redemption says of the answer at the end of a run. -/
lemma redeemsCode_answered {R : ServerRun platform config .memory} {steps : List (TraceStep system)}
    {last : Conf system} (ht : R.HasTrace steps last) (h : redeemsCode last = true) :
    ∃ req past reply, R.proc R.len 2 = some ⟨req, past, .ret reply⟩ ∧ req.route = .token ∧
      reply.isGrant = true ∧ req.body = (redeem "2" "p").body := by
  obtain ⟨req, past, reply, hp, htest⟩ := ht.answers h
  simp only [Bool.and_eq_true, decide_eq_true_eq] at htest
  exact ⟨req, past, reply, hp, htest.1.1, htest.1.2, htest.2⟩

/-- A request that is authenticated by the assertion of the redemption is one of client `A`. -/
lemma authenticated_redeem {body : Params} {client : Client} {q : List Event}
    (hbody : body = (redeem "2" "p").body) (h : Authenticated platform config body client q) :
    client.clientId = "A" := by
  obtain ⟨assertion, _, _, _, _, hassertion, -, -, -, hchecked, -⟩ := h
  have hsub := hchecked.sub
  obtain rfl : ".2." = assertion := by
    rw [hbody] at hassertion
    exact Option.some.inj hassertion
  have hclaims : (platform.jwtClaims ".2.").get "sub" = some (.str "A") := by decide
  exact Json.str.inj (Option.some.inj (hsub.symm.trans hclaims))

/-- A redemption is authenticated. -/
lemma redemption_authenticated {R : ServerRun platform config .memory} {req : HttpRequest}
    {past : List Event} {reply : Reply} (h : R.proc R.len 2 = some ⟨req, past, .ret reply⟩)
    (hr : req.route = .token) (hg : reply.isGrant = true) :
    ∃ client, Authenticated platform config req.body client past := by
  cases R.tokenReplied le_rfl h hr hg with
  | code client _ _ _ _ hexchange => exact ⟨client, hexchange.1.client⟩
  | refresh client _ _ _ _ _ _ hexchange => exact ⟨client, hexchange.1.client⟩

/-- **A code is redeemed by a client that is not registered for `authorization_code`.** -/
theorem narrowed_not_enforced : ∃ req past reply client,
    narrowedRun.proc narrowedRun.len 2 = some ⟨req, past, .ret reply⟩ ∧ req.route = .token ∧
      reply.isGrant = true ∧ Authenticated platform config req.body client past ∧
      ¬narrowedRun.EnforcesGrantTypes narrowedRun.len 2 req reply client.clientId := by
  obtain ⟨steps, last, ht, h⟩ : ∃ steps last, narrowedRun.HasTrace steps last ∧
    servedUnregistered (steps, last) = true := Run.hasTrace_ofTrace narrowed_trace
  simp only [servedUnregistered, Bool.and_eq_true, List.all_eq_true] at h
  obtain ⟨⟨hsteps, hlast⟩, hredeems⟩ := h
  obtain ⟨req, past, reply, hp, hroute, hgrant, hbody⟩ := redeemsCode_answered ht hredeems
  obtain ⟨client, hc⟩ := redemption_authenticated hp hroute hgrant
  refine ⟨req, past, reply, client, hp, hroute, hgrant, hc, fun henforces => ?_⟩
  -- The request asks for a redemption, and client `A` is registered for none while it is served.
  have hconf : ∀ j ≤ narrowedRun.len, unregistered (narrowedRun.conf j) = true :=
    fun j hj => ht.forall_conf (Q := fun c => unregistered c = true) hsteps hlast hj
  obtain ⟨g, hg, j, hj, hserved, hregistered⟩ := henforces.asked
  have hname : g = .authorizationCode := by
    rw [hbody] at hg
    have hasked : some "authorization_code" = some g.name := hg
    cases g with
    | authorizationCode => rfl
    | refreshToken => exact absurd hasked (by decide)
  subst hname
  rw [authenticated_redeem hbody hc] at hregistered
  have hun := hconf j hj
  simp only [unregistered, Bool.or_eq_true, Bool.not_eq_true'] at hun
  rcases hun with hnone | hun
  · have hserved : (narrowedRun.conf j).procs[2]?.isSome = true := hserved
    rw [Option.isNone_iff_eq_none] at hnone
    rw [hnone] at hserved
    cases hserved
  · have hregistered : registeredFor platform (narrowedRun.conf j).world.store "A"
      .authorizationCode = true := hregistered
    rw [hregistered] at hun
    cases hun

/-! ## A registration that stays -/

/-- The registrations allow the codes and refresh tokens that are out, and the code is redeemed. -/
def keptServed (t : List (TraceStep system) × Conf system) : Bool :=
  (t.1.all fun s => GrantTypesKept platform s.before.world.store) &&
    GrantTypesKept platform t.2.world.store && redeemsCode t.2

set_option maxRecDepth 4000 in
lemma kept_trace :
    (system.trace ⟨world, []⟩ (authorized ++ redeemed ++ issued)).any keptServed = true := by
  decide +kernel

/-- The run of the redemption with the first registration. -/
def keptRun : ServerRun platform config .memory :=
  .ofTrace world (authorized ++ redeemed ++ issued) world_initial keptServed kept_trace

/-- The redemption of a client with the default registration is served by a registered grant type.
-/
theorem kept_enforced : ∃ req past reply client,
    keptRun.proc keptRun.len 2 = some ⟨req, past, .ret reply⟩ ∧
      Authenticated platform config req.body client past ∧
      keptRun.EnforcesGrantTypes keptRun.len 2 req reply client.clientId := by
  obtain ⟨steps, last, ht, h⟩ : ∃ steps last, keptRun.HasTrace steps last ∧
    keptServed (steps, last) = true := Run.hasTrace_ofTrace kept_trace
  simp only [keptServed, Bool.and_eq_true, List.all_eq_true, decide_eq_true_eq] at h
  obtain ⟨⟨hsteps, hlast⟩, hredeems⟩ := h
  obtain ⟨req, past, reply, hp, hroute, hgrant, -⟩ := redeemsCode_answered ht hredeems
  obtain ⟨client, hc⟩ := redemption_authenticated hp hroute hgrant
  refine ⟨req, past, reply, client, hp, hc,
    ServerRun.grant_types_enforced keptRun (fun j hj => ?_) le_rfl hp hroute hgrant hc⟩
  exact ht.forall_conf (Q := fun c => GrantTypesKept platform c.world.store) hsteps hlast hj

end Sample

end Fapi2As
