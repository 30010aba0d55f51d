import Fapi2As.Properties.Presentations
import Fapi2As.Properties.SenderConstraint

set_option relaxedAutoImplicit false
set_option autoImplicit false

/-!
# Sender constraint from end to end

Whenever the userinfo endpoint names a subject, the request proved a key by a fresh proof for this
request and token, the token verifies as an access token of the server, its row is neither revoked
nor expired, and whatever token request stored the row has proven the same key. ID tokens and
refresh tokens are never accepted.

## Main definitions

* `Fapi2As.ServerRun.NamesSubject` — the userinfo endpoint names a subject.
* `Fapi2As.ServerRun.EndToEnd` — what a subject that was named rests on, step by step.
* `Fapi2As.ServerRun.ConstrainsSenders` — the access tokens of a run are sender constrained.
* `Fapi2As.VerifiesTyp` — what verification promises about the type of a token.

## Main results

* `Fapi2As.ServerRun.senders_constrained` — in every run they are.
-/

namespace Fapi2As

open Js Async

/-- **A token that is verified for a type has one**: its protected header has a text as `typ`. -/
def VerifiesTyp (P : Platform) : Prop :=
  ∀ token keys options, P.jwtVerify token keys options = .ok () → options.typ ≠ none →
    ∃ header v, P.decodeProtectedHeader token = some header ∧ header.get "typ" = some (.str v)

namespace ServerRun

variable {P : Platform} {config : AppConfig} {backend : Backend} (R : ServerRun P config backend)

/-- The userinfo endpoint has named a subject to a request. -/
structure NamesSubject (i pid : ℕ) (req : HttpRequest) (past : List Event) (subject : String) :
    Prop where
  le : i ≤ R.len
  route : req.route = .userinfo
  answered : ∃ reply, R.proc i pid = some ⟨req, past, .ret reply⟩ ∧
    reply.body = .json [("sub", .str subject)]

/-- **The proof of a request for a token is fresh**: it passes all checks for the request and the
token, and its jti is registered for the key while no entry of it is live. -/
structure ProvenFresh (i pid : ℕ) (req : HttpRequest) (token jkt : String) : Prop where
  registers : ∃ m < i, ∃ p proof t,
    ProofChecked P config req.dpop (userinfoDpopContext P config req.method token) t proof ∧
    P.calculateJwkThumbprint proof.jwk = some jkt ∧
    R.Does m pid p ⟨.db (.jtiRegister "dpop-rs:userinfo" (dpopReplayId jkt proof.jti)
      (dpopReplayExpiry config proof.iat) t), .ok true⟩ ∧
    ∀ e, (R.store m).jti.get? ("dpop-rs:userinfo", dpopReplayId jkt proof.jti) = some (some e) →
      e ≤ t

/-- **A token is an access token of the server**: it verifies under the keys that the server
publishes, and it names its row. -/
structure SignedAccessToken (i pid : ℕ) (token jti : String) : Prop where
  verified : ∃ m < i, ∃ p keys, R.Does m pid p ⟨.publicJwks, keys⟩ ∧
    keys = publicJwks ((R.world m).keys.getD []) (R.world m).clock ∧
    P.jwtVerify token (.localJwks keys) (accessTokenOptions config) = .ok ()
  claimed : (P.jwtClaims token).get "jti" = some (.str jti)

/-- **What a subject that was named rests on.** -/
structure EndToEnd (i pid : ℕ) (req : HttpRequest) (subject token jkt : String)
    (rec : AccessTokenRecord) : Prop where
  /-- The token is the one of the `Authorization` header. -/
  presented : req.authorization.bind dpopCredentials = some token
  /-- The request proves the key for this token. -/
  proof : R.ProvenFresh i pid req token jkt
  /-- The token verifies as an access token of the server. -/
  token : R.SignedAccessToken i pid token rec.jti
  /-- Its row is not revoked when the request reads it. -/
  unrevoked : ∃ m < i, ∃ p, R.Does m pid p ⟨.db (.accessTokensFindByJti rec.jti), .ok (some rec)⟩ ∧
    (R.store m).accessTokens.get? rec.jti = some rec ∧ rec.revokedAt = none
  /-- Its row has not expired when the request reads the clock after that. -/
  unexpired : ∃ m < i, ∃ p, R.Does m pid p ⟨.now, (R.world m).clock⟩ ∧
    rec.expiresAt.isPast (R.world m).clock = false
  /-- The row is bound to the key. -/
  bound : rec.cnfJkt = some jkt
  /-- A token request that has proven the key has stored the row. -/
  issued : R.ProvenAtIssuance i rec jkt
  /-- Whatever request stores the row proves the key, and no other one. -/
  proven : ∀ k pid' p a, R.Does k pid' p ⟨.db (.accessTokensInsert rec.fresh), a⟩ →
    ∃ client, TokenRequest P config p.req p.past client jkt
  subject_eq : subject = rec.subject

/-- A token is never accepted by the userinfo endpoint. -/
def NeverAccepted (token : String) : Prop :=
  ∀ i pid req past subject, R.NamesSubject i pid req past subject →
    req.authorization.bind dpopCredentials ≠ some token

/-- An ID token that was signed. -/
def IdTokenSigned (token : String) : Prop :=
  ∃ k pid p payload, R.Does k pid p ⟨.signJwt payload none, .ok token⟩

/-- A refresh token that was issued: a random value whose digest was stored. -/
structure RefreshTokenStored (token : String) : Prop where
  drawn : ∃ k pid p, R.Draws k pid p token
  stored : ∃ k pid p rec a, R.Does k pid p ⟨.db (.refreshTokensInsert rec), a⟩ ∧
    rec.tokenHash = P.sha256Base64Url token

/-- **The access tokens of a run are sender constrained**, from the token request to the userinfo
endpoint. -/
structure ConstrainsSenders : Prop where
  /-- Whatever the userinfo endpoint names is sender constrained. -/
  named : ∀ i pid req past subject, R.NamesSubject i pid req past subject →
    ∃ token jkt rec, R.EndToEnd i pid req subject token jkt rec
  /-- Every row is bound to a key. -/
  bound : ∀ i ≤ R.len, ∀ jti rec, (R.store i).accessTokens.get? jti = some rec → rec.cnfJkt ≠ none
  /-- No ID token is accepted. -/
  idToken : ∀ token, R.IdTokenSigned token → R.NeverAccepted token
  /-- No refresh token is accepted, when a text without two dots is no JWT. -/
  refreshToken : ∀ token, R.RefreshTokenStored token →
    (∀ keys options, P.jwtVerify token keys options = .ok () → 2 ≤ token.toList.count '.') →
    R.NeverAccepted token

variable {R} {i pid : ℕ} {req : HttpRequest} {past : List Event} {subject token jkt jti : String}
    {rec : AccessTokenRecord} {p : Proc (server P config backend)}

/-- The keys that are published at a step. -/
lemma published_keys {keys : List Json} (h : R.Does i pid p ⟨.publicJwks, keys⟩) :
    keys = publicJwks ((R.world i).keys.getD []) (R.world i).clock := by
  obtain ⟨x, -, hx⟩ := h.exec
  exact (congrArg Prod.fst (Option.some.inj hx)).symm

/-- A token that was signed without a type has none in its header. -/
lemma signed_untyped {payload : Params} (h : R.Does i pid p ⟨.signJwt payload none, .ok token⟩) :
    ∃ kid, P.decodeProtectedHeader token = some (signedHeader kid none) := by
  have hsigned := signature h
  simp only [isSignature, decide_eq_true_eq] at hsigned
  obtain ⟨k, -, hk⟩ := List.any_eq_true.mp hsigned.2
  exact ⟨k.kid, (of_decide_eq_true hk).2⟩

/-- An accepted proof of a request is fresh. -/
lemma provenFresh (hi : i ≤ R.len) {todo : Handler Reply}
    (hp : R.proc i pid = some ⟨req, past, todo⟩)
    (h : ProofAccepted P config req.dpop (userinfoDpopContext P config req.method token) jkt past) :
    R.ProvenFresh i pid req token jkt := by
  obtain ⟨t, proof, -, hchecked, hthumb, hregister⟩ := h
  obtain ⟨m, hm, q, hd, -⟩ := R.did hi hp hregister
  obtain ⟨rows, sweep, hset⟩ := (R.carried hd).registered
  refine ⟨m, hm, q, proof, t, hchecked, hthumb, hd, fun e he => ?_⟩
  by_contra hlive
  cases (hset.live he (not_le.mp hlive)).2 rfl

/-- Whatever request stores a row proves the key that the row is bound to. -/
lemma proven_at_insert {a : Except Fault Unit} (hbound : rec.cnfJkt = some jkt)
    (hd : R.Does i pid p ⟨.db (.accessTokensInsert rec.fresh), a⟩) :
    ∃ client, TokenRequest P config p.req p.past client jkt := by
  obtain ⟨input, hx, _, _, t, token, -, hrec⟩ := R.justified hd
  have hkey : rec.cnfJkt = some input.cnfJkt := congrArg AccessTokenRecord.cnfJkt hrec
  obtain rfl : jkt = input.cnfJkt := Option.some.inj (hbound.symm.trans hkey)
  cases hx with
  | code client jkt record grant hx => exact ⟨client, hx.1⟩
  | refresh client jkt scope rt grant hx => exact ⟨client, hx.1⟩

/-- **Whatever the userinfo endpoint names is sender constrained**, step by step. -/
lemma NamesSubject.endToEnd (h : R.NamesSubject i pid req past subject) :
    ∃ token jkt rec, R.EndToEnd i pid req subject token jkt rec := by
  obtain ⟨reply, hp, hbody⟩ := h.answered
  obtain ⟨token, rec, jkt, haccepted⟩ := (R.reply h.le hp).userinfo h.route subject hbody
  obtain ⟨keys, jti, hkeys, hverified, hfind⟩ := haccepted.found
  obtain ⟨hsigned, hclaimed⟩ := verifiedJti_eq_some hverified
  obtain ⟨m, hm, q, hd, -⟩ := R.did h.le hp hfind
  have hrow := (R.carried hd).accessTokensFindByJti
  obtain ⟨rfl, -⟩ := R.accessTokens_origin hd.lt.le hrow
  obtain ⟨jkt', hkey, k, hk, hissued⟩ := accessTokens_bound hd.lt.le hrow
  obtain rfl : jkt' = jkt := Option.some.inj (hkey.symm.trans haccepted.bound)
  obtain ⟨t, hnow, hunexpired⟩ := haccepted.unexpired
  obtain ⟨m', hm', q', hd', -⟩ := R.did h.le hp hnow
  obtain rfl := clock_read hd'
  obtain ⟨n, hn, q'', hd'', -⟩ := R.did h.le hp hkeys
  exact ⟨token, jkt', rec,
    { presented := haccepted.presented
      proof := provenFresh h.le hp haccepted.proof
      token := ⟨⟨n, hn, q'', keys, hd'', published_keys hd'', hsigned⟩, hclaimed⟩
      unrevoked := ⟨m, hm, q, hd, hrow, haccepted.unrevoked⟩
      unexpired := ⟨m', hm', q', hd', hunexpired⟩
      bound := hkey
      issued := ⟨k, by omega, hissued⟩
      proven := fun k pid' p a hd => proven_at_insert hkey hd
      subject_eq := haccepted.subject_eq }⟩

/-- **The access tokens of every run are sender constrained.**

**Proof sketch.** The answer rests on the calls of its request (`NamesSubject.endToEnd`), among them
a verification of the token for the type of access tokens: an ID token has no type, and a refresh
token is a random text without dots. -/
theorem senders_constrained (R : ServerRun P config backend) (htyp : VerifiesTyp P) :
    R.ConstrainsSenders := by
  refine ⟨fun i pid req past subject h => h.endToEnd, fun i hi jti rec hrow => ?_,
    fun token hid i pid req past subject h hpresented => ?_,
    fun token hrefresh hdots i pid req past subject h hpresented => ?_⟩
  · obtain ⟨jkt, hkey, -⟩ := accessTokens_bound hi hrow
    simp [hkey]
  · obtain ⟨token', jkt, rec, hend⟩ := h.endToEnd
    obtain rfl := Option.some.inj (hend.presented.symm.trans hpresented)
    obtain ⟨m, -, p, keys, -, -, hverified⟩ := hend.token.verified
    obtain ⟨header, v, hheader, hv⟩ := htyp token' _ _ hverified (by simp [accessTokenOptions])
    obtain ⟨k, pid', p', payload, hd⟩ := hid
    obtain ⟨kid, hkid⟩ := signed_untyped hd
    obtain rfl := Option.some.inj (hheader.symm.trans hkid)
    simp [signedHeader, Params.get, assoc] at hv
  · obtain ⟨token', jkt, rec, hend⟩ := h.endToEnd
    obtain rfl := Option.some.inj (hend.presented.symm.trans hpresented)
    obtain ⟨m, -, p, keys, -, -, hverified⟩ := hend.token.verified
    obtain ⟨k, pid', p', hdraw⟩ := hrefresh.drawn
    have hnone : token'.toList.count '.' = 0 :=
      List.count_eq_zero_of_not_mem fun hmem => absurd (hdraw.text _ hmem) (by decide)
    have := hdots _ _ hverified
    omega

end ServerRun

namespace Sample

/-- A token that verifies for a type on a platform of tables has one. -/
lemma verifiesTyp_ofTables (t : PlatformTables) : VerifiesTyp (Platform.ofTables t) := by
  intro token keys options hverified htyp
  obtain ⟨typ, htyp⟩ := Option.ne_none_iff_exists'.mp htyp
  simp only [Platform.ofTables] at hverified ⊢
  split at hverified
  · rename_i k hk
    split_ifs at hverified with hv
    simp only [SignedToken.verifies, memberIs, htyp, Bool.and_eq_true, decide_eq_true_eq] at hv
    exact ⟨k.header, typ, by rw [hk]; rfl, hv.1.2⟩
  · cases hverified

/-- The subject that is named after the redemption is sender constrained. -/
theorem presenting_end_to_end : presentingRun.ConstrainsSenders ∧
    ∃ i pid req past, presentingRun.NamesSubject i pid req past "u" := by
  obtain ⟨⟨steps, last⟩, ht, h⟩ := (Option.any_eq_true _ _).mp presenting_trace
  have ht : presentingRun.HasTrace steps last := ht
  obtain ⟨req, past, reply, hp, htest⟩ := ht.answers h
  simp only [Bool.and_eq_true, decide_eq_true_eq] at htest
  exact ⟨presentingRun.senders_constrained (verifiesTyp_ofTables tables),
    presentingRun.len, 3, req, past, le_rfl, htest.1, reply, hp, htest.2⟩

end Sample

end Fapi2As
