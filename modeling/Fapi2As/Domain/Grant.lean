import Fapi2As.Domain.Interaction
import Fapi2As.Domain.Pkce

set_option relaxedAutoImplicit false
set_option autoImplicit false

/-!
# Grants and authorization codes

Issuing a code creates the grant and then the code; redeeming a code uses it up, and a second
redemption revokes the grant and everything issued from it.

## Main definitions

* `Fapi2As.issueAuthorizationCode`, with the records `Fapi2As.grantRecord`, `Fapi2As.codeRecord`.
* `Fapi2As.redeemAuthorizationCode`, `Fapi2As.loadRefreshGrant`.
* `Fapi2As.Redeemed`, `Fapi2As.RefreshLoaded` — what a code or a refresh token has passed.

## Main results

* `Fapi2As.wp_issueAuthorizationCode`, `Fapi2As.wp_redeemAuthorizationCode`,
  `Fapi2As.wp_loadRefreshGrant` — the calls of each and its outcome.
-/

namespace Fapi2As

open Js Async

variable (P : Platform) (config : AppConfig)

/-- The grant of an authorization. -/
def grantRecord (grantId : String) (client : Client) (user : AuthenticatedUser)
    (request : ValidatedAuthorizationRequest) (now : ℕ) : GrantRecord :=
  { grantId := grantId
    clientId := client.clientId
    subject := user.sub
    scope := request.scope
    authTime := user.authTime
    createdAt := now
    revokedAt := none }

/-- The code of an authorization, stored by hash. -/
def codeRecord (code grantId : String) (client : Client) (request : ValidatedAuthorizationRequest)
    (now : ℕ) : AuthorizationCodeRecord :=
  { codeHash := P.sha256Base64Url code
    grantId := grantId
    clientId := client.clientId
    redirectUri := request.redirectUri
    codeChallenge := request.codeChallenge
    dpopJkt := request.dpopJkt
    nonce := request.nonce
    expiresAt := newDate ((now + config.authCodeTtlSec * 1000 : ℕ) : ℚ) }

/-- `issueAuthorizationCode`: the raw code. -/
def issueAuthorizationCode (client : Client) (user : AuthenticatedUser)
    (request : ValidatedAuthorizationRequest) : Handler String := do
  let now ← now
  let grantId ← randomUUID
  db (.grantsInsert (grantRecord grantId client user request now))
  let code ← randomBytes 32
  db (.codesInsert (codeRecord P config code grantId client request now))
  pure code

/-- The checks of a redeemed code against the request that presents it. -/
def checkRedeemed (record : AuthorizationCodeRecord) (clientId : String)
    (redirectUri codeVerifier : Option String) (dpopJkt : String) : Except OAuthError Unit := do
  reject (record.clientId ≠ clientId)
    (invalidGrant "authorization code was issued to a different client [RFC6749 §4.1.3]")
  reject (redirectUri ≠ some record.redirectUri)
    (invalidGrant "redirect_uri does not match the authorization request [RFC6749 §4.1.3]")
  reject (¬∃ v ∈ codeVerifier, verifyS256 P v record.codeChallenge = true)
    (invalidGrant "PKCE verification failed [RFC7636 §4.6]")
  reject (∃ k ∈ record.dpopJkt, k ≠ "" ∧ k ≠ dpopJkt)
    (invalidGrant "DPoP key does not match the authorization request [RFC9449 §10]")

/-- A grant that is there and has not been revoked. -/
def validGrant (grantId : String) : Handler GrantRecord := do
  let grant ← db (.grantsFind grantId)
  match grant with
  | some grant => do
    throwIf (grant.revokedAt ≠ none) (invalidGrant "grant is no longer valid")
    pure grant
  | none => throwOAuth (invalidGrant "grant is no longer valid")

/-- `redeemAuthorizationCode`. -/
def redeemAuthorizationCode (code clientId : String) (redirectUri codeVerifier : Option String)
    (dpopJkt : String) : Handler (AuthorizationCodeRecord × GrantRecord) := do
  let now ← now
  let result ← db (.codesRedeem (P.sha256Base64Url code) now)
  match result with
  | .consumed record => do
    -- Code reuse: everything issued from the grant is revoked.
    db (.grantsRevoke record.grantId now)
    db (.accessTokensRevokeByGrant record.grantId now)
    db (.refreshTokensRevokeByGrant record.grantId now)
    throwOAuth (invalidGrant "authorization code has already been used [RFC6749 §4.1.2]")
  | .invalid =>
    throwOAuth (invalidGrant "authorization code is invalid or expired [RFC6749 §4.1.2]")
  | .ok record => do
    Prog.settle Exn.oauth (checkRedeemed P record clientId redirectUri codeVerifier dpopJkt)
    let grant ← validGrant record.grantId
    pure (record, grant)

/-- `loadRefreshGrant`: the grant of a refresh token and the scope of the token. -/
def loadRefreshGrant (refreshToken clientId : String) : Handler (GrantRecord × String) := do
  let now ← now
  let found ← db (.refreshTokensFindByHash (P.sha256Base64Url refreshToken))
  match found with
  | some rec => do
    throwIf (rec.revokedAt ≠ none ∨ rec.expiresAt.isPast now = true)
      (invalidGrant "refresh token is invalid or expired [RFC6749 §6]")
    throwIf (rec.clientId ≠ clientId)
      (invalidGrant "refresh token was issued to a different client [RFC6749 §6]")
    let grant ← validGrant rec.grantId
    pure (grant, rec.scope)
  | none => throwOAuth (invalidGrant "refresh token is invalid or expired [RFC6749 §6]")

/-! ## What is known after each -/

variable {P config}

/-- **The calls of issuing a code**: the grant under an id that has just been drawn, then a code
that has just been drawn, for the grant that was inserted. -/
lemma wp_issueAuthorizationCode {pre : List Event → Call → Prop}
    {post : List Event → Except Exn String → Prop} {past : List Event} {client : Client}
    {user : AuthenticatedUser} {request : ValidatedAuthorizationRequest} (hq : Quiet pre)
    (hgrant : ∀ t grantId, pre (past ++ [⟨.now, t⟩, ⟨.randomUUID, grantId⟩])
      (.db (.grantsInsert (grantRecord grantId client user request t))))
    (hcode : ∀ t grantId code, pre (past ++ [⟨.now, t⟩, ⟨.randomUUID, grantId⟩,
        ⟨.db (.grantsInsert (grantRecord grantId client user request t)), .ok ()⟩,
        ⟨.randomBytes 32, code⟩])
      (.db (.codesInsert (codeRecord P config code grantId client request t))))
    (hok : ∀ q code, past <+: q → post q (.ok code))
    (herr : ∀ q, past <+: q → post q (.error .other)) :
    Prog.wp pre post past (issueAuthorizationCode P config client user request) := by
  unfold issueAuthorizationCode
  rw [Prog.wp_bind, wp_now]
  refine ⟨hq _ _ rfl, fun t => ?_⟩
  simp only [Prog.Next]
  rw [Prog.wp_bind, wp_randomUUID]
  refine ⟨hq _ _ rfl, fun grantId => ?_⟩
  simp only [Prog.Next]
  rw [Prog.wp_bind]
  simp only [List.append_assoc, List.cons_append, List.nil_append]
  refine wp_db.mpr ⟨hgrant t grantId, fun _ => ?_, fun e => herr _ ?_⟩
  · simp only [Prog.Next]
    rw [Prog.wp_bind, wp_randomBytes]
    refine ⟨hq _ _ rfl, fun code => ?_⟩
    simp only [Prog.Next]
    rw [Prog.wp_bind]
    simp only [List.append_assoc, List.cons_append, List.nil_append]
    refine wp_db.mpr ⟨hcode t grantId code, fun _ => hok _ _ ?_, fun e => herr _ ?_⟩
    all_goals
      rw [List.append_assoc]
      exact List.prefix_append _ _
  · rw [List.append_assoc]
    exact List.prefix_append _ _

/-- A redeemed code that passed its checks. -/
structure RedeemedChecked (P : Platform) (record : AuthorizationCodeRecord) (clientId : String)
    (redirectUri codeVerifier : Option String) (dpopJkt : String) : Prop where
  /-- The code was issued to the client. -/
  client : record.clientId = clientId
  /-- The redirect URI is the one of the code. -/
  redirect : redirectUri = some record.redirectUri
  /-- The verifier matches the challenge. -/
  pkce : ∃ v, codeVerifier = some v ∧ verifyS256 P v record.codeChallenge = true
  /-- The key is the one the code is bound to, if it is bound. -/
  key : ∀ k ∈ record.dpopJkt, k ≠ "" → k = dpopJkt

lemma RedeemedChecked.of_eq_ok {record : AuthorizationCodeRecord} {clientId dpopJkt : String}
    {redirectUri codeVerifier : Option String} {u : Unit}
    (h : checkRedeemed P record clientId redirectUri codeVerifier dpopJkt = .ok u) :
    RedeemedChecked P record clientId redirectUri codeVerifier dpopJkt := by
  simp only [checkRedeemed, bind_eq_ok, reject_eq_ok] at h
  obtain ⟨_, h1, _, h2, _, h3, h4⟩ := h
  refine ⟨not_not.mp h1, not_not.mp h2, by simpa using h3, fun k hk hne => ?_⟩
  by_contra hc
  exact h4 ⟨k, hk, hne, hc⟩

/-- A code that was redeemed by the calls `q` for a client and a key: this process used it up, it
passed its checks, and its grant was found unrevoked afterwards. -/
def Redeemed (P : Platform) (code clientId : String) (redirectUri codeVerifier : Option String)
    (dpopJkt : String) (record : AuthorizationCodeRecord) (grant : GrantRecord)
    (q : List Event) : Prop :=
  (∃ now, ⟨.db (.codesRedeem (P.sha256Base64Url code) now), .ok (.ok record)⟩ ∈ q) ∧
    RedeemedChecked P record clientId redirectUri codeVerifier dpopJkt ∧
    ⟨.db (.grantsFind record.grantId), .ok (some grant)⟩ ∈ q ∧ grant.revokedAt = none

/-- The revocations that a replayed code causes: in this order, each after the one before. -/
inductive ReplayRevokes (P : Platform) (code : String) (q : List Event) : Call → Prop
  | grant (record : AuthorizationCodeRecord) (now at_ : ℕ)
      (h : ⟨.db (.codesRedeem (P.sha256Base64Url code) now), .ok (.consumed record)⟩ ∈ q) :
      ReplayRevokes P code q (.db (.grantsRevoke record.grantId at_))
  | accessTokens (record : AuthorizationCodeRecord) (now at_ : ℕ)
      (h : ⟨.db (.codesRedeem (P.sha256Base64Url code) now), .ok (.consumed record)⟩ ∈ q)
      (hg : ⟨.db (.grantsRevoke record.grantId at_), .ok ()⟩ ∈ q) :
      ReplayRevokes P code q (.db (.accessTokensRevokeByGrant record.grantId at_))
  | refreshTokens (record : AuthorizationCodeRecord) (now at_ : ℕ)
      (h : ⟨.db (.codesRedeem (P.sha256Base64Url code) now), .ok (.consumed record)⟩ ∈ q)
      (hg : ⟨.db (.grantsRevoke record.grantId at_), .ok ()⟩ ∈ q)
      (ha : ⟨.db (.accessTokensRevokeByGrant record.grantId at_), .ok ()⟩ ∈ q) :
      ReplayRevokes P code q (.db (.refreshTokensRevokeByGrant record.grantId at_))

lemma wp_validGrant {pre : List Event → Call → Prop}
    {post : List Event → Except Exn GrantRecord → Prop} {past : List Event} {grantId : String}
    (hq : Quiet pre)
    (hok : ∀ q grant, past <+: q → ⟨.db (.grantsFind grantId), .ok (some grant)⟩ ∈ q →
      grant.revokedAt = none → post q (.ok grant))
    (herr : ∀ q e, past <+: q → post q (.error e)) :
    Prog.wp pre post past (validGrant grantId) := by
  unfold validGrant
  rw [Prog.wp_bind, wp_db]
  have h1 := fun e => List.prefix_append past [e]
  refine ⟨hq _ _ rfl, fun grant => ?_, fun e => herr _ _ (h1 _)⟩
  cases grant with
  | none => exact herr _ _ (h1 _)
  | some grant =>
    simp only [Prog.Next]
    rw [Prog.wp_bind, wp_throwIf]
    exact ⟨fun _ => herr _ _ (h1 _), fun h => hok _ _ (h1 _) (mem_past_last _ _) (not_not.mp h)⟩

/-- **The calls of a redemption and its outcome**: it redeems the hash of the code; a replayed code
leads to the three revocations and an exception, a fresh one to its record and grant. -/
lemma wp_redeemAuthorizationCode {pre : List Event → Call → Prop}
    {post : List Event → Except Exn (AuthorizationCodeRecord × GrantRecord) → Prop}
    {past : List Event} {code clientId dpopJkt : String} {redirectUri codeVerifier : Option String}
    (hq : Quiet pre)
    (hredeem : ∀ q t, past <+: q → pre q (.db (.codesRedeem (P.sha256Base64Url code) t)))
    (hrevoke : ∀ q o, past <+: q → ReplayRevokes P code q o → pre q o)
    (hok : ∀ q record grant, past <+: q →
      Redeemed P code clientId redirectUri codeVerifier dpopJkt record grant q →
      post q (.ok (record, grant)))
    (herr : ∀ q e, past <+: q → post q (.error e)) :
    Prog.wp pre post past
      (redeemAuthorizationCode P code clientId redirectUri codeVerifier dpopJkt) := by
  unfold redeemAuthorizationCode
  rw [Prog.wp_bind, wp_now]
  refine ⟨hq _ _ rfl, fun t => ?_⟩
  have h1 : past <+: past ++ [⟨.now, t⟩] := List.prefix_append _ _
  simp only [Prog.Next]
  rw [Prog.wp_bind, wp_db]
  have h2 := fun e => h1.trans (List.prefix_append _ [e])
  refine ⟨hredeem _ _ h1, fun result => ?_, fun e => herr _ _ (h2 _)⟩
  cases result with
  | invalid => exact herr _ _ (h2 _)
  | consumed record =>
    have hr := mem_past_last (past ++ [⟨.now, t⟩])
      ⟨.db (.codesRedeem (P.sha256Base64Url code) t), .ok (.consumed record)⟩
    have h3 := fun e₁ e₂ => (h2 e₁).trans (List.prefix_append _ [e₂])
    have h4 := fun e₁ e₂ e₃ => (h3 e₁ e₂).trans (List.prefix_append _ [e₃])
    have h5 := fun e₁ e₂ e₃ e₄ => (h4 e₁ e₂ e₃).trans (List.prefix_append _ [e₄])
    simp only [Prog.Next]
    rw [Prog.wp_bind]
    refine wp_db.mpr ⟨hrevoke _ _ (h2 _) (.grant record t t hr), fun _ => ?_,
      fun e => herr _ _ (h3 _ _)⟩
    simp only [Prog.Next]
    rw [Prog.wp_bind]
    refine wp_db.mpr ⟨hrevoke _ _ (h3 _ _) (.accessTokens record t t
      (List.mem_append_left _ hr) (mem_past_last _ _)), fun _ => ?_, fun e => herr _ _ (h4 _ _ _)⟩
    simp only [Prog.Next]
    rw [Prog.wp_bind]
    exact wp_db.mpr ⟨hrevoke _ _ (h4 _ _ _) (.refreshTokens record t t
      (List.mem_append_left _ (List.mem_append_left _ hr))
      (List.mem_append_left _ (mem_past_last _ _)) (mem_past_last _ _)),
      fun _ => herr _ _ (h5 _ _ _ _), fun e => herr _ _ (h5 _ _ _ _)⟩
  | ok record =>
    simp only [Prog.Next]
    rw [Prog.wp_bind, Prog.wp_settle]
    refine ⟨fun u hu => ?_, fun e _ => herr _ _ (h2 _)⟩
    simp only [Prog.Next]
    rw [Prog.wp_bind]
    refine wp_validGrant hq (fun q grant hpq hg hrev => ?_) fun q e hpq =>
      herr _ _ ((h2 _).trans hpq)
    exact hok q record grant ((h2 _).trans hpq)
      ⟨⟨t, hpq.mem (mem_past_last _ _)⟩, RedeemedChecked.of_eq_ok hu, hg, hrev⟩

/-- A refresh token that was accepted by the calls `q` for a client: it was found unrevoked and
unexpired, it is the client's, and its grant was found unrevoked afterwards. -/
def RefreshLoaded (P : Platform) (refreshToken clientId : String) (rec : RefreshTokenRecord)
    (grant : GrantRecord) (q : List Event) : Prop :=
  ⟨.db (.refreshTokensFindByHash (P.sha256Base64Url refreshToken)), .ok (some rec)⟩ ∈ q ∧
    rec.revokedAt = none ∧ (∃ now, ⟨.now, now⟩ ∈ q ∧ rec.expiresAt.isPast now = false) ∧
    rec.clientId = clientId ∧
    ⟨.db (.grantsFind rec.grantId), .ok (some grant)⟩ ∈ q ∧ grant.revokedAt = none

/-- **The outcome of loading a refresh token**: its grant and its scope. -/
lemma wp_loadRefreshGrant {pre : List Event → Call → Prop}
    {post : List Event → Except Exn (GrantRecord × String) → Prop} {past : List Event}
    {refreshToken clientId : String} (hq : Quiet pre)
    (hok : ∀ q rec grant, past <+: q → RefreshLoaded P refreshToken clientId rec grant q →
      post q (.ok (grant, rec.scope)))
    (herr : ∀ q e, past <+: q → post q (.error e)) :
    Prog.wp pre post past (loadRefreshGrant P refreshToken clientId) := by
  unfold loadRefreshGrant
  rw [Prog.wp_bind, wp_now]
  refine ⟨hq _ _ rfl, fun t => ?_⟩
  have h1 : past <+: past ++ [⟨.now, t⟩] := List.prefix_append _ _
  simp only [Prog.Next]
  rw [Prog.wp_bind, wp_db]
  have h2 := fun e => h1.trans (List.prefix_append _ [e])
  refine ⟨hq _ _ rfl, fun found => ?_, fun e => herr _ _ (h2 _)⟩
  cases found with
  | none => exact herr _ _ (h2 _)
  | some rec =>
    simp only [Prog.Next]
    rw [Prog.wp_bind, wp_throwIf]
    refine ⟨fun _ => herr _ _ (h2 _), fun hv => ?_⟩
    simp only [Prog.Next]
    rw [Prog.wp_bind, wp_throwIf]
    refine ⟨fun _ => herr _ _ (h2 _), fun hc => ?_⟩
    simp only [Prog.Next]
    rw [Prog.wp_bind]
    refine wp_validGrant hq (fun q grant hpq hg hrev => ?_) fun q e hpq =>
      herr _ _ ((h2 _).trans hpq)
    simp only [not_or, not_not, Bool.not_eq_true] at hv
    exact hok q rec grant ((h2 _).trans hpq) ⟨hpq.mem (mem_past_last _ _), hv.1,
      ⟨t, hpq.mem (by simp), hv.2⟩, not_not.mp hc, hg, hrev⟩

end Fapi2As
