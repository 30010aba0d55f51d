import Fapi2As.Properties.CodeReplay
import Fapi2As.Properties.GrantTypes
import Fapi2As.Properties.Lineage
import Fapi2As.Properties.SingleUse

set_option relaxedAutoImplicit false
set_option autoImplicit false

/-!
# The revocation of a refresh token

A revocation request that presents a refresh token of its client revokes the refresh token and all
access tokens of its grant. It does not revoke the grant. Still, no token of the grant is usable
afterwards: the code of the grant has been redeemed by the request that stored the refresh token,
and every refresh reads the revoked row. The exception is a refresh that has read the row before it
was revoked and is still on its way.

## Main definitions

* `Fapi2As.ServerRun.RefreshRevoked` — a revocation of a refresh token that has been answered.
* `Fapi2As.ServerRun.NoRefreshOverlaps` — no refresh of the grant is on its way during a request.
* `Fapi2As.ServerRun.OneAtATime` — requests are processed one at a time.
* `Fapi2As.ServerRun.RevocationIsFinal` — no token of a grant is usable from a time on.

## Main results

* `Fapi2As.wp_handleRevoke_carried` — what a revocation that was answered has carried out.
* `Fapi2As.ServerRun.unrevoked_refreshed` — an access token of the grant that is unrevoked
  afterwards was stored by a refresh that overlaps the revocation.
* `Fapi2As.ServerRun.refresh_revocation_final` — without such a refresh the revocation is final.
* `Fapi2As.ServerRun.revocation_final_of_oneAtATime` — so it is when requests are processed one at a
  time.
-/

namespace Fapi2As

open Js Async

variable {P : Platform} {config : AppConfig}

/-! ## What a revocation carries out -/

/-- The calls that look up a refresh token. -/
def Call.findsRefreshToken : Call → Bool
  | .db (.refreshTokensFindByHash _) => true
  | _ => false

/-- No refresh token has been found. -/
def NoneFound (q : List Event) : Prop :=
  ∀ tokenHash record, ⟨.db (.refreshTokensFindByHash tokenHash), .ok (some record)⟩ ∉ q

/-- The past ends with the revocation of a refresh token and of the access tokens of its grant. -/
def RevocationCarried (record : RefreshTokenRecord) (q : List Event) : Prop :=
  ∃ q₀ t, q = q₀ ++ [⟨.db (.refreshTokensRevoke record.tokenHash t), .ok ()⟩] ++
    [⟨.db (.accessTokensRevokeByGrant record.grantId t), .ok ()⟩]

section

variable {past : List Event}

lemma NoneFound.snoc {e : Event} (h : NoneFound past)
    (he : ∀ tokenHash record, e ≠ ⟨.db (.refreshTokensFindByHash tokenHash), .ok (some record)⟩) :
    NoneFound (past ++ [e]) := by
  intro tokenHash record hmem
  rcases List.mem_append.mp hmem with hmem | hmem
  · exact h tokenHash record hmem
  · exact he tokenHash record (List.mem_singleton.mp hmem).symm

/-- A program that looks up no refresh token finds none. -/
lemma wp_noneFound {α : Type} {p : Handler α} (h : NoneFound past)
    (hp : p.OnlyCalls fun o => o.findsRefreshToken = false) :
    Prog.wp (fun _ _ => True) (fun q _ => NoneFound q) past p := by
  refine Prog.wp_mono_pre (fun _ _ _ => trivial)
    (Prog.wp_mono (fun _ _ hx => hx.1) (Prog.wp_invariant (fun q o r hq ho => hq.snoc ?_) h hp.wp))
  rintro tokenHash record he
  cases he
  cases ho

lemma findAccessToken_onlyCalls (token : String) :
    (findAccessToken P config token).OnlyCalls fun o => o.findsRefreshToken = false := by
  refine .bind (fun ready => ?_) (Prog.onlyCalls_perform rfl)
  refine .bind (fun _ => ?_) (Prog.onlyCalls_settle _ _)
  refine .bind (fun keys => ?_) (Prog.onlyCalls_perform rfl)
  split
  · exact onlyCalls_db rfl
  · trivial

/-- **A refresh token that was found is what the token resolves to.** -/
lemma wp_resolveToken_found {token : String} {hint : Option String} (h : NoneFound past) :
    Prog.wp (fun _ _ => True) (fun q x => ∀ found, x = .ok found → ∀ tokenHash record,
      ⟨.db (.refreshTokensFindByHash tokenHash), .ok (some record)⟩ ∈ q →
        found = some (.refreshToken record)) past (resolveToken P config token hint) := by
  have hrow : ∀ q row, NoneFound q → ∀ tokenHash record,
      ⟨.db (.refreshTokensFindByHash tokenHash), .ok (some record)⟩ ∈
        q ++ [⟨.db (.refreshTokensFindByHash (P.sha256Base64Url token)), .ok row⟩] →
      row = some record := by
    intro q row hq tokenHash record hmem
    rcases List.mem_append.mp hmem with hmem | hmem
    · exact absurd hmem (hq tokenHash record)
    · cases List.mem_singleton.mp hmem
      rfl
  unfold resolveToken
  split_ifs
  · -- the refresh token is looked up first
    rw [Prog.wp_bind]
    refine (wp_db (q := .refreshTokensFindByHash (P.sha256Base64Url token))).mpr
      ⟨trivial, fun row => ?_, fun e _ he => by cases he⟩
    cases row with
    | some row =>
      intro found he tokenHash record hmem
      cases he
      obtain rfl := Option.some.inj (hrow past _ h tokenHash record hmem)
      rfl
    | none =>
      simp only [Prog.Next]
      rw [Prog.wp_bind]
      refine Prog.wp_mono (fun q x hx => ?_)
        (wp_noneFound (h.snoc ?_) (findAccessToken_onlyCalls token))
      · cases x with
        | ok row => exact fun _ _ tokenHash record hmem => absurd hmem (hx tokenHash record)
        | error e => exact fun _ he => by cases he
      · rintro tokenHash record he
        cases he
  · rw [Prog.wp_bind]
    refine Prog.wp_mono (fun q x hx => ?_) (wp_noneFound h (findAccessToken_onlyCalls token))
    cases x with
    | error e => exact fun _ he => by cases he
    | ok row =>
      cases row with
      | some row => exact fun _ _ tokenHash record hmem => absurd hmem (hx tokenHash record)
      | none =>
        simp only [Prog.Next]
        rw [Prog.wp_bind]
        refine (wp_db (q := .refreshTokensFindByHash (P.sha256Base64Url token))).mpr
          ⟨trivial, fun row => ?_, fun e _ he => by cases he⟩
        intro found he tokenHash record hmem
        cases he
        rw [hrow q row hx tokenHash record hmem]
        rfl

end

section

variable {req : HttpRequest}

/-- What a reply without a body says of the calls `q`: the refresh token that was found to be the
client's own has been revoked. -/
def CarriesOut (P : Platform) (config : AppConfig) (req : HttpRequest) (q : List Event)
    (reply : Reply) :
    Prop :=
  reply.body = .empty → ∀ client tokenHash record, Authenticated P config req.body client q →
    ⟨.db (.refreshTokensFindByHash tokenHash), .ok (some record)⟩ ∈ q →
    record.clientId = client.clientId → RevocationCarried record q

/-- What was found is revoked, if it is the client's own. -/
lemma wp_revokeResolved_carried {past : List Event} {client : Client} {found : Option ResolvedToken}
    {t : ℕ} (hauth : Authenticated P config req.body client past)
    (hfound : ∀ tokenHash record,
      ⟨.db (.refreshTokensFindByHash tokenHash), .ok (some record)⟩ ∈ past →
        found = some (.refreshToken record)) :
    Prog.wp (fun _ _ => True) (fun q x => ∀ reply, x = .ok reply → CarriesOut P config req q reply)
      past
      (revokeResolved client found t >>= fun _ =>
        pure { status := 200, headers := [noStore] }) := by
  have hother : ∀ q reply, past <+: q → (∀ e ∈ q, e ∈ past ∨ e.op.findsRefreshToken = false) →
      (∀ record, found = some (.refreshToken record) → record.clientId ≠ client.clientId) →
      CarriesOut P config req q reply := by
    intro q reply hpre hnew hno _ client' tokenHash record hauth' hmem hown
    have hpast : ⟨.db (.refreshTokensFindByHash tokenHash), .ok (some record)⟩ ∈ past := by
      rcases hnew _ hmem with hmem | hop
      · exact hmem
      · cases hop
    refine absurd ?_ (hno record (hfound _ _ hpast))
    rw [hown]
    exact hauth'.clientId_unique hauth
  unfold revokeResolved
  rw [Prog.wp_bind]
  split
  · intro reply he
    cases he
    exact hother past _ List.prefix_rfl (fun e he => .inl he) fun record he => by cases he
  · rename_i token
    split_ifs with hown
    · intro reply he
      cases he
      refine hother past _ List.prefix_rfl (fun e he => .inl he) fun record he => ?_
      cases he
      exact hown
    · split
      · rename_i record
        rw [Prog.wp_bind]
        refine (wp_db (q := .refreshTokensRevoke record.tokenHash t)).mpr
          ⟨trivial, fun _ => ?_, fun e reply he => by cases he⟩
        simp only [Prog.Next]
        refine (wp_db (q := .accessTokensRevokeByGrant record.grantId t)).mpr
          ⟨trivial, fun _ => ?_, fun e reply he => by cases he⟩
        intro reply he _ client' tokenHash record' hauth' hmem _
        have hpast : ⟨.db (.refreshTokensFindByHash tokenHash), .ok (some record')⟩ ∈ past := by
          simpa using hmem
        cases hfound tokenHash record' hpast
        exact ⟨past, t, rfl⟩
      · rename_i record
        refine (wp_db (q := .accessTokensRevoke record.jti t)).mpr
          ⟨trivial, fun _ => ?_, fun e reply he => by cases he⟩
        intro reply he
        cases he
        refine hother _ _ (List.prefix_append _ _) (fun e he => ?_) fun record he => by cases he
        rcases List.mem_append.mp he with he | he
        · exact .inl he
        · exact .inr (by rw [List.mem_singleton.mp he]; rfl)

/-- **A revocation that is answered without a body has been carried out.** -/
lemma wp_handleRevoke_carried :
    Prog.wp (fun _ _ => True) (fun q x => ∀ reply, x = .ok reply → CarriesOut P config req q reply)
    []
      (handleRevoke P config req) := by
  unfold handleRevoke rateLimited
  rw [Prog.wp_bind, Prog.wp_perform]
  refine ⟨trivial, fun ok => ?_⟩
  simp only [Prog.Next]
  split_ifs
  swap
  · intro reply he hbody
    cases he
    cases hbody
  rw [Prog.wp_bind]
  unfold requireForm
  rw [wp_throwIf]
  simp only [Prog.Next]
  refine ⟨fun _ reply he => (by cases he), fun _ => ?_⟩
  rw [Prog.wp_bind]
  have hstart : NoneFound [⟨.allow req.ip, ok⟩] := by
    intro tokenHash record hmem
    cases List.mem_singleton.mp hmem
  have hclient : Prog.wp (fun _ _ => True) (fun q x => ∀ client, x = .ok client →
      Authenticated P config req.body client q) [⟨.allow req.ip, ok⟩]
        (authenticateClient P config req.body req.authorization) :=
    wp_authenticateClient (fun _ _ _ => trivial) (fun _ _ _ _ => trivial)
      (fun q client _ hc client' he => by cases he; exact hc) (fun q e _ client he => by cases he)
  refine Prog.wp_mono (fun q x hx => ?_) (Prog.wp_mono_pre (fun _ _ _ => trivial)
    (Prog.wp_and hclient (wp_noneFound hstart
      ((authenticateClient_onlyCalls _ _).mono fun o ho => by cases o with
        | db q => cases q <;> first | rfl | cases ho
        | _ => rfl))))
  obtain ⟨hauth, hnone⟩ := hx
  cases x with
  | error e => exact fun _ he => by cases he
  | ok client =>
    have hauth := hauth client rfl
    dsimp only [Prog.Next]
    split
    · exact fun _ he => by cases he
    · rename_i token _
      rw [Prog.wp_bind]
      refine Prog.wp_mono (fun q' x hx => ?_) (Prog.wp_extends (wp_resolveToken_found hnone))
      obtain ⟨hpre, hfound⟩ := hx
      cases x with
      | error e => exact fun _ he => by cases he
      | ok found =>
        have hfound := hfound found rfl
        dsimp only [Prog.Next]
        rw [Prog.wp_bind, wp_now]
        refine ⟨trivial, fun t => wp_revokeResolved_carried
          (hauth.mono (hpre.trans (List.prefix_append _ _))) fun tokenHash record hmem => ?_⟩
        rcases List.mem_append.mp hmem with hmem | hmem
        · exact hfound tokenHash record hmem
        · cases List.mem_singleton.mp hmem

/-- What a request to the revocation endpoint has carried out when it is answered. -/
lemma handler_carriesOut (req : HttpRequest) :
    Prog.wp (fun _ _ => True) (fun q x => ∀ reply, x = .ok reply → req.route = .revoke →
      CarriesOut P config req q reply) [] (handler P config req) := by
  by_cases hr : req.route = .revoke
  · refine wp_respond (Prog.wp_mono (fun q x hx => ?_)
      (?_ : Prog.wp _ (fun q x => ∀ reply, x = .ok reply → CarriesOut P config req q reply) []
        (dispatch P config req)))
    · cases x with
      | ok reply =>
        intro reply' he _ hbody
        cases he
        exact hx reply rfl (by simpa using hbody)
      | error e =>
        intro reply' he _ hbody
        cases he
        obtain ⟨v, rest, h⟩ := errorReply_body e
        rw [onSend_body, h] at hbody
        cases hbody
    · simp only [dispatch, hr]
      split_ifs
      · exact wp_handleRevoke_carried
      · intro reply _ _ client tokenHash record _ hmem
        cases hmem
  · exact Prog.wp_of_forall (fun _ _ => trivial) fun _ _ _ _ h => absurd h hr

end

namespace ServerRun

section

variable {backend : Backend} (R : ServerRun P config backend)

/-- **A revocation of a refresh token** that has been answered at time `n`: the refresh token that
was presented is one of the client and of the grant `g`, and the answer is the one without a body.
-/
def RefreshRevoked (n pid : ℕ) (g : String) : Prop :=
  ∃ req past reply client token record, R.proc n pid = some ⟨req, past, .ret reply⟩ ∧
    req.route = .revoke ∧ reply.body = .empty ∧ Authenticated P config req.body client past ∧
    str (req.body.get "token") = some token ∧
    ⟨.db (.refreshTokensFindByHash (P.sha256Base64Url token)), .ok (some record)⟩ ∈ past ∧
    record.clientId = client.clientId ∧ record.grantId = g

/-- **No refresh of a grant overlaps a request**: while the request is there, up to time `n`, every
token request that has found an unrevoked token of the grant has been answered. -/
def NoRefreshOverlaps (n pid : ℕ) (g : String) : Prop :=
  ∀ k ≤ n, (R.proc k pid).isSome = true → ∀ pid' p, R.proc k pid' = some p → p.req.route = .token →
    (∃ e ∈ p.past, tokenFound e = some (g, none)) → R.IsAnswered k pid'

/-- **The revocation of a grant's tokens is final** from time `n` on: no token of the grant is
unrevoked, whatever is stored, and no request accepts one that had found none by then. -/
structure RevocationIsFinal (n : ℕ) (g : String) : Prop where
  /-- The access tokens of the grant are revoked. -/
  access : ∀ j, n ≤ j → j ≤ R.len → ∀ jti rec, (R.store j).accessTokens.get? jti = some rec →
    rec.grantId = g → rec.revokedAt ≠ none
  /-- The refresh tokens of the grant are revoked. -/
  refresh : ∀ j, n ≤ j → j ≤ R.len → ∀ tokenHash rec,
    (R.store j).refreshTokens.get? tokenHash = some rec → rec.grantId = g → rec.revokedAt ≠ none
  /-- No token of the grant is accepted by a request that had found no token by then. -/
  accepted : ∀ j pid, n ≤ j → j ≤ R.len →
    (∀ m < n, ∀ p ev, R.Does m pid p ev → tokenFound ev = none) → ¬R.Accepted j pid g

/-- A request makes a call on the storage at step `i`. -/
def OnStorage (i pid : ℕ) : Prop := ∃ p q a, R.Does i pid p ⟨.db q, a⟩

/-- **Requests are processed one at a time**: between two calls of a request on the storage no other
request makes one. -/
def OneAtATime : Prop :=
  ∀ i j k pid pid', i < j → j < k → R.OnStorage i pid → R.OnStorage j pid' → R.OnStorage k pid →
    pid' = pid

variable {R}

/-- A refresh token that is revoked stays revoked. -/
lemma refreshToken_stays_revoked {m j : ℕ} (hmj : m ≤ j) (hj : j ≤ R.len) {tokenHash : String}
    (h : ∃ rec, (R.store m).refreshTokens.get? tokenHash = some rec ∧ rec.revokedAt ≠ none) :
    ∃ rec, (R.store j).refreshTokens.get? tokenHash = some rec ∧ rec.revokedAt ≠ none := by
  refine R.stays (P := fun w => ∃ rec, w.store.refreshTokens.get? tokenHash = some rec ∧
    rec.revokedAt ≠ none) hmj h fun k hk hlt ih => ?_
  change ∃ rec, (R.store (k + 1)).refreshTokens.get? tokenHash = some rec ∧ rec.revokedAt ≠ none
  obtain ⟨rec, hrec, hrevoked⟩ := ih
  change (R.store k).refreshTokens.get? tokenHash = some rec at hrec
  rcases R.refreshTokens_step (i := k) (by omega) tokenHash with
    hs | ⟨rec', hc, hid, -⟩ | ⟨t, rec', -, -, hs⟩
  · exact ⟨rec, hs.trans hrec, hrevoked⟩
  · obtain ⟨hid', i, hi, hc'⟩ := R.refreshTokens_origin (by omega) hrec
    have := refreshTokens_insert_once hc' hc (hid'.trans hid.symm)
    omega
  · exact ⟨_, hs, rec'.revokedAt_revoke t⟩

/-- An access token that is revoked stays revoked. -/
lemma accessToken_stays_revoked {m j : ℕ} (hmj : m ≤ j) (hj : j ≤ R.len) {jti : String}
    (h : ∃ rec, (R.store m).accessTokens.get? jti = some rec ∧ rec.revokedAt ≠ none) :
    ∃ rec, (R.store j).accessTokens.get? jti = some rec ∧ rec.revokedAt ≠ none := by
  refine R.stays (P := fun w => ∃ rec, w.store.accessTokens.get? jti = some rec ∧
    rec.revokedAt ≠ none) hmj h fun k hk hlt ih => ?_
  change ∃ rec, (R.store (k + 1)).accessTokens.get? jti = some rec ∧ rec.revokedAt ≠ none
  obtain ⟨rec, hrec, hrevoked⟩ := ih
  change (R.store k).accessTokens.get? jti = some rec at hrec
  rcases R.accessTokens_step (i := k) (by omega) jti with
    hs | ⟨rec', hc, hid, -⟩ | ⟨t, rec', -, -, hs⟩
  · exact ⟨rec, hs.trans hrec, hrevoked⟩
  · obtain ⟨hid', i, hi, hc'⟩ := R.accessTokens_origin (by omega) hrec
    have := accessTokens_insert_once hc' hc (hid'.trans hid.symm)
    omega
  · exact ⟨_, hs, rec'.revokedAt_revoke t⟩

/-- **A code exchange stores its access token before the refresh token of the grant.** -/
lemma access_before_refresh {k r pid pid' : ℕ} {p p' : Proc (server P config backend)}
    {rec : AccessTokenRecord} {rt : RefreshTokenRecord} {client : Client} {jkt : String}
    {record : AuthorizationCodeRecord} {grant : GrantRecord}
    (hd : R.Does k pid p ⟨.db (.accessTokensInsert rec), .ok ()⟩)
    (hx : CodeExchange P config p.req p.past client jkt record grant)
    (hr : R.Does r pid' p' ⟨.db (.refreshTokensInsert rt), .ok ()⟩)
    (hg : rt.grantId = grant.grantId) :
    k < r := by
  -- The code of the grant is redeemed once, so the two are stored by one request.
  obtain ⟨-, -, code, -, ⟨t, hmem⟩, -, hgrant, -⟩ := hx
  obtain ⟨b, hb, q, hdb, -⟩ := R.did hd.lt.le hd.proc hmem
  obtain ⟨row, hrow, rfl, -⟩ := (R.carried hdb).codesRedeem
  obtain ⟨hhash, m, -, hm⟩ := R.codes_origin hdb.lt.le hrow
  have hgid := (R.grant_found le_rfl hd.lt.le hd.proc hgrant).1
  obtain ⟨codeHash, t', rec', b', q', m', hdb', hpre, hg', rfl, hm'⟩ := refresh_redemption hr
  have hcode : row.record = rec' := codes_grant_once hm hm' (hgid.symm.trans (hg.symm.trans hg'))
  rw [← hhash, hcode] at hdb
  obtain rfl := redeem_once hdb hdb'
  obtain ⟨rfl, -, -⟩ := hdb.functional hdb'
  rcases Nat.lt_trichotomy k r with hkr | rfl | hkr
  · exact hkr
  · cases (hd.functional hr).2.2
  · -- Nothing is stored after the refresh token.
    obtain ⟨_, -, hafter⟩ := hr.todo
    obtain ⟨p'', hp'', -, hpast⟩ := R.proc_mono hkr hd.lt.le hafter
    obtain rfl := Option.some.inj (hp''.symm.trans hd.proc)
    have hnone := hd.meets fun req => handler_stores_last req
    cases hnone _ (hpast.mem (mem_past_last _ _))

/-- The steps of a revocation that was answered: the refresh token was found, then revoked, and then
the access tokens of its grant. -/
lemma RefreshRevoked.steps {n pid : ℕ} {g : String} (hn : n ≤ R.len)
    (h : R.RefreshRevoked n pid g) :
    ∃ m m' p p' record t, m < m' ∧ m' < n ∧ record.grantId = g ∧ p.req.route = .revoke ∧
      R.Does m pid p ⟨.db (.refreshTokensRevoke record.tokenHash t), .ok ()⟩ ∧
      R.Does m' pid p' ⟨.db (.accessTokensRevokeByGrant g t), .ok ()⟩ ∧
      ∃ i ≤ m, (R.store i).refreshTokens.get? record.tokenHash = some record := by
  obtain ⟨req, past, reply, client, token, record, hp, hroute, hbody, hauth, -, hmem, hown, hg⟩ := h
  obtain ⟨q, t, hpast⟩ := R.answered handler_carriesOut hn hp reply rfl hroute hbody client _ record
    hauth hmem hown
  obtain ⟨m', hm', p', hd', hreq', hpast'⟩ := R.did_at hn hp hpast
  obtain ⟨m, hm, p, hd, hreq, hq⟩ := R.did_at hd'.lt.le hd'.proc hpast'
  have hfound : ⟨.db (.refreshTokensFindByHash (P.sha256Base64Url token)), .ok (some record)⟩ ∈
      p.past := by
    rw [hq]
    simpa [hpast] using hmem
  obtain ⟨i, hi, _, hdi, -⟩ := R.did hd.lt.le hd.proc hfound
  have hrow := (R.carried hdi).refreshTokensFindByHash
  have hkey := (R.refreshTokens_origin hdi.lt.le hrow).1
  have hrevoke : p.req.route = .revoke := by rw [hreq, hreq', hroute]
  exact ⟨m, m', p, p', record, t, hm, hm', hg, hrevoke, hd, hg ▸ hd', i, hi.le, hkey ▸ hrow⟩

/-- **The refresh tokens of the grant are revoked** after the first step of the revocation: there is
only the one that was presented. -/
lemma refreshTokens_revoked {m i j pid : ℕ} {p : Proc (server P config backend)}
    {record : RefreshTokenRecord} {t : ℕ}
    (hd : R.Does m pid p ⟨.db (.refreshTokensRevoke record.tokenHash t), .ok ()⟩) (hi : i ≤ m)
    (hrow : (R.store i).refreshTokens.get? record.tokenHash = some record) (hmj : m < j)
    (hj : j ≤ R.len)
    {tokenHash : String} {rec : RefreshTokenRecord}
    (hrec : (R.store j).refreshTokens.get? tokenHash = some rec)
    (hg : rec.grantId = record.grantId) :
    rec.revokedAt ≠ none := by
  obtain ⟨hkey, a, ha, pid', p', ⟨⟩, hda⟩ := R.refreshTokens_origin (by omega) hrow
  obtain ⟨hkey', b, hb, pid'', p'', ⟨⟩, hdb⟩ := R.refreshTokens_origin hj hrec
  obtain rfl := refresh_once hdb hda hg
  have hsame : rec.fresh = record.fresh := by
    simpa using Calls.functional ⟨_, _, _, hdb⟩ ⟨_, _, _, hda⟩
  have hhash : rec.fresh.tokenHash = record.fresh.tokenHash := by rw [hsame]
  have hhash : tokenHash = record.tokenHash := hkey'.symm.trans hhash
  have hrevoked : ∃ rec, (R.store (m + 1)).refreshTokens.get? record.tokenHash = some rec ∧
      rec.revokedAt ≠ none := by
    obtain ⟨rec', hrec', -⟩ := R.refreshTokens_stay hi hd.lt.le hrow
    obtain ⟨-, hs⟩ := Prod.mk.inj ((R.carried hd).eq_memory rfl)
    refine ⟨rec'.revoke t, ?_, rec'.revokedAt_revoke t⟩
    rw [hs, Map.get?_modify, hrec', Option.map_some, if_pos rfl]
  obtain ⟨rec', hrec', hne⟩ := refreshToken_stays_revoked hmj hj hrevoked
  rw [hhash, hrec'] at hrec
  exact Option.some.inj hrec ▸ hne

/-- An access token that is in the table is revoked by a revocation by its grant. -/
lemma accessToken_revoked {m j pid : ℕ} {p : Proc (server P config backend)} {g : String} {t : ℕ}
    (hd : R.Does m pid p ⟨.db (.accessTokensRevokeByGrant g t), .ok ()⟩) (hmj : m < j)
    (hj : j ≤ R.len)
    {jti : String} {rec : AccessTokenRecord} (hrow : (R.store m).accessTokens.get? jti = some rec)
    (hg : rec.grantId = g) :
    ∃ rec, (R.store j).accessTokens.get? jti = some rec ∧ rec.revokedAt ≠ none := by
  refine accessToken_stays_revoked hmj hj ⟨rec.revoke t, ?_, rec.revokedAt_revoke t⟩
  rw [(R.carried hd).accessTokensRevokeByGrant, hrow, Option.map_some, if_pos hg]

/-- A request that takes a step has not been answered before. -/
lemma not_answered_of_does {m k pid : ℕ} {p : Proc (server P config backend)} {e : Event}
    (hmk : m ≤ k)
    (hd : R.Does k pid p e) : ¬R.IsAnswered m pid := by
  rintro ⟨req, past, reply, hp⟩
  have hstays := R.proc_stays hmk hd.lt.le hp fun _ _ h => by cases h
  obtain rfl := Option.some.inj (hstays.symm.trans hd.proc)
  obtain ⟨_, htodo, -⟩ := hd.todo
  cases htodo

/-- **An access token of the grant that is unrevoked afterwards was stored by a refresh** that had
found the refresh token unrevoked before the revocation, and stored the access token after it. -/
lemma unrevoked_refreshed {m m' i j pid pid' : ℕ} {p p' : Proc (server P config backend)}
    {record : RefreshTokenRecord} {t : ℕ} (hmm' : m < m')
    (hd : R.Does m pid p ⟨.db (.refreshTokensRevoke record.tokenHash t), .ok ()⟩) (hi : i ≤ m)
    (hrow : (R.store i).refreshTokens.get? record.tokenHash = some record)
    (hd' : R.Does m' pid' p' ⟨.db (.accessTokensRevokeByGrant record.grantId t), .ok ()⟩)
    (hmj : m' < j)
    (hj : j ≤ R.len) {jti : String} {rec : AccessTokenRecord}
    (hrec : (R.store j).accessTokens.get? jti = some rec) (hg : rec.grantId = record.grantId)
    (hunrevoked : rec.revokedAt = none) :
    ∃ f k rpid q q' tokenHash rt, f < m ∧ m' < k ∧ q.req.route = .token ∧
      R.Does f rpid q ⟨.db (.refreshTokensFindByHash tokenHash), .ok (some rt)⟩ ∧
      rt.grantId = record.grantId ∧ rt.revokedAt = none ∧
      R.Does k rpid q' ⟨.db (.accessTokensInsert rec.fresh), .ok ()⟩ := by
  obtain ⟨hkey, k, hk, hc⟩ := R.accessTokens_origin hj hrec
  have hcalls := hc
  obtain ⟨rpid, q, ⟨⟩, hdk, input, hx, _, _, t', token, -, hrecord⟩ := hc.justified
  have hgrant : record.grantId = input.grantId :=
    hg.symm.trans (congrArg AccessTokenRecord.grantId hrecord)
  have hlate : m' < k := by
    rcases Nat.lt_trichotomy m' k with hlt | rfl | hlt
    · exact hlt
    · cases hcalls.functional ⟨_, _, _, hd'⟩
    · -- the token was in the table when those of its grant were revoked
      have hstored : (R.store (k + 1)).accessTokens.get? rec.fresh.jti = some rec.fresh := by
        obtain ⟨-, hs⟩ := Prod.mk.inj ((R.carried hdk).eq_memory rfl)
        rw [hs]
        exact Map.get?_set_self _ _ _
      obtain ⟨rec', hrec', hfresh⟩ := R.accessTokens_stay hlt hd'.lt.le hstored
      have hg' : rec'.fresh.grantId = rec.fresh.fresh.grantId := by rw [hfresh]
      obtain ⟨rec'', hrec'', hne⟩ := accessToken_revoked hd' hmj hj hrec' (hg'.trans hg)
      obtain rfl := Option.some.inj (hrec''.symm.trans (hkey ▸ hrec))
      exact absurd hunrevoked hne
  cases hx with
  | code client jkt record' grant hx =>
    obtain ⟨-, a, ha, _, _, ⟨⟩, hda⟩ := R.refreshTokens_origin (by omega) hrow
    have := access_before_refresh hdk hx hda hgrant
    omega
  | refresh client jkt scope rt grant hx =>
    obtain ⟨hreq, -, -, presented, -, hfound, hfresh, -, -, hfind, -⟩ := hx
    have hrt : rt.grantId = record.grantId := by
      rw [← (R.grant_found le_rfl hdk.lt.le hdk.proc hfind).1]
      exact hgrant.symm
    obtain ⟨f, hf, q', hdf, hreq', -⟩ := R.did hdk.lt.le hdk.proc hfound
    have hfm : f < m := by
      rcases Nat.lt_trichotomy f m with hlt | rfl | hlt
      · exact hlt
      · cases (hdf.functional hd).2.2
      · exact absurd hfresh (refreshTokens_revoked hd hi hrow hlt hdf.lt.le
          (R.carried hdf).refreshTokensFindByHash hrt)
    exact ⟨f, k, rpid, q', q, _, rt, hfm, hlate, hreq' ▸ hreq.route, hdf, hrt, hfresh, hdk⟩

/-- **An access token of the grant that is unrevoked afterwards was stored by an overlapping
refresh**: one that had found the refresh token unrevoked before the revocation, and had not been
answered then. -/
lemma unrevoked_overlaps {m m' i j pid pid' : ℕ} {p p' : Proc (server P config backend)}
    {record : RefreshTokenRecord} {t : ℕ} (hmm' : m < m')
    (hd : R.Does m pid p ⟨.db (.refreshTokensRevoke record.tokenHash t), .ok ()⟩) (hi : i ≤ m)
    (hrow : (R.store i).refreshTokens.get? record.tokenHash = some record)
    (hd' : R.Does m' pid' p' ⟨.db (.accessTokensRevokeByGrant record.grantId t), .ok ()⟩)
    (hmj : m' < j)
    (hj : j ≤ R.len) {jti : String} {rec : AccessTokenRecord}
    (hrec : (R.store j).accessTokens.get? jti = some rec) (hg : rec.grantId = record.grantId)
    (hunrevoked : rec.revokedAt = none) :
    ∃ rpid q, R.proc m rpid = some q ∧ q.req.route = .token ∧
      (∃ e ∈ q.past, tokenFound e = some (record.grantId, none)) ∧ ¬R.IsAnswered m rpid := by
  obtain ⟨f, k, rpid, q, _, _, rt, hfm, hlate, hroute, hdf, hrt, hfresh, hdk⟩ :=
    unrevoked_refreshed hmm' hd hi hrow hd' hmj hj hrec hg hunrevoked
  obtain ⟨_, -, hafter⟩ := hdf.todo
  obtain ⟨q', hq', hreq, hpast⟩ := R.proc_mono hfm hd.lt.le hafter
  refine ⟨rpid, q', hq', ?_, ⟨_, hpast.mem (mem_past_last _ _), ?_⟩,
    not_answered_of_does (by omega) hdk⟩
  · rw [hreq]
    exact hroute
  · rw [← hrt, ← hfresh]
    rfl

/-- **A revocation is final** from a time on from which all tokens of the grant are revoked: a
request that accepts a token of the grant has found an unrevoked one, and a request that arrives
later finds none. -/
lemma RevocationIsFinal.of_revoked {n : ℕ} {g : String}
    (haccess : ∀ j, n ≤ j → j ≤ R.len → ∀ jti rec, (R.store j).accessTokens.get? jti = some rec →
      rec.grantId = g → rec.revokedAt ≠ none)
    (hrefresh : ∀ j, n ≤ j → j ≤ R.len → ∀ tokenHash rec,
      (R.store j).refreshTokens.get? tokenHash = some rec → rec.grantId = g →
      rec.revokedAt ≠ none) : R.RevocationIsFinal n g := by
  refine ⟨haccess, hrefresh, fun j rpid hnj hj hlate hacc => ?_⟩
  obtain ⟨req, past, reply, hp, -, e, he, hfound⟩ := hacc.unrevoked hj
  obtain ⟨f, hf, q, hdf, -⟩ := R.did hj hp he
  have hnf : n ≤ f := by
    by_contra hfn
    cases (hlate f (Nat.lt_of_not_le hfn) q e hdf).symm.trans hfound
  unfold tokenFound at hfound
  split at hfound
  · obtain ⟨hg, hunrevoked⟩ := Prod.mk.inj (Option.some.inj hfound)
    exact haccess f hnf hdf.lt.le _ _ (R.carried hdf).accessTokensFindByJti hg hunrevoked
  · obtain ⟨hg, hunrevoked⟩ := Prod.mk.inj (Option.some.inj hfound)
    exact hrefresh f hnf hdf.lt.le _ _ (R.carried hdf).refreshTokensFindByHash hg hunrevoked
  · cases hfound

/-- **The revocation of a refresh token is final for its whole grant**, when no refresh of the grant
overlaps it, however the requests that come later interleave.

**Proof sketch.** The grant has one refresh token, which stays revoked (`refreshTokens_revoked`),
and an unrevoked access token would have been stored by an overlapping refresh
(`unrevoked_overlaps`). So all tokens of the grant are revoked (`RevocationIsFinal.of_revoked`). -/
theorem refresh_revocation_final (R : ServerRun P config backend) {n pid : ℕ} {g : String}
    (hn : n ≤ R.len) (h : R.RefreshRevoked n pid g) (hno : R.NoRefreshOverlaps n pid g) :
    R.RevocationIsFinal n g := by
  obtain ⟨m, m', p, p', record, t, hmm', hmn, rfl, -, hd, hd', i, hi, hrow⟩ := h.steps hn
  refine .of_revoked (fun j hnj hj jti rec hrec hg hunrevoked => ?_)
    fun j hnj hj tokenHash rec hrec hg => refreshTokens_revoked hd hi hrow (by omega) hj hrec hg
  obtain ⟨rpid, q, hq, hroute, hfound, hunanswered⟩ :=
    unrevoked_overlaps hmm' hd hi hrow hd' (by omega) hj hrec hg hunrevoked
  exact hunanswered (hno m (by omega) (by rw [hd.proc]; rfl) rpid q hq hroute hfound)

/-- **The revocation of a refresh token is final when requests are processed one at a time.**

**Proof sketch.** A refresh that stored an unrevoked access token would have made one call on the
storage before the revocation and another one after it (`unrevoked_refreshed`), so it would be the
revocation itself. -/
theorem revocation_final_of_oneAtATime (R : ServerRun P config backend) (hone : R.OneAtATime)
    {n pid : ℕ} {g : String} (hn : n ≤ R.len) (h : R.RefreshRevoked n pid g) :
    R.RevocationIsFinal n g := by
  obtain ⟨m, m', p, p', record, t, hmm', hmn, rfl, hroute, hd, hd', i, hi, hrow⟩ := h.steps hn
  refine .of_revoked (fun j hnj hj jti rec hrec hg hunrevoked => ?_)
    fun j hnj hj tokenHash rec hrec hg => refreshTokens_revoked hd hi hrow (by omega) hj hrec hg
  obtain ⟨f, k, rpid, q, _, _, _, hfm, hmk, hrefresh, hdf, -, -, hdk⟩ :=
    unrevoked_refreshed hmm' hd hi hrow hd' (by omega) hj hrec hg hunrevoked
  obtain rfl := hone f m k rpid pid hfm (by omega) ⟨_, _, _, hdf⟩ ⟨_, _, _, hd⟩ ⟨_, _, _, hdk⟩
  obtain ⟨q', hq', hreq, -⟩ := R.proc_mono hfm.le hd.lt.le hdf.proc
  obtain rfl := Option.some.inj (hq'.symm.trans hd.proc)
  rw [hreq, hrefresh] at hroute
  cases hroute

end

end ServerRun

namespace Sample

/-! ## A revocation after a redemption -/

/-- Client `A` revokes its refresh token. -/
def revocation : HttpRequest := form .revoke (authentication "3" ++ [("token", .str refresh)]) none

/-- The redemption, the revocation of its refresh token, and an introspection of its access token.
-/
def revoking : List (Act system) :=
  redemption ++ .arrive revocation :: calls 3 10 ++ .arrive (introspect "4" "t") :: calls 4 8

/-- When the revocation is answered. -/
def revokedAt : ℕ := redemption.length + 11

/-- While the revocation is there, all token requests have been answered. -/
def refreshesAnswered (c : Conf system) : Bool :=
  c.procs[3]?.isNone || (List.range c.procs.length).all fun pid =>
    (c.answer pid).isSome || c.procs[pid]?.all fun p => p.req.route ≠ .token

/-- The revocation is carried out and answered. -/
def revocationShown (c : Conf system) : Bool :=
  c.answers 3 fun req past reply => req = revocation && reply.body = .empty &&
    past.contains ⟨.db (.accessTokensRevokeByGrant grantId 100000), .ok ()⟩

/-- The revocation is answered at its time, and the introspection at the end. -/
def revoked (t : List (TraceStep system) × Conf system) : Bool :=
  (t.1[revokedAt]?).any (fun s => revocationShown s.before) &&
  (t.1.all fun s => refreshesAnswered s.before) && refreshesAnswered t.2 && (t.2.answer 4).isSome

set_option maxRecDepth 4000 in
lemma revoking_trace : (system.trace ⟨world, []⟩ revoking).any revoked = true := by
  decide +kernel

/-- The run of the three. -/
def revokingRun : ServerRun platform Sample.config .memory :=
  .ofTrace world revoking world_initial revoked revoking_trace

/-- No refresh overlaps the revocation. -/
lemma revokingRun_noRefreshOverlaps : revokingRun.NoRefreshOverlaps revokedAt 3 grantId := by
  obtain ⟨steps, last, ht, h⟩ : ∃ steps last, revokingRun.HasTrace steps last ∧
    revoked (steps, last) = true := Run.hasTrace_ofTrace revoking_trace
  simp only [revoked, Bool.and_eq_true, List.all_eq_true] at h
  have hlen : revokedAt ≤ revokingRun.len := by decide
  intro k hk hthere pid p hp hroute _
  have hall : refreshesAnswered (revokingRun.conf k) = true :=
    ht.forall_conf (Q := fun c => refreshesAnswered c = true) h.1.1.2 h.1.2 (hk.trans hlen)
  simp only [refreshesAnswered, Bool.or_eq_true, List.all_eq_true, List.mem_range] at hall
  have hp : (revokingRun.conf k).procs[pid]? = some p := hp
  have hthere : (revokingRun.conf k).procs[3]?.isSome = true := hthere
  rcases hall with hnone | hall
  · rw [Option.isNone_iff_eq_none.mp hnone] at hthere
    cases hthere
  · rcases hall pid (List.getElem?_eq_some_iff.mp hp).1 with hanswered | hother
    · obtain ⟨⟨req, past, reply⟩, hanswer⟩ := Option.isSome_iff_exists.mp hanswered
      exact ⟨req, past, reply, Conf.answer_eq_some.mp hanswer⟩
    · rw [hp] at hother
      simp [hroute] at hother

/-- The revocation has been answered. -/
lemma revokingRun_refreshRevoked : revokingRun.RefreshRevoked revokedAt 3 grantId := by
  obtain ⟨steps, last, ht, h⟩ : ∃ steps last, revokingRun.HasTrace steps last ∧
    revoked (steps, last) = true := Run.hasTrace_ofTrace revoking_trace
  simp only [revoked, Bool.and_eq_true] at h
  obtain ⟨s, hs, hshown⟩ := (Option.any_eq_true _ _).mp h.1.1.1
  have hlen : revokedAt < revokingRun.len := by decide
  obtain ⟨s', hs', hb⟩ := ht.conf hlen
  obtain rfl := Option.some.inj (hs.symm.trans hs')
  unfold revocationShown Conf.answers at hshown
  split at hshown
  · rename_i req past reply hanswer
    simp only [Bool.and_eq_true, decide_eq_true_eq, List.contains_iff_mem] at hshown
    obtain ⟨⟨rfl, hbody⟩, hmem⟩ := hshown
    have hp := ht.answered hlen hs hanswer
    obtain ⟨m, -, q, hd, hreq, hpre⟩ := revokingRun.did hlen.le hp hmem
    have hrevokes := revokingRun.justified hd
    generalize hg : grantId = g at hrevokes
    cases hrevokes with
    | replay client jkt code _ hreplay hcode ho =>
      have hroute := hreplay.route
      rw [hreq] at hroute
      cases hroute
    | cascade record t hown =>
      obtain ⟨-, client, token, hauth, htoken, hresolves, howner⟩ := hown
      have hpast := (List.prefix_append _ _).trans hpre
      cases hresolves with
      | refreshToken _ hfound =>
        rw [hreq] at hauth htoken
        exact ⟨revocation, past, reply, client, token, record, hp, rfl, hbody, hauth.mono hpast,
          htoken, hpast.mem hfound, howner, rfl⟩
  · cases hshown

/-- The revocation is final. -/
theorem revoking_final : revokingRun.RefreshRevoked revokedAt 3 grantId ∧
    revokingRun.RevocationIsFinal revokedAt grantId :=
  ⟨revokingRun_refreshRevoked, revokingRun.refresh_revocation_final (by decide)
    revokingRun_refreshRevoked revokingRun_noRefreshOverlaps⟩

/-- The request that makes a call on the storage at a step. -/
def storagePid (s : TraceStep system) : Option ℕ :=
  match s.made with
  | some (pid, _, ⟨.db _, _⟩) => some pid
  | _ => none

/-- The calls on the storage are made by one request after the other. -/
def inOrder (t : List (TraceStep system) × Conf system) : Bool :=
  decide ((t.1.filterMap storagePid).Pairwise (· ≤ ·))

set_option maxRecDepth 4000 in
lemma revoking_inOrder : (system.trace ⟨world, []⟩ revoking).any inOrder = true := by
  decide +kernel

/-- The requests of the run are processed one at a time. -/
lemma revokingRun_oneAtATime : revokingRun.OneAtATime := by
  obtain ⟨⟨steps, last⟩, ht, h⟩ := (Option.any_eq_true _ _).mp revoking_inOrder
  have ht : revokingRun.HasTrace steps last := ht
  have hsorted := List.pairwise_filterMap.mp (of_decide_eq_true h)
  have hle : ∀ {i j pid pid'}, i < j → revokingRun.OnStorage i pid →
      revokingRun.OnStorage j pid' → pid ≤ pid' := by
    rintro i j pid pid' hij ⟨p, q, a, hd⟩ ⟨p', q', a', hd'⟩
    obtain ⟨s, hs, hmade⟩ := hd.traced ht
    obtain ⟨s', hs', hmade'⟩ := hd'.traced ht
    obtain ⟨hi, rfl⟩ := List.getElem?_eq_some_iff.mp hs
    obtain ⟨hj, rfl⟩ := List.getElem?_eq_some_iff.mp hs'
    exact List.pairwise_iff_getElem.mp hsorted i j hi hj hij pid (by rw [storagePid, hmade]) pid'
      (by rw [storagePid, hmade'])
  intro i j k pid pid' hij hjk hi hj hk
  exact le_antisymm (hle hjk hj hk) (hle hij hi hj)

/-- The revocation is final, since the requests are processed one at a time. -/
theorem revoking_oneAtATime_final : revokingRun.OneAtATime ∧
    revokingRun.RefreshRevoked revokedAt 3 grantId ∧
    revokingRun.RevocationIsFinal revokedAt grantId :=
  ⟨revokingRun_oneAtATime, revokingRun_refreshRevoked,
    revokingRun.revocation_final_of_oneAtATime revokingRun_oneAtATime (by decide)
      revokingRun_refreshRevoked⟩

end Sample

end Fapi2As
