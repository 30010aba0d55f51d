import Fapi2As.Sample
import Fapi2As.Server.Rows

set_option relaxedAutoImplicit false
set_option autoImplicit false

/-!
# From a push to its tokens

Every token belongs to a grant of its client, and the grant came from a push of that client. The
code that was exchanged for the first tokens of the grant carries what the push said through the
authorization: the redirect URI, the challenge and the key. Refreshes only narrow the scope.

## Main definitions

* `Fapi2As.ServerRun.GrantPush` — the push that a grant came from.
* `Fapi2As.ServerRun.BoundTo` — an exchange of a code that meets what a push said.
* `Fapi2As.ServerRun.TokenLineage` — where the tokens in the tables come from.

## Main results

* `Fapi2As.ServerRun.exchange_bound` — an exchange of a code is bound to the push of its grant.
* `Fapi2As.ServerRun.token_lineage` — every token has its lineage.
-/

namespace Fapi2As

open Js Async

/-- The scope tokens of `a` are scope tokens of `b`. -/
def ScopeWithin (a b : String) : Prop := ∀ s ∈ words a, s ∈ words b

lemma ScopeWithin.refl (a : String) : ScopeWithin a a := fun _ h => h

/-- The subset check of the token endpoint compares the scope tokens. -/
lemma scopeSubset_eq_true {a b : String} : scopeSubset a b = true ↔ ScopeWithin a b := by
  simp [scopeSubset, ScopeWithin]

/-- The subset check of the registration compares the scope tokens. -/
lemma scopeAllowed_eq_true {client : Client} {scope : String} :
    scopeAllowed client scope = true ↔ ScopeWithin scope client.metadata.scope := by
  simp [scopeAllowed, ScopeWithin]

/-- A refresh narrows the scope of its token. -/
lemma refreshScope_within {body : Params} {granted scope : String}
    (h : refreshScope body granted = .ok scope) : ScopeWithin scope granted := by
  unfold refreshScope at h
  split at h
  · obtain rfl := Except.ok.inj h
    exact .refl granted
  · simp only [bind_eq_ok, reject_eq_ok, Bool.not_eq_false, Except.ok.injEq] at h
    obtain ⟨_, hs, rfl⟩ := h
    exact scopeSubset_eq_true.mp hs

/-- The key of an accepted proof is determined by the proof. -/
lemma ProofAccepted.key_unique {P : Platform} {config : AppConfig} {header : Option DpopHeader}
    {ctx ctx' : DpopContext} {jkt jkt' : String} {q q' : List Event}
    (h : ProofAccepted P config header ctx jkt q)
    (h' : ProofAccepted P config header ctx' jkt' q') :
    jkt = jkt' := by
  obtain ⟨_, p, -, hp, hk, -⟩ := h
  obtain ⟨_, p', -, hp', hk', -⟩ := h'
  have hproof : p.proof = p'.proof := by simpa using hp.header_eq.symm.trans hp'.header_eq
  have hjwk : p.jwk = p'.jwk := by
    have hj := hp.jwk
    rw [hproof, hp'.jwk] at hj
    exact (Option.some.inj hj).symm
  rw [hjwk, hk'] at hk
  exact (Option.some.inj hk).symm

namespace ServerRun

section

variable {P : Platform} {config : AppConfig} {backend : Backend} (R : ServerRun P config backend)

/-- **The push that a grant came from**: the process that created the grant, at step `k`, had read a
pushed request and validated it for the client that it had loaded, within whose registered scope the
granted scope lies; the process `push` had stored it, authenticated as the client. -/
def GrantPush (k : ℕ) (g : GrantRecord) (push : Proc (server P config backend)) : Prop :=
  ∃ pid p pushed client request, R.Does k pid p ⟨.db (.grantsInsert g.fresh), .ok ()⟩ ∧
    RequestRead P p.past pushed.requestUri pushed client request ∧ client.clientId = g.clientId ∧
    request.scope = g.scope ∧ ScopeWithin g.scope client.metadata.scope ∧
    push.req.route = .par ∧
    (∃ j < k, ∃ pid', R.Does j pid' push ⟨.db (.parInsert pushed), .ok ()⟩) ∧
    ∃ client', Authenticated P config push.req.body client' push.past ∧
      client'.clientId = g.clientId

/-- **An exchange of a code that is bound to a push**: it is authenticated as the client, with the
redirect URI of the push, a verifier of its challenge, and a proof for its key, whether the push
named the key or was accompanied by a proof. -/
structure BoundTo (push p : Proc (server P config backend)) (clientId : String) : Prop where
  /-- It is a request to the token endpoint. -/
  route : p.req.route = .token
  /-- It exchanges a code. -/
  grantType : str (p.req.body.get "grant_type") = some "authorization_code"
  /-- It is authenticated as the client. -/
  authenticated : ∃ client, Authenticated P config p.req.body client p.past ∧
    client.clientId = clientId
  /-- Its redirect URI is the one of the push. -/
  redirect : ∃ uri, str (p.req.body.get "redirect_uri") = some uri ∧
    str (push.req.body.get "redirect_uri") = some uri
  /-- The hash of its verifier is the challenge of the push. -/
  verifier : ∃ v, str (p.req.body.get "code_verifier") = some v ∧
    str (push.req.body.get "code_challenge") = some (P.sha256Base64Url v)
  /-- Its key is the one that the push named, and the one that the push proved. -/
  key : ∃ jkt, ProofAccepted P config p.req.dpop (tokenDpopContext P config) jkt p.past ∧
    (∀ k ∈ str (push.req.body.get "dpop_jkt"), k = jkt) ∧
    ∀ header k, push.req.dpop = some header →
      ProofAccepted P config (some header) (parDpopContext P config) k push.past → k = jkt

/-- The process `p` exchanges a code of a grant, bound to the push that the grant came from. -/
def ExchangedFor (p : Proc (server P config backend)) (g : GrantRecord) : Prop :=
  ∃ k push, R.GrantPush k g push ∧ BoundTo push p g.clientId

/-- A refresh token in the table was issued by an exchange of a code of its grant, with at most the
scope of the grant. -/
def RefreshFrom (i : ℕ) (rec : RefreshTokenRecord) (g : GrantRecord) : Prop :=
  ScopeWithin rec.scope g.scope ∧ ∃ k < i, ∃ pid p,
    R.Does k pid p ⟨.db (.refreshTokensInsert rec.fresh), .ok ()⟩ ∧ R.ExchangedFor p g

/-- An access token in the table was issued by an exchange of a code of its grant, or by the use of
a refresh token of the grant, with at most the scope of the refresh token. -/
inductive AccessFrom (i : ℕ) (rec : AccessTokenRecord) (g : GrantRecord) : Prop
  | code (k pid : ℕ) (p : Proc (server P config backend)) (lt : k < i)
      (stored : R.Does k pid p ⟨.db (.accessTokensInsert rec.fresh), .ok ()⟩)
      (exchange : R.ExchangedFor p g) (scope : ScopeWithin rec.scope g.scope)
  | refresh (k pid : ℕ) (p : Proc (server P config backend)) (token : String)
      (rt : RefreshTokenRecord) (lt : k < i)
      (stored : R.Does k pid p ⟨.db (.accessTokensInsert rec.fresh), .ok ()⟩)
      (route : p.req.route = .token)
      (grantType : str (p.req.body.get "grant_type") = some "refresh_token")
      (presented : str (p.req.body.get "refresh_token") = some token)
      (found : ⟨.db (.refreshTokensFindByHash (P.sha256Base64Url token)), .ok (some rt)⟩ ∈ p.past)
      (owner : rt.clientId = rec.clientId) (scope : ScopeWithin rec.scope rt.scope)
      (origin : R.RefreshFrom k rt g)

/-- **Where the tokens and grants in the tables come from.** -/
structure TokenLineage (i : ℕ) : Prop where
  /-- An access token belongs to a grant of its client and subject. -/
  access : ∀ jti rec, (R.store i).accessTokens.get? jti = some rec →
    ∃ g, (R.store i).grants.get? rec.grantId = some g ∧ rec.clientId = g.clientId ∧
      rec.subject = g.subject ∧ R.AccessFrom i rec g
  /-- A refresh token belongs to a grant of its client. -/
  refresh : ∀ tokenHash rec, (R.store i).refreshTokens.get? tokenHash = some rec →
    ∃ g, (R.store i).grants.get? rec.grantId = some g ∧ rec.clientId = g.clientId ∧
      R.RefreshFrom i rec g
  /-- A grant came from a push of its client. -/
  grant : ∀ id g, (R.store i).grants.get? id = some g → ∃ k push, k < i ∧ R.GrantPush k g push

variable {R}

/-- **A created grant came from a push of its client**, which stored what the code will carry. -/
lemma grant_pushed {k pid : ℕ} {p : Proc (server P config backend)} (hk : k ≤ R.len)
    (hp : R.proc k pid = some p) {q : List Event} (hq : q <+: p.past) {uri : String}
    {client : Client} {request : ValidatedAuthorizationRequest} {session : LoginSession}
    {ua : Option Bool} (h : CodeAuthorized P config p.req q uri client request session ua) :
    ∃ pushed, RequestRead P p.past uri pushed client request ∧ pushed.requestUri = uri ∧
      client.clientId = pushed.clientId ∧ ∃ j < k, ∃ pid' push,
        R.Does j pid' push ⟨.db (.parInsert pushed), .ok ()⟩ ∧
          PushStores P config push.req push.past pushed := by
  obtain ⟨q₁, t, consumed, rfl, hauthorizes, -⟩ := h
  obtain ⟨pushed, hread⟩ := (hauthorizes.mono ((List.prefix_append _ _).trans hq)).read
  obtain ⟨huri, hname, hpush⟩ := R.read_pushed hk hp hread
  exact ⟨pushed, hread, huri, hname, hpush⟩

/-- What a code carries is what the push said: the redirect URI, the challenge, and the key that the
push named or proved. -/
lemma push_carried {push : Proc (server P config backend)} {pushed : ParRequestRecord}
    {client : Client} {request : ValidatedAuthorizationRequest}
    (hthumb : ∀ jwk k, P.calculateJwkThumbprint jwk = some k → k ≠ "")
    (h : PushStores P config push.req push.past pushed)
    (hv : validateAuthorizationRequest (storedBody pushed.params) client = .ok request) :
    str (push.req.body.get "redirect_uri") = some request.redirectUri ∧
      str (push.req.body.get "code_challenge") = some request.codeChallenge ∧
      (∀ k ∈ str (push.req.body.get "dpop_jkt"), k ≠ "" ∧ request.dpopJkt = some k) ∧
      ∀ header k, push.req.dpop = some header →
        ProofAccepted P config (some header) (parDpopContext P config) k push.past →
        k ≠ "" ∧ request.dpopJkt = some k := by
  obtain ⟨-, client', jkt, -, hproof, _, _, v, dpopJkt, _, -, hvalid, hbound, rfl⟩ := h
  obtain ⟨hredirect, hchallenge, hkey⟩ := (Validated.of_eq_ok hv).of_stored
  have hjkt : ∀ header k, push.req.dpop = some header →
      ProofAccepted P config (some header) (parDpopContext P config) k push.past →
      jkt = some k ∧ k ≠ "" := by
    intro header k hd hacc
    unfold PushProof at hproof
    simp only [hd] at hproof
    obtain ⟨k', rfl, hacc'⟩ := hproof
    obtain rfl := hacc.key_unique hacc'
    obtain ⟨_, p, -, -, hk, -⟩ := hacc
    exact ⟨rfl, hthumb _ _ hk⟩
  refine ⟨by rw [hvalid.redirect_eq, hredirect], by rw [hvalid.challenge_eq, hchallenge],
    fun k hk => ?_, fun header k hd hacc => ?_⟩
  · have hne : k ≠ "" := by
      rintro rfl
      have hform := hvalid.dpopJkt "" (hvalid.dpopJkt_eq ▸ hk)
      simp [isJkt] at hform
    refine ⟨hne, hkey k ?_ hne⟩
    have hvk : v.dpopJkt = some k := hvalid.dpopJkt_eq.trans hk
    unfold boundDpopJkt at hbound
    split at hbound
    · exact (Except.ok.inj hbound).symm.trans hvk
    · rename_i jkt' _
      simp only [bind_eq_ok, reject_eq_ok, Except.ok.injEq] at hbound
      obtain ⟨_, hsame, rfl⟩ := hbound
      simp only [hvk, Option.mem_def, Option.some.injEq] at hsame ⊢
      by_contra hc
      exact hsame ⟨k, rfl, hne, Ne.symm hc⟩
  · obtain ⟨rfl, hne⟩ := hjkt header k hd hacc
    refine ⟨hne, hkey k ?_ hne⟩
    unfold boundDpopJkt at hbound
    rw [Option.filter_some, if_pos (by simpa using hne)] at hbound
    simp only [bind_eq_ok, reject_eq_ok, Except.ok.injEq] at hbound
    obtain ⟨_, -, rfl⟩ := hbound
    rfl

/-- The process that inserts a code has inserted its grant before. -/
lemma code_grant {b pid : ℕ} {p : Proc (server P config backend)} {rec : AuthorizationCodeRecord}
    {g : GrantRecord} {q₀ : List Event} {t : ℕ} {gid code : String}
    (hd : R.Does b pid p ⟨.db (.codesInsert rec), .ok ()⟩)
    (hpast : p.past = q₀ ++ [⟨.now, t⟩, ⟨.randomUUID, gid⟩, ⟨.db (.grantsInsert g), .ok ()⟩,
      ⟨.randomBytes 32, code⟩]) :
    ∃ k < b, ∃ p', R.Does k pid p' ⟨.db (.grantsInsert g), .ok ()⟩ ∧ p'.req = p.req ∧
      p'.past = q₀ ++ [⟨.now, t⟩, ⟨.randomUUID, gid⟩] :=
  R.did_at (Nat.le_of_lt hd.lt) hd.proc (hpast.trans (List.append_assoc q₀ [_, _] _).symm)

/-- A grant that is found is the one that was inserted under its id. -/
lemma found_grant {k : ℕ} {g : GrantRecord} (hk : R.Calls k (.grantsInsert g)) {i pid : ℕ}
    {p : Proc (server P config backend)} (hi : i ≤ R.len) (hp : R.proc i pid = some p) {id : String}
    {grant : GrantRecord} (hfind : ⟨.db (.grantsFind id), .ok (some grant)⟩ ∈ p.past)
    (hid : id = g.grantId) : grant.fresh = g := by
  obtain ⟨c, hc, _, hdc, -⟩ := R.did hi hp hfind
  obtain ⟨hkey, m, -, hm⟩ := R.grants_origin (by omega) (R.carried hdc).grantsFind
  obtain rfl :=
    grants_insert_once hm hk (show grant.fresh.grantId = g.grantId by rw [← hid, ← hkey]; rfl)
  exact Query.grantsInsert.inj (hm.functional hk)

/-- **An exchange of a code is bound to the push of its grant.**

**Proof sketch.** The redeemed code was inserted by the process that had just created the grant, and
both carry the request that was read back from the push. The checks of the redemption compare the
exchange with the code. -/
lemma exchange_bound (hthumb : ∀ jwk k, P.calculateJwkThumbprint jwk = some k → k ≠ "")
    {i pid : ℕ} {p : Proc (server P config backend)} (hi : i ≤ R.len) (hp : R.proc i pid = some p)
    {client : Client} {jkt : String} {record : AuthorizationCodeRecord} {grant : GrantRecord}
    (h : CodeExchange P config p.req p.past client jkt record grant) :
    R.ExchangedFor p grant ∧ client.clientId = grant.clientId := by
  obtain ⟨hreq, hgt, code, hcode, ⟨t, hredeem⟩, hchecked, hfind, -⟩ := h
  obtain ⟨a, ha, q, hda, -⟩ := R.did hi hp hredeem
  obtain ⟨row, hrow, rfl, -⟩ := (R.carried hda).codesRedeem
  obtain ⟨-, b, hb, hcalls⟩ := R.codes_origin (by omega) hrow
  obtain ⟨pid', p', _, hdb, hcreated⟩ := hcalls.justified
  obtain ⟨uri, client', request, session, ua, q₀, t', gid, code', hauth, hpast, hrec⟩ := hcreated
  -- The grant is the one that the same process had inserted before.
  obtain ⟨k, hk, p'', hdk, hreq', hpast'⟩ := code_grant hdb hpast
  have hgrant : grant.fresh = grantRecord gid client' session.user request t' :=
    found_grant ⟨pid', p'', (), hdk⟩ hi hp hfind (by rw [hrec]; rfl)
  have hclient : grant.clientId = client'.clientId := congrArg GrantRecord.clientId hgrant
  have hscope : grant.scope = request.scope := congrArg GrantRecord.scope hgrant
  have hauth' : CodeAuthorized P config p''.req q₀ uri client' request session ua := by
    rw [hreq']
    exact hauth
  obtain ⟨pushed, hread, huri, hname, j, hj, pidp, push, hpush, hstores⟩ :=
    grant_pushed (Nat.le_of_lt hdk.lt) hdk.proc (hpast' ▸ List.prefix_append _ _) hauth'
  have hcid : client.clientId = grant.clientId := by
    rw [hclient, ← hchecked.client, hrec]
    rfl
  have hstored := hstores
  obtain ⟨hroute, client'', _, hauthn, -, _, _, v, _, _, -, -, -, hpushed⟩ := hstored
  have hcid' : client''.clientId = grant.clientId := by
    rw [hclient, hname, hpushed]
    rfl
  obtain ⟨hredirect, hchallenge, hnamed, hproved⟩ := push_carried hthumb hstores hread.valid
  refine ⟨⟨k, push, ⟨pid', p'', pushed, client', request, hgrant ▸ hdk, huri ▸ hread, hclient.symm,
    hscope.symm, ?_, hroute, ⟨j, hj, pidp, hpush⟩, client'', hauthn, hcid'⟩, ?_⟩, hcid⟩
  · rw [hscope]
    exact scopeAllowed_eq_true.mp (Validated.of_eq_ok hread.valid).scope
  · have hkeyed : ∀ k, k ≠ "" → request.dpopJkt = some k → k = jkt := fun k hne hk =>
      hchecked.key k (by rw [hrec]; exact hk) hne
    obtain ⟨v', hv', hpkce⟩ := hchecked.pkce
    unfold verifyS256 at hpkce
    simp only [Bool.and_eq_true, decide_eq_true_eq] at hpkce
    exact
      { route := hreq.route
        grantType := hgt
        authenticated := ⟨client, hreq.client, hcid⟩
        redirect := ⟨request.redirectUri, by rw [hchecked.redirect, hrec]; rfl, hredirect⟩
        verifier := ⟨v', hv', by rw [hpkce.2, hchallenge, hrec]; rfl⟩
        key := ⟨jkt, hreq.proof, fun k hk => hkeyed k (hnamed k hk).1 (hnamed k hk).2,
          fun header k hd hacc => hkeyed k (hproved header k hd hacc).1
            (hproved header k hd hacc).2⟩ }

/-- The exchanges for a grant do not depend on its revocation. -/
lemma ExchangedFor.congr {p : Proc (server P config backend)} {g g' : GrantRecord}
    (h : R.ExchangedFor p g) (hg : g.fresh = g'.fresh) : R.ExchangedFor p g' := by
  have h : R.ExchangedFor p g.fresh := h
  rw [hg] at h
  exact h

/-- **A refresh token in the table was issued by an exchange of a code of its grant.** -/
lemma refresh_lineage (hthumb : ∀ jwk k, P.calculateJwkThumbprint jwk = some k → k ≠ "") {i : ℕ}
    (hi : i ≤ R.len) {tokenHash : String} {rec : RefreshTokenRecord}
    (h : (R.store i).refreshTokens.get? tokenHash = some rec) :
    ∃ g, (R.store i).grants.get? rec.grantId = some g ∧ rec.clientId = g.clientId ∧
      R.RefreshFrom i rec g := by
  obtain ⟨-, j, hj, hc⟩ := R.refreshTokens_origin hi h
  obtain ⟨pid, p, ⟨⟩, hd, client, jkt, record, grant, hx, _, token, t, -, hrec⟩ := hc.justified
  obtain ⟨hex, hclient⟩ := exchange_bound hthumb (Nat.le_of_lt hd.lt) hd.proc hx
  obtain ⟨-, -, _, -, -, -, hfind, -⟩ := hx
  obtain ⟨hid, g, hg, hsame⟩ := R.grant_found (by omega) hi hd.proc hfind
  have hkey : rec.grantId = grant.grantId := congrArg RefreshTokenRecord.grantId hrec
  have hscope : rec.scope = grant.scope := congrArg RefreshTokenRecord.scope hrec
  obtain ⟨hgclient, -, hgscope⟩ := GrantRecord.eq_of_fresh hsame
  refine ⟨g, by rw [hkey, hid, hg], ?_, ?_, j, hj, pid, p, hd, hex.congr hsame.symm⟩
  · rw [hgclient, ← hclient]
    exact congrArg RefreshTokenRecord.clientId hrec
  · rw [hscope, hgscope]
    exact .refl _

/-- **An access token in the table was issued by an exchange of a code of its grant, or by the use
of a refresh token that was.** -/
lemma access_lineage (hthumb : ∀ jwk k, P.calculateJwkThumbprint jwk = some k → k ≠ "") {i : ℕ}
    (hi : i ≤ R.len) {jti : String} {rec : AccessTokenRecord}
    (h : (R.store i).accessTokens.get? jti = some rec) :
    ∃ g, (R.store i).grants.get? rec.grantId = some g ∧ rec.clientId = g.clientId ∧
      rec.subject = g.subject ∧ R.AccessFrom i rec g := by
  obtain ⟨-, j, hj, hc⟩ := R.accessTokens_origin hi h
  obtain ⟨pid, p, ⟨⟩, hd, input, hx, _, _, t, token, -, hrec⟩ := hc.justified
  have hkey : rec.grantId = input.grantId := congrArg AccessTokenRecord.grantId hrec
  have hclient : rec.clientId = input.clientId := congrArg AccessTokenRecord.clientId hrec
  have hsubject : rec.subject = input.subject := congrArg AccessTokenRecord.subject hrec
  have hscope : rec.scope = input.scope := congrArg AccessTokenRecord.scope hrec
  cases hx with
  | code client jkt record grant hx =>
    obtain ⟨hex, hcid⟩ := exchange_bound hthumb (Nat.le_of_lt hd.lt) hd.proc hx
    obtain ⟨-, -, _, -, -, -, hfind, -⟩ := hx
    obtain ⟨hid, g, hg, hsame⟩ := R.grant_found (by omega) hi hd.proc hfind
    obtain ⟨hgclient, hgsubject, hgscope⟩ := GrantRecord.eq_of_fresh hsame
    refine ⟨g, by rw [hkey, ← hg, ← hid]; rfl, (hclient.trans hcid).trans hgclient.symm,
      hsubject.trans hgsubject.symm, .code j pid p hj hd (hex.congr hsame.symm) ?_⟩
    rw [hscope, hgscope]
    exact .refl _
  | refresh client jkt scope rt grant hx =>
    obtain ⟨hreq, hgt, hs, token, htoken, hfound, -, -, howner, hfind, -⟩ := hx
    obtain ⟨hid, g, hg, hsame⟩ := R.grant_found (by omega) hi hd.proc hfind
    obtain ⟨m, hm, q, hdm, -⟩ := R.did (Nat.le_of_lt hd.lt) hd.proc hfound
    obtain ⟨g', hg', hcid, hwithin, k, hk, pidk, pk, hdk, hex⟩ :=
      refresh_lineage hthumb (Nat.le_of_lt hdm.lt) (R.carried hdm).refreshTokensFindByHash
    have hsame' : g'.fresh = g.fresh := grants_same (Nat.le_of_lt hdm.lt) hi hg' hg
    obtain ⟨-, hgsubject, -⟩ := GrantRecord.eq_of_fresh hsame
    obtain ⟨hgclient, -, hgscope⟩ := GrantRecord.eq_of_fresh hsame'
    refine ⟨g, by rw [hkey, ← hg, ← hid]; rfl, ?_, hsubject.trans hgsubject.symm,
      .refresh j pid p token rt hj hd hreq.route hgt htoken hfound ?_ ?_
        ⟨hgscope ▸ hwithin, k, by omega, pidk, pk, hdk, hex.congr hsame'⟩⟩
    · rw [hclient, ← hgclient, ← hcid, howner]
      rfl
    · exact howner.trans hclient.symm
    · rw [hscope]
      exact refreshScope_within hs

/-- **Every token has its lineage**, when thumbprints are not empty.

**Proof sketch.** A row in a table was inserted by an exchange. The exchange of a code is bound to
the push of its grant; the use of a refresh token leads back to the row that it found. -/
theorem token_lineage (R : ServerRun P config backend)
    (hthumb : ∀ jwk k, P.calculateJwkThumbprint jwk = some k → k ≠ "") {i : ℕ} (hi : i ≤ R.len) :
    R.TokenLineage i where
  access _ _ h := access_lineage hthumb hi h
  refresh _ _ h := refresh_lineage hthumb hi h
  grant id g h := by
    obtain ⟨-, k, hk, hc⟩ := R.grants_origin hi h
    obtain ⟨pid, p, ⟨⟩, hd, uri, client, request, session, ua, q₀, t, gid, hauth, hpast, hrec⟩ :=
      hc.justified
    obtain ⟨pushed, hread, huri, hname, j, hj, pidp, push, hpush, hroute, client', _, hauthn, -, _,
        _, _, _, _, -, -, -, hpushed⟩ :=
      grant_pushed (Nat.le_of_lt hd.lt) hd.proc (hpast ▸ List.prefix_append _ _) hauth
    have hclient : g.clientId = client.clientId := congrArg GrantRecord.clientId hrec
    have hscope : g.scope = request.scope := congrArg GrantRecord.scope hrec
    refine ⟨k, push, hk, pid, p, pushed, client, request, hd, huri ▸ hread, hclient.symm,
      hscope.symm, ?_, hroute, ⟨j, hj, pidp, hpush⟩, client', hauthn, ?_⟩
    · rw [hscope]
      exact scopeAllowed_eq_true.mp (Validated.of_eq_ok hread.valid).scope
    · rw [hclient, hname, hpushed]
      rfl

end

end ServerRun

namespace Sample

/-- The redemption of a code with its tokens. -/
def redemption : List (Act system) := authorized ++ redeemed ++ issued

/-- The access token is in the table at the end. -/
def tokenStored (t : List (TraceStep system) × Conf system) : Bool :=
  t.2.world.store.accessTokens.get? jti = some accessRow

set_option maxRecDepth 4000 in
lemma redemption_trace : (system.trace ⟨world, []⟩ redemption).any tokenStored = true := by
  decide +kernel

/-- The run of a redemption. -/
def redemptionRun : ServerRun platform config .memory :=
  .ofTrace world redemption world_initial tokenStored redemption_trace

/-- The thumbprints of the sample platform are not empty. -/
lemma thumbprint_ne_empty (jwk : Json) (k : String)
    (h : platform.calculateJwkThumbprint jwk = some k) : k ≠ "" := by
  change assoc jwk tables.thumbprints = some k at h
  simp only [tables, assoc] at h
  split_ifs at h
  rw [← Option.some.inj h]
  decide

/-- The access token of the redemption has its lineage. -/
theorem redemption_lineage :
    (redemptionRun.store redemptionRun.len).accessTokens.get? jti = some accessRow ∧
      redemptionRun.TokenLineage redemptionRun.len := by
  obtain ⟨steps, last, ht, h⟩ : ∃ steps last, redemptionRun.HasTrace steps last ∧
    tokenStored (steps, last) = true := Run.hasTrace_ofTrace redemption_trace
  refine ⟨?_, ServerRun.token_lineage redemptionRun thumbprint_ne_empty le_rfl⟩
  rw [ServerRun.store, Run.world, ht.last]
  simpa [tokenStored] using h

end Sample

end Fapi2As
