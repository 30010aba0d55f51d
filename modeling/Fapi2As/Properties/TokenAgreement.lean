import Fapi2As.Properties.Lineage
import Fapi2As.Server.TokenQueries
import Fapi2As.Server.TokenReplies

set_option relaxedAutoImplicit false
set_option autoImplicit false

/-!
# Signed token, introspection and resource endpoint agree

An access token is issued twice: as the signed claims of a JWT, in seconds, and as a row, in
milliseconds. Introspection answers from the row, and the userinfo endpoint repeats its checks. In
every state of every run they agree about the token, and what introspection says of it was signed.

## Main definitions

* `Fapi2As.ServerRun.Issued` — an access token was issued.
* `Fapi2As.Introspected`, `Fapi2As.PresentedWith` — requests about it, served in a state.
* `Fapi2As.EndpointsAgree` — the agreement.

## Main results

* `Fapi2As.ServerRun.endpoints_agree` — it holds in every state of every run.
-/

namespace Fapi2As

open Js Async

variable {P : Platform} {config : AppConfig} {backend : Backend}

/-! ## Requests about a token -/

/-- An introspection of a token by a client that is authenticated, served in a state in which
nothing fails. -/
def Introspected (P : Platform) (config : AppConfig) (backend : Backend) (w : World)
    (token clientId : String) (reply : Reply) : Prop :=
  ∃ req client es w', RunsAlone P config backend (handler P config req) w es (.ok reply) w' ∧
    req.route = .introspect ∧ req.method = "POST" ∧ str (req.body.get "token") = some token ∧
    AuthenticatedAs P config req client es ∧ client.clientId = clientId ∧ Unfailing es

/-- A token is presented to the userinfo endpoint with a proof that passes its verification and is
made with a key, in a state in which nothing fails. -/
def PresentedWith (P : Platform) (config : AppConfig) (backend : Backend) (w : World)
    (token jkt : String) (reply : Reply) : Prop :=
  ∃ req es w', RunsAlone P config backend (handler P config req) w es (.ok reply) w' ∧
    req.route = .userinfo ∧ (isGet req.method = true ∨ req.method = "POST") ∧
    req.authorization.bind dpopCredentials = some token ∧ Unfailing es ∧
    ∃ es' w'', RunsAlone P config backend (verifyDpopProof P config req.dpop
      (userinfoDpopContext P config req.method token)) w es' (.ok jkt) w''

/-- A reply says that a token is active. -/
def Reply.isActive (reply : Reply) : Prop := reply.field "active" = some (.bool true)

lemma not_isActive_inactive : ¬(onSend inactive).isActive := by
  simp [Reply.isActive, Reply.field, inactive, Params.get, assoc]

/-- The claims that introspection repeats. -/
def introspectedClaims : List String :=
  ["iss", "aud", "sub", "client_id", "scope", "exp", "jti", "cnf"]

/-- **The endpoints agree about an access token in a state.** -/
structure EndpointsAgree (P : Platform) (config : AppConfig) (backend : Backend) (w : World)
    (input : TokenIssuanceInput) (token : String) : Prop where
  /-- The owner is told that it is active exactly when the userinfo endpoint accepts it. -/
  accepted : ∀ reply reply', Introspected P config backend w token input.clientId reply →
    PresentedWith P config backend w token input.cnfJkt reply' →
    (reply.isActive ↔ reply'.status = 200)
  /-- What the owner is told of an active token was signed. -/
  claims : ∀ reply, Introspected P config backend w token input.clientId reply → reply.isActive →
    ∀ name ∈ introspectedClaims, ∃ v, reply.field name = some v ∧
      (P.jwtClaims token).get name = some v
  /-- The signed expiry is the stored one, rounded down to a second. -/
  expiry : ∃ record, (P.jwtClaims token).get "jti" = some (.str record.jti) ∧
    w.store.accessTokens.get? record.jti = some record ∧
    (P.jwtClaims token).get "exp" = some record.expiresAt.seconds ∧
    ∀ e, record.expiresAt = some e → ∃ s : ℤ, (P.jwtClaims token).get "exp" = some (.num s) ∧
      s * 1000 ≤ e ∧ e < s * 1000 + 1000

/-! ## The answers -/

section Answers

variable {w : World} {token clientId jkt : String} {reply : Reply} {ks : List SigningKeyRecord}

/-- An introspection is answered with the state of the token. -/
lemma Introspected.eq (h : Introspected P config backend w token clientId reply)
    (hks : w.keys = some ks) :
    ∃ hint, reply = onSend (w.introspection P config clientId token hint) := by
  obtain ⟨req, client, es, w', halone, hroute, hmethod, htoken, hauth, rfl, hok⟩ := h
  obtain ⟨hsame, hreply⟩ := alone_introspect halone hroute hmethod hauth hok htoken
  rw [hsame.introspection ((hsame.keys ks hks).trans hks.symm)] at hreply
  exact ⟨_, hreply⟩

/-- A token that is introspected is not empty. -/
lemma Introspected.ne_empty (h : Introspected P config backend w token clientId reply) :
    token ≠ "" := by
  obtain ⟨req, client, es, w', -, -, -, htoken, -⟩ := h
  exact str_ne_empty htoken

/-- A token is accepted with a proof that passes exactly when it is alive and bound to its key. -/
lemma PresentedWith.status (h : PresentedWith P config backend w token jkt reply)
    (hks : w.keys = some ks) (hne : token ≠ "") :
    reply.status = 200 ↔ ∃ record, ProofAsked P config w token record jkt := by
  obtain ⟨req, es, w', halone, hroute, hmethod, htoken, hok, es', w'', hpasses⟩ := h
  obtain ⟨w₁, hloaded, hanswer⟩ := alone_userinfo halone hroute hmethod htoken hne hok
  obtain rfl := hloaded.eq hks
  rcases hanswer with ⟨hnot, hstatus⟩ | ⟨record, cnfJkt, es₁, x, hasked, hrun, hok₁, rfl⟩
  · constructor
    · intro h
      rw [hstatus] at h
      cases h
    · rintro ⟨record, hasked⟩
      exact absurd ⟨record, jkt, hasked⟩ hnot
  · obtain rfl := verifyDpopProof_decided hpasses hrun hok₁
    rw [onSend_status, userinfoReply]
    by_cases hkey : jkt = cnfJkt
    · rw [if_neg (not_not.mpr hkey)]
      exact ⟨fun _ => ⟨record, hkey ▸ hasked⟩, fun _ => rfl⟩
    · rw [if_pos hkey]
      refine ⟨fun h => (by cases h), ?_⟩
      rintro ⟨record', hasked'⟩
      obtain rfl := Option.some.inj (hasked.found.symm.trans hasked'.found)
      exact absurd (Option.some.inj (hasked'.bound.symm.trans hasked.bound)) hkey

/-- What a client is told of its access token, which is bound to a key. -/
lemma introspection_accessToken {hint : Option String} {record : AccessTokenRecord}
    (hrefresh : w.refreshToken P token = none)
    (hfound : w.accessToken P config token = some record) (howner : record.clientId = clientId) :
    w.introspection P config clientId token hint =
      if record.isLive w.clock then
        { headers := [noStore], body := .json (accessTokenActive config record) }
      else inactive := by
  have hresolved : w.resolved P config token hint = some (.accessToken record) := by
    simp [World.resolved, hrefresh, hfound]
  unfold World.introspection
  rw [hresolved]
  dsimp only
  rw [if_neg (not_not.mpr
      (show (ResolvedToken.accessToken record).clientId = clientId from howner)),
    introspectionOf]
  by_cases hlive : record.isLive w.clock = true
  · rw [if_pos hlive, if_neg (AccessTokenRecord.isLive_iff.mp hlive)]
  · rw [if_neg hlive, if_pos (not_not.mp (mt AccessTokenRecord.isLive_iff.mpr hlive))]

/-- Nothing is said of a token that resolves to no record. -/
lemma introspection_unknown {hint : Option String} (hrefresh : w.refreshToken P token = none)
    (hnone : w.accessToken P config token = none) :
    w.introspection P config clientId token hint = inactive := by
  simp [World.introspection, World.resolved, hrefresh, hnone]

end Answers

/-! ## What was issued -/

/-- The signed claims of an access token. -/
lemma accessTokenClaims_get (config : AppConfig) (input : TokenIssuanceInput) (jti : String)
    (t : ℕ) :
    let claims := accessTokenClaims config input jti t
    claims.get "iss" = some (.str config.issuer) ∧
      claims.get "aud" = some (.str config.accessTokenAudience) ∧
      claims.get "sub" = some (.str input.subject) ∧
      claims.get "client_id" = some (.str input.clientId) ∧
      claims.get "exp" = some (accessTokenExpiry config t).seconds ∧
      claims.get "jti" = some (.str jti) ∧ claims.get "scope" = some (.str input.scope) ∧
      claims.get "cnf" = some (.obj [("jkt", .str input.cnfJkt)]) := by
  simp [accessTokenClaims, Params.get, assoc]

/-- What introspection says of an active access token that is bound to a key. -/
lemma accessTokenActive_get (config : AppConfig) {a : AccessTokenRecord} {jkt : String}
    (h : a.cnfJkt = some jkt) (hne : jkt ≠ "") :
    let members := accessTokenActive config a
    members.get "active" = some (.bool true) ∧ members.get "iss" = some (.str config.issuer) ∧
      members.get "aud" = some (.str config.accessTokenAudience) ∧
      members.get "sub" = some (.str a.subject) ∧
      members.get "client_id" = some (.str a.clientId) ∧
      members.get "exp" = some a.expiresAt.seconds ∧ members.get "jti" = some (.str a.jti) ∧
      members.get "scope" = some (.str a.scope) ∧
      members.get "cnf" = some (.obj [("jkt", .str jkt)]) := by
  have hbound : a.cnfJkt.filter (· ≠ "") = some jkt := by
    rw [h, Option.filter_some, if_pos (by simpa)]
  simp only [accessTokenActive, hbound]
  simp [Params.get, assoc]

/-- A stored expiry is less than a second later than its seconds. -/
lemma seconds_bounds {d : Date} {e : ℤ} (h : d = some e) :
    ∃ s : ℤ, d.seconds = .num s ∧ s * 1000 ≤ e ∧ e < s * 1000 + 1000 := by
  subst h
  refine ⟨e / 1000, rfl, ?_, ?_⟩ <;> omega

namespace ServerRun

variable (R : ServerRun P config backend)

/-- **An access token was issued** for an input before step `i`. -/
def Issued (i : ℕ) (input : TokenIssuanceInput) (token : String) : Prop :=
  ∃ pid p, R.proc i pid = some p ∧ AccessIssued config input token p.past

variable {R}

/-- **What is known of an access token that was issued**: its claims, and its row in the table. -/
lemma Issued.stored {i : ℕ} (hi : i ≤ R.len) {input : TokenIssuanceInput} {token : String}
    (h : R.Issued i input token) :
    ∃ jti t rec, P.jwtClaims token = accessTokenClaims config input jti t ∧
      (R.store i).accessTokens.get? jti = some rec ∧
      rec.fresh = accessTokenRecord config input jti t ∧ ∃ ks, (R.world i).keys = some ks := by
  obtain ⟨pid, p, hp, jti, t, hsign, hinsert⟩ := h
  obtain ⟨j, hj, q, hd, -⟩ := R.did hi hp hsign
  obtain ⟨hclaims, ks, hks⟩ := signed hd
  obtain ⟨k, hk, q', hd', -⟩ := R.did hi hp hinsert
  have hrow : (R.store (k + 1)).accessTokens.get? jti =
      some (accessTokenRecord config input jti t) := by
    obtain ⟨-, hstore⟩ := Prod.mk.inj ((R.carried hd').eq_memory rfl)
    rw [hstore]
    exact Map.get?_set_self _ _ _
  obtain ⟨rec, hrec, hfresh⟩ := R.accessTokens_stay (show k + 1 ≤ i by omega) hi hrow
  exact ⟨jti, t, rec, hclaims, hrec, hfresh, ks, R.keys_stay (Nat.le_of_lt hj) hi hks⟩

/-- The key that an access token is bound to is the thumbprint of a key. -/
lemma Issued.thumbprint {i : ℕ} (hi : i ≤ R.len) {input : TokenIssuanceInput} {token : String}
    (h : R.Issued i input token) : ∃ jwk, P.calculateJwkThumbprint jwk = some input.cnfJkt := by
  obtain ⟨pid, p, hp, jti, t, -, hinsert⟩ := h
  obtain ⟨k, -, q, hd, -⟩ := R.did hi hp hinsert
  obtain ⟨input', hexchange, _, _, _, _, -, hrec⟩ := R.justified hd
  have hjkt : input.cnfJkt = input'.cnfJkt :=
    Option.some.inj (congrArg AccessTokenRecord.cnfJkt hrec)
  rw [hjkt]
  cases hexchange with
  | code client jkt record grant hx =>
    obtain ⟨_, proof, -, -, hthumb, -⟩ := hx.1.proof
    exact ⟨proof.jwk, hthumb⟩
  | refresh client jkt scope rec grant hx =>
    obtain ⟨_, proof, -, -, hthumb, -⟩ := hx.1.proof
    exact ⟨proof.jwk, hthumb⟩

/-- A token with a hash that no random value has resolves to no refresh token. -/
lemma refreshToken_eq_none {i : ℕ} (hi : i ≤ R.len) {token : String}
    (hhash : ∀ d ∈ (R.world i).drawn, P.sha256Base64Url d ≠ P.sha256Base64Url token) :
    (R.world i).refreshToken P token = none := by
  cases hrow : (R.world i).refreshToken P token with
  | none => rfl
  | some rec =>
    obtain ⟨hkey, j, hj, hc⟩ := R.refreshTokens_origin hi hrow
    obtain ⟨pid, p, _, hd, _, _, _, _, _, q, d, t, hpast, hrec⟩ := hc.justified
    obtain ⟨k, hk, q', hdraw, -⟩ := R.drew (Nat.le_of_lt hd.lt) hd.proc (.inr ⟨32, hpast⟩)
    have hdrawn := R.drawn_mono (show k + 1 ≤ i by omega) hi hdraw.fresh.2
    have htoken : rec.tokenHash = P.sha256Base64Url d := congrArg RefreshTokenRecord.tokenHash hrec
    exact absurd (htoken.symm.trans hkey) (hhash d hdrawn)

/-- An access token that was issued is found in the table, if it verifies. -/
lemma Issued.found {i : ℕ} {token jti : String} {input : TokenIssuanceInput} {t : ℕ}
    {rec record : AccessTokenRecord}
    (hclaims : P.jwtClaims token = accessTokenClaims config input jti t)
    (hrow : (R.store i).accessTokens.get? jti = some rec)
    (h : (R.world i).accessToken P config token = some record) : record = rec := by
  obtain ⟨jti', hverified, hget⟩ := Option.bind_eq_some_iff.mp h
  obtain ⟨-, hclaim⟩ := verifiedJti_eq_some hverified
  rw [hclaims, (accessTokenClaims_get config input jti t).2.2.2.2.2.1] at hclaim
  obtain rfl : jti = jti' := Json.str.inj (Option.some.inj hclaim)
  exact Option.some.inj (hget.symm.trans hrow)

/-- **The endpoints agree about every access token in every state of a run**, when thumbprints are
not empty and no random value has the hash of the token.

**Proof sketch.** The row that was inserted for the token stays in the table, with nothing changed
but its revocation, so it holds what was signed. It is the row of the identifier in the claims, so
both endpoints find it, if the token verifies, and they find nothing else, since the hash of the
token is the hash of no refresh token. Both say yes when it is neither revoked nor expired:
introspection asks for no more, and the userinfo endpoint finds the key that the token is bound to
and a proof that passes. -/
theorem endpoints_agree (R : ServerRun P config backend)
    (hthumb : ∀ jwk k, P.calculateJwkThumbprint jwk = some k → k ≠ "") {i : ℕ} (hi : i ≤ R.len)
    {input : TokenIssuanceInput} {token : String} (hissued : R.Issued i input token)
    (hhash : ∀ d ∈ (R.world i).drawn, P.sha256Base64Url d ≠ P.sha256Base64Url token) :
    EndpointsAgree P config backend (R.world i) input token := by
  obtain ⟨jti, t, rec, hclaims, hrow, hfresh, ks, hks⟩ := hissued.stored hi
  obtain ⟨jwk, hjwk⟩ := hissued.thumbprint hi
  have hne : input.cnfJkt ≠ "" := hthumb jwk _ hjwk
  have hrefresh := refreshToken_eq_none hi hhash
  have hjti : rec.jti = jti := congrArg AccessTokenRecord.jti hfresh
  have howner : rec.clientId = input.clientId := congrArg AccessTokenRecord.clientId hfresh
  have hcnf : rec.cnfJkt = some input.cnfJkt := congrArg AccessTokenRecord.cnfJkt hfresh
  have hexpiry : rec.expiresAt = accessTokenExpiry config t :=
    congrArg AccessTokenRecord.expiresAt hfresh
  have hbound : rec.cnfJkt.filter (· ≠ "") = some input.cnfJkt := by
    rw [hcnf, Option.filter_some, if_pos (by simpa)]
  obtain ⟨hiss, haud, hsub, hclient, hexp, hjtiClaim, hscope, hcnfClaim⟩ :=
    accessTokenClaims_get config input jti t
  obtain ⟨hactive, hiss', haud', hsub', hclient', hexp', hjti', hscope', hcnf'⟩ :=
    accessTokenActive_get config hcnf hne
  -- what introspection says of the token
  have hanswer : ∀ reply, Introspected P config backend (R.world i) token input.clientId reply →
      (reply.isActive ↔ ∃ record, ProofAsked P config (R.world i) token record input.cnfJkt) ∧
        (reply.isActive → reply.body = .json (accessTokenActive config rec)) := by
    intro reply hreply
    obtain ⟨hint, rfl⟩ := hreply.eq hks
    cases hfound : (R.world i).accessToken P config token with
    | none =>
      rw [introspection_unknown hrefresh hfound]
      refine ⟨⟨fun h => absurd h not_isActive_inactive, ?_⟩,
        fun h => absurd h not_isActive_inactive⟩
      rintro ⟨record, hasked⟩
      have hsome := hasked.found
      rw [hfound] at hsome
      cases hsome
    | some record =>
      obtain rfl := Issued.found hclaims hrow hfound
      rw [introspection_accessToken hrefresh hfound howner]
      by_cases hlive : record.isLive (R.world i).clock = true
      · rw [if_pos hlive]
        refine ⟨⟨fun _ => ⟨record, hfound, hlive, hbound⟩, fun _ => ?_⟩, fun _ => onSend_body _⟩
        rw [Reply.isActive, onSend_field]
        exact hactive
      · rw [if_neg hlive]
        refine ⟨⟨fun h => absurd h not_isActive_inactive, ?_⟩,
          fun h => absurd h not_isActive_inactive⟩
        rintro ⟨record', hasked⟩
        obtain rfl := Option.some.inj (hfound.symm.trans hasked.found)
        exact absurd hasked.live hlive
  refine ⟨fun reply reply' hreply hpresented => ?_, fun reply hreply hyes name hname => ?_, rec,
    ?_, ?_, ?_, fun e he => ?_⟩
  · exact (hanswer reply hreply).1.trans (hpresented.status hks hreply.ne_empty).symm
  · have hbody := (hanswer reply hreply).2 hyes
    have hfield : ∀ k, reply.field k = (accessTokenActive config rec).get k := by
      intro k
      rw [Reply.field, hbody]
    rw [hclaims, hfield]
    simp only [introspectedClaims, List.mem_cons, List.not_mem_nil, or_false] at hname
    have hsubject : rec.subject = input.subject := congrArg AccessTokenRecord.subject hfresh
    have hgranted : rec.scope = input.scope := congrArg AccessTokenRecord.scope hfresh
    rcases hname with rfl | rfl | rfl | rfl | rfl | rfl | rfl | rfl
    · exact ⟨_, hiss', hiss⟩
    · exact ⟨_, haud', haud⟩
    · exact ⟨_, hsub', hsubject ▸ hsub⟩
    · exact ⟨_, hclient', howner ▸ hclient⟩
    · exact ⟨_, hscope', hgranted ▸ hscope⟩
    · exact ⟨_, hexp', hexpiry ▸ hexp⟩
    · exact ⟨_, hjti', hjti ▸ hjtiClaim⟩
    · exact ⟨_, hcnf', hcnfClaim⟩
  · rw [hclaims, hjtiClaim, hjti]
  · rw [hjti]
    exact hrow
  · rw [hclaims, hexp, hexpiry]
  · obtain ⟨s, hs, hle, hlt⟩ := seconds_bounds he
    exact ⟨s, by rw [hclaims, hexp, ← hexpiry, hs], hle, hlt⟩

end ServerRun

namespace Sample

/-- The client introspects the access token of the redemption in a state. -/
def introspected (w : World) : Option (List Event × Except Exn Reply × World) :=
  system.evalAlone (handler platform Sample.config (introspect "3" "t")) (List.replicate 9 {}) w

/-- The access token of the redemption is presented in a state, with a proof by its key. -/
def presented (w : World) : Option (List Event × Except Exn Reply × World) :=
  system.evalAlone (handler platform Sample.config (userinfo "t" "u")) (List.replicate 9 {}) w

/-- The verification of that proof. -/
def verified (w : World) : Option (List Event × Except Exn String × World) :=
  system.evalAlone (verifyDpopProof platform Sample.config (userinfo "t" "u").dpop
    (userinfoDpopContext platform Sample.config "GET" "t")) (List.replicate 9 {}) w

/-- The calls of an introspection authenticate client `A`. -/
def authenticatesA (es : List Event) : Bool :=
  es.head? = some ⟨.allow "", true⟩ &&
    ((authenticateClient platform Sample.config (introspect "3" "t").body none).outcome
      (es.tail.take 3)).any fun y => y.toOption.any fun client => client.clientId = "A"

/-- The token is issued, told to be active and accepted. -/
def agreementServed (t : List (TraceStep system) × Conf system) : Bool :=
  t.2.answers 2 (fun req _ reply => req.route = .token && reply.isGrant &&
    reply.field "access_token" = some (Json.str "t")) &&
  t.2.world.drawn.all (fun d => platform.sha256Base64Url d ≠ platform.sha256Base64Url "t") &&
  (introspected t.2.world).any (fun x => x.1.all (fun e => !isRejection e) && authenticatesA x.1 &&
    x.2.1.toOption.any fun reply => reply.field "active" = some (Json.bool true)) &&
  (presented t.2.world).any (fun x => x.1.all (fun e => !isRejection e) &&
    x.2.1.toOption.any fun reply => reply.status = 200) &&
  (verified t.2.world).any (fun x => x.2.1.toOption = some "k")

set_option maxRecDepth 4000 in
lemma agreement_trace : (system.trace ⟨world, []⟩ redemption).any agreementServed = true := by
  decide +kernel

/-- An outcome with a value. -/
lemma eq_ok_of_toOption {ε α : Type} {x : Except ε α} {a : α} (h : x.toOption = some a) :
    x = .ok a := by
  cases x with
  | ok b => exact congrArg Except.ok (Option.some.inj h)
  | error e => cases h

/-- Such an introspection is authenticated as client `A`. -/
lemma authenticatedAs_A {es : List Event} (h : authenticatesA es = true) :
    ∃ client, AuthenticatedAs platform Sample.config (introspect "3" "t") client es ∧
      client.clientId = "A" := by
  simp only [authenticatesA, Bool.and_eq_true, decide_eq_true_eq] at h
  obtain ⟨hhead, hauth⟩ := h
  obtain ⟨y, hy, hclient⟩ := (Option.any_eq_true _ _).mp hauth
  obtain ⟨client, hok, hid⟩ := (Option.any_eq_true _ _).mp hclient
  refine ⟨client, ⟨es.tail.take 3, Prog.path_of_outcome (hy.trans (congrArg some ?_)), ?_⟩,
    by simpa using hid⟩
  · exact eq_ok_of_toOption hok
  · cases es with
    | nil => cases hhead
    | cons e es =>
      obtain rfl := Option.some.inj hhead
      exact List.cons_prefix_cons.mpr ⟨rfl, List.take_prefix _ _⟩

/-- The redemption issues the access token, bound to client `A` and to the key. -/
lemma redemption_issued {steps : List (TraceStep system)} {last : Conf system}
    (ht : redemptionRun.HasTrace steps last)
    (h : last.answers 2 (fun req _ reply => req.route = .token && reply.isGrant &&
      reply.field "access_token" = some (Json.str "t")) = true) :
    ∃ input : TokenIssuanceInput, redemptionRun.Issued redemptionRun.len input "t" ∧
      input.clientId = "A" ∧ input.cnfJkt = "k" := by
  obtain ⟨req, past, reply, hp, htest⟩ := ht.answers h
  simp only [Bool.and_eq_true, decide_eq_true_eq] at htest
  obtain ⟨⟨hroute, hgrant⟩, hfield⟩ := htest
  obtain ⟨input, token, haccess, htoken⟩ : ∃ input token,
      AccessIssued Sample.config input token past ∧
      reply.field "access_token" = some (.str token) := by
    cases redemptionRun.tokenReplied le_rfl hp hroute hgrant with
    | code client jkt record grant tokens hexchange hissued hbody =>
      exact ⟨_, tokens.accessToken, hissued.access, by rw [Reply.field, hbody]; rfl⟩
    | refresh client jkt scope token rec grant tokens hexchange hissued hpresented hbody =>
      exact ⟨_, tokens.accessToken, hissued.access, by rw [Reply.field, hbody]; rfl⟩
  obtain rfl : "t" = token := Json.str.inj (Option.some.inj (hfield.symm.trans htoken))
  have hissued : redemptionRun.Issued redemptionRun.len input "t" := ⟨2, _, hp, haccess⟩
  obtain ⟨jti', t, rec, hclaims, -⟩ := hissued.stored le_rfl
  obtain ⟨-, -, -, hclient, -, -, -, hcnf⟩ := accessTokenClaims_get Sample.config input jti' t
  rw [← hclaims] at hclient hcnf
  have hA : (platform.jwtClaims "t").get "client_id" = some (.str "A") := by decide
  have hk : (platform.jwtClaims "t").get "cnf" = some (.obj [("jkt", .str "k")]) := by decide
  refine ⟨input, hissued, ?_, ?_⟩
  · exact Json.str.inj (Option.some.inj (hclient.symm.trans hA))
  · simpa using hcnf.symm.trans hk

/-- The endpoints agree about the access token of the redemption, which is active and accepted. -/
theorem redemption_agrees : ∃ input reply reply', redemptionRun.Issued redemptionRun.len input "t" ∧
    Introspected platform Sample.config .memory (redemptionRun.world redemptionRun.len) "t"
      input.clientId reply ∧
    PresentedWith platform Sample.config .memory (redemptionRun.world redemptionRun.len) "t"
      input.cnfJkt reply' ∧ reply.isActive ∧
    EndpointsAgree platform Sample.config .memory (redemptionRun.world redemptionRun.len) input
      "t" := by
  obtain ⟨⟨steps, last⟩, ht, h⟩ := (Option.any_eq_true _ _).mp agreement_trace
  have ht : redemptionRun.HasTrace steps last := ht
  have hworld : redemptionRun.world redemptionRun.len = last.world := by rw [Run.world, ht.last]
  simp only [agreementServed, Bool.and_eq_true] at h
  obtain ⟨⟨⟨⟨hanswers, hdrawn⟩, hintrospected⟩, hpresented⟩, hverified⟩ := h
  obtain ⟨input, hissued, hclient, hkey⟩ := redemption_issued ht hanswers
  obtain ⟨⟨es, y, w'⟩, heval, htest⟩ := (Option.any_eq_true _ _).mp hintrospected
  obtain ⟨⟨es', y', w''⟩, heval', htest'⟩ := (Option.any_eq_true _ _).mp hpresented
  obtain ⟨⟨es'', y'', w₃⟩, heval'', hjkt⟩ := (Option.any_eq_true _ _).mp hverified
  simp only [Bool.and_eq_true, List.all_eq_true, Bool.not_eq_true'] at htest htest' hdrawn
  obtain ⟨⟨hok, hauth⟩, hactive⟩ := htest
  obtain ⟨hok', hstatus⟩ := htest'
  obtain ⟨reply, hreply, hactive⟩ := (Option.any_eq_true _ _).mp hactive
  obtain ⟨reply', hreply', hstatus⟩ := (Option.any_eq_true _ _).mp hstatus
  refine ⟨input, reply, reply', hissued, ?_, ?_, ?_, ?_⟩
  · rw [hworld, hclient]
    obtain ⟨client, hauth, hid⟩ := authenticatedAs_A hauth
    obtain rfl := eq_ok_of_toOption hreply
    exact ⟨introspect "3" "t", client, es, w', Sys.alone_of_evalAlone system heval, rfl, rfl,
      by decide, hauth, hid, hok⟩
  · rw [hworld, hkey]
    obtain rfl := eq_ok_of_toOption hreply'
    obtain rfl := eq_ok_of_toOption (of_decide_eq_true hjkt)
    exact ⟨userinfo "t" "u", es', w'', Sys.alone_of_evalAlone system heval', rfl, .inl (by decide),
      by decide, hok', es'', w₃, Sys.alone_of_evalAlone system heval''⟩
  · simpa [Reply.isActive] using hactive
  · refine ServerRun.endpoints_agree redemptionRun thumbprint_ne_empty le_rfl hissued fun d hd => ?_
    rw [hworld] at hd
    simpa using hdrawn d hd

end Sample

end Fapi2As
