import Fapi2As.Properties.Hints
import Fapi2As.Properties.Isolation

set_option relaxedAutoImplicit false
set_option autoImplicit false

/-!
# What a client can learn of others

Introspection and revocation find a token whoever it belongs to, and compare its client with the one
that asks afterwards. A client gets the same reply about the token of another client and about a
text that is no token at all, so what it is told, and what becomes of its own rows, is decided by
its own rows.

## Main definitions

* `Fapi2As.OwnAgree` — two stores hold the same rows of a client.
* `Fapi2As.World.ownToken`, `Fapi2As.Store.revokeOwn` — what a token resolves to for a client, and
  its revocation.
* `Fapi2As.NotOwned` — a token is unknown, or another client's.
* `Fapi2As.AgreeFor`, `Fapi2As.NoOracle` — states that agree for a client, and what it learns there.

## Main results

* `Fapi2As.comesTo_own` — what a request comes to is a function of the own token.
* `Fapi2As.no_ownership_oracle` — states that agree on a client's rows are alike for the client.
* `Fapi2As.foreign_tokens_hidden` — about the tokens of others a client gets the reply about none.
-/

namespace Fapi2As

open Js Async

variable {P : Platform} {config : AppConfig} {backend : Backend} {w w' : World} {es : List Event}
  {c token : String} {hint : Option String}

/-! ## The rows of a client -/

/-- **Two stores agree on what a client owns**: its grants, codes and tokens. -/
structure OwnAgree (c : String) (s s' : Store) : Prop where
  grants : SameRows (fun g => g.clientId = c) s.grants s'.grants
  codes : SameRows (fun row => row.record.clientId = c) s.codes s'.codes
  accessTokens : SameRows (fun a => a.clientId = c) s.accessTokens s'.accessTokens
  refreshTokens : SameRows (fun r => r.clientId = c) s.refreshTokens s'.refreshTokens

lemma OwnAgree.symm {s s' : Store} (h : OwnAgree c s s') : OwnAgree c s' s :=
  ⟨h.grants.symm, h.codes.symm, h.accessTokens.symm, h.refreshTokens.symm⟩

lemma OwnAgree.trans {s s' s'' : Store} (h : OwnAgree c s s') (h' : OwnAgree c s' s'') :
    OwnAgree c s s'' :=
  ⟨h.grants.trans h'.grants, h.codes.trans h'.codes, h.accessTokens.trans h'.accessTokens,
    h.refreshTokens.trans h'.refreshTokens⟩

/-- States with the same tokens agree on what every client owns. -/
lemma SameTokens.ownAgree (h : SameTokens w w') (c : String) : OwnAgree c w.store w'.store where
  grants := h.grants ▸ .refl _ _
  codes := h.codes ▸ .refl _ _
  accessTokens := h.accessTokens ▸ .refl _ _
  refreshTokens := h.refreshTokens ▸ .refl _ _

/-! ## The own token -/

/-- What a token resolves to, when that is the client's. -/
def World.ownToken (P : Platform) (config : AppConfig) (w : World) (c token : String)
    (hint : Option String) : Option ResolvedToken :=
  (w.resolved P config token hint).filter fun r => r.clientId = c

/-- What introspection tells is a function of the own token. -/
lemma introspection_eq (w : World) (c token : String) (hint : Option String) :
    w.introspection P config c token hint =
      (w.ownToken P config c token hint).elim inactive fun r =>
        introspectionOf config r w.clock := by
  unfold World.introspection World.ownToken
  cases w.resolved P config token hint with
  | none => rfl
  | some r =>
    by_cases hr : r.clientId = c
    · simp [Option.filter_some, hr]
    · simp [Option.filter_some, hr]

/-- **A token of one kind** is resolved to the row of its kind, whatever the hint is. -/
lemma resolved_eq_some_iff (hkind : OneKind P config w token) {r : ResolvedToken} :
    w.resolved P config token hint = some r ↔
      (∃ a, w.accessToken P config token = some a ∧ r = .accessToken a) ∨
        ∃ f, w.refreshToken P token = some f ∧ r = .refreshToken f := by
  unfold World.resolved
  cases hf : w.refreshToken P token with
  | none => split_ifs <;> cases w.accessToken P config token <;> simp [eq_comm]
  | some f =>
    have ha : w.accessToken P config token = none :=
      accessToken_eq_none (hkind (by rw [hf]; exact Option.some_ne_none f)) w
    rw [ha]
    split_ifs <;> simp [eq_comm]

/-- The own token is found in every state that agrees on the rows of the client. -/
lemma ownToken_of_agree (hkind : OneKind P config w token) (hkind' : OneKind P config w' token)
    (hkeys : w'.keys = w.keys) (hclock : w'.clock = w.clock) (hagree : OwnAgree c w.store w'.store)
    {r : ResolvedToken} (h : w.ownToken P config c token hint = some r) :
    w'.ownToken P config c token hint = some r := by
  obtain ⟨hr, hc⟩ := Option.filter_eq_some_iff.mp h
  refine Option.filter_eq_some_iff.mpr ⟨(resolved_eq_some_iff hkind').mpr ?_, hc⟩
  have hc : r.clientId = c := of_decide_eq_true hc
  rcases (resolved_eq_some_iff hkind).mp hr with ⟨a, ha, rfl⟩ | ⟨f, hf, rfl⟩
  · refine .inl ⟨a, ?_, rfl⟩
    obtain ⟨jti, hjti, hrow⟩ := Option.bind_eq_some_iff.mp ha
    rw [World.accessToken, hkeys, hclock]
    exact Option.bind_eq_some_iff.mpr ⟨jti, hjti, (hagree.accessTokens jti a hc).mpr hrow⟩
  · exact .inr ⟨f, (hagree.refreshTokens _ f hc).mpr hf, rfl⟩

/-- **States that agree on the rows of a client have the same own token.** -/
lemma ownToken_agree (hkind : OneKind P config w token) (hkind' : OneKind P config w' token)
    (hkeys : w'.keys = w.keys) (hclock : w'.clock = w.clock)
    (hagree : OwnAgree c w.store w'.store) :
    w'.ownToken P config c token hint = w.ownToken P config c token hint :=
  Option.ext fun _ => ⟨ownToken_of_agree hkind' hkind hkeys.symm hclock.symm hagree.symm,
    ownToken_of_agree hkind hkind' hkeys hclock hagree⟩

/-- **A token that is not the client's**: as an access token and as a refresh token it is unknown,
or another client's. -/
structure NotOwned (P : Platform) (config : AppConfig) (w : World) (c token : String) : Prop where
  accessToken : ∀ a, w.accessToken P config token = some a → a.clientId ≠ c
  refreshToken : ∀ f, w.refreshToken P token = some f → f.clientId ≠ c

/-- Such a token is no own token. -/
lemma NotOwned.ownToken (h : NotOwned P config w c token) (hkind : OneKind P config w token) :
    w.ownToken P config c token hint = none := by
  refine Option.filter_eq_none_iff.mpr fun r hr => ?_
  rcases (resolved_eq_some_iff hkind).mp hr with ⟨a, ha, rfl⟩ | ⟨f, hf, rfl⟩
  · exact decide_eq_false (h.accessToken a ha) ▸ Bool.false_ne_true
  · exact decide_eq_false (h.refreshToken f hf) ▸ Bool.false_ne_true

/-! ## The revocation of the own token -/

/-- A store after the revocation of an own token. -/
def Store.revokeOwn (s : Store) (own : Option ResolvedToken) (t : ℕ) : Store :=
  match own with
  | none => s
  | some (.refreshToken record) =>
    (Memory.exec (Memory.exec s (.refreshTokensRevoke record.tokenHash t)).2
      (.accessTokensRevokeByGrant record.grantId t)).2
  | some (.accessToken record) => (Memory.exec s (.accessTokensRevoke record.jti t)).2

/-- **A revocation keeps stores in agreement**, since it changes the rows that it meets alike. -/
lemma OwnAgree.revokeOwn {s s' : Store} (h : OwnAgree c s s') (own : Option ResolvedToken) (t : ℕ) :
    OwnAgree c (s.revokeOwn own t) (s'.revokeOwn own t) := by
  cases own with
  | none => exact h
  | some r =>
    cases r with
    | accessToken record =>
      exact { h with accessTokens := h.accessTokens.modify _ fun a => by simp }
    | refreshToken record =>
      refine { h with
        accessTokens := h.accessTokens.mapVals fun _ a => ?_
        refreshTokens := h.refreshTokens.modify _ fun f => by simp }
      split_ifs
      · simp
      · exact Iff.rfl

/-- What the revocation endpoint does with a token that was resolved. -/
lemma alone_revokeResolved {client : Client} {found : Option ResolvedToken} {t : ℕ}
    {y : Except Exn Unit} (h : RunsAlone P config backend (revokeResolved client found t) w es y w')
    (hok : Unfailing es) : y = .ok () ∧
      w'.store = w.store.revokeOwn (found.filter fun r => r.clientId = client.clientId) t := by
  unfold revokeResolved at h
  cases found with
  | none =>
    obtain ⟨-, rfl, rfl⟩ := h.of_ret
    exact ⟨rfl, rfl⟩
  | some r =>
    dsimp only at h
    by_cases howner : r.clientId ≠ client.clientId
    · rw [if_pos howner] at h
      obtain ⟨-, rfl, rfl⟩ := h.of_ret
      refine ⟨rfl, ?_⟩
      rw [Option.filter_some, if_neg (by simpa using howner)]
      rfl
    · rw [if_neg howner] at h
      rw [Option.filter_some, if_pos (by simpa using howner)]
      cases r with
      | accessToken record =>
        obtain ⟨_, hc, -, rfl⟩ := alone_db_ok h hok
        exact ⟨rfl, (Prod.mk.inj (hc.eq_memory rfl)).2⟩
      | refreshToken record =>
        rcases h.bind with ⟨_, es₁, es₂, w₁, h1, h2, rfl⟩ | ⟨e, h1, rfl⟩
        swap
        · obtain ⟨_, -, -, hy⟩ := alone_db_ok h1 hok
          cases hy
        obtain ⟨hok₁, hok₂⟩ := unfailing_append.mp hok
        obtain ⟨_, hc₁, -, -⟩ := alone_db_ok h1 hok₁
        obtain ⟨_, hc₂, -, rfl⟩ := alone_db_ok h2 hok₂
        refine ⟨rfl, ?_⟩
        rw [(Prod.mk.inj (hc₂.eq_memory rfl)).2, (Prod.mk.inj (hc₁.eq_memory rfl)).2]
        rfl

/-! ## What a request comes to -/

variable {req : HttpRequest} {client client' : Client} {reply reply' : Reply} {s s' : Store}

/-- **An authenticated revocation** revokes the own token, and is answered alike whatever that is.
-/
lemma alone_revoke (h : RunsAlone P config backend (handler P config req) w es (.ok reply) w')
    (hroute : req.route = .revoke) (hmethod : req.method = "POST")
    (hauth : AuthenticatedAs P config req client es) (hok : Unfailing es)
    (htoken : str (req.body.get "token") = some token) :
    ∃ w₁, SameTokens w w₁ ∧ reply = onSend { status := 200, headers := [noStore] } ∧
      w'.store = w₁.store.revokeOwn
        (w₁.ownToken P config client.clientId token (revokeHint req.body)) w₁.clock := by
  unfold handler dispatch at h
  simp only [hroute, hmethod, if_true] at h
  obtain ⟨x, hx, hreply⟩ := alone_respond h
  obtain rfl := Except.ok.inj hreply
  unfold handleRevoke at hx
  obtain ⟨es', w₁, hsame, hok', hrest⟩ := alone_authenticated hx hauth hok
  rw [htoken] at hrest
  rcases hrest.bind with ⟨found, es₁, es₂, w₂, h1, h2, rfl⟩ | ⟨e, h1, rfl⟩
  swap
  · cases (alone_resolveToken h1 hok').2
  obtain ⟨hok₁, hok₂⟩ := unfailing_append.mp hok'
  obtain ⟨hloaded, hfound⟩ := alone_resolveToken h1 hok₁
  obtain rfl := Except.ok.inj hfound
  rcases h2.bind with ⟨t, es₃, es₄, w₃, h3, h4, rfl⟩ | ⟨e, h3, rfl⟩
  swap
  · cases (alone_now h3).2.2
  obtain ⟨rfl, rfl, ht⟩ := alone_now h3
  obtain rfl := Except.ok.inj ht
  have hok₄ := (unfailing_append.mp hok₂).2
  rcases h4.bind with ⟨_, es₅, es₆, w₄, h5, h6, rfl⟩ | ⟨e, h5, rfl⟩
  swap
  · cases (alone_revokeResolved h5 hok₄).1
  obtain ⟨-, rfl, rfl⟩ := h6.of_ret
  exact ⟨_, hsame.trans hloaded.sameTokens, rfl,
    (alone_revokeResolved h5 (unfailing_append.mp hok₄).1).2⟩

/-- The hint by which an endpoint looks a token up. -/
def HttpRequest.lookupHint (req : HttpRequest) : Option String :=
  if req.route = .revoke then revokeHint req.body else str (req.body.get "token_type_hint")

/-- The reply about an own token, or about none. -/
def replyAbout (config : AppConfig) (req : HttpRequest) (own : Option ResolvedToken) (t : ℕ) :
    Reply :=
  if req.route = .revoke then { status := 200, headers := [noStore] }
  else own.elim inactive fun r => introspectionOf config r t

/-- The tables after a request about an own token, or about none. -/
def Store.after (s : Store) (req : HttpRequest) (own : Option ResolvedToken) (t : ℕ) : Store :=
  if req.route = .revoke then s.revokeOwn own t else s

lemma OwnAgree.after (h : OwnAgree c s s') (req : HttpRequest) (own : Option ResolvedToken)
    (t : ℕ) :
    OwnAgree c (s.after req own t) (s'.after req own t) := by
  unfold Store.after
  split_ifs
  · exact h.revokeOwn own t
  · exact h

/-- **What a request comes to is a function of the own token**, but for the replay entries that the
authentication leaves. -/
lemma comesTo_own (h : ComesTo P config backend w req client reply s)
    (hroute : req.route = .revoke ∨ req.route = .introspect) (hmethod : req.method = "POST")
    (htoken : str (req.body.get "token") = some token) {ks : List SigningKeyRecord}
    (hkeys : w.keys = some ks) :
    reply = onSend (replyAbout config req
        (w.ownToken P config client.clientId token req.lookupHint) w.clock) ∧
      ∃ w₁, SameTokens w w₁ ∧ s = w₁.store.after req
        (w.ownToken P config client.clientId token req.lookupHint) w.clock := by
  obtain ⟨es, w', hrun, hauth, hok, rfl⟩ := h
  unfold replyAbout Store.after HttpRequest.lookupHint
  have hsame : ∀ {w₁ : World}, SameTokens w w₁ → ∀ hint,
      w₁.ownToken P config client.clientId token hint =
      w.ownToken P config client.clientId token hint := by
    intro w₁ h hint
    rw [World.ownToken, h.resolved ((h.keys ks hkeys).trans hkeys.symm)]
    rfl
  rcases hroute with hroute | hroute
  · obtain ⟨w₁, hw, hreply, hstore⟩ := alone_revoke hrun hroute hmethod hauth hok htoken
    simp only [hroute, if_true]
    rw [hsame hw, hw.clock] at hstore
    exact ⟨hreply, w₁, hw, hstore⟩
  · obtain ⟨hw, hreply⟩ := alone_introspect hrun hroute hmethod hauth hok htoken
    have hne : req.route ≠ .revoke := by
      rw [hroute]
      exact Route.noConfusion
    simp only [if_neg hne]
    rw [introspection_eq, hsame hw, hw.clock] at hreply
    exact ⟨hreply, w', hw, rfl⟩

/-- A request is authenticated as one client. -/
lemma AuthenticatedAs.clientId_unique {es' : List Event}
    (h : AuthenticatedAs P config req client es)
    (h' : AuthenticatedAs P config req client' es') : client'.clientId = client.clientId := by
  have hauth : ∀ {client : Client} {es : List Event}, AuthenticatedAs P config req client es →
      ∃ q, Authenticated P config req.body client q := by
    rintro client es ⟨q, hpath, -⟩
    have hwp : Prog.wp (fun _ _ => True)
        (fun q x => ∀ client, x = .ok client → Authenticated P config req.body client q) []
        (authenticateClient P config req.body req.authorization) :=
      wp_authenticateClient (fun _ _ _ => trivial) (fun _ _ _ _ => trivial)
        (fun q client _ hc client' h => Except.ok.inj h ▸ hc) fun _ _ _ _ h => by cases h
    exact ⟨_, hpath.wp hwp client rfl⟩
  obtain ⟨q, hq⟩ := hauth h
  obtain ⟨q', hq'⟩ := hauth h'
  exact hq'.clientId_unique hq

/-- **States that agree on the rows of a client are alike for it**: what its request comes to is a
function of its own token, which they agree on. -/
lemma comesTo_alike (hkind : OneKind P config w token) (hkind' : OneKind P config w' token)
    (hroute : req.route = .revoke ∨ req.route = .introspect) (hmethod : req.method = "POST")
    (htoken : str (req.body.get "token") = some token) {ks : List SigningKeyRecord}
    (hkeys : w.keys = some ks) (hkeys' : w'.keys = some ks) (hclock : w'.clock = w.clock)
    (h : ComesTo P config backend w req client reply s)
    (h' : ComesTo P config backend w' req client' reply' s')
    (hagree : OwnAgree client.clientId w.store w'.store) :
    reply' = reply ∧ OwnAgree client.clientId s s' := by
  have hid : client'.clientId = client.clientId := by
    obtain ⟨es, _, -, hauth, -⟩ := h
    obtain ⟨es', _, -, hauth', -⟩ := h'
    exact hauth.clientId_unique hauth'
  obtain ⟨hreply, w₁, hw₁, hs⟩ := comesTo_own h hroute hmethod htoken hkeys
  obtain ⟨hreply', w₁', hw₁', hs'⟩ := comesTo_own h' hroute hmethod htoken hkeys'
  rw [hid, ownToken_agree hkind hkind' (hkeys'.trans hkeys.symm) hclock hagree, hclock]
    at hreply' hs'
  refine ⟨hreply'.trans hreply.symm, ?_⟩
  rw [hs, hs']
  exact (((hw₁.ownAgree _).symm.trans hagree).trans (hw₁'.ownAgree _)).after _ _ _

/-- **A client is told of a token that is not its own what it is told of no token**, and changes
nothing. -/
lemma comesTo_notOwned (hkind : OneKind P config w token)
    (hroute : req.route = .revoke ∨ req.route = .introspect) (hmethod : req.method = "POST")
    (htoken : str (req.body.get "token") = some token) {ks : List SigningKeyRecord}
    (hkeys : w.keys = some ks) (h : ComesTo P config backend w req client reply s)
    (hforeign : NotOwned P config w client.clientId token) :
    reply = onSend (replyAbout config req none w.clock) ∧ s.grants = w.store.grants ∧
      s.codes = w.store.codes ∧ s.accessTokens = w.store.accessTokens ∧
      s.refreshTokens = w.store.refreshTokens := by
  obtain ⟨hreply, w₁, hw₁, hs⟩ := comesTo_own h hroute hmethod htoken hkeys
  rw [hforeign.ownToken hkind] at hreply hs
  have hsame : s = w₁.store := by
    rw [hs, Store.after]
    split_ifs <;> rfl
  rw [hsame]
  exact ⟨hreply, hw₁.grants, hw₁.codes, hw₁.accessTokens, hw₁.refreshTokens⟩

/-- **Nobody learns of the tokens of others.** Take two states, each of some run, with the same
clock and keys, that agree on the rows of a client and differ in those of others in any way. A
request of the client to revoke or to introspect an ordinary token has the same reply in both, and
leaves states that agree on the rows of the client. When the token is not the client's in one of
them, the request is told what it is told about no token at all, and leaves all grants, codes and
tokens there as they are.

**Proof sketch.** What a request comes to is a function of the own token (`comesTo_own`). A token is
of one kind in both states (`ServerRun.oneKind`), so the own token is decided by the rows of the
client (`ownToken_agree`), and its revocation changes them alike (`OwnAgree.revokeOwn`). -/
theorem no_ownership_oracle (R R' : ServerRun P config backend) {i i' : ℕ} (hi : i ≤ R.len)
    (hi' : i' ≤ R'.len) (hroute : req.route = .revoke ∨ req.route = .introspect)
    (hmethod : req.method = "POST") (htoken : str (req.body.get "token") = some token)
    (hordinary : OrdinaryToken P (R.world i).drawn token)
    (hordinary' : OrdinaryToken P (R'.world i').drawn token) {ks : List SigningKeyRecord}
    (hkeys : (R.world i).keys = some ks) (hkeys' : (R'.world i').keys = some ks)
    (hclock : (R'.world i').clock = (R.world i).clock)
    (h : ComesTo P config backend (R.world i) req client reply s)
    (h' : ComesTo P config backend (R'.world i') req client' reply' s')
    (hagree : OwnAgree client.clientId (R.store i) (R'.store i')) :
    reply' = reply ∧ OwnAgree client.clientId s s' ∧
      (NotOwned P config (R.world i) client.clientId token →
        reply = onSend (replyAbout config req none (R.world i).clock) ∧
        s.grants = (R.store i).grants ∧ s.codes = (R.store i).codes ∧
        s.accessTokens = (R.store i).accessTokens ∧
          s.refreshTokens = (R.store i).refreshTokens) := by
  have hkind : OneKind P config (R.world i) token := R.oneKind hi hordinary
  have hkind' : OneKind P config (R'.world i') token := R'.oneKind hi' hordinary'
  obtain ⟨hreply, hown⟩ :=
    comesTo_alike hkind hkind' hroute hmethod htoken hkeys hkeys' hclock h h' hagree
  exact ⟨hreply, hown, comesTo_notOwned hkind hroute hmethod htoken hkeys h⟩

/-! ## Pushed requests -/

/-- A call that pushes or consumes a request. -/
def Call.pushes : Call → Bool
  | .db (.parInsert _) | .db (.parConsume _ _) => true
  | _ => false

/-- Another call leaves the pushed requests alone. -/
lemma exec_par {o : Call} {x : Oracle} {r : Ret o} (ho : o.pushes = false)
    (h : exec P config backend o x w = some (r, w')) (uri : String) :
    w'.store.par.get? uri = w.store.par.get? uri := by
  by_cases hq : ∃ q, o = .db q
  · obtain ⟨q, rfl⟩ := hq
    rcases Backend.exec_cases (exec_db h) with ⟨a, hc, -⟩ | ⟨hs, -⟩
    · rcases hc.effect.par uri with heq | ⟨rec, rfl, -⟩ | ⟨t, row, rfl, -⟩
      · exact heq
      · cases ho
      · cases ho
    · rw [hs]
  · rw [exec_store h fun q hq' => hq ⟨q, hq'⟩]

/-- A revocation or an introspection leaves the pushed requests alone. -/
lemma comesTo_par (h : ComesTo P config backend w req client reply s)
    (hroute : req.route = .revoke ∨ req.route = .introspect) (uri : String) :
    s.par.get? uri = w.store.par.get? uri := by
  obtain ⟨es, w', hrun, -, -, rfl⟩ := h
  refine hrun.frame (C := fun o => o.pushes = false)
    (K := fun (w w' : World) => w'.store.par.get? uri = w.store.par.get? uri) (fun _ => rfl)
    (fun h h' => h'.trans h) (fun o x w r w₁ ho hx => exec_par ho hx uri)
    (Prog.onlyCalls_of_wp (fun q o hjust => ?_) (handler_spec P config req))
  by_contra ho
  cases o with
  | db query =>
    cases query with
    | parInsert rec =>
      have hpar : req.route = .par := hjust.1
      simp [hpar] at hroute
    | parConsume uri t =>
      obtain ⟨_, _, _, _, hauth⟩ := hjust
      cases hauth with
      | consent id ctx session t done h => simp [h.route] at hroute
      | silent uri client request session h => simp [h.route] at hroute
    | _ => exact ho rfl
  | _ => exact ho rfl

/-! ## No ownership oracle -/

/-- **Two states agree for a client**: on everything that it owns, and on the clock and the loaded
keys. -/
structure AgreeFor (c : String) (w w' : World) : Prop where
  par : SameRows (fun row : ParRow => row.record.clientId = c) w.store.par w'.store.par
  own : OwnAgree c w.store w'.store
  clock : w'.clock = w.clock
  keys : ∃ ks, w.keys = some ks ∧ w'.keys = some ks

/-- **What a client gets to know in two states**, of a token that it presents. -/
structure NoOracle (P : Platform) (config : AppConfig) (req : HttpRequest) (w : World)
    (c token : String) (reply reply' : Reply) (s s' : Store) : Prop where
  /-- It gets the same reply. -/
  same : reply' = reply
  /-- It owns the same grants, codes and tokens afterwards. -/
  own : OwnAgree c s s'
  /-- It owns the same pushed requests afterwards. -/
  par : SameRows (fun row : ParRow => row.record.clientId = c) s.par s'.par
  /-- A token that it does not own is reported inactive. -/
  inactive : NotOwned P config w c token → req.route = .introspect →
    reply.status = 200 ∧ reply.body = .json [("active", .bool false)]
  /-- The revocation of a token that it does not own is answered with success. -/
  revoked : NotOwned P config w c token → req.route = .revoke → reply.status = 200
  /-- A token that it does not own leaves all tables of grants, codes and tokens as they are. -/
  unchanged : NotOwned P config w c token → s.grants = w.store.grants ∧
    s.codes = w.store.codes ∧ s.accessTokens = w.store.accessTokens ∧
    s.refreshTokens = w.store.refreshTokens

/-- **There is no ownership oracle.** A request of a client to revoke or to introspect an ordinary
token is answered alike in any two states that agree for the client, whatever others own in them;
about a token that is not its own it gets the reply about no token.

**Proof sketch.** The reply and the own rows afterwards are a function of the own token
(`comesTo_alike`), a token of others is no own token (`comesTo_notOwned`), and pushed requests are
touched by neither endpoint (`comesTo_par`). -/
theorem foreign_tokens_hidden (R R' : ServerRun P config backend) {i i' : ℕ} (hi : i ≤ R.len)
    (hi' : i' ≤ R'.len) (hroute : req.route = .revoke ∨ req.route = .introspect)
    (hmethod : req.method = "POST") (htoken : str (req.body.get "token") = some token)
    (hordinary : OrdinaryToken P (R.world i).drawn token)
    (hordinary' : OrdinaryToken P (R'.world i').drawn token)
    (h : ComesTo P config backend (R.world i) req client reply s)
    (h' : ComesTo P config backend (R'.world i') req client' reply' s')
    (hagree : AgreeFor client.clientId (R.world i) (R'.world i')) :
    NoOracle P config req (R.world i) client.clientId token reply reply' s s' := by
  have hkind : OneKind P config (R.world i) token := R.oneKind hi hordinary
  have hkind' : OneKind P config (R'.world i') token := R'.oneKind hi' hordinary'
  obtain ⟨ks, hkeys, hkeys'⟩ := hagree.keys
  obtain ⟨hreply, hown⟩ :=
    comesTo_alike hkind hkind' hroute hmethod htoken hkeys hkeys' hagree.clock h h' hagree.own
  have htold := comesTo_notOwned hkind hroute hmethod htoken hkeys h
  refine ⟨hreply, hown, fun uri row hrow => ?_, fun hforeign hr => ?_, fun hforeign hr => ?_,
    fun hforeign => (htold hforeign).2⟩
  · rw [comesTo_par h hroute, comesTo_par h' hroute]
    exact hagree.par uri row hrow
  · rw [(htold hforeign).1, onSend_status, onSend_body, replyAbout, hr]
    exact ⟨rfl, rfl⟩
  · rw [(htold hforeign).1, onSend_status, replyAbout, hr]
    rfl

namespace Sample

/-! ## The refresh token of another client -/

/-- Client `B` introspects the refresh token of client `A`. -/
def eavesdropping : HttpRequest := introspect "5" refresh

/-- The keys are published, which loads them. -/
def published : List (Act system) := [.arrive { route := .jwks, method := "GET" }, loads 0]

deriving instance DecidableEq for SigningKeyRecord

/-- A state with the signing key in which client `B` owns nothing, and in which its request is
authenticated and answered. -/
def overheard (w : World) : Bool :=
  w.keys = some [signingKey] && w.clock = 100000 &&
  w.drawn.all (fun d => d = refresh ∨
    platform.sha256Base64Url d ≠ platform.sha256Base64Url refresh) &&
  w.store.grants.values.all (fun g => g.clientId ≠ "B") &&
  w.store.codes.values.all (fun row => row.record.clientId ≠ "B") &&
  w.store.accessTokens.values.all (fun a => a.clientId ≠ "B") &&
  w.store.refreshTokens.values.all (fun f => f.clientId ≠ "B") &&
  (system.evalAlone (handler platform Sample.config eavesdropping) (List.replicate 9 {}) w).any
    fun x => x.1.all (fun e => !isRejection e) && x.1.head? = some ⟨.allow "", true⟩ &&
      ((authenticateClient platform Sample.config eavesdropping.body none).outcome
        (x.1.tail.take 3)).any (fun y => y.toOption.any fun client => client.clientId = "B") &&
      x.2.1.toOption.isSome

set_option maxRecDepth 4000 in
lemma overheard_trace :
    (system.trace ⟨world, []⟩ redemption).any (fun t => overheard t.2.world) = true := by
  decide +kernel

set_option maxRecDepth 4000 in
lemma published_trace :
    (system.trace ⟨world, []⟩ published).any (fun t => overheard t.2.world) = true := by
  decide +kernel

/-- The run in which the keys are published. -/
def publishedRun : ServerRun platform Sample.config .memory :=
  .ofTrace world published world_initial (fun t => overheard t.2.world) published_trace

/-- What such a state is. -/
structure Overheard (w : World) : Prop where
  keys : w.keys = some [signingKey]
  clock : w.clock = 100000
  ordinary : OrdinaryToken platform w.drawn refresh
  grants : ∀ g ∈ w.store.grants.values, g.clientId ≠ "B"
  codes : ∀ row ∈ w.store.codes.values, row.record.clientId ≠ "B"
  accessTokens : ∀ a ∈ w.store.accessTokens.values, a.clientId ≠ "B"
  refreshTokens : ∀ f ∈ w.store.refreshTokens.values, f.clientId ≠ "B"
  answered : ∃ client reply s, client.clientId = "B" ∧
    ComesTo platform Sample.config .memory w eavesdropping client reply s

lemma Overheard.of_eq_true {w : World} (h : overheard w = true) : Overheard w := by
  simp only [overheard, Bool.and_eq_true, List.all_eq_true, decide_eq_true_eq] at h
  obtain ⟨⟨⟨⟨⟨⟨⟨hkeys, hclock⟩, hdrawn⟩, hgrants⟩, hcodes⟩, haccess⟩, hrefresh⟩, heval⟩ := h
  refine ⟨hkeys, hclock, ordinary_refresh hdrawn, hgrants, hcodes, haccess, hrefresh, ?_⟩
  obtain ⟨⟨es, y, w'⟩, heval, htest⟩ := (Option.any_eq_true _ _).mp heval
  simp only [Bool.and_eq_true, List.all_eq_true, Bool.not_eq_true', decide_eq_true_eq] at htest
  obtain ⟨⟨⟨hok, hhead⟩, hauth⟩, hreply⟩ := htest
  obtain ⟨reply, hreply⟩ := Option.isSome_iff_exists.mp hreply
  obtain ⟨z, hz, hclient⟩ := (Option.any_eq_true _ _).mp hauth
  obtain ⟨client, hclient, hid⟩ := (Option.any_eq_true _ _).mp hclient
  obtain rfl := eq_ok_of_toOption hreply
  obtain rfl := eq_ok_of_toOption hclient
  refine ⟨client, reply, w'.store, of_decide_eq_true hid, es, w',
    Sys.alone_of_evalAlone system heval, ⟨es.tail.take 3, Prog.path_of_outcome hz, ?_⟩, hok, rfl⟩
  cases es with
  | nil => cases hhead
  | cons e es =>
    obtain rfl := Option.some.inj hhead
    exact List.cons_prefix_cons.mpr ⟨rfl, List.take_prefix _ _⟩

/-- Client `B` owns the same in two such states. -/
lemma Overheard.ownAgree {w w' : World} (h : Overheard w) (h' : Overheard w') :
    OwnAgree "B" w.store w'.store where
  grants := .of_forall_not h.grants h'.grants
  codes := .of_forall_not h.codes h'.codes
  accessTokens := .of_forall_not h.accessTokens h'.accessTokens
  refreshTokens := .of_forall_not h.refreshTokens h'.refreshTokens

/-- The refresh token is not client `B`'s in such a state. -/
lemma Overheard.notOwned {w : World} (h : Overheard w) :
    NotOwned platform Sample.config w "B" refresh where
  accessToken a ha := by
    obtain ⟨jti, -, hrow⟩ := Option.bind_eq_some_iff.mp ha
    exact h.accessTokens a (Map.mem_values hrow)
  refreshToken f hf := h.refreshTokens f (Map.mem_values hf)

/-- The state in which the refresh token was issued is such a state. -/
lemma redemption_overheard : Overheard (redemptionRun.world redemptionRun.len) := by
  obtain ⟨⟨steps, last⟩, ht, h⟩ := (Option.any_eq_true _ _).mp overheard_trace
  have ht : redemptionRun.HasTrace steps last := ht
  rw [Run.world, ht.last]
  exact .of_eq_true h

/-- The state in which it was not issued is one, too. -/
lemma published_overheard : Overheard (publishedRun.world publishedRun.len) := by
  obtain ⟨steps, last, ht, h⟩ := Run.hasTrace_ofTrace published_trace
  have ht : publishedRun.HasTrace steps last := ht
  rw [Run.world, ht.last]
  exact .of_eq_true h

/-- Client `B` is told of the refresh token of client `A` what it is told of no token, in the state
in which it was issued and in one in which it was not. -/
theorem eavesdropping_learns_nothing : ∃ client reply s client' reply' s', client.clientId = "B" ∧
    ComesTo platform Sample.config .memory
    (redemptionRun.world redemptionRun.len) eavesdropping client
      reply s ∧
    ComesTo platform Sample.config .memory
    (publishedRun.world publishedRun.len) eavesdropping client'
      reply' s' ∧
    reply' = reply ∧ OwnAgree "B" s s' ∧
    reply = onSend (replyAbout Sample.config eavesdropping none 100000) ∧
    s.refreshTokens = (redemptionRun.store redemptionRun.len).refreshTokens := by
  have hissued := redemption_overheard
  have hother := published_overheard
  obtain ⟨client, reply, s, hid, hcomes⟩ := hissued.answered
  obtain ⟨client', reply', s', -, hcomes'⟩ := hother.answered
  obtain ⟨hreply, hagree, hforeign⟩ := no_ownership_oracle redemptionRun publishedRun le_rfl le_rfl
    (.inr rfl) rfl (show str (eavesdropping.body.get "token") = some refresh by decide)
    hissued.ordinary hother.ordinary hissued.keys hother.keys
      (hother.clock.trans hissued.clock.symm)
    hcomes hcomes' (hid ▸ hissued.ownAgree hother)
  rw [hid] at hagree hforeign
  obtain ⟨htold, -, -, -, hrows⟩ := hforeign hissued.notOwned
  exact ⟨client, reply, s, client', reply', s', hid, hcomes, hcomes', hreply, hagree,
    hissued.clock ▸ htold, hrows⟩

set_option maxRecDepth 4000 in
lemma pushed_trace : (system.trace ⟨world, []⟩ redemption).any (fun t =>
    t.2.world.store.par.values.all fun row => row.record.clientId ≠ "B") = true := by
  decide +kernel

/-- The two states agree for client `B`. -/
lemma overheard_agreeFor :
    AgreeFor "B" (redemptionRun.world redemptionRun.len)
      (publishedRun.world publishedRun.len) where
  par := by
    obtain ⟨⟨steps, last⟩, ht, h⟩ := (Option.any_eq_true _ _).mp pushed_trace
    have ht : redemptionRun.HasTrace steps last := ht
    simp only [List.all_eq_true, decide_eq_true_eq] at h
    refine .of_forall_not ?_ fun row hrow => ?_
    · rw [Run.world, ht.last]
      exact h
    · have hempty : (publishedRun.world publishedRun.len).store.par.values = [] := by decide +kernel
      rw [hempty] at hrow
      cases hrow
  own := redemption_overheard.ownAgree published_overheard
  clock := published_overheard.clock.trans redemption_overheard.clock.symm
  keys := ⟨_, redemption_overheard.keys, published_overheard.keys⟩

/-- Client `B` learns nothing about the refresh token of client `A`, which it does not own. -/
theorem eavesdropping_no_oracle : ∃ client reply s client' reply' s', client.clientId = "B" ∧
    ComesTo platform Sample.config .memory (redemptionRun.world redemptionRun.len) eavesdropping
      client reply s ∧
    ComesTo platform Sample.config .memory (publishedRun.world publishedRun.len) eavesdropping
      client' reply' s' ∧
    NotOwned platform Sample.config (redemptionRun.world redemptionRun.len) "B" refresh ∧
    NoOracle platform Sample.config eavesdropping (redemptionRun.world redemptionRun.len) "B"
      refresh reply reply' s s' := by
  have hissued := redemption_overheard
  have hother := published_overheard
  obtain ⟨client, reply, s, hid, hcomes⟩ := hissued.answered
  obtain ⟨client', reply', s', -, hcomes'⟩ := hother.answered
  refine ⟨client, reply, s, client', reply', s', hid, hcomes, hcomes', hissued.notOwned, hid ▸ ?_⟩
  exact foreign_tokens_hidden redemptionRun publishedRun le_rfl le_rfl (.inr rfl) rfl
    (show str (eavesdropping.body.get "token") = some refresh by decide) hissued.ordinary
    hother.ordinary hcomes hcomes' (hid ▸ overheard_agreeFor)

end Sample

end Fapi2As
