import Fapi2As.Server.Alone

set_option relaxedAutoImplicit false
set_option autoImplicit false

/-!
# What is answered about a token in a state

Introspection, revocation and the userinfo endpoint resolve a presented token to its record. Served
alone from a state, they find what the tables hold in that state, and what they answer is a function
of it: the client authentication and the verification of a proof in front of the answer only add
replay entries.

## Main definitions

* `Fapi2As.Unfailing` — no awaited call of an execution rejects.
* `Fapi2As.SameTokens` — states with the same tokens, grants, codes, clock and keys.
* `Fapi2As.World.resolved`, `Fapi2As.World.introspection` — what a token resolves to in a state, and
  the answer to a client that asks for it.
* `Fapi2As.AuthenticatedAs` — a request was authenticated as a client.

## Main results

* `Fapi2As.alone_introspect` — an authenticated introspection is answered so.
* `Fapi2As.alone_userinfo` — how the userinfo endpoint answers.
-/

namespace Fapi2As

open Js Async

variable {P : Platform} {config : AppConfig} {backend : Backend} {α β : Type} {w w' : World}
  {es : List Event}

/-! ## Executions in which nothing fails -/

/-- An awaited call that rejected: a repository call, or the load of the signing keys. -/
def isRejection (e : Event) : Bool :=
  match e with
  | ⟨.db _, .error _⟩ | ⟨.ensure, .error _⟩ => true
  | _ => false

/-- No awaited call of an execution rejects. -/
def Unfailing (es : List Event) : Prop := ∀ e ∈ es, isRejection e = false

@[simp] lemma unfailing_append {q q' : List Event} :
    Unfailing (q ++ q') ↔ Unfailing q ∧ Unfailing q' := by
  simp [Unfailing, or_imp, forall_and]

@[simp] lemma unfailing_cons {e : Event} {q : List Event} :
    Unfailing (e :: q) ↔ isRejection e = false ∧ Unfailing q := by
  simp [Unfailing]

/-- **A repository call that does not reject** is carried out, and changes the tables only. -/
lemma alone_db_ok {q : Query} {y : Except Exn q.Res}
    (h : RunsAlone P config backend (db q) w es y w')
    (hok : Unfailing es) :
    ∃ a, Carried w.store q a w'.store ∧ w' = { w with store := w'.store } ∧ y = .ok a := by
  rcases alone_db h with ⟨a, hc, hw, -, hy⟩ | ⟨-, rfl, -⟩
  · exact ⟨a, hc, hw, hy⟩
  · cases hok _ (List.mem_singleton_self _)

/-- The reply for the outcome of a handler. -/
def replyOf : Except Exn Reply → Reply
  | .ok reply => reply
  | .error e => errorReply e

/-- A handler is served alone: its reply is the one for an outcome of its program. -/
lemma alone_respond {p : Handler Reply} {y : Except Exn Reply}
    (h : RunsAlone P config backend (respond p) w es y w') :
    ∃ x, RunsAlone P config backend p w es x w' ∧ y = .ok (onSend (replyOf x)) := by
  unfold respond at h
  rcases h.bind with ⟨reply, es₁, es₂, w₁, h1, h2, rfl⟩ | ⟨e, h1, rfl⟩
  · obtain ⟨rfl, rfl, rfl⟩ := h2.of_ret
    rcases h1.tryCatch with ⟨a, hp, ha⟩ | ⟨e, es₂, es₃, w₂, hp, h2, rfl⟩
    · obtain rfl := Except.ok.inj ha
      exact ⟨.ok reply, by simpa using hp, rfl⟩
    · obtain ⟨rfl, hr, rfl⟩ := h2.of_ret
      obtain rfl := Except.ok.inj hr
      exact ⟨.error e, by simpa using hp, rfl⟩
  · rcases h1.tryCatch with ⟨a, -, ha⟩ | ⟨e, es₂, es₃, w₂, -, h2, -⟩
    · cases ha
    · cases h2.of_ret.2.1

/-- A program whose exceptions are kept as values. -/
lemma alone_attempt {p : Handler α} {y : Except Exn (Except Exn α)}
    (h : RunsAlone P config backend (attempt p) w es y w') :
    ∃ x, RunsAlone P config backend p w es x w' ∧ y = .ok x := by
  unfold attempt at h
  rcases h.tryCatch with ⟨x, h1, rfl⟩ | ⟨e, es₁, es₂, w₁, h1, h2, rfl⟩
  · rcases h1.bind with ⟨a, es₁, es₂, w₁, hp, h2, rfl⟩ | ⟨e, -, hx⟩
    · obtain ⟨rfl, hx, rfl⟩ := h2.of_ret
      obtain rfl := Except.ok.inj hx
      exact ⟨.ok a, by simpa using hp, rfl⟩
    · cases hx
  · obtain ⟨rfl, rfl, rfl⟩ := h2.of_ret
    rcases h1.bind with ⟨a, _, _, _, -, h2, -⟩ | ⟨e', hp, he⟩
    · cases h2.of_ret.2.1
    · obtain rfl := Except.error.inj he
      exact ⟨.error e, by simpa using hp, rfl⟩

/-! ## States with the same tokens -/

/-- Two states have the same tokens, grants and codes, and the same clock, and loaded keys are kept.
-/
structure SameTokens (w w' : World) : Prop where
  clock : w'.clock = w.clock
  keys : ∀ ks, w.keys = some ks → w'.keys = some ks
  accessTokens : w'.store.accessTokens = w.store.accessTokens
  refreshTokens : w'.store.refreshTokens = w.store.refreshTokens
  grants : w'.store.grants = w.store.grants
  codes : w'.store.codes = w.store.codes

lemma SameTokens.refl (w : World) : SameTokens w w := ⟨rfl, fun _ h => h, rfl, rfl, rfl, rfl⟩

lemma SameTokens.trans {w₁ w₂ w₃ : World} (h : SameTokens w₁ w₂) (h' : SameTokens w₂ w₃) :
    SameTokens w₁ w₃ :=
  ⟨h'.clock.trans h.clock, fun ks hks => h'.keys ks (h.keys ks hks),
    h'.accessTokens.trans h.accessTokens, h'.refreshTokens.trans h.refreshTokens,
    h'.grants.trans h.grants, h'.codes.trans h.codes⟩

/-- A call of an authentication keeps the tokens. -/
lemma exec_authenticates {o : Call} {x : Oracle} {r : Ret o}
    (h : exec P config backend o x w = some (r, w')) (ho : o.authenticates = true) :
    SameTokens w w' := by
  cases o with
  | now => cases h; exact .refl _
  | fetchJwks uri => cases h; exact .refl _
  | db q =>
    have hstore : w' = { w with store := w'.store } := by
      simp only [exec, Option.some.injEq, Prod.mk.injEq] at h
      obtain ⟨-, rfl⟩ := h
      rfl
    have hkept : w'.store.accessTokens = w.store.accessTokens ∧
        w'.store.refreshTokens = w.store.refreshTokens ∧ w'.store.grants = w.store.grants ∧
        w'.store.codes = w.store.codes := by
      rcases Backend.exec_cases (exec_db h) with ⟨a, hc, -⟩ | ⟨hs, -⟩
      · cases q with
        | clientsFindById id =>
          have heq := hc.eq_memory rfl
          rw [(Prod.mk.inj heq).2]
          exact ⟨rfl, rfl, rfl, rfl⟩
        | jtiRegister c j e t =>
          obtain ⟨rows, sweep, hreg⟩ := hc.registered
          rw [hreg.tables]
          exact ⟨rfl, rfl, rfl, rfl⟩
        | _ => cases ho
      · rw [hs]
        exact ⟨rfl, rfl, rfl, rfl⟩
    obtain ⟨hat, hrt, hg, hc⟩ := hkept
    rw [hstore]
    exact ⟨rfl, fun _ hk => hk, hat, hrt, hg, hc⟩
  | _ => cases ho

/-- **An authentication keeps the tokens.** -/
lemma alone_authenticates {p : Handler α} {y : Except Exn α}
    (h : RunsAlone P config backend p w es y w')
    (hp : p.OnlyCalls fun o => o.authenticates = true) : SameTokens w w' :=
  h.frame (K := SameTokens) SameTokens.refl SameTokens.trans
    (fun _ _ _ _ _ ho hx => exec_authenticates hx ho) hp

/-! ## What a token resolves to -/

variable (P config)

/-- The record of a JWT that verifies as an access token. -/
def World.accessToken (w : World) (token : String) : Option AccessTokenRecord :=
  (verifiedJti P config token (publicJwks (w.keys.getD []) w.clock)).bind w.store.accessTokens.get?

/-- The record of an opaque token. -/
def World.refreshToken (w : World) (token : String) : Option RefreshTokenRecord :=
  w.store.refreshTokens.get? (P.sha256Base64Url token)

/-- What a token resolves to. -/
def World.resolved (w : World) (token : String) (hint : Option String) : Option ResolvedToken :=
  let access := (w.accessToken P config token).map ResolvedToken.accessToken
  let refresh := (w.refreshToken P token).map ResolvedToken.refreshToken
  if hint = some "refresh_token" then refresh.or access else access.or refresh

/-- What a client is told of a token. -/
def World.introspection (w : World) (clientId token : String) (hint : Option String) : Reply :=
  match w.resolved P config token hint with
  | none => inactive
  | some resolved =>
    if resolved.clientId ≠ clientId then inactive else introspectionOf config resolved w.clock

variable {P config}

/-- States with the same tokens and keys resolve a token to the same record. -/
lemma SameTokens.resolved (h : SameTokens w w') (hkeys : w'.keys = w.keys) (token : String)
    (hint : Option String) : w'.resolved P config token hint = w.resolved P config token hint := by
  simp only [World.resolved, World.accessToken, World.refreshToken, h.clock, h.accessTokens,
    h.refreshTokens, hkeys]

/-- States with the same tokens and keys give the same answer. -/
lemma SameTokens.introspection (h : SameTokens w w') (hkeys : w'.keys = w.keys)
    (clientId token : String) (hint : Option String) :
    w'.introspection P config clientId token hint =
      w.introspection P config clientId token hint := by
  simp only [World.introspection, h.resolved hkeys, h.clock]

/-- The keys of a state were loaded by an execution, if they were not before. -/
def KeysLoaded (w w' : World) : Prop :=
  w' = w ∨ w.keys = none ∧ ∃ ks, w' = { w with keys := some ks }

lemma KeysLoaded.sameTokens (h : KeysLoaded w w') : SameTokens w w' := by
  rcases h with rfl | ⟨hnone, ks, rfl⟩
  · exact .refl _
  · exact ⟨rfl, fun ks' hks => (by rw [hnone] at hks; cases hks), rfl, rfl, rfl, rfl⟩

/-- Loaded keys stay as they are. -/
lemma KeysLoaded.eq (h : KeysLoaded w w') {ks : List SigningKeyRecord} (hks : w.keys = some ks) :
    w' = w := by
  rcases h with h | ⟨hnone, -⟩
  · exact h
  · rw [hks] at hnone
    cases hnone

/-- The signing keys are ensured. -/
lemma alone_ensure {y : Except Exn Unit}
    (h : RunsAlone P config backend (Prog.perform Call.ensure >>= awaited) w es y w')
    (hok : Unfailing es) : KeysLoaded w w' ∧ y = .ok () := by
  rcases h.bind with ⟨r, es₁, es₂, w₁, h1, h2, rfl⟩ | ⟨e, h1, rfl⟩
  · obtain ⟨x, r', hx, rfl, hr⟩ := h1.perform
    obtain rfl := Except.ok.inj hr
    obtain ⟨rfl, rfl, hsettled⟩ := h2.settle
    have hx : exec P config backend .ensure x w = some (r, w') := hx
    have hy : y = .ok () := by
      rcases hsettled with ⟨a, -, hy⟩ | ⟨e, rfl, -⟩
      · exact hy
      · exact absurd (hok ⟨.ensure, .error e⟩ (by simp)) (by simp [isRejection])
    refine ⟨?_, hy⟩
    cases hkeys : w.keys with
    | some ks =>
      simp only [exec, hkeys, Option.some.injEq, Prod.mk.injEq] at hx
      exact .inl hx.2.symm
    | none =>
      cases hloaded : x.loaded with
      | some ks =>
        simp only [exec, hkeys, hloaded, Option.some.injEq, Prod.mk.injEq] at hx
        exact .inr ⟨hkeys, ks, hx.2.symm⟩
      | none =>
        simp only [exec, hkeys, hloaded, Option.some.injEq, Prod.mk.injEq] at hx
        exact .inl hx.2.symm
  · obtain ⟨x, r', hx, rfl, hr⟩ := h1.perform
    cases hr

/-- A lookup of an access token ensures the keys, reads them, and reads the row of the token. -/
lemma findAccessToken_eq (token : String) :
    findAccessToken P config token = (Prog.perform Call.ensure >>= awaited) >>= fun _ =>
      Prog.perform Call.publicJwks >>= fun keys =>
        (verifiedJti P config token keys).elim (pure none) fun jti =>
          db (.accessTokensFindByJti jti) := by
  unfold findAccessToken
  rw [Prog.bind_assoc]
  congr 1
  funext ready
  congr 1
  funext _
  congr 1
  funext keys
  cases verifiedJti P config token keys <;> rfl

/-- **An access token is looked up** under the published keys. -/
lemma alone_findAccessToken {token : String} {y : Except Exn (Option AccessTokenRecord)}
    (h : RunsAlone P config backend (findAccessToken P config token) w es y w')
    (hok : Unfailing es) :
    KeysLoaded w w' ∧ y = .ok (w'.accessToken P config token) := by
  rw [findAccessToken_eq] at h
  rcases h.bind with ⟨_, es₁, es₂, w₁, h1, h2, rfl⟩ | ⟨e, h1, rfl⟩
  swap
  · cases (alone_ensure h1 hok).2
  obtain ⟨hok₁, hok₂⟩ := unfailing_append.mp hok
  obtain ⟨hloaded, -⟩ := alone_ensure h1 hok₁
  rcases h2.bind with ⟨keys, es₃, es₄, w₂, h3, h4, rfl⟩ | ⟨e, h3, rfl⟩
  swap
  · obtain ⟨_, _, -, -, hr⟩ := h3.perform
    cases hr
  obtain ⟨x, keys', hx, rfl, hr⟩ := h3.perform
  obtain rfl := Except.ok.inj hr
  have hx : some (publicJwks (w₁.keys.getD []) w₁.clock, w₁) = some (keys, w₂) := hx
  obtain ⟨rfl, rfl⟩ := Prod.mk.inj (Option.some.inj hx)
  cases hjti : verifiedJti P config token (publicJwks (w₁.keys.getD []) w₁.clock) with
  | none =>
    rw [hjti] at h4
    obtain ⟨-, rfl, rfl⟩ := h4.of_ret
    exact ⟨hloaded, by rw [World.accessToken, hjti]; rfl⟩
  | some jti =>
    rw [hjti] at h4
    obtain ⟨a, hc, hw, rfl⟩ := alone_db_ok h4 (unfailing_append.mp hok₂).2
    obtain ⟨hres, hstore⟩ := Prod.mk.inj (hc.eq_memory rfl)
    obtain rfl : w' = w₁ := by rw [hw, hstore]
    refine ⟨hloaded, ?_⟩
    rw [World.accessToken, hjti, hres]
    rfl

/-- A refresh token is looked up by its hash. -/
lemma alone_findRefreshToken {token : String} {y : Except Exn (Option RefreshTokenRecord)}
    (h : RunsAlone P config backend (findRefreshToken P token) w es y w') (hok : Unfailing es) :
    w' = w ∧ y = .ok (w.refreshToken P token) := by
  obtain ⟨a, hc, hw, rfl⟩ := alone_db_ok h hok
  obtain ⟨hres, hstore⟩ := Prod.mk.inj (hc.eq_memory rfl)
  refine ⟨by rw [hw, hstore], ?_⟩
  rw [hres]
  rfl

/-- **A token is resolved** to what it resolves to in the state. -/
lemma alone_resolveToken {token : String} {hint : Option String}
    {y : Except Exn (Option ResolvedToken)}
    (h : RunsAlone P config backend (resolveToken P config token hint) w es y w')
    (hok : Unfailing es) :
    KeysLoaded w w' ∧ y = .ok (w'.resolved P config token hint) := by
  unfold resolveToken at h
  unfold World.resolved
  by_cases hhint : hint = some "refresh_token"
  · rw [if_pos hhint] at h ⊢
    rcases h.bind with ⟨found, es₁, es₂, w₁, h1, h2, rfl⟩ | ⟨e, h1, rfl⟩
    swap
    · cases (alone_findRefreshToken h1 hok).2
    obtain ⟨hok₁, hok₂⟩ := unfailing_append.mp hok
    obtain ⟨rfl, hfound⟩ := alone_findRefreshToken h1 hok₁
    obtain rfl := Except.ok.inj hfound
    cases hrecord : w₁.refreshToken P token with
    | some record =>
      rw [hrecord] at h2
      obtain ⟨-, rfl, rfl⟩ := h2.of_ret
      exact ⟨.inl rfl, by rw [hrecord]; rfl⟩
    | none =>
      rw [hrecord] at h2
      rcases h2.bind with ⟨record, es₃, es₄, w₂, h3, h4, rfl⟩ | ⟨e, h3, rfl⟩
      swap
      · cases (alone_findAccessToken h3 hok₂).2
      obtain ⟨hloaded, hr⟩ := alone_findAccessToken h3 (unfailing_append.mp hok₂).1
      obtain rfl := Except.ok.inj hr
      obtain ⟨-, rfl, rfl⟩ := h4.of_ret
      have hnone : w'.refreshToken P token = none := by
        rw [World.refreshToken, hloaded.sameTokens.refreshTokens]
        exact hrecord
      exact ⟨hloaded, by rw [hnone]; rfl⟩
  · rw [if_neg hhint] at h ⊢
    rcases h.bind with ⟨found, es₁, es₂, w₁, h1, h2, rfl⟩ | ⟨e, h1, rfl⟩
    swap
    · cases (alone_findAccessToken h1 hok).2
    obtain ⟨hok₁, hok₂⟩ := unfailing_append.mp hok
    obtain ⟨hloaded, hfound⟩ := alone_findAccessToken h1 hok₁
    obtain rfl := Except.ok.inj hfound
    cases hrecord : w₁.accessToken P config token with
    | some record =>
      rw [hrecord] at h2
      obtain ⟨-, rfl, rfl⟩ := h2.of_ret
      exact ⟨hloaded, by rw [hrecord]; rfl⟩
    | none =>
      rw [hrecord] at h2
      rcases h2.bind with ⟨record, es₃, es₄, w₂, h3, h4, rfl⟩ | ⟨e, h3, rfl⟩
      swap
      · cases (alone_findRefreshToken h3 hok₂).2
      obtain ⟨rfl, hr⟩ := alone_findRefreshToken h3 (unfailing_append.mp hok₂).1
      obtain rfl := Except.ok.inj hr
      obtain ⟨-, rfl, rfl⟩ := h4.of_ret
      exact ⟨hloaded, by rw [hrecord]; rfl⟩

/-! ## Authenticated requests -/

/-- **A request was authenticated as a client**: after the rate limiter let it pass, its calls are
those of an authentication that returned the client. -/
def AuthenticatedAs (P : Platform) (config : AppConfig) (req : HttpRequest) (client : Client)
    (es : List Event) : Prop :=
  ∃ q, Prog.Path (authenticateClient P config req.body req.authorization) q (.ret client) ∧
    ⟨.allow req.ip, true⟩ :: q <+: es

/-- An endpoint behind the rate limiter that takes a form and authenticates the client. -/
def formEndpoint (P : Platform) (config : AppConfig) (req : HttpRequest) (section_ : String)
    (f : Client → Handler Reply) : Handler Reply :=
  rateLimited req.ip do
    requireForm req section_
    let client ← authenticateClient P config req.body req.authorization
    f client

/-- **The parts of an authenticated request**: the limiter lets it pass, its body is a form, the
authentication returns the client, and the endpoint goes on. -/
structure RequestParts (P : Platform) (config : AppConfig) (backend : Backend) (req : HttpRequest)
    (client : Client) (w : World) (q : List Event) (w₁ : World) : Prop where
  form : req.isForm = true
  passes : ∃ x w₀, exec P config backend (.allow req.ip) x w = some (true, w₀) ∧
    RunsAlone P config backend (authenticateClient P config req.body req.authorization) w₀ q
      (.ok client) w₁

variable {req : HttpRequest} {client : Client} {section_ : String} {f : Client → Handler Reply}
  {y : Except Exn Reply}

/-- **An authenticated request of a form endpoint** is made of these parts. -/
lemma alone_formEndpoint
    (h : RunsAlone P config backend (formEndpoint P config req section_ f) w es y w')
    (hauth : AuthenticatedAs P config req client es) :
    ∃ q w₁ es', es = ⟨.allow req.ip, true⟩ :: q ++ es' ∧
      RequestParts P config backend req client w q w₁ ∧
      RunsAlone P config backend (f client) w₁ es' y w' := by
  obtain ⟨q, hpath, hprefix⟩ := hauth
  have hne : q ≠ [] := by
    rintro rfl
    unfold authenticateClient at hpath
    cases hpath
  unfold formEndpoint rateLimited at h
  rcases h.bind with ⟨allowed, es₁, es₂, w₁, h1, h2, rfl⟩ | ⟨e, h1, rfl⟩
  swap
  · obtain ⟨_, _, -, -, hr⟩ := h1.perform
    cases hr
  obtain ⟨x, r, hx, rfl, hr⟩ := h1.perform
  obtain rfl := Except.ok.inj hr
  obtain ⟨hhead, hq⟩ := List.cons_prefix_cons.mp hprefix
  obtain rfl : allowed = true := by
    have hres := congrArg (fun e : Event => e) hhead
    cases hres
    rfl
  rw [if_pos rfl] at h2
  rcases h2.bind with ⟨_, es₃, es₄, w₂, h3, h4, rfl⟩ | ⟨e, h3, rfl⟩
  · obtain ⟨rfl, rfl, ⟨-, hr⟩ | ⟨hform, -⟩⟩ := h3.throwIf
    · cases hr
    obtain ⟨es₅, w₃, h5, h6, rfl⟩ := h4.bind_of_path hpath hq
    exact ⟨q, w₃, es₅, rfl, ⟨Bool.eq_true_of_not_eq_false hform, x, _, hx, h5⟩, h6⟩
  · obtain ⟨rfl, -, -⟩ := h3.throwIf
    exact absurd (List.prefix_nil.mp hq) hne

/-- **And these parts make an authenticated request.** -/
lemma formEndpoint_of_parts {q : List Event} {w₁ : World}
    (hparts : RequestParts P config backend req client w q w₁)
    (h : RunsAlone P config backend (f client) w₁ es y w') :
    RunsAlone P config backend (formEndpoint P config req section_ f) w
        (⟨.allow req.ip, true⟩ :: q ++ es) y w' ∧
      AuthenticatedAs P config req client (⟨.allow req.ip, true⟩ :: q ++ es) := by
  obtain ⟨hform, x, w₀, hx, hauth⟩ := hparts
  refine ⟨?_, q, hauth.path.1 client rfl, List.prefix_append _ _⟩
  have hallow := Sys.Alone.of_exec (S := server P config backend) (o := .allow req.ip) (x := x) hx
  have hrequire : RunsAlone P config backend (requireForm req section_) w₀ [] (.ok ()) w₀ := by
    unfold requireForm
    rw [throwIf_neg _ (by simp [hform])]
    exact Sys.Alone.ret (S := server P config backend) () w₀
  exact hallow.seq (f := fun ok => if ok then requireForm req section_ >>= fun _ =>
    authenticateClient P config req.body req.authorization >>= f
    else pure (jsonError 429 "invalid_request" "too many requests")) (hrequire.seq (hauth.seq h))

/-- An authentication and the limiter keep the tokens. -/
lemma RequestParts.sameTokens {q : List Event} {w₁ : World}
    (h : RequestParts P config backend req client w q w₁) : SameTokens w w₁ := by
  obtain ⟨-, x, w₀, hx, hauth⟩ := h
  have hlimited : SameTokens w w₀ := by
    have hx : some ((w.limiter.allow config.rateLimitPerMin req.ip w.clock).1, { w with
      limiter := (w.limiter.allow config.rateLimitPerMin req.ip w.clock).2 }) =
        some (true, w₀) := hx
    obtain ⟨-, rfl⟩ := Prod.mk.inj (Option.some.inj hx)
    exact ⟨rfl, fun _ hk => hk, rfl, rfl, rfl, rfl⟩
  exact hlimited.trans (alone_authenticates hauth (authenticateClient_onlyCalls _ _))

/-- **An authenticated request of a form endpoint** goes on with the client in a state with the same
tokens. -/
lemma alone_authenticated
    (h : RunsAlone P config backend (formEndpoint P config req section_ f) w es y w')
    (hauth : AuthenticatedAs P config req client es) (hok : Unfailing es) :
    ∃ es' w₁, SameTokens w w₁ ∧ Unfailing es' ∧
      RunsAlone P config backend (f client) w₁ es' y w' := by
  obtain ⟨q, w₁, es', rfl, hparts, hrest⟩ := alone_formEndpoint h hauth
  exact ⟨es', w₁, hparts.sameTokens, (unfailing_append.mp hok).2, hrest⟩

/-! ## The answers -/

/-- **An authenticated introspection** is answered with the state of the token. -/
lemma alone_introspect {req : HttpRequest} {client : Client} {token : String} {reply : Reply}
    (h : RunsAlone P config backend (handler P config req) w es (.ok reply) w')
    (hroute : req.route = .introspect) (hmethod : req.method = "POST")
    (hauth : AuthenticatedAs P config req client es) (hok : Unfailing es)
    (htoken : str (req.body.get "token") = some token) :
    SameTokens w w' ∧ reply = onSend (w'.introspection P config client.clientId token
      (str (req.body.get "token_type_hint"))) := by
  unfold handler dispatch at h
  simp only [hroute, hmethod, if_true] at h
  obtain ⟨x, hx, hreply⟩ := alone_respond h
  obtain rfl := Except.ok.inj hreply
  unfold handleIntrospect at hx
  obtain ⟨es', w₁, hsame, hok', hrest⟩ := alone_authenticated hx hauth hok
  rw [htoken] at hrest
  rcases hrest.bind with ⟨found, es₁, es₂, w₂, h1, h2, rfl⟩ | ⟨e, h1, rfl⟩
  swap
  · cases (alone_resolveToken h1 hok').2
  obtain ⟨hok₁, hok₂⟩ := unfailing_append.mp hok'
  obtain ⟨hloaded, hfound⟩ := alone_resolveToken h1 hok₁
  obtain rfl := Except.ok.inj hfound
  have hsame₂ : SameTokens w w₂ := hsame.trans hloaded.sameTokens
  unfold World.introspection
  cases hresolved : w₂.resolved P config token (str (req.body.get "token_type_hint")) with
  | none =>
    rw [hresolved] at h2
    obtain ⟨-, rfl, rfl⟩ := h2.of_ret
    exact ⟨hsame₂, by rw [hresolved]; rfl⟩
  | some resolved =>
    rw [hresolved] at h2
    dsimp only at h2
    by_cases howner : resolved.clientId ≠ client.clientId
    · rw [if_pos howner] at h2
      obtain ⟨-, rfl, rfl⟩ := h2.of_ret
      refine ⟨hsame₂, ?_⟩
      rw [hresolved]
      dsimp only
      rw [if_pos howner]
      rfl
    · rw [if_neg howner] at h2
      rcases h2.bind with ⟨t, es₃, es₄, w₃, h3, h4, rfl⟩ | ⟨e, h3, rfl⟩
      swap
      · cases (alone_now h3).2.2
      obtain ⟨rfl, rfl, ht⟩ := alone_now h3
      obtain rfl := Except.ok.inj ht
      obtain ⟨-, rfl, rfl⟩ := h4.of_ret
      refine ⟨hsame₂, ?_⟩
      rw [hresolved]
      dsimp only
      rw [if_neg howner]
      rfl

/-! ## The verification of a proof -/

/-- The checks of a proof in front of the replay guard: the proof and the thumbprint of its key. -/
def checkedProof (P : Platform) (config : AppConfig) (header : Option DpopHeader)
    (ctx : DpopContext)
    (t : ℕ) : Except Exn (CheckedProof × String) :=
  match checkProof P config header ctx t with
  | .error e => .error (.oauth e)
  | .ok p =>
    match P.calculateJwkThumbprint p.jwk with
    | none => .error .other
    | some jkt =>
      if config.dpopNonceRequired = true ∧
          nonceAccepted P config p.nonce jkt (normalizeHtu P ctx.htu) t = false then
        .error (.oauth (useDpopNonce (issueNonce P config jkt (normalizeHtu P ctx.htu) t)))
      else .ok (p, jkt)

/-- The registration of a checked proof. -/
def proofEntry (P : Platform) (config : AppConfig) (ctx : DpopContext) (t : ℕ)
    (checked : CheckedProof × String) : Query :=
  .jtiRegister (ctx.replayKey P) (dpopReplayId checked.2 checked.1.jti)
    (dpopReplayExpiry config checked.1.iat) t

/-- A checked proof is registered, and the thumbprint of its key returned. -/
def registerProof (P : Platform) (config : AppConfig) (ctx : DpopContext) (t : ℕ)
    (checked : CheckedProof × String) : Handler String := do
  let fresh : Bool ← db (proofEntry P config ctx t checked)
  throwIf (fresh = false) (invalidDpopProof "DPoP proof replay detected [RFC9449 §11.1]")
  pure checked.2

/-- A verification checks a proof and registers it. -/
lemma verifyDpopProof_eq_register (header : Option DpopHeader) (ctx : DpopContext) :
    verifyDpopProof P config header ctx = now >>= fun t =>
      Prog.settle id (checkedProof P config header ctx t) >>= registerProof P config ctx t := by
  unfold verifyDpopProof checkedProof
  congr 1
  funext t
  cases checkProof P config header ctx t with
  | error e => rfl
  | ok p =>
    simp only [Prog.settle, Prog.ret_bind]
    cases P.calculateJwkThumbprint p.jwk with
    | none => rfl
    | some jkt =>
      simp only [Prog.pure_bind']
      split_ifs with hnonce
      · rw [throwIf_pos _ hnonce]
        rfl
      · rw [throwIf_neg _ hnonce]
        rfl

/-- **How a verification runs**: a proof that does not pass its checks is refused; one that does is
registered, and the thumbprint of its key is returned when its entry was fresh. -/
lemma alone_verifyDpopProof {header : Option DpopHeader} {ctx : DpopContext} {y : Except Exn String}
    (h : RunsAlone P config backend (verifyDpopProof P config header ctx) w es y w') :
    (∃ e, checkedProof P config header ctx w.clock = .error e ∧ y = .error e) ∨
      (∃ checked x, ∃ fresh : Bool, checkedProof P config header ctx w.clock = .ok checked ∧
        backend.exec w.store x (proofEntry P config ctx w.clock checked) = (.ok fresh, w'.store) ∧
        (fresh = true ∧ y = .ok checked.2 ∨ fresh = false ∧ ∃ e, y = .error e)) ∨
      ¬Unfailing es ∧ ∃ e, y = .error e := by
  rw [verifyDpopProof_eq_register] at h
  rcases h.bind with ⟨t, es₁, es₂, w₁, h1, h2, rfl⟩ | ⟨e, h1, rfl⟩
  swap
  · cases (alone_now h1).2.2
  obtain ⟨rfl, rfl, ht⟩ := alone_now h1
  obtain rfl := Except.ok.inj ht
  rcases h2.bind with ⟨checked, es₃, es₄, w₂, h3, h4, rfl⟩ | ⟨e, h3, rfl⟩
  swap
  · obtain ⟨-, rfl, ⟨_, _, hr⟩ | ⟨e', he, hr⟩⟩ := h3.settle
    · cases hr
    · obtain rfl := Except.error.inj hr
      exact .inl ⟨_, he, rfl⟩
  obtain ⟨rfl, rfl, ⟨_, hchecked, hr⟩ | ⟨_, _, hr⟩⟩ := h3.settle
  swap
  · cases hr
  obtain rfl := Except.ok.inj hr
  unfold registerProof at h4
  rcases h4.bind with ⟨fresh, es₅, es₆, w₃, h5, h6, rfl⟩ | ⟨e, h5, rfl⟩
  · obtain ⟨x, r, hx, -, -, ⟨a, rfl, hr⟩ | ⟨_, _, hr⟩⟩ := alone_db_exec h5
    swap
    · cases hr
    obtain rfl := Except.ok.inj hr
    refine .inr (.inl ⟨checked, x, fresh, hchecked, ?_⟩)
    rcases h6.bind with ⟨_, es₇, es₈, w₄, h7, h8, rfl⟩ | ⟨e, h7, rfl⟩
    · obtain ⟨rfl, rfl, ⟨_, hr⟩ | ⟨hfresh, -⟩⟩ := h7.throwIf
      · cases hr
      · obtain ⟨-, rfl, rfl⟩ := h8.of_ret
        exact ⟨hx, .inl ⟨Bool.eq_true_of_not_eq_false hfresh, rfl⟩⟩
    · obtain ⟨rfl, rfl, ⟨hfresh, hr⟩ | ⟨_, hr⟩⟩ := h7.throwIf
      · exact ⟨hx, .inr ⟨hfresh, e, rfl⟩⟩
      · cases hr
  · obtain ⟨x, r, -, -, rfl, ⟨a, _, hr⟩ | ⟨fault, rfl, -⟩⟩ := alone_db_exec h5
    · cases hr
    · exact .inr (.inr ⟨by simp [isRejection], e, rfl⟩)

/-- **Whether a proof passes is decided by the state**: a proof that passes in one execution passes
in every one in which nothing fails. -/
lemma verifyDpopProof_decided {header : Option DpopHeader} {ctx : DpopContext} {jkt : String}
    {es' : List Event} {w'' : World} {y : Except Exn String}
    (h : RunsAlone P config backend (verifyDpopProof P config header ctx) w es (.ok jkt) w')
    (h' : RunsAlone P config backend (verifyDpopProof P config header ctx) w es' y w'')
    (hok : Unfailing es') : y = .ok jkt := by
  rcases alone_verifyDpopProof h with ⟨_, -, hr⟩ |
    ⟨checked, x, fresh, hchecked, hx, ⟨rfl, hr⟩ | ⟨-, _, hr⟩⟩ | ⟨-, _, hr⟩
  · cases hr
  · obtain rfl := Except.ok.inj hr
    rcases alone_verifyDpopProof h' with ⟨_, he, -⟩ |
      ⟨checked', x', fresh', hchecked', hx', hcases⟩ | ⟨hfailing, -⟩
    · rw [hchecked] at he
      cases he
    · obtain rfl : checked = checked' := Except.ok.inj (hchecked.symm.trans hchecked')
      obtain rfl := Backend.jtiRegister_decided hx hx'
      rcases hcases with ⟨-, hy⟩ | ⟨hr, -⟩
      · exact hy
      · cases hr
    · exact absurd hok hfailing
  · cases hr
  · cases hr

/-! ## The userinfo endpoint -/

/-- An access token is neither revoked nor expired. -/
def AccessTokenRecord.isLive (r : AccessTokenRecord) (t : ℕ) : Bool :=
  r.revokedAt = none && !r.expiresAt.isPast t

lemma AccessTokenRecord.isLive_iff {r : AccessTokenRecord} {t : ℕ} :
    r.isLive t = true ↔ ¬(r.revokedAt ≠ none ∨ r.expiresAt.isPast t = true) := by
  simp [isLive]

/-- The answer of the userinfo endpoint for the outcome of a verification. -/
def userinfoReply (cnfJkt subject : String) : Except Exn String → Reply
  | .error _ => challenge 401 (some ("invalid_dpop_proof", "DPoP proof is invalid"))
  | .ok jkt =>
    if jkt ≠ cnfJkt then invalidToken "DPoP key does not match the access token binding"
    else subjectReply subject

/-- The userinfo endpoint verifies a proof for an access token that is alive and bound to a key. -/
structure ProofAsked (P : Platform) (config : AppConfig) (w : World) (token : String)
    (record : AccessTokenRecord) (cnfJkt : String) : Prop where
  found : w.accessToken P config token = some record
  live : record.isLive w.clock = true
  bound : record.cnfJkt.filter (· ≠ "") = some cnfJkt

/-- The checks of a found access token. -/
lemma alone_userinfoOf {req : HttpRequest} {token : String} {record : AccessTokenRecord}
    {y : Except Exn Reply} (hfound : w.accessToken P config token = some record)
    (h : RunsAlone P config backend (userinfoOf P config req token record) w es y w')
    (hok : Unfailing es) :
    ((¬∃ cnfJkt, ProofAsked P config w token record cnfJkt) ∧ ∃ reply, y = .ok reply ∧
        reply.status = 401) ∨
      ∃ cnfJkt es' x, ProofAsked P config w token record cnfJkt ∧
        RunsAlone P config backend (verifyDpopProof P config req.dpop
          (userinfoDpopContext P config req.method token)) w es' x w' ∧ Unfailing es' ∧
        y = .ok (userinfoReply cnfJkt record.subject x) := by
  unfold userinfoOf at h
  by_cases hrevoked : record.revokedAt ≠ none
  · rw [if_pos hrevoked] at h
    obtain ⟨-, rfl, -⟩ := h.of_ret
    refine .inl ⟨?_, _, rfl, rfl⟩
    rintro ⟨cnfJkt, hasked⟩
    have hlive := hasked.live
    simp [AccessTokenRecord.isLive, hrevoked] at hlive
  rw [if_neg hrevoked] at h
  rcases h.bind with ⟨t, es₁, es₂, w₁, h1, h2, rfl⟩ | ⟨e, h1, rfl⟩
  swap
  · cases (alone_now h1).2.2
  obtain ⟨rfl, rfl, ht⟩ := alone_now h1
  obtain rfl := Except.ok.inj ht
  by_cases hexpired : record.expiresAt.isPast w₁.clock = true
  · rw [if_pos hexpired] at h2
    obtain ⟨-, rfl, -⟩ := h2.of_ret
    refine .inl ⟨?_, _, rfl, rfl⟩
    rintro ⟨cnfJkt, hasked⟩
    have hlive := hasked.live
    simp [AccessTokenRecord.isLive, hexpired] at hlive
  rw [if_neg hexpired] at h2
  cases hbound : record.cnfJkt.filter (· ≠ "") with
  | none =>
    rw [hbound] at h2
    obtain ⟨-, rfl, -⟩ := h2.of_ret
    refine .inl ⟨?_, _, rfl, rfl⟩
    rintro ⟨cnfJkt, hasked⟩
    have hsome := hasked.bound
    rw [hbound] at hsome
    cases hsome
  | some cnfJkt =>
    rw [hbound] at h2
    dsimp only at h2
    rcases h2.bind with ⟨x, es₃, es₄, w₂, h3, h4, rfl⟩ | ⟨e, h3, rfl⟩
    swap
    · obtain ⟨_, _, hr⟩ := alone_attempt h3
      cases hr
    obtain ⟨x', h3, hr⟩ := alone_attempt h3
    obtain rfl := Except.ok.inj hr
    have hlive : record.isLive w₁.clock = true :=
      AccessTokenRecord.isLive_iff.mpr (not_or.mpr ⟨hrevoked, hexpired⟩)
    have hok₃ : Unfailing es₃ := by
      simp only [unfailing_append] at hok
      exact hok.2.1
    have hy : y = .ok (userinfoReply cnfJkt record.subject x) ∧ w' = w₂ := by
      cases x with
      | error e =>
        obtain ⟨-, hy, hw⟩ := h4.of_ret
        exact ⟨hy, hw⟩
      | ok jkt =>
        unfold userinfoReply
        dsimp only at h4 ⊢
        by_cases hkey : jkt ≠ cnfJkt
        · rw [if_pos hkey] at h4 ⊢
          obtain ⟨-, hy, hw⟩ := h4.of_ret
          exact ⟨hy, hw⟩
        · rw [if_neg hkey] at h4 ⊢
          obtain ⟨-, hy, hw⟩ := h4.of_ret
          exact ⟨hy, hw⟩
    obtain ⟨rfl, rfl⟩ := hy
    exact .inr ⟨cnfJkt, es₃, x, ⟨hfound, hlive, hbound⟩, h3, hok₃, rfl⟩

/-- **How the userinfo endpoint answers** a presented token: without a subject, or as the
verification of the proof decides. -/
lemma alone_userinfo {req : HttpRequest} {token : String} {reply : Reply}
    (h : RunsAlone P config backend (handler P config req) w es (.ok reply) w')
    (hroute : req.route = .userinfo) (hmethod : isGet req.method = true ∨ req.method = "POST")
    (htoken : req.authorization.bind dpopCredentials = some token) (hne : token ≠ "")
    (hok : Unfailing es) :
    ∃ w₁, KeysLoaded w w₁ ∧
      ((¬∃ record cnfJkt, ProofAsked P config w₁ token record cnfJkt) ∧ reply.status = 401 ∨
        ∃ record cnfJkt es' x, ProofAsked P config w₁ token record cnfJkt ∧
          RunsAlone P config backend (verifyDpopProof P config req.dpop
            (userinfoDpopContext P config req.method token)) w₁ es' x w' ∧ Unfailing es' ∧
          reply = onSend (userinfoReply cnfJkt record.subject x)) := by
  unfold handler dispatch at h
  simp only [hroute, if_pos hmethod] at h
  obtain ⟨x, hx, hreply⟩ := alone_respond h
  obtain rfl := Except.ok.inj hreply
  unfold handleUserinfo at hx
  rw [htoken] at hx
  dsimp only at hx
  rw [if_neg hne] at hx
  rcases hx.bind with ⟨found, es₁, es₂, w₁, h1, h2, rfl⟩ | ⟨e, h1, rfl⟩
  swap
  · cases (alone_findAccessToken h1 hok).2
  obtain ⟨hok₁, hok₂⟩ := unfailing_append.mp hok
  obtain ⟨hloaded, hfound⟩ := alone_findAccessToken h1 hok₁
  obtain rfl := Except.ok.inj hfound
  refine ⟨w₁, hloaded, ?_⟩
  cases hrecord : w₁.accessToken P config token with
  | none =>
    rw [hrecord] at h2
    obtain ⟨-, rfl, -⟩ := h2.of_ret
    refine .inl ⟨?_, by rw [onSend_status]; rfl⟩
    rintro ⟨record, cnfJkt, hasked⟩
    have hsome := hasked.found
    rw [hrecord] at hsome
    cases hsome
  | some record =>
    rw [hrecord] at h2
    rcases alone_userinfoOf hrecord h2 hok₂ with ⟨hnot, r, rfl, hstatus⟩ |
      ⟨cnfJkt, es', v, hasked, hv, hok', rfl⟩
    · refine .inl ⟨?_, by rw [onSend_status]; exact hstatus⟩
      rintro ⟨record', cnfJkt, hasked⟩
      obtain rfl := Option.some.inj (hrecord.symm.trans hasked.found)
      exact hnot ⟨cnfJkt, hasked⟩
    · exact .inr ⟨record, cnfJkt, es', v, hasked, hv, hok', rfl⟩

end Fapi2As
