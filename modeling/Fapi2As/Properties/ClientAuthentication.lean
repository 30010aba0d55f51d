import Fapi2As.Sample
import Fapi2As.Server.Alone

set_option relaxedAutoImplicit false
set_option autoImplicit false

/-!
# Client authentication is sound

An authentication returns the client whose registered keys verify the assertion, and only after
every claim of the verified assertion has passed its check. The subject that is read from the
unverified payload finds the client and has no other influence. The one write is the replay entry,
after all other checks, so a failed authentication leaves the tables as they were, but for expired
replay entries.

## Main definitions

* `Fapi2As.AssertionPresented`, `Fapi2As.AssertionSigned`, `Fapi2As.ClaimsAccepted` — what the
  checks establish.
* `Fapi2As.AuthenticationRun` — the executions of an authentication.
* `Fapi2As.AuthenticatedBy` — everything that is known of an authenticated client.

## Main results

* `Fapi2As.alone_authenticateClient` — every execution of an authentication is one of these.
* `Fapi2As.authentication_sound` — what an authentication returns, and what it leaves behind.
-/

namespace Fapi2As

open Js Async

variable {P : Platform} {config : AppConfig} {backend : Backend} {body : Params}
  {authorization : Option String} {w w' : World} {es : List Event}

/-! ## The checks of the request -/

/-- A request presents an assertion, alone and once. -/
structure AssertionPresented (body : Params) (authorization : Option String) (assertion : String) :
    Prop where
  /-- There is no client secret. -/
  noSecret : isPresent (body.get "client_secret") = false
  /-- There is no authorization header. -/
  noHeader : isPresentHeader authorization = false
  /-- The client identifier is not repeated. -/
  clientId : isArray (body.get "client_id") = false
  /-- The type is the one of JWT bearer assertions. -/
  type : str (body.get "client_assertion_type") = some clientAssertionTypeJwtBearer
  /-- The assertion is the one of the body. -/
  presented : str (body.get "client_assertion") = some assertion
  /-- It is a single JWT. -/
  single : isSingleJwt assertion = true

/-- **The checks of the request are sound.** -/
lemma AssertionPresented.of_eq_ok {assertion : String}
    (h : presentedAssertion body authorization = .ok assertion) :
    AssertionPresented body authorization assertion := by
  simp only [presentedAssertion, bind_eq_ok, reject_eq_ok, present_eq_ok] at h
  obtain ⟨_, -, _, hother, _, harray, a, ha, type, htype, _, hbearer, _, hsingle, h⟩ := h
  obtain rfl := Except.ok.inj h
  simp only [not_or, Bool.not_eq_true] at hother harray
  exact
    { noSecret := hother.1
      noHeader := hother.2
      clientId := harray.2.2
      type := by rw [htype, not_not.mp hbearer]
      presented := ha
      single := by simpa using hsingle }

/-! ## The checks of the assertion -/

/-- A key set is the registered one of a client: inline, or fetched from its address. -/
def RegisteredKeys (client : Client) (q : List Event) (keys : KeyInput) : Prop :=
  (∃ inline, client.metadata.jwks = some inline ∧ keys = .localJwks inline) ∨
    client.metadata.jwks = none ∧ ∃ uri fetched, client.metadata.jwksUri = some uri ∧
      keys = .remoteJwks fetched ∧ ⟨.fetchJwks uri, fetched⟩ ∈ q

/-- An assertion is signed with an accepted algorithm, under a registered key of a client. -/
structure AssertionSigned (P : Platform) (config : AppConfig) (assertion : String) (client : Client)
    (q : List Event) : Prop where
  /-- The algorithm of the header is accepted. -/
  algorithm : ∃ header alg, P.decodeProtectedHeader assertion = some header ∧
    str (header.get "alg") = some alg ∧ alg ∈ acceptedJwsAlgs config.clientAuthSigningAlgs
  /-- The signature verifies. -/
  signature : ∃ keys, RegisteredKeys client q keys ∧
    P.jwtVerify assertion keys (algsOnly (acceptedJwsAlgs config.clientAuthSigningAlgs)) = .ok ()

lemma RegisteredKeys.mono {client : Client} {q q' : List Event} {keys : KeyInput}
    (h : RegisteredKeys client q keys) (hq : ∀ e ∈ q, e ∈ q') : RegisteredKeys client q' keys := by
  rcases h with hinline | ⟨hnone, uri, fetched, huri, hremote, hfetch⟩
  · exact .inl hinline
  · exact .inr ⟨hnone, uri, fetched, huri, hremote, hq _ hfetch⟩

lemma AssertionSigned.mono {assertion : String} {client : Client} {q q' : List Event}
    (h : AssertionSigned P config assertion client q) (hq : ∀ e ∈ q, e ∈ q') :
    AssertionSigned P config assertion client q' := by
  obtain ⟨keys, hkeys, hver⟩ := h.signature
  exact ⟨h.algorithm, keys, hkeys.mono hq, hver⟩

/-- The keys that a client's resolver gives are the registered ones. -/
lemma registeredKeys_of_keysFrom {client : Client} {resolver : KeyResolver} {q : List Event}
    {keys : KeyInput} (hr : clientKeyResolver client = .ok resolver)
    (h : KeysFrom resolver q keys) :
    RegisteredKeys client q keys := by
  unfold clientKeyResolver at hr
  cases hjwks : client.metadata.jwks with
  | some inline =>
    rw [hjwks] at hr
    obtain rfl := Except.ok.inj hr
    cases keys with
    | localJwks keys =>
      obtain rfl := KeyResolver.localSet.inj h
      exact .inl ⟨inline, hjwks, rfl⟩
    | remoteJwks fetched =>
      obtain ⟨uri, hu, -⟩ := h
      cases hu
    | embeddedJwk => cases h
  | none =>
    rw [hjwks] at hr
    cases huri : client.metadata.jwksUri with
    | none =>
      rw [huri] at hr
      cases hr
    | some uri =>
      rw [huri] at hr
      obtain rfl := Except.ok.inj hr
      cases keys with
      | localJwks keys => cases h
      | remoteJwks fetched =>
        obtain ⟨uri', hu, hfetch⟩ := h
        obtain rfl := KeyResolver.remoteSet.inj hu
        exact .inr ⟨hjwks, uri, fetched, huri, rfl, hfetch⟩
      | embeddedJwk => cases h

/-- An assertion whose claims are returned has an accepted algorithm. -/
lemma wp_verifyAssertion_algorithm {client : Client} {assertion : String} {past : List Event} :
    Prog.wp (fun _ _ => True) (fun _ x => ∀ claims, x = .ok claims → ∃ header alg,
        P.decodeProtectedHeader assertion = some header ∧ str (header.get "alg") = some alg ∧
          alg ∈ acceptedJwsAlgs config.clientAuthSigningAlgs)
      past (verifyAssertion P config assertion client) := by
  unfold verifyAssertion
  rw [Prog.wp_tryCatch, Prog.wp_bind, Prog.wp_settle]
  refine ⟨fun resolver _ => ?_, fun e _ => ?_⟩
  · simp only [Prog.Next]
    unfold verifyJws
    cases hheader : P.decodeProtectedHeader assertion with
    | none => exact fun _ h => by cases h
    | some header =>
      simp only
      rw [Prog.wp_bind, Prog.wp_throwIf]
      refine ⟨fun _ _ h => (by cases h), fun halg => Prog.wp_of_forall (fun _ _ => trivial) ?_⟩
      obtain ⟨alg, halg⟩ := Option.ne_none_iff_exists'.mp halg
      obtain ⟨hstr, hmem⟩ := Option.filter_eq_some_iff.mp halg
      have hsigned : ∃ header' alg, some header = some header' ∧
          str (header'.get "alg") = some alg ∧ alg ∈ acceptedJwsAlgs config.clientAuthSigningAlgs :=
        ⟨header, alg, rfl, hstr, by simpa using hmem⟩
      intro q x
      cases x with
      | ok claims => exact fun _ _ => hsigned
      | error e => exact fun _ h => by cases h
  · exact fun _ h => by cases h

/-- The claims of an assertion have passed the checks for a client at an instant. -/
structure ClaimsAccepted (config : AppConfig) (claims body : Params) (client : Client) (now : ℕ)
    (exp : ℚ) (jti : String) : Prop where
  /-- The issuer is the client. -/
  iss : claims.get "iss" = some (.str client.clientId)
  /-- The subject is the client. -/
  sub : claims.get "sub" = some (.str client.clientId)
  /-- The audience is the issuer of the server, as a string. -/
  aud : claims.get "aud" = some (.str config.issuer)
  /-- The expiry is a number. -/
  expiry : claims.get "exp" = some (.num exp)
  /-- The assertion has not expired. -/
  notExpired : (now / 1000 : ℕ) < exp
  /-- The expiry is not too far away. -/
  lifetime : exp - (now / 1000 : ℕ) ≤ config.clientAssertionMaxLifetimeSec
  /-- The instant of issue is absent or a number, and not too far in the future. -/
  iat : ∀ v, claims.get "iat" = some v →
    ∃ t, v = .num t ∧ t ≤ (now / 1000 : ℕ) + config.clockSkewFutureAcceptSec
  /-- So is the instant before which the assertion is not valid. -/
  nbf : ∀ v, claims.get "nbf" = some v →
    ∃ t, v = .num t ∧ t ≤ (now / 1000 : ℕ) + config.clockSkewFutureAcceptSec
  /-- The jti is a string that is not empty. -/
  jtiClaim : claims.get "jti" = some (.str jti) ∧ jti ≠ ""
  /-- A client identifier in the body is the client's. -/
  bodyClient : ∀ c, body.get "client_id" = some (.str c) → c ≠ "" → c = client.clientId

lemma checkNotBefore_eq_ok {claims : Params} {claim : String} {latest : ℚ}
    (h : checkNotBefore claims claim latest = .ok ()) :
    ∀ v, claims.get claim = some v → ∃ t, v = .num t ∧ t ≤ latest := by
  intro v hv
  unfold checkNotBefore at h
  rw [hv] at h
  cases v with
  | num t => exact ⟨t, rfl, not_lt.mp (reject_eq_ok.mp h)⟩
  | _ => cases h

/-- **The checks of the claims are sound.** -/
lemma ClaimsAccepted.of_eq_ok {claims : Params} {client : Client} {now : ℕ} {exp : ℚ} {jti : String}
    (h : checkAssertion config claims body client now = .ok (exp, jti)) :
    ClaimsAccepted config claims body client now exp jti := by
  simp only [checkAssertion, bind_eq_ok, reject_eq_ok, present_eq_ok] at h
  obtain ⟨_, hid, _, hbody, _, haud, x, hx, _, hexp, _, hlife, _, hiat, _, hnbf, j, hj, h⟩ := h
  simp only [Except.ok.injEq, Prod.mk.injEq] at h
  obtain ⟨rfl, rfl⟩ := h
  simp only [not_or, Bool.not_eq_false, isText_eq_true] at hid haud
  have hexpiry : claims.get "exp" = some (.num x) := by
    unfold num at hx
    split at hx
    · rename_i q hq
      rw [hq, Option.some.inj hx]
    · cases hx
  have hjti : claims.get "jti" = some (.str j) := by
    cases hv : claims.get "jti" with
    | none => simp [hv, str] at hj
    | some v =>
      rw [hv] at hj
      cases v with
      | str s => rw [str_eq_some hj]
      | _ => simp [str] at hj
  exact
    { iss := hid.2
      sub := hid.1
      aud := haud
      expiry := hexpiry
      notExpired := not_le.mp hexp
      lifetime := not_lt.mp hlife
      iat := checkNotBefore_eq_ok hiat
      nbf := checkNotBefore_eq_ok hnbf
      jtiClaim := ⟨hjti, str_ne_empty hj⟩
      bodyClient := fun c hc hne => by
        by_contra hother
        exact hbody ⟨c, by simp [hc, str, hne], hother⟩ }

/-! ## Authentication -/

/-- The replay entry of a client and a jti. -/
def assertionEntry (client : Client) (jti : String) : String × String :=
  (assertionContext, replayId client.clientId jti)

/-- The tables after some expired replay entries were removed. -/
def ReplaySwept (now : ℕ) (s s' : Store) : Prop :=
  ∃ rows sweep, Swept (Date.isPast · now) s.jti rows ∧
    s' = { s with jti := rows, jtiLastSweep := sweep }

lemma ReplaySwept.refl (now : ℕ) (s : Store) : ReplaySwept now s s :=
  ⟨s.jti, s.jtiLastSweep, .refl _ _, rfl⟩

/-- **Everything that is known of a client that an authentication returns**, from the state `w` to
the state `w'`. -/
structure AuthenticatedBy (P : Platform) (config : AppConfig) (body : Params)
    (authorization : Option String) (w w' : World) (q : List Event) (client : Client)
    (assertion : String) (exp : ℚ) (jti : String) : Prop where
  /-- The assertion was presented alone. -/
  presented : AssertionPresented body authorization assertion
  /-- The client is the one of its registration. -/
  registered : ∃ rec, w.store.clients.get? client.clientId = some rec ∧ rec.toClient P = .ok client
  /-- The assertion is signed under a registered key of the client. -/
  signed : AssertionSigned P config assertion client q
  /-- The claims of the verified assertion have passed the checks. -/
  claims : ClaimsAccepted config (P.jwtClaims assertion) body client w.clock exp jti
  /-- The jti had no live replay entry. -/
  unused : ∀ e, w.store.jti.get? (assertionEntry client jti) = some e → e.isAfter w.clock = false
  /-- One replay entry was added, and expired ones may have been removed. -/
  added : ∃ s, ReplaySwept w.clock w.store s ∧
    w' = { w with store := { s with
      jti := s.jti.set (assertionEntry client jti) (assertionExpiry exp) } }

/-- **How an authentication runs from a state**: what it returns or throws, after which checks and
calls. -/
inductive AuthenticationRun (P : Platform) (config : AppConfig) (backend : Backend) (body : Params)
    (authorization : Option String) (w : World) : List Event → Except Exn Client → World → Prop
  /-- The request presents no assertion as it should. -/
  | unpresented (o : OAuthError) (h : presentedAssertion body authorization = .error o) :
      AuthenticationRun P config backend body authorization w [⟨.now, w.clock⟩]
        (.error (.oauth o)) w
  /-- The assertion names no client that can be loaded. -/
  | unlocated (assertion : String) (es : List Event) (e : Exn) (w' : World)
      (presented : presentedAssertion body authorization = .ok assertion)
      (h : RunsAlone P config backend (locateClient P assertion) w es (.error e) w') :
      AuthenticationRun P config backend body authorization w (⟨.now, w.clock⟩ :: es) (.error e) w'
  /-- The assertion does not verify. -/
  | unverified (assertion : String) (client : Client) (es es' : List Event) (e : Exn)
      (w₁ w' : World)
      (presented : presentedAssertion body authorization = .ok assertion)
      (located : RunsAlone P config backend (locateClient P assertion) w es (.ok client) w₁)
      (h : RunsAlone P config backend (verifyAssertion P config assertion client) w₁ es' (.error e)
        w') :
      AuthenticationRun P config backend body authorization w (⟨.now, w.clock⟩ :: es ++ es')
        (.error e)
        w'
  /-- The claims do not pass their checks. -/
  | refused (assertion : String) (client : Client) (claims : Params) (es es' : List Event)
      (o : OAuthError) (w₁ w' : World)
      (presented : presentedAssertion body authorization = .ok assertion)
      (located : RunsAlone P config backend (locateClient P assertion) w es (.ok client) w₁)
      (verified : RunsAlone P config backend (verifyAssertion P config assertion client) w₁ es'
        (.ok claims) w')
      (h : checkAssertion config claims body client w.clock = .error o) :
      AuthenticationRun P config backend body authorization w (⟨.now, w.clock⟩ :: es ++ es')
        (.error (.oauth o)) w'
  /-- The registration of the jti decides: the client is returned if it was fresh. -/
  | registered (assertion : String) (client : Client) (claims : Params) (exp : ℚ) (jti : String)
      (es es' es₃ : List Event) (w₁ w₂ w' : World) (r : Except Exn Bool) (y : Except Exn Client)
      (presented : presentedAssertion body authorization = .ok assertion)
      (located : RunsAlone P config backend (locateClient P assertion) w es (.ok client) w₁)
      (verified : RunsAlone P config backend (verifyAssertion P config assertion client) w₁ es'
        (.ok claims) w₂)
      (checked : checkAssertion config claims body client w.clock = .ok (exp, jti))
      (h : RunsAlone P config backend (db (.jtiRegister assertionContext
        (replayId client.clientId jti) (assertionExpiry exp) w.clock)) w₂ es₃ r w')
      (outcome : r = .ok true ∧ y = .ok client ∨
        r = .ok false ∧ y = .error (.oauth
          (invalidClient "client assertion jti has already been used [RFC7523 §3(7)]")) ∨
        ∃ e, r = .error e ∧ y = .error e) :
      AuthenticationRun P config backend body authorization w
        (⟨.now, w.clock⟩ :: es ++ es' ++ es₃) y w'

/-- **Every execution of an authentication is one of these.** -/
lemma alone_authenticateClient {y : Except Exn Client}
    (h : RunsAlone P config backend (authenticateClient P config body authorization) w es y w') :
    AuthenticationRun P config backend body authorization w es y w' := by
  unfold authenticateClient at h
  -- the clock
  rcases h.bind with ⟨t, es₁, r₁, w₁, h1, k1, rfl⟩ | ⟨e, h1, rfl⟩
  swap
  · cases (alone_now h1).2.2
  obtain ⟨rfl, rfl, ht⟩ := alone_now h1
  obtain rfl := Except.ok.inj ht
  -- the request
  rcases k1.bind with ⟨assertion, es₂, r₂, w₂, h2, k2, rfl⟩ | ⟨e, h2, rfl⟩
  swap
  · obtain ⟨rfl, rfl, ⟨_, _, hr⟩ | ⟨o, ho, he⟩⟩ := h2.settle
    · cases hr
    · obtain rfl := Except.error.inj he
      exact .unpresented o ho
  obtain ⟨rfl, rfl, ⟨a, hpresented, ha⟩ | ⟨_, _, hr⟩⟩ := h2.settle
  swap
  · cases hr
  obtain rfl := Except.ok.inj ha
  -- the client
  rcases k2.bind with ⟨client, es₃, r₃, w₃, h3, k3, rfl⟩ | ⟨e, h3, rfl⟩
  swap
  · exact .unlocated assertion _ e w' hpresented h3
  -- the signature
  rcases k3.bind with ⟨claims, es₄, r₄, w₄, h4, k4, rfl⟩ | ⟨e, h4, rfl⟩
  swap
  · exact .unverified assertion client es₃ _ e w₃ w' hpresented h3 h4
  -- the claims
  rcases k4.bind with ⟨x, es₅, r₅, w₅, h5, k5, rfl⟩ | ⟨e, h5, rfl⟩
  swap
  · obtain ⟨rfl, rfl, ⟨_, _, hr⟩ | ⟨o, ho, he⟩⟩ := h5.settle
    · cases hr
    · obtain rfl := Except.error.inj he
      rw [List.append_nil]
      exact .refused assertion client claims es₃ es₄ o w₃ _ hpresented h3 h4 ho
  obtain ⟨rfl, rfl, ⟨x', hchecked, hx⟩ | ⟨_, _, hr⟩⟩ := h5.settle
  swap
  · cases hr
  obtain rfl := Except.ok.inj hx
  obtain ⟨exp, jti⟩ := x
  -- the jti
  have hregistered : ∀ {es₆ : List Event} {r : Except Exn Bool} {y : Except Exn Client}
      {w' : World},
      RunsAlone P config backend (db (.jtiRegister assertionContext (replayId client.clientId jti)
        (assertionExpiry exp) w₂.clock)) w₅ es₆ r w' →
      (r = .ok true ∧ y = .ok client ∨
        r = .ok false ∧ y = .error (.oauth
          (invalidClient "client assertion jti has already been used [RFC7523 §3(7)]")) ∨
        ∃ e, r = .error e ∧ y = .error e) →
      AuthenticationRun P config backend body authorization w₂
        (⟨.now, w₂.clock⟩ :: es₃ ++ es₄ ++ es₆) y w' := fun h6 houtcome =>
    .registered assertion client claims exp jti es₃ es₄ _ w₃ w₅ _ _ _ hpresented h3 h4 hchecked h6
      houtcome
  rcases k5.bind with ⟨fresh, es₆, r₆, w₆, h6, k6, rfl⟩ | ⟨e, h6, rfl⟩
  swap
  · simpa using hregistered h6 (.inr (.inr ⟨e, rfl, rfl⟩))
  rcases k6.bind with ⟨_, es₇, r₇, w₇, h7, k7, rfl⟩ | ⟨e, h7, rfl⟩
  · obtain ⟨rfl, rfl, ⟨-, hr⟩ | ⟨hfresh, -⟩⟩ := h7.throwIf
    · cases hr
    · cases k7 with
      | ret => simpa using hregistered h6 (.inl ⟨by simpa using hfresh, rfl⟩)
  · obtain ⟨rfl, rfl, ⟨hstale, he⟩ | ⟨-, hr⟩⟩ := h7.throwIf
    · obtain rfl := Except.error.inj he
      simpa using hregistered h6 (.inr (.inl ⟨congrArg Except.ok hstale, rfl⟩))
    · cases hr

/-- The client that an assertion names is registered. -/
lemma alone_locateClient {assertion : String} {y : Except Exn Client}
    (hkeyed : ∀ id rec, w.store.clients.get? id = some rec → rec.clientId = id)
    (h : RunsAlone P config backend (locateClient P assertion) w es y w') :
    w' = w ∧ ∀ client, y = .ok client →
      ∃ rec, w.store.clients.get? client.clientId = some rec ∧ rec.toClient P = .ok client := by
  have honly : (locateClient P assertion).OnlyCalls fun o => o.isRead = true := by
    refine .bind (fun found => ?_) (.tryCatch (fun _ => by trivial) ?_)
    · cases found <;> trivial
    · split
      · unfold loadClient
        split_ifs
        · trivial
        · refine .bind (fun rec => ?_) (onlyCalls_db rfl)
          cases rec with
          | none => trivial
          | some rec => exact .bind (fun _ => by trivial) (Prog.onlyCalls_settle _ _)
      · trivial
  obtain ⟨hw, hreads⟩ := alone_reads h honly
  refine ⟨hw, ?_⟩
  have hloaded : ∀ client, y = .ok client → ∃ hint, Loaded P hint client ([] ++ es) := by
    have hwp : Prog.wp (fun _ _ => True) (fun q x => ∀ client, x = .ok client →
        ∃ hint, Loaded P hint client q) [] (locateClient P assertion) :=
      wp_locateClient (fun _ _ _ => trivial)
        (fun q hint client _ hl c hc => ⟨hint, Except.ok.inj hc ▸ hl⟩) fun q e _ c hc => by cases hc
    exact h.wp hwp
  intro client hy
  obtain ⟨hint, rec, hmem, hrec⟩ := hloaded client hy
  obtain ⟨x, hx⟩ := hreads _ hmem
  have hrow := (Backend.exec_ok (exec_db hx)).clientsFindById
  have hid : client.clientId = hint := (rec.toClient_clientId hrec).trans (hkeyed _ _ hrow)
  exact ⟨rec, hid ▸ hrow, hrec⟩

/-- The assertion that is verified is signed under a registered key. -/
lemma alone_verifyAssertion {assertion : String} {client : Client} {y : Except Exn Params}
    (h : RunsAlone P config backend (verifyAssertion P config assertion client) w es y w') :
    w' = w ∧ ∀ claims, y = .ok claims →
      claims = P.jwtClaims assertion ∧ AssertionSigned P config assertion client es := by
  have honly : (verifyAssertion P config assertion client).OnlyCalls fun o => o.isRead = true := by
    refine .tryCatch (fun _ => by trivial) (.bind (fun resolver => ?_) (Prog.onlyCalls_settle _ _))
    unfold verifyJws
    split
    · trivial
    · refine .bind (fun _ => .bind (fun keys => ?_) ?_) (Prog.onlyCalls_throwIf _ _)
      · split <;> trivial
      · cases resolver with
        | localSet keys => trivial
        | remoteSet uri => exact .bind (fun _ => by trivial) (Prog.onlyCalls_perform rfl)
  refine ⟨(alone_reads h honly).1, fun claims hy => ?_⟩
  have hverified : ∀ claims, y = .ok claims →
      claims = P.jwtClaims assertion ∧ AssertionVerified P config assertion client ([] ++ es) := by
    have hwp : Prog.wp (fun _ _ => True) (fun q x => ∀ claims, x = .ok claims →
        claims = P.jwtClaims assertion ∧ AssertionVerified P config assertion client q) []
        (verifyAssertion P config assertion client) :=
      wp_verifyAssertion (fun _ _ _ => trivial)
        (fun q _ hv c hc => ⟨(Except.ok.inj hc).symm, hv⟩) fun q e _ c hc => by cases hc
    exact h.wp hwp
  obtain ⟨hclaims, resolver, keys, hr, hkeys, hsignature⟩ := hverified claims hy
  have hspec : Prog.wp _ _ [] (verifyAssertion P config assertion client) :=
    wp_verifyAssertion_algorithm
  have halgorithm := h.wp hspec
  exact ⟨hclaims, halgorithm claims hy, keys, registeredKeys_of_keysFrom hr hkeys, hsignature⟩

/-- The registration of a jti, and the tables after it. -/
lemma alone_register {context id : String} {e : Date} {y : Except Exn Bool}
    (h : RunsAlone P config backend (db (.jtiRegister context id e w.clock)) w es y w') :
    (y = .ok true ∧ (∀ e', w.store.jti.get? (context, id) = some e' → e'.isAfter w.clock = false) ∧
      ∃ s, ReplaySwept w.clock w.store s ∧
        w' = { w with store := { s with jti := s.jti.set (context, id) e } }) ∨
    y ≠ .ok true ∧ ReplaySwept w.clock w.store w'.store ∧ w' = { w with store := w'.store } := by
  rcases alone_db h with ⟨fresh, hcarried, hworld, -, rfl⟩ | ⟨rfl, -, rfl⟩
  · obtain ⟨rows, sweep, hreg⟩ := hcarried.registered
    have hswept : ReplaySwept w.clock w.store { w.store with jti := rows, jtiLastSweep := sweep } :=
      ⟨rows, sweep, hreg.swept, rfl⟩
    cases fresh with
    | true =>
      refine .inl ⟨rfl, fun e' he' => ?_, _, hswept, ?_⟩
      · -- a live entry is not swept, and then it is not free
        by_contra hlive
        have hafter : e'.isAfter w.clock = true := by simpa using hlive
        exact hlive (hreg.free rfl e' (hreg.swept.kept _ _ he' (isPast_eq_false_of_isAfter hafter)))
      · rw [hworld, hreg.tables]
        rfl
    | false =>
      refine .inr ⟨by simp, ?_, hworld⟩
      rw [hreg.tables]
      exact hswept
  · exact .inr ⟨by simp, .refl _ _, rfl⟩

/-- **An authentication is sound and leaves no trace on failure.** From a state whose registrations
are keyed by the client identifiers, an authentication returns a client only when everything in
`AuthenticatedBy` holds; then one replay entry was added. When it throws, the state is as it was,
but for expired replay entries that were removed.

**Proof sketch.** The clock, the registration and the key set are read; the checks of the request,
of the signature and of the claims make no call. The registration of the jti is the last call: it
returns true when the entry was free and sets it, and changes nothing but expired entries otherwise.
-/
theorem authentication_sound {y : Except Exn Client}
    (hkeyed : ∀ id rec, w.store.clients.get? id = some rec → rec.clientId = id)
    (h : RunsAlone P config backend (authenticateClient P config body authorization) w es y w') :
    (∀ client, y = .ok client → ∃ assertion exp jti,
      AuthenticatedBy P config body authorization w w' es client assertion exp jti) ∧
    ∀ e, y = .error e → ReplaySwept w.clock w.store w'.store ∧
      w' = { w with store := w'.store } := by
  have hfailed : ∀ e : Exn, y = .error e → ReplaySwept w.clock w.store w'.store →
      w' = { w with store := w'.store } → (∀ client, y = .ok client → ∃ assertion exp jti,
        AuthenticatedBy P config body authorization w w' es client assertion exp jti) ∧
      ∀ e, y = .error e → ReplaySwept w.clock w.store w'.store ∧
        w' = { w with store := w'.store } := by
    intro e he hswept hworld
    refine ⟨fun client hy => ?_, fun _ _ => ⟨hswept, hworld⟩⟩
    rw [he] at hy
    cases hy
  have hsame : ∀ e : Exn, y = .error e → w' = w → _ := fun e he hw =>
    hfailed e he (hw ▸ .refl _ _) (by rw [hw])
  cases alone_authenticateClient h with
  | unpresented o ho => exact hsame _ rfl rfl
  | unlocated assertion es e _ hpresented h => exact hsame _ rfl (alone_locateClient hkeyed h).1
  | unverified assertion client es es' e w₁ _ hpresented hlocated h =>
    exact hsame _ rfl ((alone_verifyAssertion h).1.trans (alone_locateClient hkeyed hlocated).1)
  | refused assertion client claims es es' o w₁ _ hpresented hlocated hverified h =>
    exact hsame _ rfl
      ((alone_verifyAssertion hverified).1.trans (alone_locateClient hkeyed hlocated).1)
  | registered assertion client claims exp jti es es' es₃ w₁ w₂ _ r _ hpresented hlocated hverified
      hchecked h houtcome =>
    obtain ⟨rfl, hregistered⟩ := alone_locateClient hkeyed hlocated
    obtain ⟨rfl, hverify⟩ := alone_verifyAssertion hverified
    obtain ⟨rfl, hsigned⟩ := hverify claims rfl
    rcases alone_register h with ⟨rfl, hunused, hadded⟩ | ⟨hr, hswept, hworld⟩
    · rcases houtcome with ⟨-, rfl⟩ | ⟨hr, -⟩ | ⟨e, hr, -⟩
      · refine ⟨fun c hc => ?_, fun _ hc => by cases hc⟩
        obtain rfl := Except.ok.inj hc
        exact ⟨assertion, exp, jti, AssertionPresented.of_eq_ok hpresented, hregistered _ rfl,
          hsigned.mono (fun _ hmem => by simp [hmem]), ClaimsAccepted.of_eq_ok hchecked,
          hunused, hadded⟩
      · cases hr
      · cases hr
    · rcases houtcome with ⟨rfl, -⟩ | ⟨-, rfl⟩ | ⟨e, -, rfl⟩
      · exact absurd rfl hr
      · exact hfailed _ rfl hswept hworld
      · exact hfailed _ rfl hswept hworld

namespace Sample

/-- Client `A` authenticates in the state at the start. -/
def authenticated : Option (List Event × Except Exn Client × World) :=
  system.evalAlone (authenticateClient platform Sample.config (par "1").body none)
    [{}, {}, {}] world

/-- The client that is authenticated by the sample assertion is `A`. -/
theorem authenticated_sound : ∃ w' es client assertion exp jti, client.clientId = "A" ∧
    AuthenticatedBy platform Sample.config (par "1").body none world w' es client assertion exp
      jti := by
  have hok : authenticated.any (fun x => x.2.1.toOption.any fun c => c.clientId = "A") = true := by
    decide +kernel
  obtain ⟨⟨es, y, w'⟩, heval, hy⟩ := (Option.any_eq_true _ _).mp hok
  obtain ⟨client, hclient, hid⟩ := (Option.any_eq_true _ _).mp hy
  have hy : y = .ok client := by
    cases y with
    | ok c => exact congrArg Except.ok (Option.some.inj hclient)
    | error e => cases hclient
  have halone : RunsAlone platform Sample.config .memory
      (authenticateClient platform Sample.config (par "1").body none) world es y w' :=
    Sys.alone_of_evalAlone system heval
  have hkeyed : ∀ id rec, world.store.clients.get? id = some rec → rec.clientId = id :=
    world_initial.clients
  obtain ⟨assertion, exp, jti, hauth⟩ := (authentication_sound hkeyed halone).1 client hy
  exact ⟨w', es, client, assertion, exp, jti, by simpa using hid, hauth⟩

end Sample

end Fapi2As
