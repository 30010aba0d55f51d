import Fapi2As.Properties.TokenAgreement
import Fapi2As.Server.TokenQueries

set_option relaxedAutoImplicit false
set_option autoImplicit false

/-!
# Token type hints

A hint decides which kind of token is looked up first, and nothing else. No text is stored as a
refresh token and verifies as an access token, so the order of the lookups decides nothing: whatever
the hints are, a revocation leaves the same tables and an introspection has the same reply.

## Main definitions

* `Fapi2As.OneKind` — a token is at most of one kind.
* `Fapi2As.OrdinaryToken` — what is assumed of a token that is presented.
* `Fapi2As.ComesTo` — what a request comes to in a state.

## Main results

* `Fapi2As.ServerRun.oneKind` — a refresh token is a random text, so it is no JWT.
* `Fapi2As.resolve_other` — the other order of lookups finds the same record.
* `Fapi2As.hint_never_matters` — the hint never changes what a request comes to.
-/

namespace Fapi2As

open Js Async

variable {P : Platform} {config : AppConfig} {backend : Backend} {w w' : World} {es : List Event}

/-! ## Executions of the parts of a request -/

/-- A value is returned. -/
lemma alone_pure {α : Type} (a : α) (w : World) :
    RunsAlone P config backend (pure a : Handler α) w [] (.ok a) w :=
  Sys.Alone.ret (S := server P config backend) a w

/-- A promise that resolved. -/
lemma alone_settle {α φ : Type} (wrap : φ → Exn) (a : α) (w : World) :
    RunsAlone P config backend (Prog.settle wrap (.ok a : Except φ α)) w [] (.ok a) w :=
  Sys.Alone.ret (S := server P config backend) a w

/-- A reply for an outcome. -/
lemma alone_respond_of {p : Handler Reply} {x : Except Exn Reply}
    (h : RunsAlone P config backend p w es x w') :
    RunsAlone P config backend (respond p) w es (.ok (onSend (replyOf x))) w' := by
  unfold respond
  cases x with
  | ok reply =>
    have hseq := (h.tryCatch_ok (f := fun e => pure (errorReply e))).seq
      (f := fun reply => pure (onSend reply)) (alone_pure (onSend reply) w')
    rwa [List.append_nil] at hseq
  | error e =>
    have hcatch := h.tryCatch_error (f := fun e => (pure (errorReply e) : Handler Reply))
      (alone_pure (errorReply e) w')
    have hseq := hcatch.seq (f := fun reply => pure (onSend reply))
      (alone_pure (onSend (errorReply e)) w')
    rwa [List.append_nil, List.append_nil] at hseq

/-- A repository call that is answered. -/
lemma alone_db_of {q : Query} {a : q.Res} {x : Oracle}
    (h : backend.exec w.store x.db q = (.ok a, w.store)) :
    RunsAlone P config backend (db q) w [⟨.db q, .ok a⟩] (.ok a) w := by
  have hx : exec P config backend (.db q) x w = some (.ok a, w) := by
    simp only [exec, h]
  have hcall := Sys.Alone.of_exec (S := server P config backend) (o := .db q) hx
  exact hcall.seq (f := fun r => Prog.settle (fun _ => Exn.other) r) (alone_settle _ a w)

/-! ## Other keys -/

/-- The state with other keys. -/
def World.withKeys (w : World) (ks : Option (List SigningKeyRecord)) : World :=
  { w with keys := ks }

lemma KeysLoaded.eq_withKeys (h : KeysLoaded w w') : w' = w.withKeys w'.keys := by
  rcases h with rfl | ⟨-, ks, rfl⟩ <;> rfl

/-- The calls that have nothing to do with keys. -/
def Call.isKeyless : Call → Bool
  | .db _ | .now => true
  | _ => false

/-- **Without a call for the keys**, a program runs alike whatever the keys are. -/
lemma alone_withKeys {α : Type} {p : Handler α} {y : Except Exn α}
    (h : RunsAlone P config backend p w es y w') (hp : p.OnlyCalls fun o => o.isKeyless = true)
    (ks : Option (List SigningKeyRecord)) :
    RunsAlone P config backend p (w.withKeys ks) es y (w'.withKeys ks) := by
  refine Sys.Alone.map (g := fun w : World => w.withKeys ks) ?_ h hp
  intro o x w r w₁ ho hx
  cases o with
  | now => cases hx; rfl
  | db q =>
    have hx : some ((backend.exec w.store x.db q).1,
      { w with store := (backend.exec w.store x.db q).2 }) = some (r, w₁) := hx
    obtain ⟨rfl, rfl⟩ := Prod.mk.inj (Option.some.inj hx)
    rfl
  | _ => cases ho

/-! ## A token of one kind -/

/-- **A token is at most of one kind**: one that is found as a refresh token verifies under no keys.
-/
def OneKind (P : Platform) (config : AppConfig) (w : World) (token : String) : Prop :=
  w.refreshToken P token ≠ none → ∀ keys, verifiedJti P config token keys = none

variable {token : String}

lemma accessToken_eq_none (h : ∀ keys, verifiedJti P config token keys = none) (w : World) :
    w.accessToken P config token = none := by
  rw [World.accessToken, h]
  rfl

/-- A lookup of an access token that does not verify. -/
lemma exists_findAccessToken (h : ∀ keys, verifiedJti P config token keys = none) (w : World) :
    ∃ es ks, RunsAlone P config backend (findAccessToken P config token) w es (.ok none)
      (w.withKeys ks) ∧ Unfailing es := by
  obtain ⟨x, ks, hx⟩ : ∃ (x : Oracle) (ks : Option (List SigningKeyRecord)),
      exec P config backend .ensure x w = some (.ok (), w.withKeys ks) := by
    cases hks : w.keys with
    | some ks =>
      refine ⟨{}, some ks, ?_⟩
      simp only [exec, hks]
      rw [World.withKeys, ← hks]
    | none =>
      refine ⟨{ loaded := some [] }, some [], ?_⟩
      simp only [exec, hks]
      rfl
  have hensure := (Sys.Alone.of_exec (S := server P config backend) (o := .ensure) hx).seq
    (f := fun r => awaited r) (alone_settle _ () (w.withKeys ks))
  have hpublic : exec P config backend .publicJwks x (w.withKeys ks) =
      some (publicJwks ((w.withKeys ks).keys.getD []) w.clock, w.withKeys ks) := rfl
  have hread := Sys.Alone.of_exec (S := server P config backend) (o := .publicJwks) (x := x) hpublic
  rw [findAccessToken_eq]
  have hnone : RunsAlone P config backend ((verifiedJti P config token
      (publicJwks ((w.withKeys ks).keys.getD []) w.clock)).elim (pure none) fun jti =>
        db (.accessTokensFindByJti jti)) (w.withKeys ks) [] (.ok none) (w.withKeys ks) := by
    rw [h]
    exact alone_pure none _
  exact ⟨_, ks, hensure.seq (f := fun _ => Prog.perform Call.publicJwks >>= fun keys =>
    (verifiedJti P config token keys).elim (pure none) fun jti => db (.accessTokensFindByJti jti))
    (hread.seq hnone), by simp [Unfailing, isRejection]⟩

/-- A lookup of a refresh token is answered, since a hash is a text in base64url. -/
lemma exists_findRefreshToken
    (hsha : ∀ c ∈ (P.sha256Base64Url token).toList, isBase64urlChar c = true)
    (w : World) :
    ∃ es, RunsAlone P config backend (findRefreshToken P token) w es
      (.ok (w.refreshToken P token)) w ∧ Unfailing es := by
  have hx : backend.exec w.store ({} : Oracle).db
      (.refreshTokensFindByHash (P.sha256Base64Url token)) =
      (.ok (w.refreshToken P token), w.store) := by
    cases backend with
    | memory => rfl
    | pg =>
      have hnul : '\x00' ∉ (P.sha256Base64Url token).toList :=
        fun h => absurd (hsha _ h) (by decide)
      have hq : (Query.refreshTokensFindByHash (P.sha256Base64Url token)).reaps = false := rfl
      simp [Backend.exec, Pg.refuses, Pg.texts, Pg.uuids, Pg.dates, Pg.referenced, Pg.duplicate,
        hnul, Pg.exec_eq_memory _ _ hq]
      exact ⟨rfl, rfl⟩
  exact ⟨_, alone_db_of hx, by simp [Unfailing, isRejection]⟩

/-- A lookup of a refresh token is one repository call. -/
lemma findRefreshToken_keyless (token : String) :
    (findRefreshToken P token).OnlyCalls fun o => o.isKeyless = true := onlyCalls_db rfl

/-- **The other order of lookups**: a token of one kind is resolved to the same record, and the keys
are the only difference in the state after it.

**Proof sketch.** The lookup that finds the record is made in either order. The other one finds
nothing: a refresh token does not verify as an access token, and an access token that verifies is
not stored as a refresh token. Neither depends on what the other one leaves. -/
lemma resolve_other {hint hint' : Option String} {r : Option ResolvedToken}
    (hkind : OneKind P config w token)
    (hsha : ∀ c ∈ (P.sha256Base64Url token).toList, isBase64urlChar c = true)
    (h : RunsAlone P config backend (resolveToken P config token hint) w es (.ok r) w')
    (hok : Unfailing es) :
    ∃ es' ks, RunsAlone P config backend (resolveToken P config token hint') w es' (.ok r)
      (w'.withKeys ks) ∧ Unfailing es' := by
  unfold resolveToken at h ⊢
  by_cases hh : hint = some "refresh_token" <;> by_cases hh' : hint' = some "refresh_token"
  · rw [if_pos hh] at h
    rw [if_pos hh']
    exact ⟨es, w'.keys, h, hok⟩
  · -- the refresh token was looked up first
    rw [if_pos hh] at h
    rw [if_neg hh']
    rcases h.bind with ⟨found, es₁, es₂, w₁, h1, h2, rfl⟩ | ⟨e, -, he⟩
    swap
    · cases he
    obtain ⟨hok₁, hok₂⟩ := unfailing_append.mp hok
    obtain ⟨rfl, hfound⟩ := alone_findRefreshToken h1 hok₁
    obtain rfl := Except.ok.inj hfound
    cases hrecord : w₁.refreshToken P token with
    | some record =>
      rw [hrecord] at h1 h2
      obtain ⟨-, hr, rfl⟩ := h2.of_ret
      obtain rfl := Except.ok.inj hr
      have hno := hkind (by rw [hrecord]; nofun)
      obtain ⟨es₃, ks, hA, hok₃⟩ : ∃ es ks, RunsAlone P config backend
          (findAccessToken P config token)
          w' es (.ok none) (w'.withKeys ks) ∧ Unfailing es := exists_findAccessToken hno w'
      have hF := alone_withKeys h1 (findRefreshToken_keyless token) ks
      refine ⟨es₃ ++ (es₁ ++ []), ks, Sys.Alone.seq hA (Sys.Alone.seq hF ?_), ?_⟩
      · exact alone_pure (some (ResolvedToken.refreshToken record)) _
      · simp [hok₁, hok₃]
    | none =>
      rw [hrecord] at h1 h2
      rcases h2.bind with ⟨record, es₃, es₄, w₂, h3, h4, rfl⟩ | ⟨e, -, he⟩
      swap
      · cases he
      have hok₃ := (unfailing_append.mp hok₂).1
      obtain ⟨rfl, hr, rfl⟩ := h4.of_ret
      obtain rfl := Except.ok.inj hr
      cases record with
      | some record =>
        refine ⟨es₃ ++ [], w'.keys, Sys.Alone.seq h3 ?_, by simp [hok₃]⟩
        exact alone_pure (some (ResolvedToken.accessToken record)) _
      | none =>
        have hF := alone_withKeys h1 (findRefreshToken_keyless token) w'.keys
        rw [← (alone_findAccessToken h3 hok₃).1.eq_withKeys] at hF
        refine ⟨es₃ ++ (es₁ ++ []), w'.keys, Sys.Alone.seq h3 (Sys.Alone.seq hF ?_), ?_⟩
        · exact alone_pure none _
        · simp [hok₁, hok₃]
  · -- the access token was looked up first
    rw [if_neg hh] at h
    rw [if_pos hh']
    rcases h.bind with ⟨found, es₁, es₂, w₁, h1, h2, rfl⟩ | ⟨e, -, he⟩
    swap
    · cases he
    obtain ⟨hok₁, hok₂⟩ := unfailing_append.mp hok
    obtain ⟨hloaded, hfound⟩ := alone_findAccessToken h1 hok₁
    cases found with
    | some record =>
      obtain ⟨-, hr, rfl⟩ := h2.of_ret
      obtain rfl := Except.ok.inj hr
      obtain ⟨es₃, hF, hok₃⟩ : ∃ es, RunsAlone P config backend (findRefreshToken P token) w es
          (.ok (w.refreshToken P token)) w ∧ Unfailing es := exists_findRefreshToken hsha w
      have hnone : w.refreshToken P token = none := by
        by_contra hsome
        rw [accessToken_eq_none (hkind hsome)] at hfound
        cases hfound
      rw [hnone] at hF
      refine ⟨es₃ ++ (es₁ ++ []), w'.keys, Sys.Alone.seq hF (Sys.Alone.seq h1 ?_), ?_⟩
      · exact alone_pure (some (ResolvedToken.accessToken record)) _
      · simp [hok₁, hok₃]
    | none =>
      rcases h2.bind with ⟨record, es₃, es₄, w₂, h3, h4, rfl⟩ | ⟨e, -, he⟩
      swap
      · cases he
      have hok₃ := (unfailing_append.mp hok₂).1
      obtain ⟨rfl, hr, rfl⟩ := h4.of_ret
      obtain rfl := Except.ok.inj hr
      obtain ⟨rfl, -⟩ := alone_findRefreshToken h3 hok₃
      have hback : w'.withKeys w.keys = w := by
        rw [hloaded.eq_withKeys]
        rfl
      have hF := alone_withKeys h3 (findRefreshToken_keyless token) w.keys
      cases record with
      | some record =>
        refine ⟨es₃ ++ [], w.keys, ?_, by simp [hok₃]⟩
        nth_rewrite 1 [hback] at hF
        refine Sys.Alone.seq hF ?_
        exact alone_pure (some (ResolvedToken.refreshToken record)) _
      | none =>
        rw [hback] at hF
        refine ⟨es₃ ++ (es₁ ++ []), w'.keys, Sys.Alone.seq hF (Sys.Alone.seq h1 ?_), ?_⟩
        · exact alone_pure none _
        · simp [hok₁, hok₃]
  · rw [if_neg hh] at h
    rw [if_neg hh']
    exact ⟨es, w'.keys, h, hok⟩

/-- **An endpoint that resolves a token** and goes on without a call for the keys has the same
outcome with another hint, and leaves the same tables. -/
lemma resolved_other {hint hint' : Option String} {rest : Option ResolvedToken → Handler Reply}
    {y : Except Exn Reply} (hrest : ∀ r, (rest r).OnlyCalls fun o => o.isKeyless = true)
    (hkind : OneKind P config w token)
    (hsha : ∀ c ∈ (P.sha256Base64Url token).toList, isBase64urlChar c = true)
    (h : RunsAlone P config backend (resolveToken P config token hint >>= rest) w es y w')
    (hok : Unfailing es) :
    ∃ es' w'', RunsAlone P config backend (resolveToken P config token hint' >>= rest) w es' y w'' ∧
      Unfailing es' ∧ w''.store = w'.store := by
  rcases h.bind with ⟨r, es₁, es₂, w₁, h1, h2, rfl⟩ | ⟨e, h1, rfl⟩
  swap
  · cases (alone_resolveToken h1 hok).2
  obtain ⟨hok₁, hok₂⟩ := unfailing_append.mp hok
  obtain ⟨es₃, ks, h3, hok₃⟩ : ∃ es' ks, RunsAlone P config backend
      (resolveToken P config token hint')
      w es' (.ok r) (w₁.withKeys ks) ∧ Unfailing es' := resolve_other hkind hsha h1 hok₁
  exact ⟨es₃ ++ es₂, w'.withKeys ks, h3.seq (alone_withKeys h2 (hrest r) ks),
    unfailing_append.mpr ⟨hok₃, hok₂⟩, rfl⟩

/-! ## Requests with a hint -/

/-- A request with a hint instead of its own. -/
def HttpRequest.withHint (req : HttpRequest) (hint : Option Json) : HttpRequest :=
  { req with body := req.body.filter (fun e => e.1 ≠ "token_type_hint") ++
      (hint.map fun v => ("token_type_hint", v)).toList }

/-- The other parameters are the same. -/
lemma withHint_get {req : HttpRequest} {hint : Option Json} {name : String}
    (h : name ≠ "token_type_hint") : (req.withHint hint).body.get name = req.body.get name := by
  have hfilter : ∀ l : Params, assoc name (l.filter fun e => e.1 ≠ "token_type_hint") =
      assoc name l := by
    intro l
    induction l with
    | nil => rfl
    | cons e l ih =>
      rw [List.filter_cons]
      by_cases he : e.1 = name
      · rw [if_pos (by simpa [he] using h)]
        simp [assoc, he]
      · split_ifs
        · simpa [assoc, he] using ih
        · simpa [assoc, he] using ih
  have hother : assoc name ((hint.map fun v => ("token_type_hint", v)).toList) = none := by
    cases hint with
    | none => rfl
    | some v => simp [assoc, Ne.symm h]
  rw [Params.get, HttpRequest.withHint, assoc_append, hfilter, hother, Option.or_none]
  rfl

/-- The hint is not read by the authentication. -/
lemma authenticateClient_withHint (req : HttpRequest) (hint : Option Json) :
    authenticateClient P config (req.withHint hint).body req.authorization =
      authenticateClient P config req.body req.authorization := by
  unfold authenticateClient presentedAssertion checkAssertion
  simp only [withHint_get (show "client_assertion" ≠ "token_type_hint" by decide),
    withHint_get (show "client_assertion_type" ≠ "token_type_hint" by decide),
    withHint_get (show "client_secret" ≠ "token_type_hint" by decide),
    withHint_get (show "client_id" ≠ "token_type_hint" by decide)]

/-- **What a request comes to** in a state, for an authenticated client and when nothing fails: the
reply and the tables after it. -/
def ComesTo (P : Platform) (config : AppConfig) (backend : Backend) (w : World) (req : HttpRequest)
    (client : Client) (reply : Reply) (s : Store) : Prop :=
  ∃ es w', RunsAlone P config backend (handler P config req) w es (.ok reply) w' ∧
    AuthenticatedAs P config req client es ∧ Unfailing es ∧ w'.store = s

/-- **A token as it is presented**: it is a JWT only with two dots, its digest is a text in
base64url, and no random value has the same digest. -/
structure OrdinaryToken (P : Platform) (drawn : List String) (token : String) : Prop where
  jwt : ∀ keys options, P.jwtVerify token keys options = .ok () → 2 ≤ token.toList.count '.'
  digest : ∀ c ∈ (P.sha256Base64Url token).toList, isBase64urlChar c = true
  collides : ∀ d ∈ drawn, P.sha256Base64Url d = P.sha256Base64Url token → d = token

/-- **A refresh token is a random text**, so it is no JWT. -/
lemma ServerRun.oneKind (R : ServerRun P config backend) {i : ℕ} (hi : i ≤ R.len)
    (htoken : OrdinaryToken P (R.world i).drawn token) : OneKind P config (R.world i) token := by
  intro hfound keys
  obtain ⟨rec, hrow⟩ := Option.ne_none_iff_exists'.mp hfound
  obtain ⟨hkey, j, hj, hc⟩ := R.refreshTokens_origin hi hrow
  obtain ⟨pid, p, _, hd, _, _, _, _, _, q, d, t, hpast, hrec⟩ := hc.justified
  obtain ⟨k, hk, q', hdraw, -⟩ := R.drew (Nat.le_of_lt hd.lt) hd.proc (.inr ⟨32, hpast⟩)
  have hdrawn := R.drawn_mono (show k + 1 ≤ i by omega) hi hdraw.fresh.2
  have hhash : rec.tokenHash = P.sha256Base64Url d := congrArg RefreshTokenRecord.tokenHash hrec
  obtain rfl := htoken.collides d hdrawn (hhash.symm.trans hkey)
  have hdot : d.toList.count '.' = 0 := by
    apply List.count_eq_zero_of_not_mem
    intro hmem
    exact absurd (hdraw.text _ hmem) (by decide)
  unfold verifiedJti
  split
  · rename_i hverifies
    have := htoken.jwt _ _ hverifies
    omega
  · rfl

variable {req : HttpRequest} {client : Client} {hint hint' : Option Json} {reply : Reply}
    {s : Store}

/-- **A form endpoint with another hint**, when what it does for the client has the same outcome. -/
lemma formEndpoint_other {section_ : String} {f f' : Client → Handler Reply} {y : Except Exn Reply}
    (hf : ∀ {w₁ es'}, SameTokens w w₁ → Unfailing es' →
      RunsAlone P config backend (f client) w₁ es' y w' →
      ∃ es'' w'', RunsAlone P config backend (f' client) w₁ es'' y w'' ∧ Unfailing es'' ∧
        w''.store = w'.store)
    (h : RunsAlone P config backend (formEndpoint P config (req.withHint hint) section_ f) w
      es y w')
    (hauth : AuthenticatedAs P config (req.withHint hint) client es) (hok : Unfailing es) :
    ∃ es' w'', RunsAlone P config backend (formEndpoint P config (req.withHint hint') section_ f') w
        es' y w'' ∧ AuthenticatedAs P config (req.withHint hint') client es' ∧ Unfailing es' ∧
      w''.store = w'.store := by
  obtain ⟨q, w₁, es₁, rfl, hparts, hrest⟩ := alone_formEndpoint h hauth
  obtain ⟨hok₁, hok₂⟩ := unfailing_append.mp hok
  obtain ⟨es₂, w'', hrest', hok', hstore⟩ := hf hparts.sameTokens hok₂ hrest
  have hparts' : RequestParts P config backend (req.withHint hint') client w q w₁ := by
    obtain ⟨hform, x, w₀, hx, hclient⟩ := hparts
    refine ⟨hform, x, w₀, hx, ?_⟩
    have hsame : ∀ hint,
        authenticateClient P config (req.withHint hint).body req.authorization = _ :=
      authenticateClient_withHint req
    rw [show (req.withHint hint).authorization = req.authorization from rfl, hsame hint] at hclient
    rw [show (req.withHint hint').authorization = req.authorization from rfl, hsame hint']
    exact hclient
  obtain ⟨hrun, hauth'⟩ :=
    @formEndpoint_of_parts P config backend w w'' es₂ _ client section_ f' y q w₁
    hparts' hrest'
  exact ⟨_, w'', hrun, hauth', unfailing_append.mpr ⟨hok₁, hok'⟩, hstore⟩

/-- What the revocation endpoint does for a client, with a hint. -/
def revokeFor (P : Platform) (config : AppConfig) (req : HttpRequest) (hint : Option String)
    (client : Client) : Handler Reply :=
  match str (req.body.get "token") with
  | none => throwOAuth (invalidRequest "token is required [RFC7009 §2.1]")
  | some token => resolveToken P config token hint >>= fun resolved => now >>= fun t =>
      revokeResolved client resolved t >>= fun _ => pure { status := 200, headers := [noStore] }

/-- What the introspection endpoint does for a client, with a hint. -/
def introspectFor (P : Platform) (config : AppConfig) (req : HttpRequest) (hint : Option String)
    (client : Client) : Handler Reply :=
  match str (req.body.get "token") with
  | none => throwOAuth (invalidRequest "token is required [RFC7662 §2.1]")
  | some token => resolveToken P config token hint >>= fun resolved =>
      match resolved with
      | none => pure inactive
      | some resolved =>
        if resolved.clientId ≠ client.clientId then pure inactive
        else now >>= fun t => pure (introspectionOf config resolved t)

/-- The endpoints with a hint. -/
lemma handleRevoke_withHint (req : HttpRequest) (hint : Option Json) :
    handleRevoke P config (req.withHint hint) = formEndpoint P config (req.withHint hint)
      "RFC7009 §2.1" (revokeFor P config req (revokeHint (req.withHint hint).body)) := by
  unfold handleRevoke revokeFor
  rw [withHint_get (show "token" ≠ "token_type_hint" by decide)]
  rfl

lemma handleIntrospect_withHint (req : HttpRequest) (hint : Option Json) :
    handleIntrospect P config (req.withHint hint) = formEndpoint P config (req.withHint hint)
      "RFC7662 §2.1" (introspectFor P config req
        (str ((req.withHint hint).body.get "token_type_hint"))) := by
  unfold handleIntrospect introspectFor
  rw [withHint_get (show "token" ≠ "token_type_hint" by decide)]
  rfl

/-- A revocation makes no call for the keys once the token is resolved. -/
lemma revokeResolved_keyless (client : Client) (resolved : Option ResolvedToken) (t : ℕ) :
    (revokeResolved client resolved t).OnlyCalls fun o => o.isKeyless = true := by
  have hdb : ∀ q, (db q).OnlyCalls fun o => o.isKeyless = true := fun q => onlyCalls_db rfl
  unfold revokeResolved
  cases resolved with
  | none => trivial
  | some token =>
    dsimp only
    split_ifs
    · trivial
    · cases token with
      | refreshToken record => exact .bind (fun _ => hdb _) (hdb _)
      | accessToken record => exact hdb _

/-- **A revocation with another hint.** -/
lemma revokeFor_other {hint hint' : Option String} {y : Except Exn Reply}
    (hkind : ∀ token, str (req.body.get "token") = some token → OneKind P config w token ∧
      ∀ c ∈ (P.sha256Base64Url token).toList, isBase64urlChar c = true)
    (h : RunsAlone P config backend (revokeFor P config req hint client) w es y w')
    (hok : Unfailing es) :
    ∃ es' w'', RunsAlone P config backend (revokeFor P config req hint' client) w es' y w'' ∧
      Unfailing es' ∧ w''.store = w'.store := by
  unfold revokeFor at h ⊢
  cases htoken : str (req.body.get "token") with
  | none =>
    rw [htoken] at h
    exact ⟨es, w', h, hok, rfl⟩
  | some token =>
    rw [htoken] at h
    obtain ⟨hkind, hsha⟩ := hkind token htoken
    refine resolved_other (fun resolved => ?_) hkind hsha h hok
    refine .bind (fun t => ?_) (Prog.onlyCalls_perform rfl)
    exact .bind (fun _ => by trivial) (revokeResolved_keyless client resolved t)

/-- **An introspection with another hint.** -/
lemma introspectFor_other {hint hint' : Option String} {y : Except Exn Reply}
    (hkind : ∀ token, str (req.body.get "token") = some token → OneKind P config w token ∧
      ∀ c ∈ (P.sha256Base64Url token).toList, isBase64urlChar c = true)
    (h : RunsAlone P config backend (introspectFor P config req hint client) w es y w')
    (hok : Unfailing es) :
    ∃ es' w'', RunsAlone P config backend (introspectFor P config req hint' client) w es' y w'' ∧
      Unfailing es' ∧ w''.store = w'.store := by
  unfold introspectFor at h ⊢
  cases htoken : str (req.body.get "token") with
  | none =>
    rw [htoken] at h
    exact ⟨es, w', h, hok, rfl⟩
  | some token =>
    rw [htoken] at h
    obtain ⟨hkind, hsha⟩ := hkind token htoken
    refine resolved_other (fun resolved => ?_) hkind hsha h hok
    cases resolved with
    | none => trivial
    | some resolved =>
      dsimp only
      split_ifs
      · trivial
      · exact .bind (fun _ => by trivial) (Prog.onlyCalls_perform rfl)

/-- What a request comes to with one hint, it comes to with another. -/
lemma ServerRun.comesTo_other (R : ServerRun P config backend) {i : ℕ} (hi : i ≤ R.len)
    (hroute : req.route = .revoke ∨ req.route = .introspect) (hmethod : req.method = "POST")
    (htoken : ∀ token, str (req.body.get "token") = some token →
      OrdinaryToken P (R.world i).drawn token)
    (h : ComesTo P config backend (R.world i) (req.withHint hint) client reply s) :
    ComesTo P config backend (R.world i) (req.withHint hint') client reply s := by
  obtain ⟨es, w', hrun, hauth, hok, rfl⟩ := h
  have hkind : ∀ {w₁ : World}, SameTokens (R.world i) w₁ → ∀ token,
      str (req.body.get "token") = some token → OneKind P config w₁ token ∧
        ∀ c ∈ (P.sha256Base64Url token).toList, isBase64urlChar c = true := by
    intro w₁ hsame token ht
    refine ⟨fun hfound => R.oneKind hi (htoken token ht) ?_, (htoken token ht).digest⟩
    rwa [World.refreshToken, hsame.refreshTokens] at hfound
  unfold handler dispatch at hrun
  unfold ComesTo handler dispatch
  rcases hroute with hroute | hroute
  · have hr : ∀ hint, (req.withHint hint).route = .revoke := fun _ => hroute
    have hm : ∀ hint, (req.withHint hint).method = "POST" := fun _ => hmethod
    simp only [hr, hm, if_true, handleRevoke_withHint] at hrun ⊢
    obtain ⟨x, hx, hy⟩ := alone_respond hrun
    obtain ⟨es', w'', hx', hauth', hok', hstore⟩ := formEndpoint_other
      (fun hsame hok h => revokeFor_other (hkind hsame) h hok) hx hauth hok
    have hreply := alone_respond_of hx'
    rw [← hy] at hreply
    exact ⟨es', w'', hreply, hauth', hok', hstore⟩
  · have hr : ∀ hint, (req.withHint hint).route = .introspect := fun _ => hroute
    have hm : ∀ hint, (req.withHint hint).method = "POST" := fun _ => hmethod
    simp only [hr, hm, if_true, handleIntrospect_withHint] at hrun ⊢
    obtain ⟨x, hx, hy⟩ := alone_respond hrun
    obtain ⟨es', w'', hx', hauth', hok', hstore⟩ := formEndpoint_other
      (fun hsame hok h => introspectFor_other (hkind hsame) h hok) hx hauth hok
    have hreply := alone_respond_of hx'
    rw [← hy] at hreply
    exact ⟨es', w'', hreply, hauth', hok', hstore⟩

/-- **The hint never changes what a request comes to**: in every state of every run, for every token
and every authenticated client, a revocation or an introspection has the same replies, and leaves
the same tables, with any two hints.

**Proof sketch.** A hint decides which lookup is made first. A token that is stored as a refresh
token is a random text without dots and verifies under no keys, so at most one lookup finds a
record, and the rest of the request is the same. -/
theorem hint_never_matters (R : ServerRun P config backend) {i : ℕ} (hi : i ≤ R.len)
    (hroute : req.route = .revoke ∨ req.route = .introspect) (hmethod : req.method = "POST")
    (htoken : ∀ token, str (req.body.get "token") = some token →
      OrdinaryToken P (R.world i).drawn token)
    (hint hint' : Option Json) (client : Client) (reply : Reply) (s : Store) :
    ComesTo P config backend (R.world i) (req.withHint hint) client reply s ↔
      ComesTo P config backend (R.world i) (req.withHint hint') client reply s :=
  ⟨R.comesTo_other hi hroute hmethod htoken, R.comesTo_other hi hroute hmethod htoken⟩

namespace Sample

/-- The client introspects the refresh token of the redemption, with a hint. -/
def hinted (hint : Option Json) : HttpRequest := (introspect "3" refresh).withHint hint

/-- That introspection in a state. -/
def introspectedHinted (hint : Option Json) (w : World) :
    Option (List Event × Except Exn Reply × World) :=
  system.evalAlone (handler platform Sample.config (hinted hint)) (List.replicate 9 {}) w

/-- Without a hint, client `A` is told that the refresh token is active. -/
def toldActive (t : List (TraceStep system) × Conf system) : Bool :=
  t.2.world.drawn.all (fun d => d = refresh ∨
    platform.sha256Base64Url d ≠ platform.sha256Base64Url refresh) &&
  (introspectedHinted none t.2.world).any fun x => x.1.all (fun e => !isRejection e) &&
    x.1.head? = some ⟨.allow "", true⟩ &&
    ((authenticateClient platform Sample.config (hinted none).body none).outcome
      (x.1.tail.take 3)).any (fun y => y.toOption.any fun client => client.clientId = "A") &&
    x.2.1.toOption.any fun reply => reply.field "active" = some (Json.bool true)

set_option maxRecDepth 4000 in
lemma hints_trace : (system.trace ⟨world, []⟩ redemption).any toldActive = true := by
  decide +kernel

/-- The refresh token is an ordinary token. -/
lemma ordinary_refresh {drawn : List String} (h : ∀ d ∈ drawn, d = refresh ∨
    platform.sha256Base64Url d ≠ platform.sha256Base64Url refresh) :
    OrdinaryToken platform drawn refresh where
  jwt := by
    intro keys options hverifies
    obtain ⟨k, hk, htext, -⟩ := Platform.ofTables_verified hverifies
    have hnone : ∀ k ∈ tables.tokens, k.text ≠ refresh := by decide
    exact absurd htext (hnone k hk)
  digest := List.all_eq_true.mp (by decide)
  collides := fun d hd hsame => (h d hd).resolve_right fun hne => hne hsame

/-- The refresh token of the redemption is told to be active, whichever way it is looked up. -/
theorem hint_never_matters_refresh : ∃ client reply s, client.clientId = "A" ∧
    reply.field "active" = some (Json.bool true) ∧
    ComesTo platform Sample.config .memory (redemptionRun.world redemptionRun.len) (hinted none)
      client reply s ∧
    ComesTo platform Sample.config .memory (redemptionRun.world redemptionRun.len)
      (hinted (some (.str "refresh_token"))) client reply s := by
  obtain ⟨⟨steps, last⟩, ht, h⟩ := (Option.any_eq_true _ _).mp hints_trace
  have ht : redemptionRun.HasTrace steps last := ht
  have hworld : redemptionRun.world redemptionRun.len = last.world := by rw [Run.world, ht.last]
  simp only [toldActive, Bool.and_eq_true, List.all_eq_true] at h
  obtain ⟨hdrawn, heval⟩ := h
  obtain ⟨⟨es, y, w'⟩, heval, htest⟩ := (Option.any_eq_true _ _).mp heval
  simp only [Bool.and_eq_true, List.all_eq_true, Bool.not_eq_true'] at htest
  obtain ⟨⟨⟨hok, hhead⟩, hauth⟩, hactive⟩ := htest
  obtain ⟨reply, hreply, hyes⟩ := (Option.any_eq_true _ _).mp hactive
  obtain ⟨z, hz, hclient⟩ := (Option.any_eq_true _ _).mp hauth
  obtain ⟨client, hclient, hid⟩ := (Option.any_eq_true _ _).mp hclient
  obtain rfl := eq_ok_of_toOption hreply
  obtain rfl := eq_ok_of_toOption hclient
  have hcomes : ComesTo platform Sample.config .memory (redemptionRun.world redemptionRun.len)
      (hinted none) client reply w'.store := by
    rw [hworld]
    refine ⟨es, w', Sys.alone_of_evalAlone system heval,
      ⟨es.tail.take 3, Prog.path_of_outcome hz, ?_⟩, hok, rfl⟩
    cases es with
    | nil => cases hhead
    | cons e es =>
      obtain rfl := Option.some.inj (of_decide_eq_true hhead)
      exact List.cons_prefix_cons.mpr ⟨rfl, List.take_prefix _ _⟩
  refine ⟨client, reply, w'.store, by simpa using hid, by simpa using hyes, hcomes, ?_⟩
  have hordinary : ∀ token, str ((introspect "3" refresh).body.get "token") = some token →
      OrdinaryToken platform (redemptionRun.world redemptionRun.len).drawn token := by
    intro token htoken
    have hrefresh : str ((introspect "3" refresh).body.get "token") = some refresh := by decide
    obtain rfl := Option.some.inj (hrefresh.symm.trans htoken)
    rw [hworld]
    exact ordinary_refresh fun d hd => by simpa using hdrawn d hd
  exact (hint_never_matters redemptionRun le_rfl (.inr rfl) rfl hordinary none
    (some (.str "refresh_token")) client reply w'.store).mp hcomes

end Sample

end Fapi2As
