import Fapi2As.Properties.ClientAuthentication

set_option relaxedAutoImplicit false
set_option autoImplicit false

/-!
# Bad assertions and outages

A verification that fails because the key set is out of reach is reported as an outage of the
server, any other failure as a bad credential. The two are told apart by the codes of the errors
with which the JOSE library rejects. Its codes for features that it does not support, such as an
unknown critical header, are taken for outages, and so are the errors of a key that it cannot
import: also when the keys are inline and nothing is fetched.

## Main definitions

* `Fapi2As.BadCredential`, `Fapi2As.outage` — the two reports.
* `Fapi2As.locatedClient`, `Fapi2As.verification` — what an authentication computes.
* `Fapi2As.MistakenForOutage` — the verification under the inline keys ends with an error that is
  taken for an outage.

## Main results

* `Fapi2As.bad_assertions_iff` — bad assertions are reported as such exactly when this does not
  happen.
* `Fapi2As.Sample.critical_header_is_outage` — an unknown critical header is reported as an outage.
-/

namespace Fapi2As

open Js Async

variable {P : Platform} {config : AppConfig} {backend : Backend} {body : Params}
  {authorization : Option String} {w w' : World} {es : List Event}

/-! ## Reports -/

/-- An exception that reports a bad credential, or a request with mixed or repeated mechanisms. -/
def BadCredential (e : Exn) : Prop :=
  ∃ o, e = .oauth o ∧ (o.error = .invalidClient ∧ o.status = 401 ∨
    o.error = .invalidRequest ∧ o.status = 400)

/-- The report of an outage. -/
def outage : OAuthError where
  error := .serverError
  description := "client key set is temporarily unavailable"
  status := 503

lemma badCredential_invalidClient (d : String) : BadCredential (.oauth (invalidClient d)) :=
  ⟨_, rfl, .inl ⟨rfl, rfl⟩⟩

lemma badCredential_invalidRequest (d : String) : BadCredential (.oauth (invalidRequest d)) :=
  ⟨_, rfl, .inr ⟨rfl, rfl⟩⟩

lemma not_badCredential_outage : ¬BadCredential (.oauth outage) := by
  rintro ⟨o, ho, ⟨herror, -⟩ | ⟨herror, -⟩⟩
  · obtain rfl := Exn.oauth.inj ho
    cases herror
  · obtain rfl := Exn.oauth.inj ho
    cases herror

/-- A sequence of two steps fails when the first one fails, or the second one after it. -/
lemma bind_eq_error {ε α β : Type} {x : Except ε α} {f : α → Except ε β} {e : ε} :
    (x >>= f) = .error e ↔ x = .error e ∨ ∃ a, x = .ok a ∧ f a = .error e := by
  cases x <;> simp [bind, Except.bind]

lemma reject_eq_error {c : Prop} [Decidable c] {e e' : OAuthError} :
    reject c e = .error e' ↔ c ∧ e = e' := by
  unfold reject
  split_ifs with h <;> simp [h]

lemma present_eq_error {α : Type} {v : Option α} {e e' : OAuthError} :
    present v e = .error e' ↔ v = none ∧ e = e' := by
  cases v <;> simp [present]

/-- The checks of the request report a bad credential. -/
lemma presentedAssertion_error {o : OAuthError}
    (h : presentedAssertion body authorization = .error o) : BadCredential (.oauth o) := by
  simp only [presentedAssertion, bind_eq_error, reject_eq_error, present_eq_error] at h
  rcases h with ⟨-, rfl⟩ | ⟨_, -, ⟨-, rfl⟩ | ⟨_, -, ⟨-, rfl⟩ | ⟨_, -, ⟨-, rfl⟩ | ⟨_, -, ⟨-, rfl⟩ |
    ⟨_, -, ⟨-, rfl⟩ | ⟨_, -, ⟨-, rfl⟩ | ⟨_, -, h⟩⟩⟩⟩⟩⟩⟩
  · exact badCredential_invalidRequest _
  · exact badCredential_invalidClient _
  · exact badCredential_invalidRequest _
  · exact badCredential_invalidClient _
  · exact badCredential_invalidClient _
  · exact badCredential_invalidClient _
  · exact badCredential_invalidClient _
  · cases h

lemma checkNotBefore_error {claims : Params} {claim : String} {latest : ℚ} {o : OAuthError}
    (h : checkNotBefore claims claim latest = .error o) : BadCredential (.oauth o) := by
  unfold checkNotBefore at h
  split at h
  · cases h
  · rw [← (reject_eq_error.mp h).2]
    exact badCredential_invalidClient _
  · rw [← Except.error.inj h]
    exact badCredential_invalidClient _

/-- The checks of the claims report a bad credential. -/
lemma checkAssertion_error {claims : Params} {client : Client} {now : ℕ} {o : OAuthError}
    (h : checkAssertion config claims body client now = .error o) : BadCredential (.oauth o) := by
  simp only [checkAssertion, bind_eq_error, reject_eq_error, present_eq_error] at h
  rcases h with ⟨-, rfl⟩ | ⟨_, -, ⟨-, rfl⟩ | ⟨_, -, ⟨-, rfl⟩ | ⟨_, -, ⟨-, rfl⟩ | ⟨_, -, ⟨-, rfl⟩ |
    ⟨_, -, ⟨-, rfl⟩ | ⟨_, -, hiat | ⟨_, -, hnbf | ⟨_, -, ⟨-, rfl⟩ | ⟨_, -, h⟩⟩⟩⟩⟩⟩⟩⟩⟩
  · exact badCredential_invalidClient _
  · exact badCredential_invalidClient _
  · exact badCredential_invalidClient _
  · exact badCredential_invalidClient _
  · exact badCredential_invalidClient _
  · exact badCredential_invalidClient _
  · exact checkNotBefore_error hiat
  · exact checkNotBefore_error hnbf
  · exact badCredential_invalidClient _
  · cases h

/-! ## What an authentication computes -/

/-- The client of the row that was found under the subject of an assertion. -/
def foundClient (P : Platform) : Option ClientRecord → Except Exn Client
  | some rec => (rec.toClient P).mapError loadFailure
  | none => .error (.oauth authFailed)

/-- The client that an assertion names in the tables. -/
def locatedClient (P : Platform) (s : Store) (assertion : String) : Except Exn Client :=
  foundClient P ((decodeSubjectHint P assertion).bind s.clients.get?)

/-- The algorithm of an assertion, when it is accepted. -/
def assertionAlg (P : Platform) (config : AppConfig) (assertion : String) : Option String :=
  (P.decodeProtectedHeader assertion).bind fun header =>
    headerAlg header (acceptedJwsAlgs config.clientAuthSigningAlgs)

/-- The verification of an assertion with an accepted algorithm under a key set. -/
def verification (P : Platform) (config : AppConfig) (assertion : String) (keys : KeyInput) :
    Except Exn Params :=
  match P.jwtVerify assertion keys (algsOnly (acceptedJwsAlgs config.clientAuthSigningAlgs)) with
  | .ok () => .ok (P.jwtClaims assertion)
  | .error err => .error (.oauth (if isJwksUnavailable err then outage else authFailed))

/-- A located client is asked for by one call. -/
lemma locateClient_eq {assertion hint : String} (h : decodeSubjectHint P assertion = some hint) :
    locateClient P assertion =
      db (.clientsFindById hint) >>= fun found => Prog.settle id (foundClient P found) := by
  have hne : hint ≠ "" := by
    unfold decodeSubjectHint at h
    split at h
    · exact str_ne_empty h
    · cases h
  unfold locateClient
  rw [h]
  simp only [loadClient, if_neg hne]
  refine congrArg (Prog.call _) (funext fun r => ?_)
  cases r with
  | error e => rfl
  | ok found =>
    cases found with
    | none => rfl
    | some rec =>
      show (tryCatch (Prog.settle id (rec.toClient P) >>= _) _ >>= _ : Handler Client) =
        Prog.settle id ((rec.toClient P).mapError loadFailure)
      cases rec.toClient P <;> rfl

/-- **The client is located in the tables**, when the storage works. -/
lemma alone_locateClient_eq {assertion : String} {y : Except Exn Client}
    (hstorage : ∀ q e, ⟨.db q, .error e⟩ ∉ es)
    (h : RunsAlone P config backend (locateClient P assertion) w es y w') :
    y = locatedClient P w.store assertion := by
  unfold locatedClient
  cases hhint : decodeSubjectHint P assertion with
  | none =>
    have hthrow : locateClient P assertion = .throw (.oauth authFailed) := by
      unfold locateClient
      rw [hhint]
      rfl
    rw [hthrow] at h
    exact h.of_throw.2.1
  | some hint =>
    rw [locateClient_eq hhint] at h
    rcases h.bind with ⟨found, es₁, es₂, w₁, h1, h2, rfl⟩ | ⟨e, h1, -⟩
    · rcases alone_db h1 with ⟨a, hcarried, -, -, hr⟩ | ⟨-, -, hr⟩
      · obtain rfl := Except.ok.inj hr
        rw [Option.bind_some, hcarried.clientsFindById]
        obtain ⟨-, -, ⟨client, hc, rfl⟩ | ⟨e, he, rfl⟩⟩ := h2.settle
        · exact hc.symm
        · exact he.symm
      · cases hr
    · rcases alone_db h1 with ⟨a, -, -, -, hr⟩ | ⟨-, rfl, -⟩
      · cases hr
      · exact absurd List.mem_cons_self (hstorage _ _)

/-- A verification whose algorithm is not accepted reports a bad credential. -/
lemma verifyAssertion_eq_throw {assertion : String} {client : Client}
    (h : assertionAlg P config assertion = none) :
    verifyAssertion P config assertion client = .throw (.oauth authFailed) := by
  unfold verifyAssertion
  cases hr : clientKeyResolver client with
  | error e =>
    have he : e = .jwsVerification := by
      unfold clientKeyResolver at hr
      split at hr
      · cases hr
      · cases hr
      · exact (Except.error.inj hr).symm
    rw [he]
    rfl
  | ok resolver =>
    show tryCatch (verifyJws P assertion resolver config.clientAuthSigningAlgs) _ = _
    unfold verifyJws
    unfold assertionAlg at h
    cases hheader : P.decodeProtectedHeader assertion with
    | none => rfl
    | some header =>
      rw [hheader, Option.bind_some] at h
      simp only [Prog.throwIf, if_pos h]
      rfl

/-- A verification under inline keys makes no call. -/
lemma verifyAssertion_inline {assertion : String} {client : Client} {inline : List Json}
    (hinline : client.metadata.jwks = some inline) (h : assertionAlg P config assertion ≠ none) :
    verifyAssertion P config assertion client =
      Prog.settle id (verification P config assertion (.localJwks inline)) := by
  have hr : clientKeyResolver client = .ok (.localSet inline) := by
    unfold clientKeyResolver
    rw [hinline]
  unfold verifyAssertion verification
  rw [hr]
  show tryCatch (verifyJws P assertion (.localSet inline) config.clientAuthSigningAlgs) _ = _
  unfold verifyJws
  unfold assertionAlg at h
  cases hheader : P.decodeProtectedHeader assertion with
  | none => exact absurd (by rw [hheader]; rfl) h
  | some header =>
    rw [hheader, Option.bind_some] at h
    simp only [Prog.throwIf, if_neg h]
    show tryCatch (_ : Handler Params) _ = _
    cases hv : P.jwtVerify assertion (.localJwks inline)
        (algsOnly (acceptedJwsAlgs config.clientAuthSigningAlgs)) with
    | ok u =>
      simp only [Prog.ret_bind, KeyResolver.keys, Prog.pure_bind', hv]
      rfl
    | error err =>
      simp only [Prog.ret_bind, KeyResolver.keys, Prog.pure_bind', hv]
      cases isJwksUnavailable err <;> rfl

/-- A verification under fetched keys makes the one call that fetches them. -/
lemma verifyAssertion_remote {assertion : String} {client : Client} {uri : String}
    (hnone : client.metadata.jwks = none) (huri : client.metadata.jwksUri = some uri)
    (h : assertionAlg P config assertion ≠ none) :
    verifyAssertion P config assertion client =
      Prog.perform (Call.fetchJwks uri) >>= fun fetched =>
        Prog.settle id (verification P config assertion (.remoteJwks fetched)) := by
  have hr : clientKeyResolver client = .ok (.remoteSet uri) := by
    unfold clientKeyResolver
    rw [hnone, huri]
  unfold verifyAssertion verification
  rw [hr]
  show tryCatch (verifyJws P assertion (.remoteSet uri) config.clientAuthSigningAlgs) _ = _
  unfold verifyJws
  unfold assertionAlg at h
  cases hheader : P.decodeProtectedHeader assertion with
  | none => exact absurd (by rw [hheader]; rfl) h
  | some header =>
    rw [hheader, Option.bind_some] at h
    simp only [Prog.throwIf, if_neg h]
    refine congrArg (Prog.call _) (funext fun fetched => ?_)
    have hpure : (pure (.remoteJwks fetched) : Handler KeyInput) = .ret (.remoteJwks fetched) := rfl
    cases hv : P.jwtVerify assertion (.remoteJwks fetched)
        (algsOnly (acceptedJwsAlgs config.clientAuthSigningAlgs)) with
    | ok u =>
      simp only [Prog.bind, hpure, hv]
      rfl
    | error err =>
      simp only [Prog.bind, hpure, hv]
      cases isJwksUnavailable err <;> rfl

/-- A client without keys does not verify. -/
lemma verifyAssertion_noKeys {assertion : String} {client : Client}
    (hnone : client.metadata.jwks = none) (huri : client.metadata.jwksUri = none) :
    verifyAssertion P config assertion client = .throw (.oauth authFailed) := by
  have hr : clientKeyResolver client = .error .jwsVerification := by
    unfold clientKeyResolver
    rw [hnone, huri]
  unfold verifyAssertion
  rw [hr]
  rfl

/-- **A verification that throws** reports a bad credential, or an outage that the library's error
under the registered keys is taken for. -/
lemma alone_verifyAssertion_error {assertion : String} {client : Client} {e : Exn}
    (h : RunsAlone P config backend (verifyAssertion P config assertion client) w es
      (.error e) w') :
    e = .oauth authFailed ∨ e = .oauth outage ∧ assertionAlg P config assertion ≠ none ∧
      ∃ keys err, RegisteredKeys client es keys ∧ isJwksUnavailable err = true ∧
        P.jwtVerify assertion keys (algsOnly (acceptedJwsAlgs config.clientAuthSigningAlgs)) =
          .error err := by
  by_cases halg : assertionAlg P config assertion = none
  · rw [verifyAssertion_eq_throw halg] at h
    exact .inl (Except.error.inj h.of_throw.2.1)
  have hverified : ∀ keys, RegisteredKeys client es keys →
      verification P config assertion keys = .error e → e = .oauth authFailed ∨
        e = .oauth outage ∧ assertionAlg P config assertion ≠ none ∧
          ∃ keys err, RegisteredKeys client es keys ∧ isJwksUnavailable err = true ∧
            P.jwtVerify assertion keys (algsOnly (acceptedJwsAlgs config.clientAuthSigningAlgs)) =
              .error err := by
    intro keys hkeys hv
    unfold verification at hv
    cases hjwt : P.jwtVerify assertion keys
        (algsOnly (acceptedJwsAlgs config.clientAuthSigningAlgs)) with
    | ok u =>
      rw [hjwt] at hv
      cases hv
    | error err =>
      rw [hjwt] at hv
      have he := Except.error.inj hv
      cases hout : isJwksUnavailable err with
      | true =>
        rw [hout] at he
        exact .inr ⟨he.symm, halg, keys, err, hkeys, hout, hjwt⟩
      | false =>
        rw [hout] at he
        exact .inl he.symm
  cases hjwks : client.metadata.jwks with
  | some inline =>
    rw [verifyAssertion_inline hjwks halg] at h
    obtain ⟨rfl, -, ⟨_, -, hr⟩ | ⟨e', he', hr⟩⟩ := h.settle
    · cases hr
    · obtain rfl := Except.error.inj hr
      exact hverified _ (.inl ⟨inline, hjwks, rfl⟩) he'
  | none =>
    cases huri : client.metadata.jwksUri with
    | none =>
      rw [verifyAssertion_noKeys hjwks huri] at h
      exact .inl (Except.error.inj h.of_throw.2.1)
    | some uri =>
      rw [verifyAssertion_remote hjwks huri halg] at h
      rcases h.bind with ⟨fetched, es₁, es₂, w₁, h1, h2, rfl⟩ | ⟨e', h1, hr⟩
      · obtain ⟨_, fetched', _, rfl, hf⟩ := h1.perform
        obtain rfl := Except.ok.inj hf
        obtain ⟨rfl, -, ⟨_, -, hr⟩ | ⟨e', he', hr⟩⟩ := h2.settle
        · cases hr
        · obtain rfl := Except.error.inj hr
          exact hverified _ (.inr ⟨hjwks, uri, fetched, huri, rfl, by simp⟩) he'
      · obtain ⟨_, _, _, -, hf⟩ := h1.perform
        cases hf

/-! ## Bad assertions -/

/-- The client that an assertion of a request names has inline keys, if there is one. -/
def LocatesInline (P : Platform) (s : Store) (body : Params) (authorization : Option String) :
    Prop :=
  ∀ assertion hint rec, presentedAssertion body authorization = .ok assertion →
    decodeSubjectHint P assertion = some hint → s.clients.get? hint = some rec →
    ∃ client inline, rec.toClient P = .ok client ∧ client.metadata.jwks = some inline

/-- The verification of an assertion under a key set, with an accepted algorithm, ends with an error
that is taken for a key set out of reach. -/
def TakenForOutage (P : Platform) (config : AppConfig) (assertion : String) (keys : KeyInput) :
    Prop :=
  assertionAlg P config assertion ≠ none ∧ ∃ err, isJwksUnavailable err = true ∧
    P.jwtVerify assertion keys (algsOnly (acceptedJwsAlgs config.clientAuthSigningAlgs)) =
    .error err

/-- **The assertion of a request is mistaken for an outage**: it is presented as it should be, and
its verification under the inline keys of the client that it names ends with such an error. -/
def MistakenForOutage (P : Platform) (config : AppConfig) (s : Store) (body : Params)
    (authorization : Option String) : Prop :=
  ∃ assertion client inline, presentedAssertion body authorization = .ok assertion ∧
    locatedClient P s assertion = .ok client ∧ client.metadata.jwks = some inline ∧
    TakenForOutage P config assertion (.localJwks inline)

/-- A key set could not be fetched, or a verification under registered keys that were there ended
with an error that is taken for a key set out of reach. -/
def KeySetFailed (P : Platform) (config : AppConfig) (s : Store) (body : Params)
    (authorization : Option String) (q : List Event) : Prop :=
  (∃ uri err, ⟨.fetchJwks uri, .error err⟩ ∈ q) ∨
    ∃ assertion client keys, presentedAssertion body authorization = .ok assertion ∧
      locatedClient P s assertion = .ok client ∧ RegisteredKeys client q keys ∧
      (∀ e, keys ≠ .remoteJwks (.error e)) ∧ TakenForOutage P config assertion keys

/-- A located client with inline keys, or a bad credential. -/
lemma locatedClient_inline {assertion : String} {s : Store}
    (hinline : LocatesInline P s body authorization)
    (hpresented : presentedAssertion body authorization = .ok assertion) :
    locatedClient P s assertion = .error (.oauth authFailed) ∨
      ∃ client inline, locatedClient P s assertion = .ok client ∧
        client.metadata.jwks = some inline := by
  unfold locatedClient
  cases hhint : decodeSubjectHint P assertion with
  | none => exact .inl rfl
  | some hint =>
    rw [Option.bind_some]
    cases hrec : s.clients.get? hint with
    | none => exact .inl rfl
    | some rec =>
      obtain ⟨client, inline, hc, hj⟩ := hinline assertion hint rec hpresented hhint hrec
      exact .inr ⟨client, inline, by rw [foundClient, hc]; rfl, hj⟩

/-- A verification that is mistaken for an outage under the inline keys reports one. -/
lemma alone_verifyAssertion_mistaken {assertion : String} {client : Client} {inline : List Json}
    {y : Except Exn Params} (hinline : client.metadata.jwks = some inline)
    (hmistaken : TakenForOutage P config assertion (.localJwks inline))
    (h : RunsAlone P config backend (verifyAssertion P config assertion client) w es y w') :
    y = .error (.oauth outage) := by
  obtain ⟨halg, err, hout, hjwt⟩ := hmistaken
  have hv : verification P config assertion (.localJwks inline) = .error (.oauth outage) := by
    unfold verification
    rw [hjwt]
    simp only [hout, if_true]
  rw [verifyAssertion_inline hinline halg, hv] at h
  exact h.of_throw.2.1

/-- A client that cannot be located is no outage. -/
lemma locatedClient_error {assertion : String} {s : Store} {e : Exn}
    (h : locatedClient P s assertion = .error e) : e ≠ .oauth outage := by
  unfold locatedClient at h
  cases hrow : (decodeSubjectHint P assertion).bind s.clients.get? with
  | none =>
    rw [hrow] at h
    obtain rfl := Except.error.inj h
    exact fun he => by cases Exn.oauth.inj he
  | some rec =>
    rw [hrow, foundClient] at h
    cases hc : rec.toClient P with
    | ok client =>
      rw [hc] at h
      cases h
    | error e' =>
      rw [hc] at h
      obtain rfl := Except.error.inj h
      rcases rec.toClient_error hc with rfl | rfl
      · exact fun he => by cases he
      · exact fun he => by cases Exn.oauth.inj he

/-- **Bad assertions of clients with inline keys are reported as such**, whatever they hold. -/
def BadAssertionsReported (P : Platform) (config : AppConfig) (backend : Backend) : Prop :=
  ∀ (body : Params) (authorization : Option String) (w w' : World) (es : List Event) (e : Exn),
    (∀ q e, ⟨.db q, .error e⟩ ∉ es) → LocatesInline P w.store body authorization →
    RunsAlone P config backend (authenticateClient P config body authorization) w es (.error e) w' →
    BadCredential e

/-- **Bad assertions are reported as such exactly when they are not mistaken for an outage.** An
authentication that throws, for an assertion whose client has inline keys, reports a bad credential
if and only if the library's verification under these keys does not end with an error that is taken
for a key set out of reach. For any client, an outage is reported only when its key set could not be
fetched, or after such an error.

**Proof sketch.** The checks of the request and of the claims, and the replay guard, report bad
credentials, and so does the failure to find a client. A verification that fails reports an outage
exactly when its error is taken for one, and under inline keys no fetch comes before it. -/
theorem bad_assertions_iff {e : Exn} (hstorage : ∀ q e, ⟨.db q, .error e⟩ ∉ es)
    (h : RunsAlone P config backend (authenticateClient P config body authorization) w es (.error e)
      w') :
    (LocatesInline P w.store body authorization →
      (BadCredential e ↔ ¬MistakenForOutage P config w.store body authorization)) ∧
    (e = .oauth outage → KeySetFailed P config w.store body authorization es) := by
  have hbad : BadCredential e → ¬MistakenForOutage P config w.store body authorization →
      (LocatesInline P w.store body authorization →
        (BadCredential e ↔ ¬MistakenForOutage P config w.store body authorization)) ∧
      (e = .oauth outage → KeySetFailed P config w.store body authorization es) :=
    fun hb hn => ⟨fun _ => iff_of_true hb hn, fun he => absurd (he ▸ hb) not_badCredential_outage⟩
  -- an assertion that verified is not mistaken for an outage
  have hverifies : ∀ {assertion : String} {client : Client} {claims : Params} {w₁ w₂ : World}
      {es₁ : List Event}, presentedAssertion body authorization = .ok assertion →
      locatedClient P w.store assertion = .ok client →
      RunsAlone P config backend (verifyAssertion P config assertion client) w₁ es₁
        (.ok claims) w₂ → ¬MistakenForOutage P config w.store body authorization := by
    rintro assertion client claims w₁ w₂ es₁ hpresented hlocated hverified
      ⟨assertion', client', inline, hpresented', hlocated', hinline, hmistaken⟩
    obtain rfl := Except.ok.inj (hpresented.symm.trans hpresented')
    obtain rfl := Except.ok.inj (hlocated.symm.trans hlocated')
    cases alone_verifyAssertion_mistaken hinline hmistaken hverified
  cases alone_authenticateClient h with
  | unpresented o ho =>
    refine hbad (presentedAssertion_error ho) ?_
    rintro ⟨assertion, _, _, hpresented, -⟩
    cases ho.symm.trans hpresented
  | unlocated assertion es _ _ hpresented hlocate =>
    have hlocated :=
      alone_locateClient_eq (fun q e hmem => hstorage q e (List.mem_cons_of_mem _ hmem)) hlocate
    refine ⟨fun hinline => ?_, fun he => absurd he (locatedClient_error hlocated.symm)⟩
    rcases locatedClient_inline hinline hpresented with hfailed | ⟨client, _, hok, -⟩
    · obtain rfl := Except.error.inj (hlocated.trans hfailed)
      refine iff_of_true (badCredential_invalidClient _) ?_
      rintro ⟨assertion', client, _, hpresented', hok, -⟩
      obtain rfl := Except.ok.inj (hpresented.symm.trans hpresented')
      cases hlocated.trans hok
    · cases hlocated.trans hok
  | unverified assertion client es es' _ w₁ _ hpresented hlocate hverify =>
    have hlocated := alone_locateClient_eq (fun q e hmem => hstorage q e (by simp [hmem])) hlocate
    rcases alone_verifyAssertion_error hverify with rfl | ⟨rfl, halg, keys, err, hkeys, hout, hjwt⟩
    · refine hbad (badCredential_invalidClient _) ?_
      rintro ⟨assertion', client', inline, hpresented', hok, hinline, hmistaken⟩
      obtain rfl := Except.ok.inj (hpresented.symm.trans hpresented')
      obtain rfl := Except.ok.inj (hlocated.trans hok)
      have hy := alone_verifyAssertion_mistaken hinline hmistaken hverify
      cases Exn.oauth.inj (Except.error.inj hy)
    · constructor
      · intro hall
        refine iff_of_false not_badCredential_outage (not_not_intro ?_)
        obtain hfailed | ⟨client', inline, hok, hinline⟩ := locatedClient_inline hall hpresented
        · cases hlocated.trans hfailed
        · obtain rfl := Except.ok.inj (hlocated.trans hok)
          obtain ⟨inline', hj, rfl⟩ | ⟨hnone, -⟩ := hkeys
          · exact ⟨assertion, client, inline', hpresented, hok, hj, halg, err, hout, hjwt⟩
          · cases hinline.symm.trans hnone
      · intro _
        have hkeys' : RegisteredKeys client (⟨.now, w.clock⟩ :: es ++ es') keys :=
          hkeys.mono fun e he => by simp [he]
        by_cases hfetch : ∃ fe, keys = .remoteJwks (.error fe)
        · obtain ⟨fe, rfl⟩ := hfetch
          obtain ⟨_, -, hk⟩ | ⟨-, uri, fetched, -, hk, hmem⟩ := hkeys'
          · cases hk
          · obtain rfl := KeyInput.remoteJwks.inj hk
            exact .inl ⟨uri, fe, hmem⟩
        · exact .inr ⟨assertion, client, keys, hpresented, hlocated.symm, hkeys',
            fun fe hk => hfetch ⟨fe, hk⟩, halg, err, hout, hjwt⟩
  | refused assertion client claims es es' o w₁ _ hpresented hlocated hverified hrefused =>
    have hlocated := alone_locateClient_eq (fun q e hmem => hstorage q e (by simp [hmem])) hlocated
    exact hbad (checkAssertion_error hrefused) (hverifies hpresented hlocated.symm hverified)
  | registered assertion client claims exp jti es es' es₃ w₁ w₂ _ r _ hpresented hlocated hverified
      hchecked hregister houtcome =>
    have hlocated := alone_locateClient_eq (fun q e hmem => hstorage q e (by simp [hmem])) hlocated
    rcases houtcome with ⟨-, hy⟩ | ⟨-, hy⟩ | ⟨e', rfl, -⟩
    · cases hy
    · obtain rfl := Except.error.inj hy
      exact hbad (badCredential_invalidClient _) (hverifies hpresented hlocated.symm hverified)
    · rcases alone_db hregister with ⟨_, -, -, -, hr⟩ | ⟨-, rfl, -⟩
      · cases hr
      · exact absurd (List.mem_append_right _ List.mem_cons_self) (hstorage _ _)

namespace Sample

/-! ## An unknown critical header, and a forged assertion -/

/-- An assertion of client `A` with a critical header parameter that the library does not know. -/
def criticalAssertion : SignedToken :=
  { assertion "A" "7" 160 with
    header := [("alg", .str "ES256"), ("crit", .arr [.str "x"]), ("x", .bool true)] }

/-- An assertion that names client `A` and is signed by client `B`. -/
def forgedAssertion : SignedToken := { assertion "A" "8" 160 with signer := publicKey "B" }

/-- The tables with these assertions. -/
def criticalTables : PlatformTables := { tables with
  documents := ("7", .obj (assertionClaims "A" "7" 160)) ::
    ("8", .obj (assertionClaims "A" "8" 160)) :: tables.documents
  tokens := criticalAssertion :: forgedAssertion :: tables.tokens }

/-- The platform: the library does not support critical header parameters. -/
def criticalPlatform : Platform :=
  let platform := Platform.ofTables criticalTables
  { platform with
    jwtVerify := fun token keys o =>
      if ((platform.decodeProtectedHeader token).bind (Params.get · "crit")).isSome then
        .error ⟨some "ERR_JOSE_NOT_SUPPORTED"⟩
      else platform.jwtVerify token keys o }

/-- Every registered client of the sample deployment has inline keys. -/
lemma criticalPlatform_inline (body : Params) (authorization : Option String) :
    LocatesInline criticalPlatform world.store body authorization := by
  intro assertion hint rec _ _ hrec
  simp only [world, Map.get?_set, Map.get?_empty] at hrec
  split_ifs at hrec
  · obtain rfl := Option.some.inj hrec
    exact ⟨_, _, rfl, rfl⟩
  · obtain rfl := Option.some.inj hrec
    exact ⟨_, _, rfl, rfl⟩

/-- The deployment on this platform. -/
abbrev criticalSystem : Sys Ret Exn Reply := server criticalPlatform Sample.config .memory

/-- Client `A` authenticates with the assertion of a body. -/
def attempted (body : String) : Option (List Event × Except Exn Client × World) :=
  criticalSystem.evalAlone (authenticateClient criticalPlatform Sample.config (par body).body none)
    [{}, {}, {}] world

/-- A repository call that rejects. -/
def rejects (e : Event) : Bool :=
  match e with
  | ⟨.db _, .error _⟩ => true
  | _ => false

/-- An authentication throws an error, and no repository call rejects. -/
def throwsError (o : OAuthError) (x : List Event × Except Exn Client × World) : Bool :=
  (match x.2.1 with
    | .error e => e = .oauth o
    | .ok _ => false) && x.1.all fun e => !rejects e

/-- What is evaluated is an execution that throws. -/
lemma attempted_throws {body : String} {o : OAuthError}
    (h : (attempted body).any (throwsError o) = true) : ∃ es w', (∀ q e, ⟨.db q, .error e⟩ ∉ es) ∧
      RunsAlone criticalPlatform Sample.config .memory
        (authenticateClient criticalPlatform Sample.config (par body).body none) world es
        (.error (.oauth o)) w' := by
  obtain ⟨⟨es, y, w'⟩, heval, hx⟩ := (Option.any_eq_true _ _).mp h
  simp only [throwsError, Bool.and_eq_true, List.all_eq_true] at hx
  obtain ⟨hy, hcalls⟩ := hx
  refine ⟨es, w', fun q e hmem => ?_, ?_⟩
  · have hreject := hcalls _ hmem
    simp [rejects] at hreject
  · cases y with
    | ok client => cases hy
    | error e =>
      obtain rfl : e = .oauth o := by simpa using hy
      exact Sys.alone_of_evalAlone criticalSystem heval

/-- **An assertion with an unknown critical header is reported as an outage**, although the keys of
the client are inline. -/
theorem critical_header_is_outage :
    ¬BadAssertionsReported criticalPlatform Sample.config .memory := by
  intro hreported
  have hthrows : (attempted "7").any (throwsError outage) = true := by decide +kernel
  obtain ⟨es, w', hstorage, halone⟩ := attempted_throws hthrows
  exact not_badCredential_outage
    (hreported _ _ _ _ _ _ hstorage (criticalPlatform_inline _ _) halone)

/-- A forged assertion, whose signature does not verify under the inline keys, is reported as a bad
credential, and is not mistaken for an outage. -/
theorem forged_assertion_reported :
    criticalPlatform.jwtVerify ".8." (.localJwks [.obj (publicKey "A")])
        (algsOnly (acceptedJwsAlgs Sample.config.clientAuthSigningAlgs)) = .error signatureError ∧
      ¬MistakenForOutage criticalPlatform Sample.config world.store (par "8").body none := by
  have hthrows : (attempted "8").any (throwsError authFailed) = true := by decide +kernel
  obtain ⟨es, w', hstorage, halone⟩ := attempted_throws hthrows
  have hiff := (bad_assertions_iff hstorage halone).1 (criticalPlatform_inline _ _)
  exact ⟨by decide +kernel, hiff.mp (badCredential_invalidClient _)⟩

end Sample

end Fapi2As
