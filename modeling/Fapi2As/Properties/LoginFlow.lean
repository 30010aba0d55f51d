import Fapi2As.Properties.MaxAge
import Fapi2As.Properties.RoundTrip

set_option relaxedAutoImplicit false
set_option autoImplicit false

/-!
# From the login to the decision

The interaction page decides on every visit anew whether the user has to log in, from the session in
the cookie and the pushed request alone. A user who has just logged in comes back with a session
that is as young as it can be; whether the next visit shows the consent page then depends on what
the pushed request asks for.

## Main definitions

* `Fapi2As.promptsLogin`, `Fapi2As.CanRevalidate` — what a pushed request asks for, and whether the
  registration of its client validates it.
* `Fapi2As.Answers` — what the calls of a request return while its interaction can go on;
  `Fapi2As.ServerRun.Undisturbed` — the conditions on a run under which they do.
* `Fapi2As.SessionIssued` — the session that a successful login sets as a cookie.
* `Fapi2As.ServerRun.VisitAfterLogin`, `Fapi2As.ServerRun.LeadsToDecision` — a visit with that
  session, and the outcome that it should have.

## Main results

* `Fapi2As.wp_handleInteraction_answered`, `Fapi2As.wp_handleConsent_answered` — the outcome of a
  visit and of an approval under these answers.
* `Fapi2As.ServerRun.login_leads_to_decision_iff` — the visit after a login leads to the decision
  exactly when the request validates and its prompt does not ask for a login.
* `Fapi2As.Sample.prompted_login_again` — a user who is sent back to the login.
-/

namespace Fapi2As

open Js Async

/-! ## What a pushed request asks for -/

/-- The prompt of a pushed request contains `login`, as the later steps read it. -/
def promptsLogin (pushed : ParRequestRecord) : Bool :=
  match str ((storedBody pushed.params).get "prompt") with
  | some prompt => (words prompt).contains "login"
  | none => false

section

variable {P : Platform} {config : AppConfig} {req : HttpRequest} {past : List Event}

/-- The client that is registered in a row validates a pushed request. -/
structure Revalidates (P : Platform) (reg : Option ClientRecord) (pushed : ParRequestRecord)
    (client : Client) (request : ValidatedAuthorizationRequest) : Prop where
  /-- The identifier is not empty. -/
  named : pushed.clientId ≠ ""
  /-- The registration is valid. -/
  registered : ∃ rec, reg = some rec ∧ rec.toClient P = .ok client
  /-- The pushed parameters validate. -/
  valid : validateAuthorizationRequest (storedBody pushed.params) client = .ok request

/-- The registration of the client validates the pushed request. -/
def CanRevalidate (P : Platform) (reg : Option ClientRecord) (pushed : ParRequestRecord) : Prop :=
  ∃ client request, Revalidates P reg pushed client request

/-- A request that is young enough needs re-authentication only when its prompt asks for it. -/
lemma needsReauthentication_of_young {pushed : ParRequestRecord} {client : Client}
    {request : ValidatedAuthorizationRequest} {session : LoginSession} {nowSec : ℕ}
    (hv : validateAuthorizationRequest (storedBody pushed.params) client = .ok request)
    (hyoung : ∀ m, pushedMaxAge pushed = some m → (nowSec : ℚ) - session.authTime ≤ m) :
    needsReauthentication (some session) request nowSec = promptsLogin pushed := by
  have hvalid := Validated.of_eq_ok hv
  simp only [needsReauthentication, promptsLogin, hvalid.prompt_eq]
  cases hm : request.maxAge with
  | none => cases str ((storedBody pushed.params).get "prompt") <;> simp
  | some m =>
    have hle := hyoung m (hvalid.maxAge_eq.symm.trans hm)
    have hage : ¬((nowSec : ℚ) - session.authTime > m) := not_lt.mpr hle
    cases str ((storedBody pushed.params).get "prompt") <;> simp [hage]

/-! ## What the calls of a request return -/

/-- What the calls of a request that carries `session` return while the interaction `id` can go on:
no repository call fails, the session has not expired, the interaction is found, its pushed request
is `pushed`, the registration of the client is `reg`, and the interaction has not been completed. -/
structure Answers (P : Platform) (config : AppConfig) (req : HttpRequest) (id : String)
    (pushed : ParRequestRecord) (reg : Option ClientRecord) (session : LoginSession)
    (q : List Event) : Prop where
  /-- No repository call fails. -/
  resolved : ∀ query fault, ⟨.db query, .error fault⟩ ∉ q
  /-- The session is valid at every reading. -/
  carries : ∀ t, ⟨.now, t⟩ ∈ q → sessionAt P config req (t / 1000) = some session
  /-- The interaction is found. -/
  found : ∀ t r, ⟨.now, t⟩ ∈ q → ⟨.db (.interactionsFind id t), .ok r⟩ ∈ q →
    ∃ interaction, r = some interaction ∧ interaction.requestUri = pushed.requestUri ∧
      interaction.clientId = pushed.clientId
  /-- The pushed request is found. -/
  peeked : ∀ uri t r, uri = pushed.requestUri → ⟨.now, t⟩ ∈ q →
    ⟨.db (.parPeek uri t), .ok r⟩ ∈ q → r = some pushed
  /-- The registration of the client. -/
  client : ∀ clientId r, clientId = pushed.clientId →
    ⟨.db (.clientsFindById clientId), .ok r⟩ ∈ q → r = reg
  /-- The interaction is completed by a call that tries to. -/
  completed : ∀ t, ⟨.now, t⟩ ∈ q → ⟨.db (.interactionsComplete id t), .ok none⟩ ∉ q

variable {id : String} {pushed : ParRequestRecord} {reg : Option ClientRecord}
  {session : LoginSession}

lemma Answers.mono {q q' : List Event} (h : Answers P config req id pushed reg session q')
    (hq : q <+: q') : Answers P config req id pushed reg session q where
  resolved query fault he := h.resolved query fault (hq.mem he)
  carries t ht := h.carries t (hq.mem ht)
  found t r ht hr := h.found t r (hq.mem ht) (hq.mem hr)
  peeked uri t r hu ht hr := h.peeked uri t r hu (hq.mem ht) (hq.mem hr)
  client clientId r hc hr := h.client clientId r hc (hq.mem hr)
  completed t ht hr := h.completed t (hq.mem ht) (hq.mem hr)

/-- A program fact that speaks about these answers only holds trivially once another answer was
given. -/
lemma wp_answered_otherwise {α : Type} {post : List Event → Except Exn α → Prop} {p : Handler α}
    (h : ¬Answers P config req id pushed reg session past)
    (hpost : ∀ q x, ¬Answers P config req id pushed reg session q → post q x) :
    Prog.wp (fun _ _ => True) post past p := by
  exact Prog.wp_of_prefix (fun _ _ => trivial) fun q x hq => hpost q x fun ha => h (ha.mono hq)

/-- **Loading the client** under these answers: the registered one, if its registration is valid. -/
lemma wp_loadClient_answered {post : List Event → Except Exn (Option Client) → Prop}
    {clientId : String} (hclient : clientId = pushed.clientId)
    (hsome : ∀ q rec client, past <+: q → pushed.clientId ≠ "" → reg = some rec →
      rec.toClient P = .ok client → post q (.ok (some client)))
    (hnone : ∀ q x, past <+: q → ¬CanRevalidate P reg pushed → (∀ client, x ≠ .ok (some client)) →
      post q x)
    (hother : ∀ q x, ¬Answers P config req id pushed reg session q → post q x) :
    Prog.wp (fun _ _ => True) post past (loadClient P clientId) := by
  unfold loadClient
  split_ifs with hne
  · refine hnone _ _ List.prefix_rfl (fun hcan => ?_) (by simp)
    obtain ⟨_, _, h⟩ := hcan
    exact h.named (hclient ▸ hne)
  · rw [Prog.wp_bind]
    refine wp_db.mpr ⟨trivial, fun r => ?_, fun fault => hother _ _ fun ha =>
      ha.resolved _ fault (mem_past_last _ _)⟩
    have h1 : past <+: past ++ [⟨.db (.clientsFindById clientId), .ok r⟩] := List.prefix_append _ _
    by_cases hr : r = reg
    · subst hr
      cases r with
      | none =>
        refine hnone _ _ h1 (fun hcan => ?_) (by simp)
        obtain ⟨_, _, h⟩ := hcan
        obtain ⟨_, hr, -⟩ := h.registered
        cases hr
      | some rec =>
        simp only [Prog.Next]
        rw [Prog.wp_bind, Prog.wp_settle]
        refine ⟨fun client hc => hsome _ rec client h1 (hclient ▸ hne) rfl hc, fun e he => ?_⟩
        refine hnone _ _ h1 (fun hcan => ?_) (by simp)
        obtain ⟨_, _, h⟩ := hcan
        obtain ⟨rec', hrec', hc⟩ := h.registered
        obtain rfl := Option.some.inj hrec'
        rw [he] at hc
        cases hc
    · exact wp_answered_otherwise (fun ha => hr (ha.client clientId r hclient (mem_past_last _ _)))
        hother

/-- **Loading the interaction** under these answers: its context, when the registration of the
client validates the pushed request. -/
lemma wp_loadInteractionContext_answered
    {post : List Event → Except Exn (Option InteractionContext) → Prop} {t : ℕ}
    (hnow : ⟨.now, t⟩ ∈ past)
    (hsome : ∀ q client request interaction, past <+: q → Revalidates P reg pushed client request →
      ⟨.db (.interactionsFind id t), .ok (some interaction)⟩ ∈ q →
      post q (.ok (some ⟨client, request, pushed.requestUri, interaction.subject⟩)))
    (hnone : ∀ q, past <+: q → ¬CanRevalidate P reg pushed → post q (.ok none))
    (hother : ∀ q x, ¬Answers P config req id pushed reg session q → post q x) :
    Prog.wp (fun _ _ => True) post past (loadInteractionContext P id t) := by
  unfold loadInteractionContext
  rw [Prog.wp_bind]
  refine wp_db.mpr ⟨trivial, fun found => ?_, fun fault => hother _ _ fun ha =>
    ha.resolved _ fault (mem_past_last _ _)⟩
  have h1 : past <+: past ++ [⟨.db (.interactionsFind id t), .ok found⟩] := List.prefix_append _ _
  by_cases hfound : ∃ interaction, found = some interaction ∧
      interaction.requestUri = pushed.requestUri ∧ interaction.clientId = pushed.clientId
  · obtain ⟨interaction, rfl, huri, hclient⟩ := hfound
    simp only [Prog.Next]
    rw [Prog.wp_bind]
    refine wp_db.mpr ⟨trivial, fun peeked => ?_, fun fault => hother _ _ fun ha =>
      ha.resolved _ fault (mem_past_last _ _)⟩
    have h2 := h1.trans (List.prefix_append _
      [⟨.db (.parPeek interaction.requestUri t), .ok peeked⟩])
    by_cases hpeeked : peeked = some pushed
    · subst hpeeked
      simp only [Prog.Next]
      rw [if_neg (not_not.mpr hclient.symm), Prog.wp_bind, wp_attempt]
      refine wp_loadClient_answered hclient
        (fun q rec client hq hne (hreg : reg = some rec) hrec => ?_) (fun q x hq hno hx => ?_)
        (fun q x (hbad : ¬Answers P config req id pushed reg session q) => ?_)
      · have hmem := hq.mem (List.mem_append_left _ (mem_past_last past
          ⟨.db (.interactionsFind id t), .ok (some interaction)⟩))
        simp only [Prog.Next]
        split
        · rename_i request hvalid
          rw [huri]
          exact hsome q client request interaction (h2.trans hq)
            ⟨hne, ⟨rec, hreg, hrec⟩, hvalid⟩ hmem
        · rename_i err hvalid
          refine hnone q (h2.trans hq) fun hcan => ?_
          obtain ⟨client', request, hr⟩ := hcan
          obtain ⟨rec', hrec', hc⟩ := hr.registered
          obtain rfl := Option.some.inj (hreg.symm.trans hrec')
          obtain rfl := Except.ok.inj (hrec.symm.trans hc)
          rw [hr.valid] at hvalid
          cases hvalid
      · simp only [Prog.Next]
        exact hnone q (h2.trans hq) hno
      · exact wp_answered_otherwise hbad hother
    · exact wp_answered_otherwise (fun ha => hpeeked (ha.peeked _ t peeked huri
        (h2.mem hnow) (mem_past_last _ _))) hother
  · exact wp_answered_otherwise (fun ha => hfound (ha.found t found (h1.mem hnow)
      (mem_past_last _ _))) hother

/-! ## A visit and an approval -/

/-- A reply that is no consent page. -/
def NoConsentPage (reply : Reply) : Prop := ∀ view, reply.body ≠ .html (.consent view)

/-- The consent page is shown to a session, and the interaction was bound to its subject. -/
def ConsentPageShown (P : Platform) (config : AppConfig) (id : String) (pushed : ParRequestRecord)
    (reg : Option ClientRecord) (session : LoginSession) (q : List Event) (reply : Reply) : Prop :=
  ∃ client request subject authTime, Revalidates P reg pushed client request ∧
    ⟨.db (.interactionsSetSubject id session.sub authTime session.acr session.amr), .ok ()⟩ ∈ q ∧
    reply.status = 200 ∧ reply.body = .html (.consent (consentView P config id
      ⟨client, request, pushed.requestUri, subject⟩ session))

/-- The outcome of a visit: the consent page, when the registration of the client validates the
pushed request and its prompt does not ask for a login, and another page otherwise. -/
def VisitOutcome (P : Platform) (config : AppConfig) (id : String) (pushed : ParRequestRecord)
    (reg : Option ClientRecord) (session : LoginSession) (q : List Event)
    (x : Except Exn Reply) : Prop :=
  ∃ reply, x = .ok reply ∧
    (CanRevalidate P reg pushed ∧ promptsLogin pushed = false ∧
        ConsentPageShown P config id pushed reg session q reply ∨
      ¬(CanRevalidate P reg pushed ∧ promptsLogin pushed = false) ∧ NoConsentPage reply)

/-- The readings of a request come within the maximal age of a session. -/
def Young (pushed : ParRequestRecord) (session : LoginSession) (q : List Event) : Prop :=
  ∀ t, ⟨.now, t⟩ ∈ q → ∀ m, pushedMaxAge pushed = some m →
    ((t / 1000 : ℕ) : ℚ) - session.authTime ≤ m

lemma noConsentPage_error (status : ℕ) (message : String) :
    NoConsentPage (errorHtml status message) := by
  intro view h
  simp [errorHtml, htmlReply] at h

lemma noConsentPage_login (error : Option String) :
    NoConsentPage (loginPage P config id error) := by
  intro view h
  simp [loginPage, htmlReply] at h

/-- The redirect URI of a request that validates is a URL, so that its consent page has a policy. -/
lemma Revalidates.consentCsp {client : Client} {request : ValidatedAuthorizationRequest}
    (h : Revalidates P reg pushed client request) :
    ∃ csp, consentCsp P request.redirectUri = some csp := by
  obtain ⟨rec, -, hrec⟩ := h.registered
  have hreg := (Validated.of_eq_ok h.valid).redirect
  have hurl := rec.toClient_redirectUris hrec (List.contains_iff_mem.mp hreg)
  obtain ⟨u, hu⟩ := Option.isSome_iff_exists.mp hurl
  exact ⟨_, by rw [Fapi2As.consentCsp, hu]; rfl⟩

/-- **A visit while the interaction can go on** shows the consent page exactly when the pushed
request validates and does not ask for a login. -/
lemma wp_handleInteraction_answered (hid : str (req.query.get "id") = some id) :
    Prog.wp (fun _ _ => True)
      (fun q x => Answers P config req id pushed reg session q → Young pushed session q →
        VisitOutcome P config id pushed reg session q x) [] (handleInteraction P config req) := by
  have hother : ∀ q (x : Except Exn Reply), ¬Answers P config req id pushed reg session q →
      Answers P config req id pushed reg session q → Young pushed session q →
      VisitOutcome P config id pushed reg session q x := fun q x h ha => absurd ha h
  unfold handleInteraction
  rw [hid]
  dsimp only
  rw [Prog.wp_bind, wp_now]
  refine ⟨trivial, fun t => ?_⟩
  simp only [Prog.Next]
  rw [Prog.wp_bind]
  refine wp_loadInteractionContext_answered (mem_past_last _ _)
    (fun q client request interaction _ (hr : Revalidates P reg pushed client request) _ => ?_)
    (fun q _ hno => ?_)
    (fun q x (hbad : ¬Answers P config req id pushed reg session q) => ?_)
  · -- the session of the cookie is found
    simp only [Prog.Next]
    unfold sessionFrom
    rw [Prog.wp_bind, Prog.wp_bind, wp_now]
    refine ⟨trivial, fun t₁ => ?_⟩
    simp only [Prog.Next, Prog.wp_pure]
    rw [Prog.wp_bind, wp_now]
    refine ⟨trivial, fun t₂ => ?_⟩
    simp only [Prog.Next]
    by_cases hs : sessionAt P config req (t₁ / 1000) = some session
    · rw [hs]
      by_cases hyoung : ∀ m, pushedMaxAge pushed = some m →
          ((t₂ / 1000 : ℕ) : ℚ) - session.authTime ≤ m
      · have hn := needsReauthentication_of_young hr.valid hyoung
        cases hp : promptsLogin pushed with
        | true =>
          rw [Option.filter_some, hn, hp]
          exact fun _ _ => ⟨_, rfl, .inr ⟨fun h => by simp [hp] at h, noConsentPage_login none⟩⟩
        | false =>
          rw [Option.filter_some, hn, hp]
          simp only [Bool.not_false, if_true]
          unfold showConsent
          rw [Prog.wp_bind]
          refine (wp_db (q := .interactionsSetSubject _ _ _ _ _)).mpr ⟨trivial, fun _ => ?_,
            fun fault => hother _ _ fun ha => ha.resolved _ fault (mem_past_last _ _)⟩
          obtain ⟨csp, hcsp⟩ := hr.consentCsp
          simp only [Prog.Next, consentPage, hcsp]
          exact fun _ _ => ⟨_, rfl, .inl ⟨⟨client, request, hr⟩, hp, client, request,
            interaction.subject, _, hr, mem_past_last _ _, rfl, rfl⟩⟩
      · exact Prog.wp_of_prefix (fun _ _ => trivial) fun q' x hq _ hy =>
          absurd (hy t₂ (hq.mem (mem_past_last _ _))) hyoung
    · refine wp_answered_otherwise (fun ha => hs (ha.carries t₁ ?_)) hother
      simp
  · exact fun _ _ => ⟨_, rfl, .inr ⟨fun h => hno h.1, noConsentPage_error _ _⟩⟩
  · cases x with
    | ok x => exact wp_answered_otherwise hbad hother
    | error e => exact hother _ _ hbad

/-- The interaction was found bound to the subject of a session. -/
def FoundBound (id : String) (session : LoginSession) (q : List Event) : Prop :=
  ∀ t interaction, ⟨.db (.interactionsFind id t), .ok (some interaction)⟩ ∈ q →
    interaction.subject = some session.sub

/-- The policy decision point was asked about a request that the user approved. -/
def DecisionReached (P : Platform) (pushed : ParRequestRecord) (reg : Option ClientRecord)
    (session : LoginSession) (q : List Event) : Prop :=
  ∃ client request r, Revalidates P reg pushed client request ∧
    ⟨.evaluate (evaluationRequest session.user client request (some true)), r⟩ ∈ q

/-- The completion of an interaction goes on to the policy decision point. -/
lemma wp_completeAndDecide_answered {ctx : InteractionContext}
    (hr : Revalidates P reg pushed ctx.client ctx.request) :
    Prog.wp (fun _ _ => True)
      (fun q (_ : Except Exn Reply) => Answers P config req id pushed reg session q →
        DecisionReached P pushed reg session q) past
      (completeAndDecide P config id ctx session true) := by
  unfold completeAndDecide
  rw [Prog.wp_bind, wp_now]
  refine ⟨trivial, fun t => ?_⟩
  simp only [Prog.Next]
  rw [Prog.wp_bind]
  refine wp_db.mpr ⟨trivial, fun done => ?_,
    fun fault ha => absurd (mem_past_last _ _) (ha.resolved _ fault)⟩
  cases done with
  | none =>
    refine fun ha => absurd (mem_past_last _ _) (ha.completed t ?_)
    simp
  | some done =>
    simp only [Prog.Next]
    unfold decideAndIssue decideAuthorization
    rw [Prog.wp_bind, wp_attempt, if_neg (by simp), Prog.wp_bind, Prog.wp_perform]
    refine ⟨trivial, fun r => ?_⟩
    have hreached : ∀ {q}, past ++ [⟨.now, t⟩] ++
        [⟨.db (.interactionsComplete id t), .ok (some done)⟩] ++
        [⟨.evaluate (evaluationRequest session.user ctx.client ctx.request (some true)), r⟩]
          <+: q → DecisionReached P pushed reg session q :=
      fun hq => ⟨ctx.client, ctx.request, r, hr, hq.mem (mem_past_last _ _)⟩
    show Prog.wp _ _ _ (awaited r)
    refine Prog.wp_of_prefix (fun _ _ => trivial) fun q x hq => ?_
    show Prog.wp _ _ _ _
    refine Prog.wp_of_prefix (fun _ _ => trivial) fun q' _ hq' => ?_
    exact fun _ => hreached (hq.trans hq')

/-- **An approval while the interaction can go on** reaches the policy decision point, when it
carries the session that the interaction is bound to and the token of the consent page. -/
lemma wp_handleConsent_answered (hid : str (req.body.get "interaction_id") = some id)
    (hcsrf : verifyCsrfToken P (str (req.body.get "csrf")) session.sid config.sessionSecret = true)
    (happrove : isApproval req = true) (hcan : CanRevalidate P reg pushed) :
    Prog.wp (fun _ _ => True)
      (fun q _ => Answers P config req id pushed reg session q → FoundBound id session q →
        DecisionReached P pushed reg session q) [] (handleConsent P config req) := by
  have hother : ∀ q (x : Except Exn Reply), ¬Answers P config req id pushed reg session q →
      Answers P config req id pushed reg session q → FoundBound id session q →
      DecisionReached P pushed reg session q := fun q x h ha => absurd ha h
  unfold handleConsent sessionFrom
  rw [hid]
  dsimp only
  rw [Prog.wp_bind, Prog.wp_bind, wp_now]
  refine ⟨trivial, fun t => ?_⟩
  simp only [Prog.Next, Prog.wp_pure]
  by_cases hs : sessionAt P config req (t / 1000) = some session
  · rw [hs]
    dsimp only
    rw [if_neg (by simp [hcsrf]), Prog.wp_bind, wp_now]
    refine ⟨trivial, fun t' => ?_⟩
    simp only [Prog.Next]
    rw [Prog.wp_bind]
    refine wp_loadInteractionContext_answered (mem_past_last _ _)
      (fun q client request interaction _ (hr : Revalidates P reg pushed client request) hfound =>
        ?_)
      (fun q _ hno => absurd hcan hno)
      (fun q x (hbad : ¬Answers P config req id pushed reg session q) => ?_)
    · simp only [Prog.Next]
      by_cases hsub : interaction.subject = some session.sub
      · rw [if_neg (not_not.mpr hsub)]
        have happrove' : decide (str (req.body.get "decision") = some "approve") = true := happrove
        rw [happrove']
        exact Prog.wp_mono (fun q x hq ha _ => hq ha) (wp_completeAndDecide_answered hr)
      · rw [if_pos hsub]
        exact fun _ hb => absurd (hb _ _ hfound) hsub
    · cases x with
      | ok x => exact wp_answered_otherwise hbad hother
      | error e => exact hother _ (.error e) hbad
  · refine wp_answered_otherwise (fun ha => hs (ha.carries t ?_)) hother
    simp

/-! ## The login -/

/-- A successful login sets a session as a cookie: it is established for the user that was named, at
a reading of the request, and expires after the configured time. -/
structure SessionIssued (P : Platform) (config : AppConfig) (req : HttpRequest) (q : List Event)
    (reply : Reply) (session : LoginSession) (t : ℕ) : Prop where
  /-- The user is the one that was named. -/
  user : (str (req.body.get "username")).map trim = some session.sub
  /-- The instant of the authentication. -/
  authenticated : ⟨.now, t⟩ ∈ q
  /-- The authentication time. -/
  authTime : session.authTime = (t / 1000 : ℕ)
  /-- The identifier is drawn. -/
  drawn : ⟨.randomBytes 16, session.sid⟩ ∈ q
  /-- The way of the authentication. -/
  means : session.acr = some (.str "urn:dev:pwd") ∧ session.amr = some (.arr [.str "pwd"])
  /-- The expiry. -/
  expires : ∃ t', ⟨.now, t'⟩ ∈ q ∧ session.exp = (t' / 1000 + config.sessionTtlSec : ℕ)
  /-- The cookie. -/
  cookie : ("set-cookie", sessionCookie (sealSession P session config.sessionSecret)
    config.sessionTtlSec) ∈ reply.headers

lemma SessionIssued.onSend {q : List Event} {reply : Reply} {t : ℕ}
    (h : SessionIssued P config req q reply session t) :
    SessionIssued P config req q (onSend reply) session t :=
  { h with cookie := mem_onSend_headers h.cookie }

/-- What a login establishes: a redirect comes with a session, and no OAuth error is thrown. -/
def LoginOutcome (P : Platform) (config : AppConfig) (req : HttpRequest) (q : List Event) :
    Except Exn Reply → Prop
  | .ok reply => reply.status = 303 → ∃ session t, SessionIssued P config req q reply session t
  | .error e => e = .other

lemma loginOutcome_page {q : List Event} {status : ℕ} {page : Page} (h : status ≠ 303) :
    LoginOutcome P config req q (.ok (htmlReply status page)) :=
  fun hstatus => absurd hstatus h

/-- **A successful login establishes a session.** -/
lemma wp_handleLogin_session :
    Prog.wp (fun _ _ => True) (LoginOutcome P config req) [] (handleLogin P config req) := by
  unfold handleLogin
  split
  · exact loginOutcome_page (by decide)
  · split_ifs with hcsrf
    · exact loginOutcome_page (by decide)
    · rw [Prog.wp_bind, wp_now]
      refine ⟨trivial, fun t => ?_⟩
      simp only [Prog.Next]
      rw [Prog.wp_bind]
      refine wp_loadInteractionContext (fun _ _ _ => trivial) (fun q _ _ ctx _ _ => ?_)
        (fun q _ => loginOutcome_page (by decide)) (fun q _ => rfl)
      simp only [Prog.Next]
      rw [Prog.wp_bind]
      unfold devLogin
      split
      · exact loginOutcome_page (by decide)
      · rename_i name hname
        split_ifs with hknown
        · exact loginOutcome_page (by decide)
        · rw [Prog.wp_bind, wp_now]
          refine ⟨trivial, fun a => ?_⟩
          simp only [Prog.Next, Prog.wp_pure]
          rw [Prog.wp_bind, wp_randomBytes]
          refine ⟨trivial, fun sid => ?_⟩
          simp only [Prog.Next]
          rw [Prog.wp_bind, wp_now]
          refine ⟨trivial, fun t' _ => ?_⟩
          have hauth : (((a : ℤ) / 1000 : ℤ) : ℚ) = (a / 1000 : ℕ) := by norm_cast
          exact ⟨newSession config sid ⟨name, some (a : ℤ), some (.str "urn:dev:pwd"),
            some (.arr [.str "pwd"])⟩ t', a, hname, by simp, hauth, by simp [newSession],
            ⟨rfl, rfl⟩, ⟨t', by simp, rfl⟩, List.mem_cons_self⟩

/-! ## The handlers of the three requests -/

/-- A visit of the interaction page, with the error handler around it. -/
lemma handler_visit (hroute : req.route = .interaction) (hmethod : isGet req.method = true)
    (hid : str (req.query.get "id") = some id) :
    Prog.wp (fun _ _ => True)
      (fun q x => Answers P config req id pushed reg session q → Young pushed session q →
        VisitOutcome P config id pushed reg session q x) [] (handler P config req) := by
  unfold handler dispatch
  simp only [hroute, hmethod, if_true]
  refine wp_respond (Prog.wp_mono (fun q x hx => ?_)
    (@wp_handleInteraction_answered P config req id pushed reg session hid))
  cases x with
  | ok reply =>
    intro ha hy
    obtain ⟨reply', h, hout⟩ := hx ha hy
    obtain rfl := Except.ok.inj h
    refine ⟨_, rfl, hout.imp ?_ ?_⟩
    · rintro ⟨hcan, hp, client, request, subject, authTime, hr, hset, hstatus, hbody⟩
      exact ⟨hcan, hp, client, request, subject, authTime, hr, hset, by simpa using hstatus,
        by simpa using hbody⟩
    · exact fun h => ⟨h.1, fun view hview => h.2 view (by simpa using hview)⟩
  | error e =>
    intro ha hy
    obtain ⟨reply', h, -⟩ := hx ha hy
    cases h

/-- An approval, with the error handler around it. -/
lemma handler_approval (hroute : req.route = .interactionConsent) (hmethod : req.method = "POST")
    (hid : str (req.body.get "interaction_id") = some id)
    (hcsrf : verifyCsrfToken P (str (req.body.get "csrf")) session.sid config.sessionSecret = true)
    (happrove : isApproval req = true) (hcan : CanRevalidate P reg pushed) :
    Prog.wp (fun _ _ => True)
      (fun q _ => Answers P config req id pushed reg session q → FoundBound id session q →
        DecisionReached P pushed reg session q) [] (handler P config req) := by
  unfold handler dispatch
  simp only [hroute, hmethod, if_true]
  refine wp_respond (Prog.wp_mono (fun q x hx => ?_)
    (@wp_handleConsent_answered P config req id pushed reg session hid hcsrf happrove hcan))
  cases x with
  | ok reply => exact hx
  | error e => exact hx

/-- A login, with the error handler around it. -/
lemma handler_login (hroute : req.route = .interactionLogin) (hmethod : req.method = "POST") :
    Prog.wp (fun _ _ => True) (LoginOutcome P config req) [] (handler P config req) := by
  unfold handler dispatch
  simp only [hroute, hmethod, if_true]
  refine wp_respond (Prog.wp_mono (fun q x hx => ?_) wp_handleLogin_session)
  cases x with
  | ok reply =>
    intro hstatus
    obtain ⟨session, t, hs⟩ := hx (by simpa using hstatus)
    exact ⟨session, t, hs.onSend⟩
  | error e =>
    obtain rfl : e = .other := hx
    intro hstatus
    simp [errorReply] at hstatus

end

/-! ## Whole requests -/

/-- The calls of a request that read or change its interaction. -/
def Query.ofInteraction : Query → Bool
  | .interactionsFind _ _ | .parPeek _ _ | .clientsFindById _ | .interactionsSetSubject _ _ _ _ _
  | .interactionsComplete _ _ => true
  | _ => false

/-- The session, the interaction and the pushed request have not expired at a reading. -/
structure InTime (parked : InteractionRecord) (pushed : ParRequestRecord) (session : LoginSession)
    (t : ℕ) : Prop where
  /-- The session. -/
  session_live : ((t / 1000 : ℕ) : ℚ) < session.exp
  /-- The interaction. -/
  parked_live : parked.expiresAt.isPast t = false
  /-- The pushed request. -/
  pushed_live : pushed.expiresAt.isPast t = false

namespace ServerRun

variable {P : Platform} {config : AppConfig} {backend : Backend}
variable (R : ServerRun P config backend)

/-- The tables let an interaction go on: it is not completed, its pushed request is not used up, and
the registration of its client is `reg`. -/
structure Open (i : ℕ) (parked : InteractionRecord) (pushed : ParRequestRecord)
    (reg : Option ClientRecord) : Prop where
  /-- The interaction is there and not completed. -/
  uncompleted : ∃ row, (R.store i).interactions.get? parked.id = some row ∧ row.completedAt = none
  /-- The pushed request is there and not used up. -/
  unused : ∃ row, (R.store i).par.get? pushed.requestUri = some row ∧ row.consumedAt = none
  /-- The registration of the client. -/
  registered : (R.store i).clients.get? pushed.clientId = reg

/-- A request is served while the interaction can go on: no repository call fails, everything is
live at its readings, and the tables let the interaction go on at each of its calls. -/
structure Undisturbed (pid : ℕ) (parked : InteractionRecord) (pushed : ParRequestRecord)
    (reg : Option ClientRecord) (session : LoginSession) : Prop where
  /-- No repository call fails. -/
  resolved : ∀ i p q fault, ¬R.Does i pid p ⟨.db q, .error fault⟩
  /-- Everything is live. -/
  inTime : ∀ i p t, R.Does i pid p ⟨.now, t⟩ → InTime parked pushed session t
  /-- The tables let the interaction go on. -/
  isOpen : ∀ i p q r, R.Does i pid p ⟨.db q, r⟩ → q.ofInteraction = true →
    R.Open i parked pushed reg

/-- A pushed request is parked: both were stored by calls of the run. -/
structure ParkedFor (parked : InteractionRecord) (pushed : ParRequestRecord) : Prop where
  /-- The request was pushed. -/
  wasPushed : ∃ i, R.Calls i (.parInsert pushed)
  /-- The interaction was parked. -/
  wasParked : ∃ i, R.Calls i (.interactionsInsert parked)
  /-- It was parked for the request. -/
  requestUri_eq : parked.requestUri = pushed.requestUri

variable {R} {parked : InteractionRecord} {pushed : ParRequestRecord} {reg : Option ClientRecord}
  {session : LoginSession}

/-- The pushed request of a reference is the one that was pushed. -/
lemma par_pushed {i j : ℕ} (hi : i ≤ R.len) (hpush : R.Calls j (.parInsert pushed)) {row : ParRow}
    (h : (R.store i).par.get? pushed.requestUri = some row) : row.record = pushed := by
  obtain ⟨huri, k, -, hc⟩ := R.par_origin hi h
  obtain rfl := par_insert_once hc hpush huri
  simpa using hc.functional hpush

/-- The interaction of an id is the one that was parked, but for its subject. -/
lemma interactions_parked {i j : ℕ} (hi : i ≤ R.len)
    (hpark : R.Calls j (.interactionsInsert parked))
    {row : InteractionRow} (h : (R.store i).interactions.get? parked.id = some row) :
    row.record.fresh = parked := by
  obtain ⟨hid, k, -, hc⟩ := R.interactions_origin hi h
  obtain rfl := interactions_insert_once hc hpark hid
  simpa using hc.functional hpark

/-- An interaction is parked for the client of its pushed request. -/
lemma ParkedFor.clientId (h : R.ParkedFor parked pushed) : parked.clientId = pushed.clientId := by
  obtain ⟨i, hpush⟩ := h.wasPushed
  obtain ⟨j, hpark⟩ := h.wasParked
  obtain ⟨pid, p, a, hd, hroute, uri, pushed', client, request, q, id, t, hread, -, -, rfl⟩ :=
    hpark.justified
  obtain ⟨huri, hclient, k, hk, pid', p', hd', -⟩ :=
    R.read_pushed (Nat.le_of_lt hd.lt) hd.proc hread
  have hc : R.Calls k (.parInsert pushed') := ⟨pid', p', _, hd'⟩
  have hsame : pushed'.requestUri = pushed.requestUri := huri.trans h.requestUri_eq
  obtain rfl := par_insert_once hc hpush hsame
  obtain rfl : pushed' = pushed := by simpa using hc.functional hpush
  exact hclient

/-- **The calls of an undisturbed request return what its interaction needs.** -/
lemma Undisturbed.answers {pid : ℕ} (h : R.Undisturbed pid parked pushed reg session)
    (hparked : R.ParkedFor parked pushed) {i : ℕ} {p : Proc (server P config backend)}
    (hi : i ≤ R.len) (hp : R.proc i pid = some p)
    (hcookie : readCookie p.req.cookie sessionCookieName =
      some (sealSession P session config.sessionSecret)) (hseal : Sealable P session) :
    Answers P config p.req parked.id pushed reg session p.past := by
  obtain ⟨ipush, hpush⟩ := hparked.wasPushed
  obtain ⟨ipark, hpark⟩ := hparked.wasParked
  have hintime : ∀ t, ⟨.now, t⟩ ∈ p.past → InTime parked pushed session t := by
    intro t ht
    obtain ⟨j, -, q, hd, -⟩ := R.did hi hp ht
    exact h.inTime j q t hd
  have hrow : ∀ {j} {row : InteractionRow}, j ≤ R.len →
      (R.store j).interactions.get? parked.id = some row → row.completedAt = none →
      ∀ t, ⟨.now, t⟩ ∈ p.past → Memory.interactionLive row t = true := by
    intro j row hj hrow hopen t ht
    have hexp : row.record.expiresAt = parked.expiresAt := by
      rw [← interactions_parked hj hpark hrow]
      rfl
    simp [Memory.interactionLive, hopen, hexp, (hintime t ht).parked_live]
  refine ⟨fun q fault he => ?_, fun t ht => ?_, fun t r ht hr => ?_, fun uri t r huri ht hr => ?_,
    fun clientId r hclient hr => ?_, fun t ht hr => ?_⟩
  · obtain ⟨j, -, q', hd, -⟩ := R.did hi hp he
    exact h.resolved j q' q fault hd
  · unfold sessionAt
    rw [hcookie]
    exact openSession_sealSession hseal _ (hintime t ht).session_live
  · obtain ⟨j, hj, q, hd, -⟩ := R.did hi hp hr
    obtain ⟨row, hget, hopen⟩ := (h.isOpen j q _ _ hd rfl).uncompleted
    have hfresh := interactions_parked (by omega) hpark hget
    rw [(R.carried hd).interactionsFind_eq, Memory.interactionsFind, hget]
    refine ⟨row.record, if_pos (hrow (by omega) hget hopen t ht), ?_, ?_⟩
    · rw [← hparked.requestUri_eq, ← hfresh]
      rfl
    · rw [← hparked.clientId, ← hfresh]
      rfl
  · obtain ⟨j, hj, q, hd, -⟩ := R.did hi hp hr
    obtain ⟨row, hget, hunused⟩ := (h.isOpen j q _ _ hd rfl).unused
    have hrec := par_pushed (by omega) hpush hget
    have hlive : Memory.parLive row t = true := by
      simp [Memory.parLive, hunused, hrec, (hintime t ht).pushed_live]
    rw [(R.carried hd).parPeek_eq, Memory.parPeek, huri, hget]
    simp [hlive, hrec]
  · obtain ⟨j, hj, q, hd, -⟩ := R.did hi hp hr
    have hopen := h.isOpen j q _ _ hd rfl
    rw [← (R.carried hd).clientsFindById, hclient]
    exact hopen.registered
  · obtain ⟨j, hj, q, hd, -⟩ := R.did hi hp hr
    obtain ⟨row, hget, hopen⟩ := (h.isOpen j q _ _ hd rfl).uncompleted
    have hnone := (R.carried hd).interactionsComplete_eq
    rw [Memory.interactionsComplete, hget] at hnone
    simp [hrow (by omega) hget hopen t ht] at hnone

/-! ## From the login to the decision -/

variable (R)

/-- A successful login on an interaction. -/
structure LoggedIn (id : String) (req : HttpRequest) (past : List Event) (reply : Reply) :
    Prop where
  /-- The request is answered. -/
  served : ∃ i ≤ R.len, ∃ pid, R.proc i pid = some ⟨req, past, .ret reply⟩
  /-- It submits the login form. -/
  route : req.route = .interactionLogin
  /-- It is a `POST`. -/
  method : req.method = "POST"
  /-- It names the interaction. -/
  interaction : str (req.body.get "interaction_id") = some id
  /-- It is redirected back to the interaction. -/
  redirected : reply.status = 303

/-- A visit of an interaction with the session of a login at the instant `t`, while the interaction
can go on and within the maximal age since the login. -/
structure VisitAfterLogin (parked : InteractionRecord) (pushed : ParRequestRecord)
    (reg : Option ClientRecord) (session : LoginSession) (t pid : ℕ) (req : HttpRequest)
    (past : List Event) (reply : Reply) : Prop where
  /-- The request is answered. -/
  served : ∃ i ≤ R.len, R.proc i pid = some ⟨req, past, .ret reply⟩
  /-- It visits the interaction page. -/
  route : req.route = .interaction
  /-- It is a `GET`. -/
  method : isGet req.method = true
  /-- It names the interaction. -/
  interaction : str (req.query.get "id") = some parked.id
  /-- It carries the session cookie. -/
  cookie : readCookie req.cookie sessionCookieName =
    some (sealSession P session config.sessionSecret)
  /-- The interaction can go on. -/
  undisturbed : R.Undisturbed pid parked pushed reg session
  /-- The maximal age has not elapsed since the login. -/
  inAge : ∀ i p (t' : ℕ), R.Does i pid p ⟨.now, t'⟩ → ∀ m, pushedMaxAge pushed = some m →
    t' ≤ t + m * 1000

/-- An approval of an interaction that is bound to the subject of the session it carries, while the
interaction can go on. -/
structure Approval (parked : InteractionRecord) (pushed : ParRequestRecord)
    (reg : Option ClientRecord) (session : LoginSession) (pid : ℕ) (req : HttpRequest)
    (past : List Event) : Prop where
  /-- The request is answered. -/
  served : ∃ i ≤ R.len, ∃ reply, R.proc i pid = some ⟨req, past, .ret reply⟩
  /-- It submits the consent form. -/
  route : req.route = .interactionConsent
  /-- It is a `POST`. -/
  method : req.method = "POST"
  /-- It names the interaction. -/
  interaction : str (req.body.get "interaction_id") = some parked.id
  /-- It carries the session cookie. -/
  cookie : readCookie req.cookie sessionCookieName =
    some (sealSession P session config.sessionSecret)
  /-- It has the token of the consent page. -/
  csrf : str (req.body.get "csrf") = some (issueCsrfToken P session.sid config.sessionSecret)
  /-- It approves. -/
  approves : isApproval req = true
  /-- The interaction can go on. -/
  undisturbed : R.Undisturbed pid parked pushed reg session
  /-- The interaction is bound to the subject of the session when it is read. -/
  bound : ∀ i p t r row, R.Does i pid p ⟨.db (.interactionsFind parked.id t), r⟩ →
    (R.store i).interactions.get? parked.id = some row → row.record.subject = some session.sub

/-- A visit leads to the decision: it shows the consent page and binds the interaction to the
subject of its session, and an approval then reaches the policy decision point. -/
structure LeadsToDecision (parked : InteractionRecord) (pushed : ParRequestRecord)
    (reg : Option ClientRecord) (session : LoginSession) (pid : ℕ) (past : List Event)
    (reply : Reply) : Prop where
  /-- The consent page is shown. -/
  shown : ConsentPageShown P config parked.id pushed reg session past reply
  /-- The interaction is bound to the subject. -/
  bound : ∃ i p authTime, R.Does i pid p
      ⟨.db (.interactionsSetSubject parked.id session.sub authTime session.acr
        session.amr), .ok ()⟩ ∧
    ∃ row, (R.store (i + 1)).interactions.get? parked.id = some row ∧
      row.record.subject = some session.sub
  /-- An approval reaches the policy decision point. -/
  decides : ∀ pid' req past, R.Approval parked pushed reg session pid' req past →
    DecisionReached P pushed reg session past

variable {R}

/-- A visit within the maximal age since the login is made with a session that is young enough. -/
lemma VisitAfterLogin.young {t pid : ℕ} {req : HttpRequest} {past : List Event} {reply : Reply}
    (h : R.VisitAfterLogin parked pushed reg session t pid req past reply)
    (hauth : session.authTime = (t / 1000 : ℕ)) : Young pushed session past := by
  intro t' ht' m hm
  obtain ⟨i, hi, hp⟩ := h.served
  obtain ⟨j, -, q, hd, -⟩ := R.did hi hp ht'
  have hle := h.inAge j q t' hd m hm
  have hsec : t' / 1000 ≤ t / 1000 + m := by omega
  have hsec' : ((t' / 1000 : ℕ) : ℚ) ≤ (t / 1000 : ℕ) + (m : ℚ) := by exact_mod_cast hsec
  rw [hauth]
  linarith

/-- A visit that makes the binding call binds the interaction. -/
lemma VisitAfterLogin.binds {t pid : ℕ} {req : HttpRequest} {past : List Event} {reply : Reply}
    (h : R.VisitAfterLogin parked pushed reg session t pid req past reply) {authTime : Date}
    (hset : ⟨.db (.interactionsSetSubject parked.id session.sub authTime session.acr session.amr),
      .ok ()⟩ ∈ past) :
    ∃ i p authTime, R.Does i pid p
        ⟨.db (.interactionsSetSubject parked.id session.sub authTime session.acr session.amr),
          .ok ()⟩ ∧
      ∃ row, (R.store (i + 1)).interactions.get? parked.id = some row ∧
        row.record.subject = some session.sub := by
  obtain ⟨i, hi, hp⟩ := h.served
  obtain ⟨j, -, q, hd, -⟩ := R.did hi hp hset
  obtain ⟨row, hrow, hopen⟩ := (h.undisturbed.isOpen j q _ _ hd rfl).uncompleted
  refine ⟨j, q, authTime, hd, _, by rw [(R.carried hd).interactionsSetSubject, hrow]; rfl, ?_⟩
  simp [Memory.withSubject, hopen]

/-- An approval while the interaction can go on reaches the policy decision point. -/
lemma Approval.reaches {pid : ℕ} {req : HttpRequest} {past : List Event}
    (h : R.Approval parked pushed reg session pid req past) (hparked : R.ParkedFor parked pushed)
    (hseal : Sealable P session) (hcan : CanRevalidate P reg pushed) :
    DecisionReached P pushed reg session past := by
  obtain ⟨i, hi, reply, hp⟩ := h.served
  have hne := str_ne_empty h.csrf
  have hcsrf : verifyCsrfToken P (str (req.body.get "csrf")) session.sid config.sessionSecret =
      true := by
    rw [h.csrf]
    simp [verifyCsrfToken, hne]
  have hspec := handler_approval h.route h.method h.interaction hcsrf h.approves hcan
  have hreached := Prog.Path.wp (R.path hi hp) hspec
  refine hreached (h.undisturbed.answers hparked hi hp h.cookie hseal)
    fun t interaction hfound => ?_
  obtain ⟨j, -, q, hd, -⟩ := R.did hi hp hfound
  obtain ⟨row, hrow, rfl, -⟩ := (R.carried hd).interactionsFind
  exact h.bound j q t _ row hd hrow

/-- **When a login leads to the decision.** A successful login on an interaction issues a session
for the user that was named. A visit of the interaction with that session, while everything is live
and within the maximal age since the login, shows the consent page, binds the interaction to the
user, and lets an approval reach the policy decision point, exactly when the registration of the
client still validates the pushed request and its prompt does not ask for a login.

**Proof sketch.** Everything that a request reads of the interaction is what was parked, so the
visit loads the context and takes the session of the cookie. Its authentication is as young as the
login, so that only the prompt can ask for another one; and the prompt is asked again on every
visit. -/
theorem login_leads_to_decision_iff (hparked : R.ParkedFor parked pushed) {login : HttpRequest}
    {loginPast : List Event} {loginReply : Reply}
    (hlogin : R.LoggedIn parked.id login loginPast loginReply) :
    ∃ session t, SessionIssued P config login loginPast loginReply session t ∧
      ∀ reg pid req past reply, Sealable P session →
        R.VisitAfterLogin parked pushed reg session t pid req past reply →
        (R.LeadsToDecision parked pushed reg session pid past reply ↔
          CanRevalidate P reg pushed ∧ promptsLogin pushed = false) := by
  obtain ⟨i, hi, l, hl⟩ := hlogin.served
  obtain ⟨session, t, hissued⟩ := Prog.Path.wp (R.path hi hl)
    (handler_login hlogin.route hlogin.method) hlogin.redirected
  refine ⟨session, t, hissued, fun reg pid req past reply hseal hvisit => ?_⟩
  obtain ⟨i', hi', hp⟩ := hvisit.served
  have houtcome : VisitOutcome P config parked.id pushed reg session past (.ok reply) :=
    Prog.Path.wp (R.path hi' hp)
      (@handler_visit P config req parked.id pushed reg session hvisit.route hvisit.method
        hvisit.interaction)
      (hvisit.undisturbed.answers hparked hi' hp hvisit.cookie hseal)
        (hvisit.young hissued.authTime)
  obtain ⟨reply', hreply, hcases⟩ := houtcome
  obtain rfl := Except.ok.inj hreply
  constructor
  · intro hleads
    rcases hcases with ⟨hcan, hprompt, -⟩ | ⟨-, hno⟩
    · exact ⟨hcan, hprompt⟩
    · obtain ⟨_, _, _, _, _, _, _, hbody⟩ := hleads.shown
      exact absurd hbody (hno _)
  · intro hcan
    rcases hcases with ⟨-, -, hshown⟩ | ⟨hno, -⟩
    · obtain ⟨_, _, _, _, _, hset, _, _⟩ := id hshown
      exact ⟨hshown, hvisit.binds hset, fun _ _ _ happrove => happrove.reaches hparked hseal hcan.1⟩
    · exact absurd hcan hno

end ServerRun

namespace Sample

/-! ## Two logins -/

/-- The session of a login at second 100. -/
def loginSession : LoginSession where
  sid := "iiiiiiiiiiiiiiiiiiiiii"
  sub := "u"
  authTime := 100
  exp := 3700
  acr := some (.str "urn:dev:pwd")
  amr := some (.arr [.str "pwd"])

/-- The platform of the deployment, with the texts that a login needs. -/
def loginPlatform : Platform := Platform.ofTables
  { tables with
    documents := ("d", loginSession.toJson) :: ("ZA", loginSession.toJson) :: tables.documents
    macs := [(("s", "ZA"), "n"), (("s", "csrf:" ++ jti), "l")] }

/-- The deployment as a system, on this platform. -/
abbrev loginSystem : Sys Ret Exn Reply := server loginPlatform config .memory

/-- The pushed request, as it is stored, with a prompt and a maximal age of 20 seconds. -/
def promptedPush (prompt : Option String) : ParRequestRecord where
  requestUri := requestUriPrefix ++ reference
  clientId := "A"
  params := [("client_id", "A"), ("response_type", "code"), ("redirect_uri", "https://c"),
    ("scope", "r"), ("code_challenge", challenge), ("code_challenge_method", "S256")] ++
    member "prompt" prompt ++ [("max_age", "20")]
  dpopJkt := none
  expiresAt := some 160000

/-- The parked request, as it is stored. -/
def parkedPush : InteractionRecord where
  id := jti
  clientId := "A"
  requestUri := requestUriPrefix ++ reference
  subject := none
  authTime := none
  acr := none
  amr := none
  createdAt := 100000
  expiresAt := some 700000

/-- The push of a request with a prompt. -/
def parPrompted (prompt : Option String) : HttpRequest :=
  form .par (authentication "1" ++ [("response_type", .str "code"),
    ("redirect_uri", .str "https://c"), ("code_challenge", .str challenge),
    ("code_challenge_method", .str "S256")] ++ storedBody (member "prompt" prompt) ++
    [("max_age", .str "20")]) none

/-- The login of the user. -/
def login : HttpRequest where
  route := .interactionLogin
  method := "POST"
  body := [("interaction_id", .str jti), ("csrf", .str "l"), ("username", .str "u")]

/-- The visit with the session of the login. -/
def visitLoggedIn : HttpRequest where
  route := .interaction
  method := "GET"
  cookie := some "__Host-as_session=ZA.n"
  query := [("id", .str jti)]

/-- A request is pushed and parked, the user logs in, and visits the interaction again, with `n`
calls. -/
def loginThenVisit (prompt : Option String) (n : ℕ) : List (Act loginSystem) :=
  .arrive (parPrompted prompt) :: nextCalls 0 5 ++ [.run 0 { random := reference }] ++
    nextCalls 0 1 ++ .arrive (authorize "A") :: nextCalls 1 4 ++ [.run 1 { random := jti }] ++
    nextCalls 1 1 ++ .arrive login :: nextCalls 2 5 ++
    [.run 2 { random := loginSession.sid }] ++ nextCalls 2 1 ++ .arrive visitLoggedIn ::
    nextCalls 3 n

/-- The calls of a process are undisturbed. -/
def callUndisturbed (s : Store) (e : Event) : Bool :=
  match e with
  | ⟨.now, t⟩ => t = 100000
  | ⟨.db _, .error _⟩ => false
  | ⟨.db q, .ok _⟩ => !q.ofInteraction ||
      ((s.interactions.get? jti).any (·.completedAt.isNone) &&
        (s.par.get? (requestUriPrefix ++ reference)).any (·.consumedAt.isNone) &&
        s.clients.get? "A" = some (registration "A"))
  | _ => true

/-- A step of the visit is undisturbed. -/
def stepUndisturbed (s : TraceStep loginSystem) : Bool :=
  match s.made with
  | some (3, _, e) => callUndisturbed s.before.world.store e
  | _ => true

/-- What the calls of the login show: it happened at one instant, and drew the identifier. -/
def loginCall (e : Event) : Bool :=
  match e with
  | ⟨.now, t⟩ => t = 100000
  | ⟨.randomBytes _, s⟩ => s = loginSession.sid
  | _ => true

/-- The login is redirected back, and the visit is answered with a page. -/
def visitAnswered (prompt : Option String) (page : Page → Bool)
    (trace : List (TraceStep loginSystem) × Conf loginSystem) : Bool :=
  trace.2.answers 0
    (fun _ past _ => past.contains ⟨.db (.parInsert (promptedPush prompt)), .ok ()⟩) &&
  trace.2.answers 1
    (fun _ past _ => past.contains ⟨.db (.interactionsInsert parkedPush), .ok ()⟩) &&
  trace.2.answers 2 (fun req past reply => req.route = .interactionLogin && req.method = "POST" &&
    str (req.body.get "interaction_id") = some jti && reply.status = 303 &&
    (str (req.body.get "username")).map trim = some "u" && past.all loginCall) &&
  trace.2.answers 3 (fun req _ reply => req.route = .interaction && isGet req.method &&
    str (req.query.get "id") = some jti &&
    readCookie req.cookie sessionCookieName = some (sealSession loginPlatform loginSession "s") &&
    match reply.body with
    | .html p => page p
    | _ => false) &&
  trace.1.all stepUndisturbed

/-- A run of these actions whose trace shows the answers. -/
def loginRun (prompt : Option String) (n : ℕ) (page : Page → Bool)
    (h : (loginSystem.trace ⟨world, []⟩ (loginThenVisit prompt n)).any (visitAnswered prompt page) =
      true) : ServerRun loginPlatform config .memory :=
  .ofTrace world (loginThenVisit prompt n) world_initial (visitAnswered prompt page) h

/-- A sealed session can be opened on this platform. -/
lemma sealable_loginSession : Sealable loginPlatform loginSession := ⟨by decide, by decide⟩

section

variable {prompt : Option String} {n : ℕ} {page : Page → Bool}
  (h : (loginSystem.trace ⟨world, []⟩ (loginThenVisit prompt n)).any (visitAnswered prompt page) =
    true)

/-- The trace of such a run, with what it shows. -/
lemma loginRun_trace : ∃ steps last, (loginRun prompt n page h).HasTrace steps last ∧
    visitAnswered prompt page (steps, last) = true := Run.hasTrace_ofTrace h

/-- The pushed request of such a run is parked. -/
lemma loginRun_parked : (loginRun prompt n page h).ParkedFor parkedPush (promptedPush prompt) := by
  obtain ⟨steps, last, ht, hshown⟩ := loginRun_trace h
  simp only [visitAnswered, Bool.and_eq_true] at hshown
  obtain ⟨_, past, _, hp, hmem⟩ := ht.answers hshown.1.1.1.1
  obtain ⟨_, past', _, hp', hmem'⟩ := ht.answers hshown.1.1.1.2
  obtain ⟨i, -, q, hd, -⟩ :=
    (loginRun prompt n page h).did le_rfl hp (List.contains_iff_mem.mp hmem)
  obtain ⟨j, -, q', hd', -⟩ :=
    (loginRun prompt n page h).did le_rfl hp' (List.contains_iff_mem.mp hmem')
  exact ⟨⟨i, 0, q, _, hd⟩, ⟨j, 1, q', _, hd'⟩, rfl⟩

/-- The login of such a run succeeds, and can only have issued one session. -/
lemma loginRun_login : ∃ req past reply,
    (loginRun prompt n page h).LoggedIn parkedPush.id req past reply ∧
      ∀ session t, SessionIssued loginPlatform config req past reply session t →
        session = loginSession ∧ t = 100000 := by
  obtain ⟨steps, last, ht, hshown⟩ := loginRun_trace h
  simp only [visitAnswered, Bool.and_eq_true] at hshown
  obtain ⟨req, past, reply, hp, hall⟩ := ht.answers hshown.1.1.2
  simp only [Bool.and_eq_true, decide_eq_true_eq, List.all_eq_true] at hall
  obtain ⟨⟨⟨⟨⟨hroute, hmethod⟩, hid⟩, hstatus⟩, huser⟩, hcalls⟩ := hall
  refine ⟨req, past, reply, ⟨⟨_, le_rfl, 2, hp⟩, hroute, hmethod, hid, hstatus⟩, ?_⟩
  intro session t hissued
  have hnow : ∀ t : ℕ, ⟨.now, t⟩ ∈ past → t = 100000 := fun t ht => by
    simpa [loginCall] using hcalls _ ht
  obtain ⟨t', ht', hexp⟩ := hissued.expires
  have hsid : session.sid = loginSession.sid := by
    simpa [loginCall] using hcalls _ hissued.drawn
  have hsub : session.sub = "u" := (Option.some.inj (huser.symm.trans hissued.user)).symm
  have hauth := hissued.authTime
  have ht := hnow t hissued.authenticated
  rw [ht] at hauth
  rw [hnow t' ht'] at hexp
  refine ⟨?_, ht⟩
  obtain ⟨sid, sub, authTime, exp, acr, amr⟩ := session
  obtain ⟨hacr, hamr⟩ := hissued.means
  simp only at hsid hsub hauth hexp hacr hamr
  simp only [hsid, hsub, hauth, hexp, hacr, hamr, loginSession, LoginSession.mk.injEq, config]
  norm_num

/-- The visit of such a run is one with the session of the login, and its page passes the test. -/
lemma loginRun_visit : ∃ req past reply,
    (loginRun prompt n page h).VisitAfterLogin parkedPush (promptedPush prompt)
      (some (registration "A")) loginSession 100000 3 req past reply ∧
    ∃ p, reply.body = .html p ∧ page p = true := by
  obtain ⟨steps, last, ht, hshown⟩ := loginRun_trace h
  simp only [visitAnswered, Bool.and_eq_true] at hshown
  obtain ⟨req, past, reply, hp, hall⟩ := ht.answers hshown.1.2
  simp only [Bool.and_eq_true, decide_eq_true_eq] at hall
  obtain ⟨⟨⟨⟨hroute, hmethod⟩, hid⟩, hcookie⟩, hpage⟩ := hall
  have hsteps : ∀ {i p e}, (loginRun prompt n page h).Does i 3 p e →
      callUndisturbed ((loginRun prompt n page h).store i) e = true := by
    intro i p e hd
    obtain ⟨s, hs, hmade⟩ := hd.traced ht
    obtain ⟨s', hs', hb⟩ := ht.conf hd.lt
    obtain rfl := Option.some.inj (hs.symm.trans hs')
    have hstep := List.all_eq_true.mp hshown.2 s (List.mem_of_getElem? hs)
    simp only [stepUndisturbed, hmade, hb] at hstep
    exact hstep
  have hnow : ∀ {i p} {t : ℕ}, (loginRun prompt n page h).Does i 3 p ⟨.now, t⟩ → t = 100000 := by
    intro i p t hd
    simpa [callUndisturbed] using hsteps hd
  refine ⟨req, past, reply, ⟨⟨_, le_rfl, hp⟩, hroute, hmethod, hid, hcookie, ⟨?_, ?_, ?_⟩, ?_⟩, ?_⟩
  · intro i p q fault hd
    simpa [callUndisturbed] using hsteps hd
  · intro i p t hd
    rw [hnow hd]
    have hpushed : Date.isPast (some 160000) 100000 = false := by decide
    exact ⟨by norm_num [loginSession], by decide, hpushed⟩
  · intro i p q r hd hq
    cases r with
    | error fault => simpa [callUndisturbed] using hsteps hd
    | ok r =>
      have hopen := hsteps hd
      simp only [callUndisturbed, hq, Bool.not_true, Bool.false_or, Bool.and_eq_true,
        decide_eq_true_eq] at hopen
      obtain ⟨⟨hrow, hpar⟩, hclient⟩ := hopen
      obtain ⟨row, hrow, hopen⟩ := (Option.any_eq_true _ _).mp hrow
      obtain ⟨row', hrow', hunused⟩ := (Option.any_eq_true _ _).mp hpar
      exact ⟨⟨row, hrow, by simpa using hopen⟩, ⟨row', hrow', by simpa using hunused⟩, hclient⟩
  · intro i p t' hd m _
    rw [hnow hd]
    omega
  · split at hpage
    · rename_i p hbody
      exact ⟨p, hbody, hpage⟩
    · cases hpage

end

/-- The registration of client `A` validates the pushed request. -/
lemma canRevalidate_promptedPush {prompt : Option String}
    (h : (validateAuthorizationRequest (storedBody (promptedPush prompt).params) clientA).toBool =
      true) : CanRevalidate loginPlatform (some (registration "A")) (promptedPush prompt) := by
  have hclient : (registration "A").toClient loginPlatform = .ok clientA := by rfl
  cases hv : validateAuthorizationRequest (storedBody (promptedPush prompt).params) clientA with
  | ok request =>
    have hnamed : "A" ≠ "" := by decide
    exact ⟨clientA, request, hnamed, ⟨_, rfl, hclient⟩, hv⟩
  | error e =>
    rw [hv] at h
    cases h

/-- A login page. -/
def isLoginPage : Page → Bool
  | .login _ => true
  | _ => false

set_option maxRecDepth 4000 in
lemma unprompted_trace : (loginSystem.trace ⟨world, []⟩ (loginThenVisit none 7)).any
    (visitAnswered none fun _ => true) = true := by
  decide +kernel

set_option maxRecDepth 4000 in
lemma prompted_trace : (loginSystem.trace ⟨world, []⟩ (loginThenVisit (some "login") 6)).any
    (visitAnswered (some "login") isLoginPage) = true := by
  decide +kernel

/-- Without a prompt, the visit after the login leads to the decision. -/
theorem unprompted_leads_to_decision : ∃ past reply,
    (loginRun none 7 _ unprompted_trace).LeadsToDecision parkedPush (promptedPush none)
      (some (registration "A")) loginSession 3 past reply := by
  obtain ⟨_, _, _, hlogin, hunique⟩ := loginRun_login unprompted_trace
  obtain ⟨session, t, hissued, hvisits⟩ :=
    ServerRun.login_leads_to_decision_iff (loginRun_parked unprompted_trace) hlogin
  obtain ⟨rfl, rfl⟩ := hunique session t hissued
  obtain ⟨req, past, reply, hvisit, -⟩ := loginRun_visit unprompted_trace
  have hiff := hvisits _ 3 req past reply sealable_loginSession hvisit
  exact ⟨past, reply, hiff.mpr ⟨canRevalidate_promptedPush (by decide), by decide⟩⟩

/-- **With `prompt=login` the user is sent back to the login.** The request is accepted and parked,
the user logs in, and the visit with the new session, at the same instant, shows the login page
again. -/
theorem prompted_login_again : ∃ login loginPast loginReply req past reply view,
    (loginRun (some "login") 6 _ prompted_trace).ParkedFor parkedPush
      (promptedPush (some "login")) ∧
      (loginRun (some "login") 6 _ prompted_trace).LoggedIn parkedPush.id login loginPast
        loginReply ∧
      (∀ session t, SessionIssued loginPlatform config login loginPast loginReply session t →
        session = loginSession ∧ t = 100000) ∧
      Sealable loginPlatform loginSession ∧
      CanRevalidate loginPlatform (some (registration "A")) (promptedPush (some "login")) ∧
      (loginRun (some "login") 6 _ prompted_trace).VisitAfterLogin parkedPush
        (promptedPush (some "login"))
        (some (registration "A")) loginSession 100000 3 req past reply ∧
      reply.body = .html (.login view) ∧
      ¬(loginRun (some "login") 6 _ prompted_trace).LeadsToDecision parkedPush
        (promptedPush (some "login")) (some (registration "A")) loginSession 3 past reply := by
  obtain ⟨login, loginPast, loginReply, hlogin, hunique⟩ := loginRun_login prompted_trace
  obtain ⟨req, past, reply, hvisit, p, hbody, hpage⟩ := loginRun_visit prompted_trace
  cases p with
  | login view =>
    refine ⟨login, loginPast, loginReply, req, past, reply, view, loginRun_parked prompted_trace,
      hlogin, hunique, sealable_loginSession, canRevalidate_promptedPush (by decide), hvisit, hbody,
      fun hleads => ?_⟩
    obtain ⟨_, _, _, _, _, _, _, hconsent⟩ := hleads.shown
    rw [hbody] at hconsent
    cases hconsent
  | consent view => cases hpage
  | error message => cases hpage

end Sample

end Fapi2As
