import Fapi2As.Server.Backchannel

set_option relaxedAutoImplicit false
set_option autoImplicit false

/-!
# The front-channel handlers keep their guarantees

## Main results

* `Fapi2As.wp_handleAuthorize`, `Fapi2As.wp_handleInteraction`, `Fapi2As.wp_handleLogin`,
  `Fapi2As.wp_handleConsent`.
* `Fapi2As.handler_spec` — every handler keeps its guarantees.
-/

namespace Fapi2As

open Js Async

variable {P : Platform} {config : AppConfig} {req : HttpRequest} {past : List Event}

/-! ## Facts that are kept -/

lemma RequestRead.mono {uri : String} {pushed : ParRequestRecord} {client : Client}
    {request : ValidatedAuthorizationRequest} {q q' : List Event}
    (h : RequestRead P q uri pushed client request) (hq : q <+: q') :
    RequestRead P q' uri pushed client request := by
  obtain ⟨⟨t, ht⟩, hl, hv⟩ := h
  exact ⟨⟨t, hq.mem ht⟩, hl.mono hq, hv⟩

lemma SessionRead.mono {session : LoginSession} {t : ℕ} {q q' : List Event}
    (h : SessionRead P config req q session t) (hq : q <+: q') :
    SessionRead P config req q' session t := ⟨hq.mem h.1, h.2⟩

lemma ContextLoaded.mono {id : String} {ctx : InteractionContext} {q q' : List Event}
    (h : ContextLoaded P q id ctx) (hq : q <+: q') : ContextLoaded P q' id ctx := by
  obtain ⟨t, i, p, h1, h2, h3, h4, h5⟩ := h
  exact ⟨t, i, p, hq.mem h1, h2, h3, h4, h5.mono hq⟩

lemma ConsentChecked.mono {id : String} {ctx : InteractionContext} {session : LoginSession}
    {q q' : List Event} (h : ConsentChecked P config req q id ctx session) (hq : q <+: q') :
    ConsentChecked P config req q' id ctx session := by
  obtain ⟨t, ht⟩ := h.carries
  exact { h with carries := ⟨t, ht.mono hq⟩, context := h.context.mono hq }

lemma SilentChecked.mono {uri : String} {client : Client} {request : ValidatedAuthorizationRequest}
    {session : LoginSession} {q q' : List Event}
    (h : SilentChecked P config req q uri client request session) (hq : q <+: q') :
    SilentChecked P config req q' uri client request session := by
  obtain ⟨t, ht, hn⟩ := h.carries
  obtain ⟨p, hp⟩ := h.names
  exact { h with carries := ⟨t, ht.mono hq, hn⟩, names := ⟨p, hp.mono hq⟩ }

lemma Authorizes.mono {uri : String} {client : Client} {request : ValidatedAuthorizationRequest}
    {session : LoginSession} {ua : Option Bool} {q q' : List Event}
    (h : Authorizes P config req q uri client request session ua) (hq : q <+: q') :
    Authorizes P config req q' uri client request session ua := by
  cases h with
  | consent id ctx session t done h hd =>
    exact .consent id ctx session t done (h.mono hq) (hq.mem hd)
  | silent uri client request session h => exact .silent uri client request session (h.mono hq)

/-- A request that may decide has read the pushed request that it decides about. -/
lemma Authorizes.read {uri : String} {client : Client} {request : ValidatedAuthorizationRequest}
    {session : LoginSession} {ua : Option Bool} {q : List Event}
    (h : Authorizes P config req q uri client request session ua) :
    ∃ pushed, RequestRead P q uri pushed client request := by
  cases h with
  | consent id ctx session t done h _ =>
    obtain ⟨_, _, pushed, -, -, huri, -, hread⟩ := h.context
    exact ⟨pushed, huri ▸ hread⟩
  | silent _ _ _ _ h => exact h.names

lemma ConsentVisited.mono {id : String} {ctx : InteractionContext} {session : LoginSession}
    {q q' : List Event} (h : ConsentVisited P config req q id ctx session) (hq : q <+: q') :
    ConsentVisited P config req q' id ctx session := by
  obtain ⟨t, ht⟩ := h.carries
  obtain ⟨t', ht', hn⟩ := h.fresh
  exact { h with
    carries := ⟨t, ht.mono hq⟩
    fresh := ⟨t', hq.mem ht', hn⟩
    context := h.context.mono hq }

/-! ## Decisions -/

/-- A route of the front channel that accepts nothing: every reply is allowed. -/
def FreeReplies (P : Platform) (config : AppConfig) (req : HttpRequest) : Prop :=
  ∀ q reply, Answered P config req q reply

lemma freeReplies_authorize (h : req.route = .authorize) : FreeReplies P config req :=
  fun _ _ => .other (by simp [h]) (by simp [h]) (by simp [h]) (by simp [h])

lemma freeReplies_consent (h : req.route = .interactionConsent) : FreeReplies P config req :=
  fun _ _ => .other (by simp [h]) (by simp [h]) (by simp [h]) (by simp [h])

lemma FreeReplies.replies (h : FreeReplies P config req) (q : List Event) (x : Except Exn Reply) :
    Replies P config req q x := by
  cases x with
  | ok reply => exact h q reply
  | error e => exact replies_error q e

lemma wp_redirectError (h : FreeReplies P config req) {uri iss : String}
    {error : AuthorizeErrorCode}
    {description state : Option String} :
    Prog.wp (Justified P config req) (Replies P config req) past
      (redirectError P uri error description state iss) := by
  unfold redirectError
  split <;> exact h.replies _ _

lemma wp_redirectCode (h : FreeReplies P config req) {uri code iss : String}
    {state : Option String} :
    Prog.wp (Justified P config req) (Replies P config req) past
      (redirectCode P uri code state iss) := by
  unfold redirectCode
  split <;> exact h.replies _ _

/-- **A code is issued only by the request whose own consumption returned the pushed request**,
after its decision allowed. -/
lemma wp_issueCodeForInteraction (hf : FreeReplies P config req) {uri : String} {client : Client}
    {request : ValidatedAuthorizationRequest} {session : LoginSession} {ua : Option Bool}
    (h : Approves P config req past uri client request session ua) :
    Prog.wp (Justified P config req) (Replies P config req) past
      (issueCodeForInteraction P config uri client request session.user) := by
  unfold issueCodeForInteraction
  rw [Prog.wp_bind, wp_now]
  refine ⟨trivial, fun t => ?_⟩
  have h1 : past <+: past ++ [⟨.now, t⟩] := List.prefix_append _ _
  have ha : Approves P config req (past ++ [⟨.now, t⟩]) uri client request session ua :=
    ⟨h.1.mono h1, h.2.1, h1.mem h.2.2⟩
  simp only [Prog.Next]
  rw [Prog.wp_bind]
  refine wp_db.mpr ⟨⟨client, request, session, ua, ha.1⟩, fun consumed => ?_,
    fun _ => hf.replies _ (.error _)⟩
  cases consumed with
  | none => exact wp_redirectError hf
  | some pushed =>
    have hc : CodeAuthorized P config req
        (past ++ [⟨.now, t⟩] ++ [⟨.db (.parConsume uri t), .ok (some pushed)⟩]) uri client request
        session ua := ⟨_, t, pushed, rfl, ha⟩
    simp only [Prog.Next]
    rw [Prog.wp_bind]
    refine wp_issueAuthorizationCode (justified_quiet P config req)
      (fun t' grantId => ?_) (fun t' grantId code => ?_) (fun q code _ => wp_redirectCode hf)
      (fun q _ => hf.replies _ (.error _))
    · exact ⟨uri, client, request, session, ua, _, t', grantId, hc, rfl, rfl⟩
    · exact ⟨uri, client, request, session, ua, _, t', grantId, code, hc, rfl, rfl⟩

/-- **A decision is made only by a request that may decide.** -/
lemma wp_decideAndIssue (hf : FreeReplies P config req) {uri description : String}
    {client : Client} {request : ValidatedAuthorizationRequest} {session : LoginSession}
    {ua : Option Bool} {refusal : AuthorizeErrorCode}
    (h : Authorizes P config req past uri client request session ua) :
    Prog.wp (Justified P config req) (Replies P config req) past
      (decideAndIssue P config uri client request session.user ua refusal description) := by
  have hrefuse : ∀ q, past <+: q → Prog.wp (Justified P config req) (Replies P config req) q
      (now >>= fun t => db (.parConsume uri t) >>= fun _ =>
        redirectError P request.redirectUri refusal (some description) request.state
          config.issuer) := by
    intro q hq
    rw [Prog.wp_bind, wp_now]
    refine ⟨trivial, fun t => ?_⟩
    simp only [Prog.Next]
    rw [Prog.wp_bind]
    exact wp_db.mpr ⟨⟨client, request, session, ua, h.mono (hq.trans (List.prefix_append _ _))⟩,
      fun _ => wp_redirectError hf, fun _ => hf.replies _ (.error _)⟩
  unfold decideAndIssue
  rw [Prog.wp_bind, wp_attempt]
  exact wp_decideAuthorization (justified_quiet P config req)
    (fun q hq hu he => wp_issueCodeForInteraction hf ⟨h.mono hq, hu, he⟩)
    (fun q hq => hrefuse q hq) (fun q e hq => hrefuse q hq)

/-! ## The authorization endpoint -/

/-- A pushed request that validates is decided silently or parked. -/
lemma wp_authorizePushed (hr : req.route = .authorize) {uri : String} {pushed : ParRequestRecord}
    {client : Client} {request : ValidatedAuthorizationRequest}
    (huri : str ((authorizeParams req).get "request_uri") = some uri)
    (h : RequestRead P past uri pushed client request) :
    Prog.wp (Justified P config req) (Replies P config req) past
      (authorizePushed P config req uri client request) := by
  have hf : FreeReplies P config req := freeReplies_authorize hr
  unfold authorizePushed
  rw [Prog.wp_bind, wp_now]
  refine ⟨trivial, fun t => ?_⟩
  have h1 : past <+: past ++ [⟨.now, t⟩] := List.prefix_append _ _
  simp only [Prog.Next]
  split_ifs with hp
  · unfold authorizeSilently
    split
    · exact wp_redirectError hf
    · rename_i session hs
      obtain ⟨hs, hn⟩ := Option.filter_eq_some_iff.mp hs
      refine wp_decideAndIssue hf (.silent uri client request session
        ⟨hr, huri, ⟨pushed, h.mono h1⟩, hp, t, ⟨mem_past_last _ _, hs⟩, ?_⟩)
      simpa [hs] using hn
  · unfold parkRequest
    rw [Prog.wp_bind, wp_randomUUID]
    refine ⟨trivial, fun id => ?_⟩
    simp only [Prog.Next]
    rw [Prog.wp_bind]
    exact wp_db.mpr ⟨⟨hr, uri, pushed, client, request, _, id, t,
      h.mono (h1.trans (List.prefix_append _ _)), by simpa using hp, rfl, rfl⟩,
      fun _ => hf.replies _ (.ok _), fun _ => hf.replies _ (.error _)⟩

/-- **The authorization endpoint decides or parks only requests that were pushed.** -/
lemma wp_handleAuthorize (hr : req.route = .authorize) :
    Prog.wp (Justified P config req) (Replies P config req) past
      (handleAuthorize P config req (authorizeParams req)) := by
  have hf : FreeReplies P config req := freeReplies_authorize hr
  unfold handleAuthorize
  split_ifs
  · exact hf.replies _ (.ok _)
  · split
    · exact hf.replies _ (.ok _)
    · exact hf.replies _ (.ok _)
    · rename_i uri clientId huri _
      rw [Prog.wp_bind, wp_now]
      refine ⟨trivial, fun t => ?_⟩
      simp only [Prog.Next]
      rw [Prog.wp_bind]
      refine wp_db.mpr ⟨trivial, fun pushed => ?_, fun _ => hf.replies _ (.error _)⟩
      cases pushed with
      | none => exact hf.replies _ (.ok _)
      | some pushed =>
        simp only [Prog.Next]
        split_ifs with hc
        · exact hf.replies _ (.ok _)
        · obtain rfl := not_not.mp hc
          unfold authorizeFor
          rw [Prog.wp_bind, wp_attempt]
          refine wp_loadClient (justified_quiet P config req) (fun q client hq hl => ?_)
            (fun q _ => hf.replies _ (.ok _)) (fun q e _ _ => ?_)
          · simp only [Prog.Next]
            split
            · unfold invalidPushedRequest
              dsimp only
              split
              · exact hf.replies _ (.ok _)
              · exact wp_redirectError hf
            · rename_i request hv
              exact wp_authorizePushed hr huri ⟨⟨t, hq.mem (mem_past_last _ _)⟩, hl, hv⟩
          · cases e with
            | invalidClientMetadata => exact hf.replies _ (.ok _)
            | oauth e => exact hf.replies _ (.error _)
            | jwksUnavailable => exact hf.replies _ (.error _)
            | jwsVerification => exact hf.replies _ (.error _)
            | other => exact hf.replies _ (.error _)

/-! ## The interaction pages -/

/-- The context of an interaction, as it was loaded for an instant. -/
structure ContextAt (P : Platform) (q : List Event) (id : String) (t : ℕ)
    (interaction : InteractionRecord) (pushed : ParRequestRecord) (ctx : InteractionContext) :
    Prop where
  /-- The interaction was live. -/
  found : ⟨.db (.interactionsFind id t), .ok (some interaction)⟩ ∈ q
  /-- Its pushed request was live. -/
  peeked : ⟨.db (.parPeek interaction.requestUri t), .ok (some pushed)⟩ ∈ q
  /-- Both are of one client. -/
  client_eq : pushed.clientId = interaction.clientId
  /-- The client was loaded. -/
  loaded : Loaded P pushed.clientId ctx.client q
  /-- The pushed parameters validate. -/
  valid : validateAuthorizationRequest (storedBody pushed.params) ctx.client = .ok ctx.request
  /-- The context names the pushed request. -/
  requestUri_eq : ctx.requestUri = interaction.requestUri
  /-- The context has the subject of the interaction. -/
  subject_eq : ctx.subject = interaction.subject

lemma ContextAt.context {q : List Event} {id : String} {t : ℕ} {interaction : InteractionRecord}
    {pushed : ParRequestRecord} {ctx : InteractionContext}
    (h : ContextAt P q id t interaction pushed ctx) : ContextLoaded P q id ctx :=
  ⟨t, interaction, pushed, h.found, h.client_eq, h.requestUri_eq, h.subject_eq,
    ⟨t, h.peeked⟩, h.loaded, h.valid⟩

/-- **The outcome of loading an interaction.** -/
lemma wp_loadInteractionContext {pre : List Event → Call → Prop}
    {post : List Event → Except Exn (Option InteractionContext) → Prop} {id : String} {t : ℕ}
    (hq : Quiet pre)
    (hsome : ∀ q interaction pushed ctx, past <+: q →
      ContextAt P q id t interaction pushed ctx → post q (.ok (some ctx)))
    (hnone : ∀ q, past <+: q → post q (.ok none))
    (herr : ∀ q, past <+: q → post q (.error .other)) :
    Prog.wp pre post past (loadInteractionContext P id t) := by
  unfold loadInteractionContext
  rw [Prog.wp_bind, wp_db]
  have h1 := fun e => List.prefix_append past [e]
  refine ⟨hq _ _ rfl, fun interaction => ?_, fun e => herr _ (h1 _)⟩
  cases interaction with
  | none => exact hnone _ (h1 _)
  | some interaction =>
    simp only [Prog.Next]
    rw [Prog.wp_bind, wp_db]
    have h2 := fun e e' => (h1 e).trans (List.prefix_append _ [e'])
    refine ⟨hq _ _ rfl, fun pushed => ?_, fun e => herr _ (h2 _ _)⟩
    cases pushed with
    | none => exact hnone _ (h2 _ _)
    | some pushed =>
      simp only [Prog.Next]
      split_ifs with hc
      · exact hnone _ (h2 _ _)
      · have hc := not_not.mp hc
        rw [Prog.wp_bind, wp_attempt]
        refine wp_loadClient hq (fun q client hpq hl => ?_)
          (fun q hpq => hnone _ ((h2 _ _).trans hpq))
            (fun q e hpq _ => hnone _ ((h2 _ _).trans hpq))
        simp only [Prog.Next]
        split
        · rename_i request hv
          refine hsome _ interaction pushed _ ((h2 _ _).trans hpq) ⟨?_, hpq.mem (mem_past_last _ _),
            hc, hc ▸ hl, hv, rfl, rfl⟩
          exact hpq.mem (List.mem_append_left _ (mem_past_last _ _))
        · exact hnone _ ((h2 _ _).trans hpq)

lemma wp_sessionFrom {pre : List Event → Call → Prop}
    {post : List Event → Except Exn (Option LoginSession) → Prop} (hq : Quiet pre)
    (hsome : ∀ q session t, past <+: q → SessionRead P config req q session t →
      post q (.ok (some session)))
    (hnone : ∀ q, past <+: q → post q (.ok none)) :
    Prog.wp pre post past (sessionFrom P config req) := by
  unfold sessionFrom
  rw [Prog.wp_bind, wp_now]
  refine ⟨hq _ _ rfl, fun t => ?_⟩
  have h1 : past <+: past ++ [⟨.now, t⟩] := List.prefix_append _ _
  simp only [Prog.Next, Prog.wp_pure]
  cases hs : sessionAt P config req (t / 1000) with
  | none => exact hnone _ h1
  | some session => exact hsome _ session t h1 ⟨mem_past_last _ _, hs⟩

/-- A page without consent shows and accepts nothing. -/
lemma replies_html {status : ℕ} {page : Page} (h : ∀ v, page ≠ .consent v) (q : List Event) :
    Replies P config req q (.ok (htmlReply status page)) :=
  .plain (fun v hv => h v (by simpa [htmlReply] using hv)) (by simp [htmlReply])
    (by simp [htmlReply]) (by simp [htmlReply])

/-- A visit of an interaction that was loaded: the login page, or the consent page for a session
that was read and needs no re-authentication. -/
lemma wp_visit (hr : req.route = .interaction) {id : String}
    (hid : str (req.query.get "id") = some id) {ctx : InteractionContext}
    (hctx : ContextLoaded P past id ctx) (found : Option LoginSession)
    (hs : ∀ s ∈ found, ∃ t, SessionRead P config req past s t) :
    Prog.wp (Justified P config req) (Replies P config req) past (now >>= fun t' =>
      match found.filter fun _ => !needsReauthentication found ctx.request (t' / 1000) with
      | none => pure (loginPage P config id none)
      | some session => showConsent P config id ctx session) := by
  rw [Prog.wp_bind, wp_now]
  refine ⟨trivial, fun t' => ?_⟩
  have h1 : past <+: past ++ [⟨.now, t'⟩] := List.prefix_append _ _
  simp only [Prog.Next]
  split
  · exact replies_html (by simp) _
  · rename_i session hfound
    obtain ⟨rfl, hn⟩ := Option.filter_eq_some_iff.mp hfound
    obtain ⟨t₀, ht₀⟩ := hs session rfl
    have hv : ConsentVisited P config req (past ++ [⟨.now, t'⟩]) id ctx session :=
      { route := hr
        interaction := hid
        carries := ⟨t₀, ht₀.mono h1⟩
        fresh := ⟨t', mem_past_last _ _, by simpa using hn⟩
        context := hctx.mono h1 }
    unfold showConsent
    rw [Prog.wp_bind]
    refine wp_db.mpr ⟨⟨ctx, session, hv, rfl⟩, fun _ => ?_, fun _ => replies_error _ _⟩
    simp only [Prog.Next]
    unfold consentPage
    split
    · exact replies_error _ _
    · refine ⟨fun _ view hview => ?_, by simp [hr], by simp [hr], by simp [hr]⟩
      simp only [htmlReply, Body.html.injEq, Page.consent.injEq] at hview
      exact ⟨id, ctx, session, _, hv.mono (List.prefix_append _ _), mem_past_last _ _, hview.symm⟩

/-- **A consent page is shown to a valid session after the interaction was bound to its
subject.** -/
lemma wp_handleInteraction (hr : req.route = .interaction) :
    Prog.wp (Justified P config req) (Replies P config req) past
      (handleInteraction P config req) := by
  unfold handleInteraction
  split
  · exact replies_html (by simp) _
  · rename_i id hid
    rw [Prog.wp_bind, wp_now]
    refine ⟨trivial, fun t => ?_⟩
    simp only [Prog.Next]
    rw [Prog.wp_bind]
    refine wp_loadInteractionContext (justified_quiet P config req) (fun q _ _ ctx _ hctx => ?_)
      (fun q _ => replies_html (by simp) _) (fun q _ => replies_error _ _)
    simp only [Prog.Next]
    rw [Prog.wp_bind]
    exact wp_sessionFrom (justified_quiet P config req)
      (fun q' session t' hq' hs => wp_visit hr hid (hctx.context.mono hq') (some session)
        (by simpa using ⟨t', hs⟩))
      (fun q' hq' => wp_visit hr hid (hctx.context.mono hq') none (by simp))

lemma wp_devLogin {pre : List Event → Call → Prop}
    {post : List Event → Except Exn (Option AuthenticatedUser) → Prop} {username : Option String}
    (hq : Quiet pre) (hpost : ∀ q x, past <+: q → post q (.ok x)) :
    Prog.wp pre post past (devLogin config username) := by
  unfold devLogin
  split
  · exact hpost _ _ List.prefix_rfl
  · split_ifs
    · exact hpost _ _ List.prefix_rfl
    · rw [Prog.wp_bind, wp_now]
      exact ⟨hq _ _ rfl, fun t => hpost _ _ (List.prefix_append _ _)⟩

/-- **A login writes nothing.** -/
lemma wp_handleLogin (hr : req.route = .interactionLogin) :
    Prog.wp (Justified P config req) (Replies P config req) past (handleLogin P config req) := by
  have hf : FreeReplies P config req :=
    fun _ _ => .other (by simp [hr]) (by simp [hr]) (by simp [hr]) (by simp [hr])
  unfold handleLogin
  split
  · exact hf.replies _ (.ok _)
  · split_ifs
    · exact hf.replies _ (.ok _)
    · rw [Prog.wp_bind, wp_now]
      refine ⟨trivial, fun t => ?_⟩
      simp only [Prog.Next]
      rw [Prog.wp_bind]
      refine wp_loadInteractionContext (justified_quiet P config req) (fun q _ _ ctx _ _ => ?_)
        (fun q _ => hf.replies _ (.ok _)) (fun q _ => hf.replies _ (.error _))
      simp only [Prog.Next]
      rw [Prog.wp_bind]
      refine wp_devLogin (justified_quiet P config req) fun q user _ => ?_
      cases user with
      | none => exact hf.replies _ (.ok _)
      | some user =>
        simp only [Prog.Next]
        rw [Prog.wp_bind, wp_randomBytes]
        refine ⟨trivial, fun sid => ?_⟩
        simp only [Prog.Next]
        rw [Prog.wp_bind, wp_now]
        exact ⟨trivial, fun t' => hf.replies _ (.ok _)⟩

/-- **A consent submission decides only after the session, CSRF and subject checks, and after it
completed its interaction.** -/
lemma wp_handleConsent (hr : req.route = .interactionConsent) :
    Prog.wp (Justified P config req) (Replies P config req) past (handleConsent P config req) := by
  have hf : FreeReplies P config req := freeReplies_consent hr
  unfold handleConsent
  split
  · exact hf.replies _ (.ok _)
  · rename_i id hid
    rw [Prog.wp_bind]
    refine wp_sessionFrom (justified_quiet P config req) (fun q session t _ hs => ?_)
      (fun q _ => hf.replies _ (.ok _))
    simp only [Prog.Next]
    split_ifs with hcsrf
    · exact hf.replies _ (.ok _)
    · rw [Prog.wp_bind, wp_now]
      refine ⟨trivial, fun t' => ?_⟩
      simp only [Prog.Next]
      rw [Prog.wp_bind]
      refine wp_loadInteractionContext (justified_quiet P config req)
        (fun q' _ _ ctx hq' hctx => ?_)
        (fun q _ => hf.replies _ (.ok _)) (fun q _ => hf.replies _ (.error _))
      simp only [Prog.Next]
      split_ifs with hsub
      · exact hf.replies _ (.ok _)
      · have hc : ConsentChecked P config req q' id ctx session :=
          { route := hr
            interaction := hid
            carries := ⟨t, hs.mono ((List.prefix_append _ _).trans hq')⟩
            csrf := by simpa using hcsrf
            context := hctx.context
            subject := not_not.mp hsub }
        unfold completeAndDecide
        rw [Prog.wp_bind, wp_now]
        refine ⟨trivial, fun t₂ => ?_⟩
        have h1 : q' <+: q' ++ [⟨.now, t₂⟩] := List.prefix_append _ _
        simp only [Prog.Next]
        rw [Prog.wp_bind]
        refine wp_db.mpr ⟨⟨ctx, session, hc.mono h1⟩, fun done => ?_,
          fun _ => hf.replies _ (.error _)⟩
        cases done with
        | none => exact hf.replies _ (.ok _)
        | some done =>
          exact wp_decideAndIssue hf (.consent id ctx session t₂ done
            (hc.mono (h1.trans (List.prefix_append _ _))) (mem_past_last _ _))

/-! ## All handlers -/

/-- A reply without a JSON or HTML body shows and accepts nothing. -/
lemma answered_empty {reply : Reply} (h : reply.body = .empty) (q : List Event) :
    Answered P config req q reply := .plain (by simp [h]) (by simp [h]) (by simp [h]) (by simp [h])

/-- Every handler keeps its guarantees, up to the exceptions that the error handler answers. -/
lemma wp_dispatch :
    Prog.wp (Justified P config req) (Replies P config req) past (dispatch P config req) := by
  have h404 : Replies P config req past (.ok notFound) := answered_empty rfl _
  unfold dispatch
  cases hr : req.route <;> dsimp only <;> split_ifs
  · exact wp_handlePar hr
  · exact .plain (by simp [parMethodNotAllowed]) (by simp [parMethodNotAllowed])
      (by simp [parMethodNotAllowed])
      (by simp [parMethodNotAllowed])
  · exact h404
  · exact wp_handleAuthorize hr
  · exact h404
  · exact wp_handleInteraction hr
  · exact h404
  · exact wp_handleLogin hr
  · exact h404
  · exact wp_handleConsent hr
  · exact h404
  · exact wp_handleToken hr
  · exact h404
  · exact wp_handleRevoke hr
  · exact h404
  · exact wp_handleIntrospect hr
  · exact h404
  · exact wp_handleUserinfo hr
  · exact h404
  · unfold handleJwks
    rw [Prog.wp_bind, Prog.wp_perform]
    refine ⟨trivial, fun ready => ?_⟩
    simp only [Prog.Next]
    rw [Prog.wp_bind, wp_awaited]
    refine ⟨fun _ _ => ?_, fun _ _ => replies_error _ _⟩
    simp only [Prog.Next]
    rw [Prog.wp_bind, Prog.wp_perform]
    exact ⟨trivial, fun keys => .plain (by simp) (by simp) (by simp) (by simp)⟩
  · exact h404

/-- What a served request guarantees of its outcome: it replies, and never throws. -/
def Served (P : Platform) (config : AppConfig) (req : HttpRequest) (q : List Event)
    (x : Except Exn Reply) : Prop := ∃ reply, x = .ok reply ∧ Answered P config req q reply

/-- **Every handler keeps its guarantees**: each call is justified, and each request is answered
with a reply that is accounted for. -/
theorem handler_spec (P : Platform) (config : AppConfig) (req : HttpRequest) :
    Prog.wp (Justified P config req) (Served P config req) [] (handler P config req) := by
  refine wp_respond (Prog.wp_mono (fun q x hx => ?_) wp_dispatch)
  cases x with
  | ok reply => exact ⟨_, rfl, hx.onSend⟩
  | error e => exact ⟨_, rfl, hx.onSend⟩

end Fapi2As
