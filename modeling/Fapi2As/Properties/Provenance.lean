import Fapi2As.Sample
import Fapi2As.Server.Rows

set_option relaxedAutoImplicit false
set_option autoImplicit false

/-!
# Where grants come from

Every grant has a cause: a push of its client, an allowing decision about exactly what it grants,
and the consent of its subject, who was shown exactly that, or a silent authorization for a session
of its subject. The consent page and the submission are two requests; what links them is the
subject that the page binds to the interaction, and that neither the interaction nor the pushed
request nor the registration of the client changes in between.

## Main definitions

* `Fapi2As.ServerRun.ClientsFixed` — no client is registered during the run.
* `Fapi2As.ServerRun.ConsentGiven`, `Fapi2As.ServerRun.SilentlyGranted` — the two ways in which a
  subject stands behind a grant.
* `Fapi2As.ServerRun.GrantCaused` — the cause of a grant.

## Main results

* `Fapi2As.ServerRun.consent_page_shown` — an interaction is bound only by showing its page.
* `Fapi2As.ServerRun.grants_caused` — every grant has a cause.
-/

namespace Fapi2As

open Js Async

/-! ## The consent page is the last thing a visit does -/

section

variable {P : Platform} {config : AppConfig} {req : HttpRequest} {past : List Event}

/-- The interaction and the subject that a call has bound to it. -/
def boundSubject : Event → Option (String × String)
  | ⟨.db (.interactionsSetSubject id subject _ _ _), .ok ()⟩ => some (id, subject)
  | _ => none

/-- No interaction has been bound. -/
def NotBound (past : List Event) : Prop := ∀ e ∈ past, boundSubject e = none

/-- A quiet call binds nothing. -/
lemma NotBound.quiet {o : Call} (h : NotBound past) (ho : o.isQuiet = true) (r : Ret o) :
    NotBound (past ++ [⟨o, r⟩]) := by
  intro e he
  rcases List.mem_append.mp he with he | he
  · exact h e he
  · rw [List.mem_singleton.mp he]
    cases o with
    | db q => cases q <;> first | rfl | cases ho
    | _ => rfl

/-- What a program that makes quiet calls only does before anything is bound. -/
lemma wp_notBound {α : Type} {post post' : List Event → Except Exn α → Prop} {p : Handler α}
    (hp : NotBound past) (h : Prog.wp (fun _ o => o.isQuiet = true) post past p)
    (hpost : ∀ q x, NotBound q → post q x → post' q x) :
    Prog.wp (fun q _ => NotBound q) post' past p :=
  Prog.wp_mono_pre (fun _ _ h => h.1) (Prog.wp_mono (fun q x h => hpost q x h.1 h.2)
    (Prog.wp_invariant (fun _ _ r hq ho => hq.quiet ho r) hp h))

/-- When an interaction was bound, the reply is the consent page, shown to the subject. -/
def Shown (P : Platform) (config : AppConfig) (req : HttpRequest) (q : List Event)
    (x : Except Exn Reply) : Prop :=
  NotBound q ∨ ∃ id ctx session reply, x = .ok reply ∧
    ConsentVisited P config req q id ctx session ∧
    reply.body = .html (.consent (consentView P config id ctx session)) ∧
    ∀ e ∈ q, ∀ b, boundSubject e = some b → b = (id, session.sub)

/-- The redirect URI of a validated request is a URL. -/
lemma RequestRead.consentCsp {uri : String} {pushed : ParRequestRecord} {client : Client}
    {request : ValidatedAuthorizationRequest} (h : RequestRead P past uri pushed client request) :
    ∃ csp, consentCsp P request.redirectUri = some csp := by
  obtain ⟨rec, -, hrec⟩ := h.loaded
  have hreg := (Validated.of_eq_ok h.valid).redirect
  have hurl := rec.toClient_redirectUris hrec (List.contains_iff_mem.mp hreg)
  obtain ⟨u, hu⟩ := Option.isSome_iff_exists.mp hurl
  exact ⟨_, by rw [Fapi2As.consentCsp, hu]; rfl⟩

/-- Binding an interaction is followed by its consent page, and by no further call. -/
lemma wp_showConsent {id : String} {ctx : InteractionContext} {session : LoginSession}
    (hp : NotBound past) (hv : ConsentVisited P config req past id ctx session) :
    Prog.wp (fun q _ => NotBound q) (Shown P config req) past
    (showConsent P config id ctx session) := by
  unfold showConsent
  rw [Prog.wp_bind]
  refine (wp_db (q := .interactionsSetSubject id session.sub _ _ _)).mpr
    ⟨hp, fun _ => ?_, fun e => ?_⟩
  · obtain ⟨_, _, pushed, -, -, -, -, hread⟩ := hv.context
    obtain ⟨csp, hcsp⟩ := hread.consentCsp
    simp only [Prog.Next, consentPage, hcsp]
    refine Or.inr ⟨id, ctx, session, _, rfl, hv.mono (List.prefix_append _ _), rfl,
      fun e he b hb => ?_⟩
    rcases List.mem_append.mp he with he | he
    · rw [hp e he] at hb
      cases hb
    · rw [List.mem_singleton.mp he] at hb
      exact (Option.some.inj hb).symm
  · refine Or.inl fun f hf => ?_
    rcases List.mem_append.mp hf with hf | hf
    · exact hp f hf
    · rw [List.mem_singleton.mp hf]
      rfl

/-- Loading an interaction makes quiet calls only. -/
lemma loadInteractionContext_quiet (id : String) (t : ℕ) :
    Prog.wp (fun _ o => o.isQuiet = true)
      (fun q x => ∀ ctx, x = .ok (some ctx) → ContextLoaded P q id ctx) past
      (loadInteractionContext P id t) :=
  wp_loadInteractionContext (fun _ _ h => h)
    (fun q _ _ ctx _ hctx ctx' he => by
      obtain rfl := Option.some.inj (Except.ok.inj he)
      exact hctx.context)
    (fun _ _ ctx he => by cases he) (fun _ _ ctx he => by cases he)

/-- Reading the session makes quiet calls only. -/
lemma sessionFrom_quiet :
    Prog.wp (fun _ o => o.isQuiet = true)
      (fun q x => past <+: q ∧ ∀ session, x = .ok (some session) →
        ∃ t, SessionRead P config req q session t) past (sessionFrom P config req) :=
  wp_sessionFrom (fun _ _ h => h)
    (fun q session t hq hs => ⟨hq, fun session' he => by
      obtain rfl := Option.some.inj (Except.ok.inj he)
      exact ⟨t, hs⟩⟩)
    (fun q hq => ⟨hq, fun session he => by cases he⟩)

/-- **A visit binds an interaction only by showing its consent page.** -/
lemma wp_handleInteraction_shown (hr : req.route = .interaction) :
    Prog.wp (fun q _ => NotBound q) (Shown P config req) [] (handleInteraction P config req) := by
  unfold handleInteraction
  split
  · exact Or.inl (by simp [NotBound])
  · rename_i id hid
    rw [Prog.wp_bind, wp_now]
    refine ⟨by simp [NotBound], fun t => ?_⟩
    have hq₀ : NotBound [⟨.now, t⟩] := by simp [NotBound, boundSubject]
    simp only [Prog.Next, List.nil_append]
    rw [Prog.wp_bind]
    refine wp_notBound hq₀ (loadInteractionContext_quiet id t) fun q₁ x hq₁ hctx => ?_
    rcases x with e | (_ | ctx)
    · exact Or.inl hq₁
    · exact Or.inl hq₁
    have hctx := hctx ctx rfl
    simp only [Prog.Next]
    rw [Prog.wp_bind]
    refine wp_notBound hq₁ sessionFrom_quiet fun q₂ x hq₂ hs => ?_
    rcases x with e | session
    · exact Or.inl hq₂
    obtain ⟨h12, hs⟩ := hs
    simp only [Prog.Next]
    rw [Prog.wp_bind, wp_now]
    refine ⟨hq₂, fun t' => ?_⟩
    have hq₃ : NotBound (q₂ ++ [⟨.now, t'⟩]) := hq₂.quiet rfl _
    have h23 : q₂ <+: q₂ ++ [⟨.now, t'⟩] := List.prefix_append _ _
    simp only [Prog.Next]
    split
    · exact Or.inl hq₃
    · rename_i session' hfound
      obtain ⟨rfl, hn⟩ := Option.filter_eq_some_iff.mp hfound
      obtain ⟨t₀, ht₀⟩ := hs session' rfl
      exact wp_showConsent hq₃
        { route := hr
          interaction := hid
          carries := ⟨t₀, ht₀.mono h23⟩
          fresh := ⟨t', mem_past_last _ _, by simpa using hn⟩
          context := hctx.mono (h12.trans h23) }

/-- The handler of a visit binds an interaction only by showing its consent page. -/
lemma wp_handler_shown (req : HttpRequest) :
    Prog.wp (fun q _ => req.route = .interaction → NotBound q)
      (fun q x => req.route = .interaction → Shown P config req q x) [] (handler P config req) := by
  by_cases hr : req.route = .interaction
  · have hdispatch : Prog.wp (fun q _ => NotBound q) (Shown P config req) []
        (dispatch P config req) := by
      unfold dispatch
      rw [hr]
      dsimp only
      split_ifs
      · exact wp_handleInteraction_shown hr
      · exact Or.inl (by simp [NotBound])
    refine wp_respond (Prog.wp_mono (fun q x hx => ?_)
      (Prog.wp_mono_pre (fun _ _ h _ => h) hdispatch))
    cases x with
    | ok reply =>
      refine fun _ => hx.imp_right ?_
      rintro ⟨id, ctx, session, reply', he, hv, hb, hsub⟩
      obtain rfl := Except.ok.inj he
      exact ⟨id, ctx, session, _, rfl, hv, by rw [onSend_body, hb], hsub⟩
    | error e => exact fun _ => .inl (hx.resolve_right (by rintro ⟨_, _, _, _, h, -⟩; cases h))
  · exact Prog.wp_of_forall (fun _ _ h => absurd h hr) fun _ _ h => absurd h hr

end

namespace ServerRun

variable {P : Platform} {config : AppConfig} {backend : Backend} (R : ServerRun P config backend)

/-- **An interaction is bound only by showing its consent page**: the request that binds it is
answered at that step, with the page for the session whose subject it binds. -/
lemma consent_page_shown {i pid : ℕ} {p : Proc (server P config backend)} {id subject : String}
    {authTime : Date} {acr amr : Option Json}
    (h : R.Does i pid p ⟨.db (.interactionsSetSubject id subject authTime acr amr), .ok ()⟩) :
    ∃ past reply ctx session, R.proc (i + 1) pid = some ⟨p.req, past, .ret reply⟩ ∧
      ConsentVisited P config p.req past id ctx session ∧ session.sub = subject ∧
      reply.body = .html (.consent (consentView P config id ctx session)) := by
  obtain ⟨_, _, hv, -⟩ := R.justified h
  have hroute := hv.route
  obtain ⟨k, -, hk⟩ := h.todo
  have hw := R.wp_proc (fun r => wp_handler_shown r) h.lt hk
  have hbound : ¬NotBound (p.past ++
      [⟨.db (.interactionsSetSubject id subject authTime acr amr), .ok ()⟩]) :=
    fun hn => absurd (hn _ (mem_past_last _ _)) (by simp [boundSubject])
  dsimp only at hw
  generalize k (.ok ()) = todo at hk hw
  cases todo with
  | call o k' => exact absurd (hw.1 hroute) hbound
  | throw e =>
    rcases hw hroute with hn | ⟨_, _, _, _, he, -⟩
    · exact absurd hn hbound
    · cases he
  | ret reply =>
    rcases hw hroute with hn | ⟨id', ctx, session, reply', he, hvis, hb, hsub⟩
    · exact absurd hn hbound
    · obtain rfl := Except.ok.inj he
      obtain ⟨rfl, rfl⟩ := Prod.mk.inj (hsub _ (mem_past_last _ _) _ rfl)
      exact ⟨_, reply, ctx, session, hk, hvis, rfl, hb⟩

/-! ## What was shown is what is granted -/

/-- No client is registered during the run. -/
def ClientsFixed : Prop :=
  ∀ (i : ℕ) (rec : ClientRecord), R.acts[i]? ≠ some (.env (.upsertClient rec))

/-- The registrations never change, when no client is registered during the run. -/
lemma clients_fixed (hf : R.ClientsFixed) {i : ℕ} (hi : i ≤ R.len) :
    (R.store i).clients = (R.store 0).clients := by
  refine R.stays (P := fun w => w.store.clients = (R.store 0).clients) (Nat.zero_le i) rfl
    fun j _ hj h => ?_
  cases R.store_step (i := j) (by omega) with
  | same hs => exact (congrArg Store.clients hs).trans h
  | query _ _ _ _ _ he => exact he.clients.trans h
  | register rec ha => exact absurd ha (hf j rec)

variable {R}

/-- A client is loaded as the same client at all times. -/
lemma loaded_same (hf : R.ClientsFixed) {i j pid pid' : ℕ} {p p' : Proc (server P config backend)}
    (hi : i ≤ R.len) (hj : j ≤ R.len) (hp : R.proc i pid = some p) (hp' : R.proc j pid' = some p')
    {id : String} {client client' : Client} (h : Loaded P id client p.past)
    (h' : Loaded P id client' p'.past) : client = client' := by
  obtain ⟨k, hk, rec, hr, hc⟩ := R.loaded_registered hi hp h
  obtain ⟨k', hk', rec', hr', hc'⟩ := R.loaded_registered hj hp' h'
  rw [R.clients_fixed hf (by omega)] at hr hr'
  obtain rfl := Option.some.inj (hr.symm.trans hr')
  exact Except.ok.inj (hc.symm.trans hc')

/-- **The context of an interaction is the same at all times**, but for its subject. -/
lemma context_same (hf : R.ClientsFixed) {i j pid pid' : ℕ} {p p' : Proc (server P config backend)}
    (hi : i ≤ R.len) (hj : j ≤ R.len) (hp : R.proc i pid = some p) (hp' : R.proc j pid' = some p')
    {id : String} {ctx ctx' : InteractionContext} (h : ContextLoaded P p.past id ctx)
    (h' : ContextLoaded P p'.past id ctx') :
    ctx.client = ctx'.client ∧ ctx.request = ctx'.request := by
  obtain ⟨t, rec, pushed, hfind, hid, huri, -, hread⟩ := h
  obtain ⟨t', rec', pushed', hfind', hid', huri', -, hread'⟩ := h'
  have hrec : rec.fresh = rec'.fresh := by
    obtain ⟨k, hk, q, hd, -⟩ := R.did hi hp hfind
    obtain ⟨k', hk', q', hd', -⟩ := R.did hj hp' hfind'
    obtain ⟨row, hrow, rfl, -⟩ := (R.carried hd).interactionsFind
    obtain ⟨row', hrow', rfl, -⟩ := (R.carried hd').interactionsFind
    exact interactions_same (by omega) (by omega) hrow hrow'
  have hpushed : pushed = pushed' := by
    have hsame : rec.fresh.requestUri = rec'.fresh.requestUri := by rw [hrec]
    obtain ⟨s, hpeek⟩ := hread.peeked
    obtain ⟨s', hpeek'⟩ := hread'.peeked
    obtain ⟨k, hk, q, hd, -⟩ := R.did hi hp hpeek
    obtain ⟨k', hk', q', hd', -⟩ := R.did hj hp' hpeek'
    obtain ⟨row, hrow, rfl, -⟩ := (R.carried hd).parPeek
    obtain ⟨row', hrow', rfl, -⟩ := (R.carried hd').parPeek
    exact par_same (by omega) (by omega) hrow (hsame ▸ hrow')
  subst hpushed
  have hclient := loaded_same hf hi hj hp hp' hread.loaded hread'.loaded
  refine ⟨hclient, ?_⟩
  have hv := hread.valid
  rw [hclient, hread'.valid] at hv
  exact (Except.ok.inj hv).symm

variable (R)

/-- **A bound interaction was bound by an earlier visit** of its page. -/
lemma subject_origin {i : ℕ} (hi : i ≤ R.len) {id subject : String} {row : InteractionRow}
    (h : (R.store i).interactions.get? id = some row) (hs : row.record.subject = some subject) :
    ∃ j < i, ∃ authTime acr amr,
      R.Calls j (.interactionsSetSubject id subject authTime acr amr) := by
  have hstep : ∀ j < R.len, ∀ row, (R.store (j + 1)).interactions.get? id = some row →
      (∃ row', (R.store j).interactions.get? id = some row' ∧
        row'.record.subject = row.record.subject) ∨
        ∀ subject, row.record.subject = some subject → ∃ authTime acr amr,
          R.Calls j (.interactionsSetSubject id subject authTime acr amr) := by
    intro j hj row hrow
    rcases R.interactions_step hj id with hsame | ⟨q, hc, hs⟩
    · exact .inl ⟨row, hsame.symm.trans hrow, rfl⟩
    · rw [hrow] at hs
      generalize (R.store j).interactions.get? id = before at hs
      cases hs with
      | same => exact .inl ⟨row, rfl, rfl⟩
      | insert _ rec hq hid =>
        subst hq
        obtain ⟨_, _, _, _, hj⟩ := hc.justified
        obtain ⟨_, _, _, _, _, _, _, _, _, _, _, rfl⟩ := hj
        exact .inr nofun
      | setSubject row' subject' authTime acr amr hq =>
        subst hq
        unfold Memory.withSubject
        split_ifs
        · refine .inr fun subject he => ⟨authTime, acr, amr, ?_⟩
          obtain rfl := Option.some.inj he
          exact hc
        · exact .inl ⟨row', rfl, rfl⟩
      | complete row' t hq _ => exact .inl ⟨row', rfl, rfl⟩
  obtain ⟨j, hj, h⟩ := R.origin (fun w => w.store.interactions.get? id)
    (fun row => row.record.subject)
    (fun j subj => ∀ subject, subj = some subject → ∃ authTime acr amr,
      R.Calls j (.interactionsSetSubject id subject authTime acr amr))
    (congrArg (·.interactions.get? id) R.isStart.store) hstep hi h
  exact ⟨j, hj, h subject hs⟩

/-! ## The cause of a grant -/

/-- The consent page of an interaction was rendered before step `i` to a session of the subject,
showing the client and the tokens of a scope. -/
def PageShown (i : ℕ) (id subject : String) (client : Client) (scope : String) : Prop :=
  ∃ j ≤ i, ∃ pid req past reply view session t,
    R.proc j pid = some ⟨req, past, .ret reply⟩ ∧ req.route = .interaction ∧
      SessionRead P config req past session t ∧ session.sub = subject ∧
      reply.body = .html (.consent view) ∧ view.interactionId = id ∧ view.subject = subject ∧
      view.clientName = client.clientName.getD client.clientId ∧ view.scopes = words scope

/-- The consent of the subject of a grant to a pushed request: an approving consent submission with
a valid session of the subject and a CSRF token minted for that session, on an interaction parked on
the pushed request, whose page had been shown to the subject, with the client and the scope of the
grant, when the submission read it. -/
def ConsentGiven (k pid : ℕ) (p : Proc (server P config backend)) (pushed : ParRequestRecord)
    (grant : GrantRecord) : Prop :=
  p.req.route = .interactionConsent ∧ str (p.req.body.get "decision") = some "approve" ∧
    (∃ session t, SessionRead P config p.req p.past session t ∧ session.sub = grant.subject ∧
      str (p.req.body.get "csrf") = some (issueCsrfToken P session.sid config.sessionSecret)) ∧
    ∃ id client m q rec t, str (p.req.body.get "interaction_id") = some id ∧
      m < k ∧ R.Does m pid q ⟨.db (.interactionsFind id t), .ok (some rec)⟩ ∧
      rec.requestUri = pushed.requestUri ∧ client.clientId = grant.clientId ∧
      Loaded P grant.clientId client p.past ∧ R.PageShown m id grant.subject client grant.scope

/-- A silent authorization of a pushed request for the subject of a grant: a `prompt=none` request
with a valid session of the subject that did not need re-authentication. -/
def SilentlyGranted (p : Proc (server P config backend)) (pushed : ParRequestRecord)
    (grant : GrantRecord) : Prop :=
  p.req.route = .authorize ∧
    str ((authorizeParams p.req).get "request_uri") = some pushed.requestUri ∧
    ∃ client request session t, RequestRead P p.past pushed.requestUri pushed client request ∧
      promptNone request = true ∧ SessionRead P config p.req p.past session t ∧
      session.sub = grant.subject ∧ needsReauthentication (some session) request (t / 1000) = false

/-- A request that was authenticated as a client pushed a record before step `k`, with a redirect
URI. -/
def PushedFor (k : ℕ) (pushed : ParRequestRecord) (clientId redirectUri : String) : Prop :=
  ∃ j < k, ∃ pid p client, R.Does j pid p ⟨.db (.parInsert pushed), .ok ()⟩ ∧ p.req.route = .par ∧
    Authenticated P config p.req.body client p.past ∧ client.clientId = clientId ∧
    str (p.req.body.get "redirect_uri") = some redirectUri

/-- The policy decision point allowed a process, before step `k`, exactly what a grant says. -/
def Allowed (k pid : ℕ) (grant : GrantRecord) (redirectUri : String) : Prop :=
  ∃ j < k, ∃ q e, R.Does j pid q ⟨.evaluate e, .ok true⟩ ∧ e.subjectId = grant.subject ∧
    e.resourceId = grant.clientId ∧ e.scope = grant.scope ∧ e.redirectUri = redirectUri

/-- **The cause of a grant**: its client pushed a request, the policy decision point allowed the
process that created the grant exactly what the grant says, for the redirect URI of the push, and
the subject consented in that process or had a session for a silent authorization. -/
def GrantCaused (i : ℕ) (grant : GrantRecord) : Prop :=
  ∃ k < i, ∃ pid p, R.Does k pid p ⟨.db (.grantsInsert grant.fresh), .ok ()⟩ ∧
    ∃ pushed redirectUri, R.PushedFor k pushed grant.clientId redirectUri ∧
      R.Allowed k pid grant redirectUri ∧
      (R.ConsentGiven k pid p pushed grant ∨ SilentlyGranted p pushed grant)

variable {R}

/-- A consent submission that passed its checks follows the rendering of the page to its subject,
with the same client and request. -/
lemma page_shown (hf : R.ClientsFixed) {k pid : ℕ} {p : Proc (server P config backend)}
    (hk : k ≤ R.len) (hp : R.proc k pid = some p) {id : String} {ctx : InteractionContext}
    {subject : String} (h : ContextLoaded P p.past id ctx) (hs : ctx.subject = some subject) :
    ∃ m q rec t, m < k ∧ R.Does m pid q ⟨.db (.interactionsFind id t), .ok (some rec)⟩ ∧
      rec.requestUri = ctx.requestUri ∧
      R.PageShown m id subject ctx.client ctx.request.scope := by
  have hctx := h
  obtain ⟨t, rec, pushed, hfind, -, huri, hsub, -⟩ := h
  obtain ⟨m, hm, q, hd, -⟩ := R.did hk hp hfind
  refine ⟨m, q, rec, t, hm, hd, huri.symm, ?_⟩
  obtain ⟨row, hrow, rfl, -⟩ := (R.carried hd).interactionsFind
  obtain ⟨j, hj, _, _, _, pid', p', ⟨⟩, hset⟩ :=
    R.subject_origin (Nat.le_of_lt hd.lt) hrow (hsub ▸ hs)
  obtain ⟨past, reply, ctx', session, hp', hv, hsession, hbody⟩ := R.consent_page_shown hset
  obtain ⟨t', hread⟩ := hv.carries
  obtain ⟨hclient, hrequest⟩ := context_same hf (by omega) hk hp' hp hv.context hctx
  exact ⟨j + 1, hj, pid', p'.req, past, reply, _, session, t', hp', hv.route, hread, hsession,
    hbody, rfl, hsession, by rw [← hclient]; rfl, by rw [← hrequest]; rfl⟩

/-- **Every grant has a cause**, when no client is registered during the run.

**Proof sketch.** The process that creates a grant has consumed a pushed request after an allowing
decision. The pushed request was stored by a push of its client, and is read back with the redirect
URI of the push. A consent submission found the interaction bound to the subject of its session, so
a visit of the page had bound it, and the page was shown then, for the same client and request. -/
theorem grants_caused (R : ServerRun P config backend) (hf : R.ClientsFixed) {i : ℕ}
    (hi : i ≤ R.len) {g : String} {grant : GrantRecord}
    (h : (R.store i).grants.get? g = some grant) : R.GrantCaused i grant := by
  obtain ⟨-, k, hk, hc⟩ := R.grants_origin hi h
  obtain ⟨pid, p, ⟨⟩, hd, hcreated⟩ := hc.justified
  obtain ⟨uri, client, request, session, ua, q₀, t, grantId, hauth, hpast, hrec⟩ := hcreated
  obtain ⟨q₁, t₁, consumed, rfl, hauthorizes, hua, hev⟩ := hauth
  have hpre : q₁ <+: p.past := by
    rw [hpast, List.append_assoc]
    exact List.prefix_append _ _
  have hsubject : grant.subject = session.sub := congrArg GrantRecord.subject hrec
  have hclient : grant.clientId = client.clientId := congrArg GrantRecord.clientId hrec
  have hscope : grant.scope = request.scope := congrArg GrantRecord.scope hrec
  obtain ⟨pushed, hread⟩ := (hauthorizes.mono hpre).read
  obtain ⟨huri, hname, j, hj, pid', p', hpush, hroute, client', jkt, hauthn, -, hpushed⟩ :=
    R.read_pushed (Nat.le_of_lt hd.lt) hd.proc hread
  obtain ⟨_, _, v, _, _, -, hvalid, -, hpushrec⟩ := hpushed
  obtain ⟨j', hj', q', hdecide, -⟩ := R.did (Nat.le_of_lt hd.lt) hd.proc (hpre.mem hev)
  have hread' := Validated.of_eq_ok hread.valid
  rw [hpushrec] at hread'
  have hid : client'.clientId = grant.clientId := by
    rw [hclient, hname, hpushrec]
    rfl
  have hredirect : str (p'.req.body.get "redirect_uri") = some request.redirectUri := by
    rw [hvalid.redirect_eq, ← hread'.of_stored.1]
  refine ⟨k, hk, pid, p, hd, pushed, request.redirectUri,
    ⟨j, hj, pid', p', client', hpush, hroute, hauthn, hid, hredirect⟩,
    ⟨j', hj', q', _, hdecide, hsubject.symm, hclient.symm, hscope.symm, rfl⟩, ?_⟩
  cases hauthorizes with
  | consent id ctx session t done h _ =>
    obtain ⟨m, q, rec, t', hm, hdm, hrecuri, hshown⟩ :=
      page_shown hf (Nat.le_of_lt hd.lt) hd.proc (h.context.mono hpre) h.subject
    obtain ⟨t₂, hsession⟩ := h.carries
    refine .inl ⟨h.route, by simpa [isApproval] using hua,
      ⟨session, t₂, hsession.mono hpre, hsubject.symm, verifyCsrfToken_eq_true h.csrf⟩,
      id, ctx.client, m, q, rec, t', h.interaction, hm, hdm, hrecuri.trans huri.symm, hclient.symm,
      ?_, by rw [hsubject, hscope]; exact hshown⟩
    rw [hclient, hname]
    exact hread.loaded
  | silent _ _ _ _ h =>
    obtain ⟨t₂, hsession, hn⟩ := h.carries
    exact .inr ⟨h.route, huri ▸ h.requested, client, request, session, t₂, huri ▸ hread, h.prompt,
      hsession.mono hpre, hsubject.symm, hn⟩

end ServerRun

namespace Sample

/-! ## A silent authorization, and an approval -/

/-- The grant of the sample authorizations, created at the instant `t`. -/
def grantRow (t : ℕ) : GrantRecord where
  grantId := grantId
  clientId := "A"
  subject := "u"
  scope := "r"
  authTime := some 90000
  createdAt := t
  revokedAt := none

/-- The grant is in the table at the end. -/
def granted (t : ℕ) (trace : List (TraceStep system) × Conf system) : Bool :=
  trace.2.world.store.grants.get? grantId = some (grantRow t)

/-- An action registers a client. -/
def registers : Act system → Bool
  | .env (.upsertClient _) => true
  | _ => false

set_option maxRecDepth 4000 in
lemma silent_trace : (system.trace ⟨world, []⟩ authorized).any (granted 100000) = true := by
  decide +kernel

set_option maxRecDepth 8000 in
lemma approved_trace :
    (system.trace ⟨world, []⟩ (consented 110000)).any (granted 110000) = true := by
  decide +kernel

/-- A run of these actions whose trace shows the grant. -/
def grantedRun (actions : List (Act system)) (t : ℕ)
    (h : (system.trace ⟨world, []⟩ actions).any (granted t) = true) :
    ServerRun platform config .memory :=
  .ofTrace world actions world_initial (granted t) h

variable {actions : List (Act system)} {t : ℕ}

lemma grantedRun_grant (h : (system.trace ⟨world, []⟩ actions).any (granted t) = true) :
    ((grantedRun actions t h).store (grantedRun actions t h).len).grants.get? grantId =
      some (grantRow t) := by
  obtain ⟨steps, last, ht, hshown⟩ : ∃ steps last, (grantedRun actions t h).HasTrace steps last ∧
    granted t (steps, last) = true := Run.hasTrace_ofTrace h
  rw [ServerRun.store, Run.world, ht.last]
  simpa [granted] using hshown

lemma grantedRun_clientsFixed (h : (system.trace ⟨world, []⟩ actions).any (granted t) = true)
    (hno : ∀ a ∈ actions, registers a = false) : (grantedRun actions t h).ClientsFixed := by
  intro i rec hact
  exact absurd (hno _ (List.mem_of_getElem? hact)) (by simp [registers])

/-- The grant of the silent authorization and the grant of the approval have causes. -/
theorem granted_caused :
    (grantedRun authorized 100000 silent_trace).GrantCaused
        (grantedRun authorized 100000 silent_trace).len (grantRow 100000) ∧
      (grantedRun (consented 110000) 110000 approved_trace).GrantCaused
        (grantedRun (consented 110000) 110000 approved_trace).len (grantRow 110000) := by
  have hsilent : ∀ a ∈ authorized, registers a = false := by
    simp [authorized, calls, draws, allowed, registers]
  have happroved : ∀ a ∈ consented 110000, registers a = false := by
    simp [consented, calls, draws, allowed, registers]
  exact ⟨ServerRun.grants_caused _ (grantedRun_clientsFixed silent_trace hsilent) le_rfl
      (grantedRun_grant silent_trace),
    ServerRun.grants_caused _ (grantedRun_clientsFixed approved_trace happroved) le_rfl
      (grantedRun_grant approved_trace)⟩

end Sample

end Fapi2As
