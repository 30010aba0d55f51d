import Fapi2As.Sample
import Fapi2As.Server.Clock
import Fapi2As.Server.Rows
import Mathlib.Tactic.Linarith

set_option relaxedAutoImplicit false
set_option autoImplicit false

/-!
# The maximal authentication age

A pushed request can bound the age of the authentication that stands behind its code. The silent
path of the authorization endpoint and the visit of the interaction page compare the session with
the bound; the consent submission that issues the code comes later, may carry another session of the
same user, and compares nothing.

## Main definitions

* `Fapi2As.pushedMaxAge` — the bound of a pushed request; `Fapi2As.WithinAge` — it is kept.
* `Fapi2As.ServerRun.CodeIssued` — a code with its pushed request, its grant, and the start of the
  handler that issued it.

## Main results

* `Fapi2As.ServerRun.max_age_kept_iff` — the bound is kept exactly when the code is issued silently,
  or by a submission whose session is young enough when its handler starts.
* `Fapi2As.Sample.late_consent_code` — a submission that comes too late is issued a code.
-/

namespace Fapi2As

open Js Async

/-- The maximal age of a pushed request, as every later step reads it. -/
def pushedMaxAge (pushed : ParRequestRecord) : Option ℕ :=
  (str ((storedBody pushed.params).get "max_age")).map digitsToNat

/-- An authentication is at most `m` seconds old at a second. -/
def WithinAge (authTime : Date) (nowSec m : ℕ) : Prop :=
  ∀ a ∈ authTime, (nowSec : ℤ) * 1000 - a ≤ m * 1000

section

variable {P : Platform} {config : AppConfig} {req : HttpRequest} {past : List Event}

/-! ## Sessions -/

/-- A session that needs no re-authentication is within the maximal age. -/
lemma withinAge_of_fresh {session : LoginSession} {request : ValidatedAuthorizationRequest}
    {nowSec m : ℕ} (hm : request.maxAge = some m)
    (h : needsReauthentication (some session) request nowSec = false) :
    WithinAge session.user.authTime nowSec m := by
  have hage : (nowSec : ℚ) - session.authTime ≤ m := by
    simp only [needsReauthentication, hm, Bool.or_eq_false_iff, decide_eq_false_iff_not,
      not_lt] at h
    exact h.2
  intro a ha
  have hle : (((nowSec : ℤ) - m) * 1000 : ℤ) ≤ session.authTime * 1000 := by
    push_cast
    linarith
  have := le_newDate hle ha
  linarith

/-- An authentication that is within an age at a second is so at every earlier one. -/
lemma WithinAge.mono {authTime : Date} {s s' m : ℕ} (h : WithinAge authTime s' m) (hs : s ≤ s') :
    WithinAge authTime s m := by
  intro a ha
  have := h a ha
  omega

/-- The session of a cookie is the same at every earlier second. -/
lemma sessionAt_mono {session : LoginSession} {s s' : ℕ} (hs : s ≤ s')
    (h : sessionAt P config req s' = some session) : sessionAt P config req s = some session :=
  openSession_mono hs h

/-! ## The start of a handler -/

/-- A program that does not make the first call of its request may make any. -/
lemma wp_later {α : Type} {p : Handler α} (h : past ≠ []) :
    Prog.wp (fun q o => q = [] → o = .now) (fun _ _ => True) past p := by
  induction p generalizing past with
  | ret a => trivial
  | throw e => trivial
  | call o k ih => exact ⟨fun hq => absurd hq h, fun r => ih r (by simp)⟩

/-- The first call of a front-channel handler that can issue a code reads the clock. -/
lemma wp_first_now (h : req.route = .authorize ∨ req.route = .interactionConsent) :
    Prog.wp (fun q o => q = [] → o = .now) (fun _ _ => True) [] (handler P config req) := by
  have hnow : ∀ {α : Type} (f : ℕ → Handler α),
      Prog.wp (fun q o => q = [] → o = .now) (fun _ _ => True) [] (now >>= f) := by
    intro α f
    rw [Prog.wp_bind, wp_now]
    exact ⟨fun _ => rfl, fun t => wp_later (by simp)⟩
  have hdispatch : Prog.wp (fun q o => q = [] → o = .now) (fun _ _ => True) []
      (dispatch P config req) := by
    unfold dispatch
    rcases h with h | h
    · simp only [h]
      split_ifs
      · unfold handleAuthorize
        split_ifs
        · trivial
        · split
          · trivial
          · trivial
          · exact hnow _
      · trivial
    · simp only [h]
      split_ifs
      · unfold handleConsent
        split
        · trivial
        · rw [Prog.wp_bind]
          unfold sessionFrom
          exact hnow _
      · trivial
  exact wp_respond (Prog.wp_mono (fun q x _ => by cases x <;> trivial) hdispatch)

end

/-! ## The age behind a code -/

namespace ServerRun

variable {P : Platform} {config : AppConfig} {backend : Backend} (R : ServerRun P config backend)

/-- At step `i` the process `pid` stores the code `rec` for the pushed request that it has just
consumed, under the grant that it has just created. The handler started at the clock reading `t₀`,
which is its first one. -/
structure CodeIssued (i pid : ℕ) (p : Proc (server P config backend))
    (rec : AuthorizationCodeRecord) (pushed : ParRequestRecord) (grant : GrantRecord) (t₀ : ℕ) :
    Prop where
  /-- The code is stored. -/
  does : R.Does i pid p ⟨.db (.codesInsert rec), .ok ()⟩
  /-- The start of the handler. -/
  started : p.past.head? = some ⟨.now, t₀⟩
  /-- The consumption of the pushed request and the creation of the grant come right before it. -/
  issuing : ∃ q uri t t' code, p.past = q ++ [⟨.db (.parConsume uri t), .ok (some pushed)⟩,
    ⟨.now, t'⟩, ⟨.randomUUID, grant.grantId⟩, ⟨.db (.grantsInsert grant), .ok ()⟩,
    ⟨.randomBytes 32, code⟩]
  /-- The code is the one of the grant. -/
  ofGrant : rec.grantId = grant.grantId

variable {R}

/-- The request that issues a code authorizes its pushed request, right before it consumes it. -/
lemma code_authorized {i pid : ℕ} {p : Proc (server P config backend)}
    {rec : AuthorizationCodeRecord} (hd : R.Does i pid p ⟨.db (.codesInsert rec), .ok ()⟩) :
    ∃ q uri t t' code pushed client request session ua grantId,
      p.past = q ++ [⟨.db (.parConsume uri t), .ok (some pushed)⟩, ⟨.now, t'⟩,
        ⟨.randomUUID, grantId⟩,
        ⟨.db (.grantsInsert (grantRecord grantId client session.user request t')), .ok ()⟩,
        ⟨.randomBytes 32, code⟩] ∧ rec.grantId = grantId ∧
      Authorizes P config p.req q uri client request session ua := by
  obtain ⟨uri, client, request, session, ua, _, t', grantId, code, hauth, hpast, rfl⟩ :=
    R.justified hd
  obtain ⟨q, t, pushed, rfl, happroves⟩ := hauth
  exact ⟨q, uri, t, t', code, pushed, client, request, session, ua, grantId,
    by rw [hpast]; simp, rfl, happroves.1⟩

/-- A request that issues a code is an authorization request or a consent submission, and its
handler starts by reading the clock. -/
lemma code_started {i pid : ℕ} {p : Proc (server P config backend)} {e : Event}
    (hd : R.Does i pid p e) (hne : p.past ≠ [])
    (hroute : p.req.route = .authorize ∨ p.req.route = .interactionConsent) :
    ∃ t₀, p.past.head? = some ⟨.now, t₀⟩ := by
  obtain ⟨⟨o, r⟩, rest, hrest⟩ := List.exists_cons_of_ne_nil hne
  obtain ⟨j, -, q, hd', hreq, hq⟩ := R.did_at (Nat.le_of_lt hd.lt) hd.proc
    (hrest.trans (List.nil_append _).symm)
  have hfirst : ∀ r : HttpRequest, Prog.wp
      (fun q o => (r.route = .authorize ∨ r.route = .interactionConsent) → q = [] → o = .now)
      (fun _ _ => True) [] (handler P config r) := by
    intro r
    by_cases hr : r.route = .authorize ∨ r.route = .interactionConsent
    · exact Prog.wp_mono_pre (fun q o h _ => h) (wp_first_now hr)
    · exact Prog.wp_of_forall (fun q o h => absurd h hr) fun _ _ => trivial
  obtain rfl : o = .now := hd'.meets hfirst (hreq ▸ hroute) hq
  exact ⟨r, by rw [hrest]; rfl⟩

/-- The pushed request that a process consumes is the one that it has read under the same
reference. -/
lemma consumed_eq_peeked {i pid : ℕ} {p : Proc (server P config backend)} (hi : i ≤ R.len)
    (hp : R.proc i pid = some p) {uri : String} {t t' : ℕ} {pushed pushed' : ParRequestRecord}
    (h : ⟨.db (.parConsume uri t), .ok (some pushed)⟩ ∈ p.past)
    (h' : ⟨.db (.parPeek uri t'), .ok (some pushed')⟩ ∈ p.past) : pushed = pushed' := by
  obtain ⟨j, hj, q, hd, -⟩ := R.did hi hp h
  obtain ⟨j', hj', q', hd', -⟩ := R.did hi hp h'
  obtain ⟨row, hrow, rfl, -⟩ := (R.carried hd).parConsume
  obtain ⟨row', hrow', rfl, -⟩ := (R.carried hd').parPeek
  exact par_same (by omega) (by omega) hrow hrow'

/-- **When the maximal age is kept.** In a run whose clock is never set back, every code is issued
for a pushed request that its request has consumed, under a grant that records an authentication
time; and if the pushed request names a maximal age, the recorded authentication is within it at the
start of the handler exactly when the code is issued by the authorization endpoint, or by a consent
submission that carries, at its start, a session whose authentication is within it.

**Proof sketch.** The grant records the authentication time of the session that the request carries.
The authorization endpoint issues a code only for a session that needs no re-authentication at a
reading of its own, which is no earlier than its start. A consent submission reads its session from
its cookie, whose session is the same at its start. -/
theorem max_age_kept_iff (hclock : R.ClockForward) {i pid : ℕ} {p : Proc (server P config backend)}
    {rec : AuthorizationCodeRecord} (hd : R.Does i pid p ⟨.db (.codesInsert rec), .ok ()⟩) :
    ∃ pushed grant t₀, R.CodeIssued i pid p rec pushed grant t₀ ∧
      ∀ m, pushedMaxAge pushed = some m →
        (WithinAge grant.authTime (t₀ / 1000) m ↔
          p.req.route = .authorize ∨
            p.req.route = .interactionConsent ∧
              ∃ session, sessionAt P config p.req (t₀ / 1000) = some session ∧
                WithinAge session.user.authTime (t₀ / 1000) m) := by
  obtain ⟨q, uri, t, t', code, pushed, client, request, session, ua, grantId, hpast, hgrant,
      hauth⟩ :=
    code_authorized hd
  have hi := Nat.le_of_lt hd.lt
  have hpre : q <+: p.past := ⟨_, hpast.symm⟩
  have hroute : p.req.route = .authorize ∨ p.req.route = .interactionConsent := by
    cases hauth with
    | consent id ctx session t done h _ => exact .inr h.route
    | silent uri client request session h => exact .inl h.route
  obtain ⟨t₀, hstart⟩ := code_started hd (by simp [hpast]) hroute
  refine ⟨pushed, grantRecord grantId client session.user request t', t₀,
    ⟨hd, hstart, ⟨q, uri, t, t', code, hpast⟩, hgrant⟩, fun m hm => ?_⟩
  have hfirst : ∀ {s}, ⟨.now, s⟩ ∈ q → t₀ / 1000 ≤ s / 1000 := fun h =>
    Nat.div_le_div_right (first_reading_le hclock hi hd.proc hstart (hpre.mem h))
  cases hauth with
  | consent id ctx session s done h _ =>
    -- the session of the cookie is the same at the start of the handler
    obtain ⟨s', hnow, hs'⟩ := h.carries
    have hcarried := sessionAt_mono (hfirst hnow) hs'
    constructor
    · exact fun hw => .inr ⟨h.route, session, hcarried, hw⟩
    · rintro (hr | ⟨-, session', hs, hw⟩)
      · rw [h.route] at hr
        cases hr
      · obtain rfl := Option.some.inj (hs.symm.trans hcarried)
        exact hw
  | silent uri client request session h =>
    refine ⟨fun _ => .inl h.route, fun _ => ?_⟩
    obtain ⟨s, ⟨hnow, -⟩, hfresh⟩ := h.carries
    obtain ⟨pushed', hread⟩ := h.names
    obtain ⟨s', hpeek⟩ := hread.peeked
    have hconsume : ⟨.db (.parConsume uri t), .ok (some pushed)⟩ ∈ p.past := by simp [hpast]
    obtain rfl := consumed_eq_peeked hi hd.proc hconsume (hpre.mem hpeek)
    have hmax : request.maxAge = some m := (Validated.of_eq_ok hread.valid).maxAge_eq.trans hm
    exact (withinAge_of_fresh hmax hfresh).mono (hfirst hnow)

end ServerRun

namespace Sample

/-! ## A submission in time, and one that is late -/

/-- What the calls of a consent submission show: it started at `t`, consumed requests with a maximal
age of 20 seconds only, and created grants for an authentication at second 90 only. -/
def consentCall (e : Event) : Bool :=
  match e with
  | ⟨.db (.parConsume _ _), .ok (some pushed)⟩ => pushedMaxAge pushed = some 20
  | ⟨.db (.grantsInsert grant), _⟩ => grant.authTime = some 90000
  | _ => true

/-- A code is stored. -/
def storesCode (e : Event) : Bool :=
  match e with
  | ⟨.db (.codesInsert _), .ok ()⟩ => true
  | _ => false

/-- A request is a consent submission with a session that was established at second 90. -/
def submitsSession (t : ℕ) (req : HttpRequest) : Bool :=
  req.route = .interactionConsent &&
    (sessionAt platform config req (t / 1000)).any (·.user.authTime = some 90000)

/-- The consent submission is issued a code as its last call, and the clock never showed more than
the instant of its submission. -/
def codeIssuedAt (t : ℕ) (trace : List (TraceStep system) × Conf system) : Bool :=
  (match trace.2.answer 3 with
    | some (req, past, _) => submitsSession t req && past.head? = some ⟨.now, t⟩ &&
        past.all consentCall && past.getLast?.any storesCode
    | none => false) &&
  trace.1.all fun s => s.before.world.clock ≤ t

/-- A run of these actions whose trace shows the code. -/
def consentRun (t : ℕ) (h : (system.trace ⟨world, []⟩ (consented t)).any (codeIssuedAt t) = true) :
    ServerRun platform config .memory :=
  .ofTrace world (consented t) world_initial (codeIssuedAt t) h

variable {t : ℕ} (h : (system.trace ⟨world, []⟩ (consented t)).any (codeIssuedAt t) = true)

/-- The clock of such a run is set once, and not back. -/
lemma consentRun_clock : (consentRun t h).ClockForward := by
  refine ServerRun.clockForward_of_moves fun i t' hact => ?_
  have hset : ∀ t', .env (.setClock t') ∈ consented t → t' = t := by
    simp [consented, calls, draws, allowed]
  obtain rfl := hset t' (List.mem_of_getElem? hact)
  obtain ⟨steps, last, ht, hshown⟩ : ∃ steps last, (consentRun t' h).HasTrace steps last ∧
    codeIssuedAt t' (steps, last) = true := Run.hasTrace_ofTrace h
  simp only [codeIssuedAt, Bool.and_eq_true, List.all_eq_true, decide_eq_true_eq] at hshown
  obtain ⟨hi, -⟩ := List.getElem?_eq_some_iff.mp hact
  obtain ⟨s, hs, hb⟩ := ht.conf (i := i) hi
  have hle := hshown.2 s (List.mem_of_getElem? hs)
  rw [hb] at hle
  exact hle

/-- Such a run stores a code, for the session. -/
lemma consentRun_code : ∃ i p rec,
    (consentRun t h).Does i 3 p ⟨.db (.codesInsert rec), .ok ()⟩ ∧ p.past.head? = some ⟨.now, t⟩ ∧
      submitsSession t p.req = true ∧ ∀ e ∈ p.past, consentCall e = true := by
  obtain ⟨steps, last, ht, hshown⟩ : ∃ steps last, (consentRun t h).HasTrace steps last ∧
    codeIssuedAt t (steps, last) = true := Run.hasTrace_ofTrace h
  simp only [codeIssuedAt, Bool.and_eq_true] at hshown
  have hshown := hshown.1
  split at hshown
  · rename_i req past reply hanswer
    simp only [Bool.and_eq_true, decide_eq_true_eq, List.all_eq_true] at hshown
    obtain ⟨⟨⟨hsession, hhead⟩, hall⟩, hany⟩ := hshown
    have hp : (consentRun t h).proc (consentRun t h).len 3 = some ⟨req, past, .ret reply⟩ := by
      rw [Run.proc, ht.last]
      exact Conf.answer_eq_some.mp hanswer
    obtain ⟨e, hlast, hstores⟩ := (Option.any_eq_true _ _).mp hany
    obtain ⟨before, rfl⟩ := List.getLast?_eq_some_iff.mp hlast
    obtain ⟨j, -, q, hd, hreq, rfl⟩ := (consentRun t h).did_at le_rfl hp rfl
    clear hlast hany
    unfold storesCode at hstores
    split at hstores
    · rename_i rec
      refine ⟨j, q, rec, hd, ?_, hreq ▸ hsession, fun e he => hall e (List.mem_append_left _ he)⟩
      cases hq : q.past with
      | nil => simp [hq] at hhead
      | cons e' rest => simpa [hq] using hhead
    · cases hstores
  · cases hshown

/-- What the calls of an issued code show about its pushed request and its grant. -/
lemma consentRun_issued {i : ℕ} {p : Proc system} {rec : AuthorizationCodeRecord}
    {pushed : ParRequestRecord} {grant : GrantRecord} {t₀ : ℕ}
    (hissued : (consentRun t h).CodeIssued i 3 p rec pushed grant t₀)
    (hstart : p.past.head? = some ⟨.now, t⟩) (hall : ∀ e ∈ p.past, consentCall e = true) :
    t₀ = t ∧ pushedMaxAge pushed = some 20 ∧ grant.authTime = some 90000 := by
  obtain ⟨q, uri, s, s', code, hpast⟩ := hissued.issuing
  have hconsume := hall ⟨.db (.parConsume uri s), .ok (some pushed)⟩ (by simp [hpast])
  have hgrant := hall ⟨.db (.grantsInsert grant), .ok ()⟩ (by simp [hpast])
  have hnow := hissued.started.symm.trans hstart
  simp only [consentCall, decide_eq_true_eq] at hconsume hgrant
  exact ⟨by simpa using hnow, hconsume, hgrant⟩

set_option maxRecDepth 4000 in
lemma timely_consent_trace :
    (system.trace ⟨world, []⟩ (consented 110000)).any (codeIssuedAt 110000) = true := by
  decide +kernel

set_option maxRecDepth 4000 in
lemma late_consent_trace :
    (system.trace ⟨world, []⟩ (consented 150000)).any (codeIssuedAt 150000) = true := by
  decide +kernel

/-- A consent that is submitted 20 seconds after the login is issued a code within the maximal
age. -/
theorem timely_consent_kept : ∃ i p rec pushed grant,
    (consentRun 110000 timely_consent_trace).CodeIssued i 3 p rec pushed grant 110000 ∧
      pushedMaxAge pushed = some 20 ∧ WithinAge grant.authTime 110 20 := by
  obtain ⟨i, p, rec, hd, hstart, hsession, hall⟩ := consentRun_code timely_consent_trace
  obtain ⟨pushed, grant, t₀, hissued, hiff⟩ :=
    ServerRun.max_age_kept_iff (consentRun_clock timely_consent_trace) hd
  obtain ⟨rfl, hm, -⟩ := consentRun_issued timely_consent_trace hissued hstart hall
  simp only [submitsSession, Bool.and_eq_true, decide_eq_true_eq] at hsession
  obtain ⟨session, hs, hauth⟩ := (Option.any_eq_true _ _).mp hsession.2
  have hyoung : WithinAge session.user.authTime (110000 / 1000) 20 := by
    intro a ha
    simp only [decide_eq_true_eq] at hauth
    rw [hauth] at ha
    obtain rfl := Option.some.inj ha
    decide
  exact ⟨i, p, rec, pushed, grant, hissued, hm,
    (hiff 20 hm).mpr (.inr ⟨hsession.1, session, hs, hyoung⟩)⟩

/-- **A late consent is issued a code.** The page is shown to a session that is young enough, and
the form is submitted when the session is a minute old: the code is issued all the same. -/
theorem late_consent_code : ∃ i p rec pushed grant,
    (consentRun 150000 late_consent_trace).ClockForward ∧
      (consentRun 150000 late_consent_trace).CodeIssued i 3 p rec pushed grant 150000 ∧
      pushedMaxAge pushed = some 20 ∧ ¬WithinAge grant.authTime 150 20 := by
  obtain ⟨i, p, rec, hd, hstart, -, hall⟩ := consentRun_code late_consent_trace
  obtain ⟨q, uri, s, s', code, pushed, client, request, session, ua, grantId, hpast, hgrant, -⟩ :=
    ServerRun.code_authorized hd
  have hissued : (consentRun 150000 late_consent_trace).CodeIssued i 3 p rec pushed
      (grantRecord grantId client session.user request s') 150000 :=
    ⟨hd, hstart, ⟨q, uri, s, s', code, hpast⟩, hgrant⟩
  obtain ⟨-, hm, hauth⟩ := consentRun_issued late_consent_trace hissued hstart hall
  refine ⟨i, p, rec, pushed, _, consentRun_clock late_consent_trace, hissued, hm, fun hw => ?_⟩
  rw [hauth] at hw
  have := hw 90000 rfl
  omega

end Sample

end Fapi2As
