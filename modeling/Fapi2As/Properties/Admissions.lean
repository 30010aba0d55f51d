import Fapi2As.Properties.Lineage
import Fapi2As.Properties.RateLimits
import Fapi2As.Server.Clock

set_option relaxedAutoImplicit false
set_option autoImplicit false

/-!
# The rate limiter in front of the back channel

The four endpoints that authenticate a client share one limiter, and ask it first. So however
requests are interleaved, the limiter is asked in the order of the steps, and what it guarantees of
a sequence of calls holds of the requests from an address: few of them come to make any other call.

## Main definitions

* `Fapi2As.ServerRun.Admits` — at a step a request from an address is let past the limiter.
* `Fapi2As.ServerRun.Asked` — how the limiter was asked so far.
* `Fapi2As.HttpRequest.isLimited` — a request to one of the four endpoints.

## Main results

* `Fapi2As.ServerRun.admissions_bounded` — how many requests from an address are let past.
-/

namespace Fapi2As

open Js Async Quota

variable {P : Platform} {config : AppConfig} {backend : Backend}

/-! ## Requests that ask the limiter -/

/-- A request to an endpoint that asks the limiter. -/
def HttpRequest.isLimited (req : HttpRequest) : Bool :=
  [Route.par, .token, .revoke, .introspect].contains req.route && req.method = "POST"

/-- Such a request is served behind the limiter. -/
lemma dispatch_limited {req : HttpRequest} (h : req.isLimited = true) :
    ∃ p, dispatch P config req = rateLimited req.ip p := by
  simp only [HttpRequest.isLimited, Bool.and_eq_true, decide_eq_true_eq] at h
  obtain ⟨hroute, hmethod⟩ := h
  unfold dispatch
  cases hr : req.route with
  | par => exact ⟨_, by simp only [hmethod, if_true]; rfl⟩
  | token => exact ⟨_, by simp only [hmethod, if_true]; rfl⟩
  | revoke => exact ⟨_, by simp only [hmethod, if_true]; rfl⟩
  | introspect => exact ⟨_, by simp only [hmethod, if_true]; rfl⟩
  | _ => simp [hr] at hroute

/-- **A request behind the limiter** has made no call, or was refused by the limiter and is answered
so, or was let past it. -/
lemma limited_path_cases {ip : String} {p p' : Handler Reply} {es : List Event}
    (h : Prog.Path (respond (rateLimited ip p)) es p') :
    es = [] ∨ (es = [⟨.allow ip, false⟩] ∧
      p' = .ret (onSend (jsonError 429 "invalid_request" "too many requests"))) ∨
      ⟨.allow ip, true⟩ ∈ es := by
  cases h with
  | done => exact .inl rfl
  | step _ _ r es _ hrest =>
    cases r with
    | true => exact .inr (.inr List.mem_cons_self)
    | false =>
      cases hrest with
      | done => exact .inr (.inl ⟨rfl, rfl⟩)

namespace ServerRun

variable (R : ServerRun P config backend)

/-! ## How the limiter is asked -/

/-- At a step a request from an address is let past the limiter. -/
def Admits (i : ℕ) (ip : String) : Prop := ∃ pid p, R.Does i pid p ⟨.allow ip, true⟩

open Classical in
/-- The instants at which requests from an address are let past the limiter, in the first steps. -/
noncomputable def admissions (ip : String) (i : ℕ) : List ℕ :=
  ((List.range i).filter fun j => R.Admits j ip).map fun j => (R.world j).clock

/-- **How the limiter was asked** in the first steps: in the order of the steps, and it let past
whom the run did. -/
structure Asked (i : ℕ) (asks : List Ask) : Prop where
  limiter : (R.world i).limiter = RateLimiter.after config.rateLimitPerMin 60000 50000 {} asks
  ordered : asks.Pairwise fun a b => a.now ≤ b.now
  past : ∀ a ∈ asks, a.now ≤ (R.world i).clock
  admitted : ∀ ip, R.admissions ip i = RateLimiter.admitted ip
    (RateLimiter.answers config.rateLimitPerMin 60000 50000 {} asks)

variable {R} {i : ℕ} {ip : String}

/-- The admissions after one more step. -/
lemma admissions_succ_of_not (h : ¬R.Admits i ip) :
    R.admissions ip (i + 1) = R.admissions ip i := by
  simp [admissions, List.range_succ, h]

lemma admissions_succ (h : R.Admits i ip) :
    R.admissions ip (i + 1) = R.admissions ip i ++ [(R.world i).clock] := by
  simp [admissions, List.range_succ, h]

/-- A step that asks nothing leaves the limiter as it was asked. -/
lemma Asked.quiet {asks : List Ask} (h : R.Asked i asks) (hclock : R.ClockForward) (hi : i < R.len)
    (hlimiter : (R.world (i + 1)).limiter = (R.world i).limiter) (hquiet : ∀ ip, ¬R.Admits i ip) :
    R.Asked (i + 1) asks where
  limiter := hlimiter.trans h.limiter
  ordered := h.ordered
  past a ha := (h.past a ha).trans (hclock _ hi)
  admitted ip := (admissions_succ_of_not (hquiet ip)).trans (h.admitted ip)

/-- **A call of the limiter** is one more call in its sequence. -/
lemma Asked.ask {asks : List Ask} (h : R.Asked i asks) (hclock : R.ClockForward) {pid : ℕ}
    {p : Proc (server P config backend)} {key : String} {ok : Bool}
    (hd : R.Does i pid p ⟨.allow key, ok⟩) :
    R.Asked (i + 1) (asks ++ [⟨key, (R.world i).clock⟩]) := by
  obtain ⟨x, -, hx⟩ := hd.exec
  have hx : some (((R.world i).limiter.allow config.rateLimitPerMin key (R.world i).clock).1,
    { R.world i with limiter :=
        ((R.world i).limiter.allow config.rateLimitPerMin key (R.world i).clock).2 }) =
      some (ok, R.world (i + 1)) := hx
  obtain ⟨hok, hw⟩ := Prod.mk.inj (Option.some.inj hx)
  rw [h.limiter] at hok
  refine ⟨?_, ?_, fun a ha => ?_, fun ip => ?_⟩
  · rw [← hw, RateLimiter.after_append, ← h.limiter]
    rfl
  · rw [List.pairwise_append]
    refine ⟨h.ordered, List.pairwise_singleton _ _, fun a ha b hb => ?_⟩
    obtain rfl := List.mem_singleton.mp hb
    exact h.past a ha
  · refine le_trans ?_ (hclock _ hd.lt)
    rcases List.mem_append.mp ha with ha | ha
    · exact h.past a ha
    · obtain rfl := List.mem_singleton.mp ha
      exact le_rfl
  · rw [RateLimiter.admitted_snoc, ← h.admitted, hok]
    have hiff : R.Admits i ip ↔ key = ip ∧ ok = true := by
      refine ⟨fun ⟨pid', p', hd'⟩ => ?_, fun ⟨hkey, htrue⟩ => ⟨pid, p, hkey ▸ htrue ▸ hd⟩⟩
      obtain ⟨-, -, he⟩ := hd.functional hd'
      cases he
      exact ⟨rfl, rfl⟩
    split_ifs with hadmits
    · exact admissions_succ (hiff.mpr hadmits)
    · rw [admissions_succ_of_not (mt hiff.mp hadmits), List.append_nil]

/-- **The limiter is asked in the order of the steps.** -/
lemma asked (hclock : R.ClockForward) (hstart : (R.world 0).limiter = {}) (hi : i ≤ R.len) :
    ∃ asks, R.Asked i asks := by
  induction i with
  | zero => exact ⟨[], hstart, List.Pairwise.nil, by simp, fun ip => rfl⟩
  | succ i ih =>
    obtain ⟨asks, h⟩ := ih (by omega)
    have hquiet : (∀ pid p key ok, ¬R.Does i pid p ⟨.allow key, ok⟩) → ∀ ip, ¬R.Admits i ip :=
      fun hno ip ⟨pid, p, hd⟩ => hno pid p ip true hd
    by_cases hask : ∃ pid p key, ∃ ok : Bool, R.Does i pid p ⟨.allow key, ok⟩
    · obtain ⟨pid, p, key, ok, hd⟩ := hask
      exact ⟨_, h.ask hclock hd⟩
    · have hno : ∀ pid p key, ∀ ok : Bool, ¬R.Does i pid p ⟨.allow key, ok⟩ :=
        fun pid p key ok hd => hask ⟨pid, p, key, ok, hd⟩
      refine ⟨asks, h.quiet hclock (by omega) ?_ (hquiet hno)⟩
      rcases R.world_step (i := i) (by omega) with hw | ⟨pid, p, ⟨o, r⟩, hd⟩ | ⟨e, -, he⟩
      · rw [hw]
      · obtain ⟨x, -, hx⟩ := hd.exec
        refine exec_limiter hx fun key ho => ?_
        subst ho
        exact hno pid p key r hd
      · cases e with
        | setClock t =>
          simp only [envStep, Option.ite_none_right_eq_some, Option.some.injEq] at he
          rw [← he.2]
        | upsertClient rec =>
          simp only [envStep, Option.some.injEq] at he
          rw [← he]

/-- **Few requests from an address are served.** In every run that starts with a new limiter and in
which the clock is never set back, at most twice the limit of the requests from one address are let
past the limiter in any minute. And whatever else a request to one of the four endpoints did, it was
let past before: one that was not has made no other call, and is answered with status 429.

**Proof sketch.** All requests ask one limiter, in the order of the steps, so its windows hold the
admissions of an address (`asked`). Every handler of the four asks it first (`limited_path_cases`).
-/
theorem admissions_bounded (R : ServerRun P config backend) (hclock : R.ClockForward)
    (hstart : (R.world 0).limiter = {}) (hlimit : 0 < config.rateLimitPerMin) (ip : String)
    (t : ℕ) :
    inWindow 60000 t (R.admissions ip R.len) ≤ 2 * config.rateLimitPerMin ∧
      ∀ i ≤ R.len, ∀ pid p, R.proc i pid = some p → p.req.isLimited = true →
        p.past = [] ∨
        (p.past = [⟨.allow p.req.ip, false⟩] ∧
          p.todo = .ret (onSend (jsonError 429 "invalid_request" "too many requests"))) ∨
        ∃ j < i, ∃ q, R.Does j pid q ⟨.allow p.req.ip, true⟩ := by
  constructor
  · obtain ⟨asks, hasked⟩ := asked hclock hstart le_rfl
    have hwidth : 0 < 60000 := by decide
    obtain ⟨starts, htracks⟩ :=
      RateLimiter.tracks hlimit hwidth 50000 ip hasked.ordered hasked.past
    rw [hasked.admitted]
    exact htracks.windows.count_le t
  · intro i hi pid p hp hlimited
    have hpath := R.path hi hp
    obtain ⟨q, hq⟩ : ∃ q, dispatch P config p.req = rateLimited p.req.ip q :=
      dispatch_limited hlimited
    have hpath : Prog.Path (respond (dispatch P config p.req)) p.past p.todo := hpath
    rw [hq] at hpath
    rcases limited_path_cases hpath with hnone | hrefused | hpast
    · exact .inl hnone
    · exact .inr (.inl hrefused)
    · obtain ⟨j, hj, q', hd, -⟩ := R.did hi hp hpast
      exact .inr (.inr ⟨j, hj, q', hd⟩)

end ServerRun

namespace Sample

/-! ## One request a minute -/

/-- The configuration with a limit of one request a minute. -/
def limitedConfig : AppConfig := { Sample.config with rateLimitPerMin := 1 }

/-- Two introspections of one address. -/
def pressed : List (Act (server platform limitedConfig .memory)) :=
  [.arrive (introspect "1" "t"), .run 0 {}, .arrive (introspect "2" "t"), .run 1 {}]

/-- The second one is refused. -/
def pressedRefused (t : List (TraceStep (server platform limitedConfig .memory)) ×
    Conf (server platform limitedConfig .memory)) : Bool :=
  t.2.answers 1 fun req past reply =>
    req.isLimited && past = [⟨.allow "", false⟩] && reply.status = 429

lemma pressed_trace : ((server platform limitedConfig .memory).trace ⟨world, []⟩ pressed).any
    pressedRefused = true := by
  decide +kernel

/-- The run of the two introspections. -/
def pressedRun : ServerRun platform limitedConfig .memory :=
  .ofTrace world pressed world_initial pressedRefused pressed_trace

/-- The clock is set by no step of it. -/
lemma pressedRun_clockForward : pressedRun.ClockForward := by
  refine ServerRun.clockForward_of_moves fun i t h => ?_
  have hnone : .env (.setClock t) ∉ pressed := by simp [pressed]
  exact absurd (List.mem_of_getElem? h) hnone

/-- One of the two is let past in a minute from second 100, as at most two would be. -/
theorem pressed_bounded : inWindow 60000 100000 (pressedRun.admissions "" pressedRun.len) ≤ 2 * 1 ∧
    ∃ p, pressedRun.proc pressedRun.len 1 = some p ∧ p.req.isLimited = true ∧
      p.past = [⟨.allow "", false⟩] := by
  obtain ⟨steps, last, ht, h⟩ := Run.hasTrace_ofTrace pressed_trace
  have ht : pressedRun.HasTrace steps last := ht
  obtain ⟨req, past, reply, hp, htest⟩ := ht.answers h
  simp only [Bool.and_eq_true, decide_eq_true_eq] at htest
  exact ⟨(ServerRun.admissions_bounded pressedRun pressedRun_clockForward
    (by rw [pressedRun.world_zero]; rfl) (by decide) "" 100000).1, _, hp, htest.1⟩

end Sample

end Fapi2As
