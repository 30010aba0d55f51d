import Fapi2As.Async.Run

set_option relaxedAutoImplicit false
set_option autoImplicit false

/-!
# Evaluating runs

A run is given by its list of actions, so what happens in it can be computed. The trace of a list
of actions holds, for every step, the configuration before it and the call that was made at it.

## Main definitions

* `Async.Sys.trace` — the trace of a list of actions; `Async.TraceStep` — its entries.
* `Async.Run.ofTrace` — the run of a list of actions that has a trace.

* `Async.Conf.answers` — a test of an answer; `Async.Prog.outcome` — the outcome of a program.

## Main results

* `Async.Run.HasTrace.conf` — the configurations of a run stand in its trace.
* `Async.Run.Does.traced` — every call of a run stands in its trace.
-/

namespace Async

variable {Op : Type} {Ret : Op → Type} {ε α : Type}

/-- One step of a trace: the configuration before it, and the call that a process made, if one
did. -/
structure TraceStep (S : Sys Ret ε α) where
  /-- The configuration before the step. -/
  before : Conf S
  /-- The process that made a call, as it was before the step, with the call and its answer. -/
  made : Option (ℕ × Proc S × Event Ret)

/-- The answer of a request, with the request and the calls made for it. -/
def Conf.answer {S : Sys Ret ε α} (c : Conf S) (pid : ℕ) :
    Option (S.Req × List (Event Ret) × α) :=
  match c.procs[pid]? with
  | some ⟨r, past, .ret a⟩ => some (r, past, a)
  | _ => none

lemma Conf.answer_eq_some {S : Sys Ret ε α} {c : Conf S} {pid : ℕ} {r : S.Req}
    {past : List (Event Ret)} {a : α} :
    c.answer pid = some (r, past, a) ↔ c.procs[pid]? = some ⟨r, past, .ret a⟩ := by
  unfold answer
  split
  · rename_i r' past' a' h
    rw [h]
    simp
  · rename_i hn
    simp only [reduceCtorEq, false_iff]
    exact fun h => hn r past a h

/-- The answer of a request passes a test. -/
def Conf.answers {S : Sys Ret ε α} (c : Conf S) (pid : ℕ)
    (test : S.Req → List (Event Ret) → α → Bool) : Bool :=
  match c.answer pid with
  | some (r, past, a) => test r past a
  | none => false

/-- The outcome of a program whose calls are given the answers of a list of events, when these are
exactly the calls it makes. -/
def Prog.outcome [DecidableEq Op] {β : Type} : Prog Ret ε β → List (Event Ret) → Option (Except ε β)
  | ret a, [] => some (.ok a)
  | throw e, [] => some (.error e)
  | call o k, ⟨o', r⟩ :: es => if h : o' = o then outcome (k (h ▸ r)) es else none
  | _, _ => none

/-- A program with a value as its outcome has a path to it. -/
lemma Prog.path_of_outcome [DecidableEq Op] {β : Type} {p : Prog Ret ε β} {es : List (Event Ret)}
    {a : β} (h : p.outcome es = some (.ok a)) : Path p es (ret a) := by
  induction p generalizing es with
  | ret b =>
    cases es with
    | nil =>
      obtain rfl : b = a := by simpa [outcome] using h
      exact .done _
    | cons e es => simp [outcome] at h
  | throw e => cases es <;> simp [outcome] at h
  | call o k ih =>
    cases es with
    | nil => simp [outcome] at h
    | cons e es =>
      obtain ⟨o', r⟩ := e
      simp only [outcome] at h
      split_ifs at h with ho
      subst ho
      exact .step _ _ _ _ _ (ih _ h)

namespace Sys

variable (S : Sys Ret ε α)

/-- The call that is made at a step between two configurations. -/
def made (c c' : Conf S) : Act S → Option (ℕ × Proc S × Event Ret)
  | .run pid _ => do
    let p ← c.procs[pid]?
    let p' ← c'.procs[pid]?
    let e ← p'.past.getLast?
    return (pid, p, e)
  | _ => none

/-- The trace of a list of actions and the configuration it ends in, when all of them can be
taken. -/
def trace (c : Conf S) : List (Act S) → Option (List (TraceStep S) × Conf S)
  | [] => some ([], c)
  | a :: as => do
    let c' ← S.next c a
    let (steps, last) ← trace c' as
    return (⟨c, S.made c c' a⟩ :: steps, last)

variable {S}

/-- A list of actions that has a trace can be taken. -/
lemma runTo_of_trace {c last : Conf S} {as : List (Act S)} {steps : List (TraceStep S)}
    (h : S.trace c as = some (steps, last)) : S.runTo c as = some last := by
  induction as generalizing c steps with
  | nil => simp only [trace, Option.some.injEq, Prod.mk.injEq] at h; simp [runTo, h.2]
  | cons a as ih =>
    simp only [trace, Option.bind_eq_bind, Option.bind_eq_some_iff, Option.pure_def,
      Option.some.injEq, Prod.mk.injEq] at h
    obtain ⟨c', hc, ⟨steps', last'⟩, ht, -, rfl⟩ := h
    simp only [runTo, hc, Option.bind_some]
    exact ih ht

/-- The configurations of a trace are those that its prefixes lead to. -/
lemma trace_before {c last : Conf S} {as : List (Act S)} {steps : List (TraceStep S)}
    (h : S.trace c as = some (steps, last)) {i : ℕ} (hi : i < as.length) :
    ∃ s c', steps[i]? = some s ∧ S.runTo c (as.take i) = some s.before ∧
      S.next s.before (as.get ⟨i, hi⟩) = some c' ∧
      s.made = S.made s.before c' (as.get ⟨i, hi⟩) := by
  induction as generalizing c steps i with
  | nil => simp at hi
  | cons a as ih =>
    simp only [trace, Option.bind_eq_bind, Option.bind_eq_some_iff, Option.pure_def,
      Option.some.injEq, Prod.mk.injEq] at h
    obtain ⟨c', hc, ⟨steps', last'⟩, ht, rfl, rfl⟩ := h
    cases i with
    | zero => exact ⟨_, c', rfl, rfl, hc, rfl⟩
    | succ i =>
      obtain ⟨s, c'', hs, hb, hn, hm⟩ := ih ht (Nat.lt_of_succ_lt_succ hi)
      refine ⟨s, c'', hs, ?_, hn, hm⟩
      simp only [List.take_succ_cons, runTo, hc, Option.bind_some]
      exact hb

/-- A trace has an entry for every action. -/
lemma trace_length {c last : Conf S} {as : List (Act S)} {steps : List (TraceStep S)}
    (h : S.trace c as = some (steps, last)) : steps.length = as.length := by
  induction as generalizing c steps with
  | nil =>
    simp only [trace, Option.some.injEq, Prod.mk.injEq] at h
    rw [← h.1]
    rfl
  | cons a as ih =>
    simp only [trace, Option.bind_eq_bind, Option.bind_eq_some_iff, Option.pure_def,
      Option.some.injEq, Prod.mk.injEq] at h
    obtain ⟨c', -, ⟨steps', last'⟩, ht, rfl, rfl⟩ := h
    simp [ih ht]

end Sys

namespace Run

variable {S : Sys Ret ε α}

/-- The run of a list of actions whose trace passes a test. -/
def ofTrace (w : S.World) (as : List (Act S)) (hw : S.Start w)
    (test : List (TraceStep S) × Conf S → Bool) (h : (S.trace ⟨w, []⟩ as).any test = true) :
    Run S where
  start := w
  acts := as
  isStart := hw
  ok := by
    obtain ⟨⟨steps, last⟩, ht, -⟩ := (Option.any_eq_true _ _).mp h
    rw [Sys.runTo_of_trace ht]
    rfl

variable (R : Run S)

/-- Every run has a trace. -/
def HasTrace (steps : List (TraceStep S)) (last : Conf S) : Prop :=
  S.trace ⟨R.start, []⟩ R.acts = some (steps, last)

/-- The run of a list of actions has a trace that passes the test. -/
lemma hasTrace_ofTrace {w : S.World} {as : List (Act S)} {hw : S.Start w}
    {test : List (TraceStep S) × Conf S → Bool} (h : (S.trace ⟨w, []⟩ as).any test = true) :
    ∃ steps last, (ofTrace w as hw test h).HasTrace steps last ∧ test (steps, last) = true := by
  obtain ⟨⟨steps, last⟩, ht, hp⟩ := (Option.any_eq_true _ _).mp h
  exact ⟨steps, last, ht, hp⟩

variable {R}

/-- **The configurations of a run stand in its trace.** -/
lemma HasTrace.conf {steps : List (TraceStep S)} {last : Conf S} (h : R.HasTrace steps last) {i : ℕ}
    (hi : i < R.len) : ∃ s, steps[i]? = some s ∧ s.before = R.conf i := by
  obtain ⟨s, c', hs, hb, -, -⟩ := Sys.trace_before h hi
  rw [R.runTo_take] at hb
  exact ⟨s, hs, (Option.some.inj hb).symm⟩

/-- A request that the trace shows answered before a step is answered at that time. -/
lemma HasTrace.answered {steps : List (TraceStep S)} {last : Conf S} (h : R.HasTrace steps last)
    {i pid : ℕ} {r : S.Req} {past : List (Event Ret)} {a : α} {s : TraceStep S} (hi : i < R.len)
    (hs : steps[i]? = some s) (ha : s.before.answer pid = some (r, past, a)) :
    R.proc i pid = some ⟨r, past, .ret a⟩ := by
  obtain ⟨s', hs', hb⟩ := h.conf hi
  obtain rfl := Option.some.inj (hs.symm.trans hs')
  rw [proc, ← hb]
  exact Conf.answer_eq_some.mp ha

/-- The trace of a run ends in its last configuration. -/
lemma HasTrace.last {steps : List (TraceStep S)} {last : Conf S} (h : R.HasTrace steps last) :
    R.conf R.len = last := by
  have ht := Sys.runTo_of_trace h
  have hr := R.runTo_take (i := R.len)
  rw [len, List.take_length, ht] at hr
  exact (Option.some.inj hr).symm

/-- The configurations of a run are those of its trace, with the last one. -/
lemma HasTrace.conf_get {steps : List (TraceStep S)} {last : Conf S} (h : R.HasTrace steps last)
    {i : ℕ}
    (hi : i ≤ R.len) : (steps.map (·.before) ++ [last])[i]? = some (R.conf i) := by
  have hlen : steps.length = R.len := Sys.trace_length h
  rcases Nat.lt_or_eq_of_le hi with hlt | rfl
  · obtain ⟨s, hs, hbefore⟩ := h.conf hlt
    rw [List.getElem?_append_left (by simpa [hlen] using hlt), List.getElem?_map, hs, ← hbefore]
    rfl
  · rw [h.last, List.getElem?_append_right (by simp [hlen])]
    simp [hlen]

/-- What a trace shows of its configurations in order holds of a configuration and the next one. -/
lemma HasTrace.consecutive {steps : List (TraceStep S)} {last : Conf S} (h : R.HasTrace steps last)
    {Q : Conf S → Conf S → Prop} (hQ : (steps.map (·.before) ++ [last]).Pairwise Q) {i : ℕ}
    (hi : i < R.len) : Q (R.conf i) (R.conf (i + 1)) := by
  obtain ⟨h1, heq1⟩ := List.getElem?_eq_some_iff.mp (h.conf_get (Nat.le_of_lt hi))
  obtain ⟨h2, heq2⟩ := List.getElem?_eq_some_iff.mp (h.conf_get hi)
  rw [← heq1, ← heq2]
  exact List.pairwise_iff_getElem.mp hQ i (i + 1) h1 h2 (Nat.lt_succ_self i)

/-- What holds of every configuration in a trace holds throughout the run. -/
lemma HasTrace.forall_conf {steps : List (TraceStep S)} {last : Conf S} (h : R.HasTrace steps last)
    {Q : Conf S → Prop} (hsteps : ∀ s ∈ steps, Q s.before) (hlast : Q last) {i : ℕ}
    (hi : i ≤ R.len) : Q (R.conf i) := by
  by_cases hlt : i < R.len
  · obtain ⟨s, hs, hbefore⟩ := h.conf hlt
    exact hbefore ▸ hsteps s (List.mem_of_getElem? hs)
  · obtain rfl : i = R.len := by omega
    exact h.last ▸ hlast

/-- A test that an answer at the end of a trace passes. -/
lemma HasTrace.answers {steps : List (TraceStep S)} {last : Conf S} (h : R.HasTrace steps last)
    {pid : ℕ} {test : S.Req → List (Event Ret) → α → Bool} (ht : last.answers pid test = true) :
    ∃ r past a, R.proc R.len pid = some ⟨r, past, .ret a⟩ ∧ test r past a = true := by
  unfold Conf.answers at ht
  split at ht
  · rename_i r past a hanswer
    refine ⟨r, past, a, ?_, ht⟩
    rw [Run.proc, h.last]
    exact Conf.answer_eq_some.mp hanswer
  · cases ht

/-- **Every call of a run stands in its trace.** -/
lemma Does.traced {steps : List (TraceStep S)} {last : Conf S} (ht : R.HasTrace steps last)
    {i pid : ℕ} {p : Proc S} {e : Event Ret} (h : R.Does i pid p e) :
    ∃ s, steps[i]? = some s ∧ s.made = some (pid, p, e) := by
  have hi : i < R.acts.length := h.lt
  obtain ⟨s, c', hs, hb, hn, hm⟩ := Sys.trace_before ht hi
  rw [R.runTo_take] at hb
  obtain hb := Option.some.inj hb
  obtain ⟨x, hx, -⟩ := h.exec
  obtain ⟨_, hx⟩ := List.getElem?_eq_some_iff.mp hx
  have hc : c' = R.conf (i + 1) := by
    have hstep := R.step h.lt
    rw [hb] at hstep
    exact Option.some.inj (hn.symm.trans hstep)
  obtain ⟨k, -, hk⟩ := h.todo
  refine ⟨s, hs, ?_⟩
  have hact : R.acts.get ⟨i, hi⟩ = .run pid x := hx
  rw [hm, hc, ← hb, hact]
  simp only [Sys.made]
  rw [show (R.conf i).procs[pid]? = some p from h.proc,
    show (R.conf (i + 1)).procs[pid]? = _ from hk]
  simp

end Run

end Async
