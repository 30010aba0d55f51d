import Mathlib.Data.List.Forall2
import Fapi2As.Async.Run

set_option relaxedAutoImplicit false
set_option autoImplicit false

/-!
# Lost answers

A call can take its effect although its answer never arrives: the program is told that the call has
failed. A program that makes no call after a failure has then done what it would have done had it
been answered, and had not been run again. So when all programs of a system are of this kind, each
of its runs with lost answers has the worlds of a run without, and the programs whose answers have
all arrived are the same in both.

## Main definitions

* `Async.Prog.Stops` — a program makes no call after a failure.
* `Async.Sys.losing` — the system with lost answers; `Async.Run.delivered` — a run of it with every
  answer delivered.

## Main results

* `Async.Run.delivered_explains` — a run with lost answers is explained by the one in which every
  answer is delivered.
-/

namespace Async

variable {Op : Type} {Ret : Op → Type} {ε α β : Type}

/-! ## Programs that stop -/

namespace Prog

/-- A program that makes no call: it throws, or it returns a value that meets `post`. -/
def EndsIn (post : α → Prop) : Prog Ret ε α → Prop
  | ret a => post a
  | throw _ => True
  | call _ _ => False

/-- **A program stops at failures**: after an answer of `fail` it makes no call, and a value that it
returns then meets `post`. -/
def Stops (fail : (o : Op) → Ret o → Prop) (post : α → Prop) : Prog Ret ε α → Prop
  | ret _ => True
  | throw _ => True
  | call _ k => ∀ r, (fail _ r → EndsIn post (k r)) ∧ Stops fail post (k r)

variable {fail : (o : Op) → Ret o → Prop} {mid : α → Prop} {post : β → Prop}

lemma EndsIn.bind {f : α → Prog Ret ε β} (hf : ∀ a, mid a → EndsIn post (f a)) :
    ∀ {p : Prog Ret ε α}, EndsIn mid p → EndsIn post (p >>= f)
  | ret a, h => hf a h
  | throw _, _ => trivial

lemma EndsIn.tryCatch {post : α → Prop} {f : ε → Prog Ret ε α} (hf : ∀ e, EndsIn post (f e)) :
    ∀ {p : Prog Ret ε α}, EndsIn post p → EndsIn post (MonadExcept.tryCatch p f)
  | ret _, h => h
  | throw e, _ => hf e

lemma EndsIn.mono {post post' : α → Prop} (h : ∀ a, post a → post' a) :
    ∀ {p : Prog Ret ε α}, EndsIn post p → EndsIn post' p
  | ret a, hp => h a hp
  | throw _, _ => trivial

/-- A program that makes no call stops. -/
lemma EndsIn.stops {post : α → Prop} : ∀ {p : Prog Ret ε α}, EndsIn post p → Stops fail post p
  | ret _, _ => trivial
  | throw _, _ => trivial

lemma Stops.mono {post post' : α → Prop} (h : ∀ a, post a → post' a) :
    ∀ {p : Prog Ret ε α}, Stops fail post p → Stops fail post' p
  | ret _, _ => trivial
  | throw _, _ => trivial
  | call _ _, hp => fun r => ⟨fun hr => ((hp r).1 hr).mono h, Stops.mono h (hp r).2⟩

/-- **Sequencing**: what follows a program makes no call on the values that the program returns
after a failure. -/
lemma Stops.bind {f : α → Prog Ret ε β} (hend : ∀ a, mid a → EndsIn post (f a))
    (hf : ∀ a, Stops fail post (f a)) :
    ∀ {p : Prog Ret ε α}, Stops fail mid p → Stops fail post (p >>= f)
  | ret a, _ => hf a
  | throw _, _ => trivial
  | call _ _, h => fun r =>
    ⟨fun hr => ((h r).1 hr).bind hend, Stops.bind hend hf (h r).2⟩

/-- **Handlers** that make no call. -/
lemma Stops.tryCatch {post : α → Prop} {f : ε → Prog Ret ε α} (hf : ∀ e, EndsIn post (f e)) :
    ∀ {p : Prog Ret ε α}, Stops fail post p → Stops fail post (MonadExcept.tryCatch p f)
  | ret _, _ => trivial
  | throw e, _ => (hf e).stops
  | call _ _, h => fun r => ⟨fun hr => ((h r).1 hr).tryCatch hf, Stops.tryCatch hf (h r).2⟩

lemma stops_perform {o : Op} {post : Ret o → Prop} (h : ∀ r, fail o r → post r) :
    Stops fail post (perform o : Prog Ret ε (Ret o)) := fun r => ⟨h r, trivial⟩

lemma stops_settle {post : α → Prop} {φ : Type} {wrap : φ → ε} {x : Except φ α} :
    Stops fail post (settle wrap x : Prog Ret ε α) := by
  cases x <;> trivial

lemma stops_throwIf {post : Unit → Prop} {c : Prop} [Decidable c] {e : ε} :
    Stops fail post (throwIf c e : Prog Ret ε Unit) := by
  unfold throwIf
  split_ifs <;> trivial

end Prog

/-! ## The system with lost answers -/

variable (lost : (o : Op) → Option (Ret o)) (S : Sys Ret ε α)

/-- **The system with lost answers**: a call takes its effect, and when its answer is lost the
program is given the answer of a failure. -/
@[reducible] def Sys.losing : Sys Ret ε α where
  Req := S.Req
  World := S.World
  Oracle := S.Oracle × Bool
  Env := S.Env
  Start := S.Start
  handler := S.handler
  exec := fun o x w => (S.exec o x.1 w).map fun (r, w') =>
    (if x.2 then (lost o).getD r else r, w')
  env := S.env

variable {lost S}

/-- The action with its answer delivered. -/
def Act.delivered : Act (S.losing lost) → Act S
  | .arrive r => .arrive r
  | .run pid x => .run pid x.1
  | .env e => .env e

/-- **A request is explained** by one whose answers were all delivered: they are the same, or the
last answer of the first was lost and it has made its last call. -/
inductive Proc.ExplainedBy (p : Proc (S.losing lost)) (q : Proc S) : Prop
  | same (h : q = ⟨p.req, p.past, p.todo⟩)
  | lost (past : List (Event Ret)) (o : Op) (r r' : Ret o) (req : q.req = p.req)
      (hlost : lost o = some r) (hp : p.past = past ++ [⟨o, r⟩]) (hq : q.past = past ++ [⟨o, r'⟩])
      (ends : p.todo.EndsIn fun _ => True)

/-- **A configuration is explained** by one whose answers were all delivered: the world is the same,
and every request is explained. -/
structure Conf.ExplainedBy (c : Conf (S.losing lost)) (d : Conf S) : Prop where
  world : d.world = c.world
  procs : List.Forall₂ Proc.ExplainedBy c.procs d.procs

/-- The handlers of a system stop at lost answers. -/
def Sys.Stops (S : Sys Ret ε α) (lost : (o : Op) → Option (Ret o)) : Prop :=
  ∀ r, (S.handler r).Stops (fun o r => lost o = some r) fun _ => True

/-- The requests of a configuration stop at lost answers. -/
def Conf.Stops (d : Conf S) (lost : (o : Op) → Option (Ret o)) : Prop :=
  ∀ q ∈ d.procs, q.todo.Stops (fun o r => lost o = some r) fun _ => True

/-- A request that can be run is the one that explains it. -/
lemma Proc.ExplainedBy.eq {p : Proc (S.losing lost)} {q : Proc S} (h : p.ExplainedBy q) {o : Op}
    {k : Ret o → Prog Ret ε α} (hk : p.todo = .call o k) : q = ⟨p.req, p.past, p.todo⟩ := by
  cases h with
  | same h => exact h
  | lost past o r r' _ _ _ _ ends =>
    rw [hk] at ends
    exact ends.elim

/-- The request is the same. -/
lemma Proc.ExplainedBy.req_eq {p : Proc (S.losing lost)} {q : Proc S} (h : p.ExplainedBy q) :
    q.req = p.req := by
  cases h with
  | same h => rw [h]
  | lost _ _ _ _ req => exact req

/-- An answer that has arrived was given to the request that explains it. -/
lemma Proc.ExplainedBy.mem {p : Proc (S.losing lost)} {q : Proc S} (h : p.ExplainedBy q)
    {e : Event Ret} (he : e ∈ p.past) (harrived : lost e.op ≠ some e.res) : e ∈ q.past := by
  cases h with
  | same h => rwa [h]
  | lost past o r r' _ hlost hp hq _ =>
    rw [hp] at he
    rcases List.mem_append.mp he with hmem | hmem
    · rw [hq]
      exact List.mem_append_left _ hmem
    · obtain rfl := List.mem_singleton.mp hmem
      exact absurd hlost harrived

namespace Conf

variable {c c' : Conf (S.losing lost)} {d d' : Conf S}

lemma ExplainedBy.get (h : c.ExplainedBy d) {pid : ℕ} {p : Proc (S.losing lost)}
    (hp : c.procs[pid]? = some p) : ∃ q, d.procs[pid]? = some q ∧ p.ExplainedBy q := by
  obtain ⟨hlt, rfl⟩ := List.getElem?_eq_some_iff.mp hp
  have hlt' : pid < d.procs.length := h.procs.length_eq ▸ hlt
  exact ⟨_, List.getElem?_eq_getElem hlt', h.procs.get hlt hlt'⟩

/-- One request is replaced on both sides. -/
lemma ExplainedBy.set (h : c.ExplainedBy d) (w : S.World) {pid : ℕ} {p : Proc (S.losing lost)}
    {q : Proc S} (hpq : p.ExplainedBy q) :
    (⟨w, c.procs.set pid p⟩ : Conf (S.losing lost)).ExplainedBy
      (⟨w, d.procs.set pid q⟩ : Conf S) := by
  refine ⟨rfl, ?_⟩
  obtain ⟨hlen, hget⟩ := List.forall₂_iff_get.mp h.procs
  refine List.forall₂_iff_get.mpr ⟨by simpa using hlen, fun i hi hi' => ?_⟩
  simp only [List.get_eq_getElem, List.getElem_set]
  split_ifs
  · exact hpq
  · exact hget i _ _

/-- **A call is explained**: its effect is the one of the call whose answer is delivered. -/
lemma ExplainedBy.run (h : c.ExplainedBy d) (hstop : d.Stops lost) {pid : ℕ} {x : S.Oracle × Bool}
    (hn : (S.losing lost).next c (.run pid x) = some c') :
    ∃ d', S.next d (.run pid x.1) = some d' ∧ c'.ExplainedBy d' ∧ d'.Stops lost := by
  obtain ⟨p, o, k, r, w, hp, hk, hx, rfl⟩ := Sys.next_run hn
  obtain ⟨⟨r', w'⟩, hx', heq⟩ := Option.map_eq_some_iff.mp hx
  obtain ⟨rfl, rfl⟩ := Prod.mk.inj heq
  obtain ⟨q, hq, hpq⟩ := h.get hp
  obtain rfl := hpq.eq hk
  have hstops := hstop _ (List.mem_of_getElem? hq)
  rw [hk] at hstops hq
  refine ⟨⟨w', d.procs.set pid ⟨p.req, p.past ++ [⟨o, r'⟩], k r'⟩⟩, ?_, h.set w' ?_, ?_⟩
  · simp only [Sys.next, hq, h.world, hx', Option.map_some]
  · cases hlost : x.2 with
    | false => exact .same rfl
    | true =>
      cases hr : lost o with
      | none => exact .same rfl
      | some r => exact .lost p.past o r r' rfl hr rfl rfl ((hstops r).1 hr)
  · intro q' hq'
    rcases List.mem_or_eq_of_mem_set hq' with hmem | rfl
    · exact hstop q' hmem
    · exact (hstops r').2

/-- **A step is explained** by the step with its answer delivered. -/
lemma ExplainedBy.step (hhandler : S.Stops lost) (h : c.ExplainedBy d) (hstop : d.Stops lost)
    {a : Act (S.losing lost)} (hn : (S.losing lost).next c a = some c') :
    ∃ d', S.next d a.delivered = some d' ∧ c'.ExplainedBy d' ∧ d'.Stops lost := by
  cases a with
  | run pid x => exact h.run hstop hn
  | arrive r =>
    cases hn
    refine ⟨_, rfl, ⟨h.world, ?_⟩, fun q hq => ?_⟩
    · exact List.rel_append h.procs (.cons (.same rfl) .nil)
    · rcases List.mem_append.mp hq with hmem | hmem
      · exact hstop q hmem
      · obtain rfl := List.mem_singleton.mp hmem
        exact hhandler r
  | env e =>
    obtain ⟨w, hw, rfl⟩ := Option.map_eq_some_iff.mp hn
    have hw' : S.env e d.world = some w := h.world ▸ hw
    exact ⟨{ d with world := w }, by simp only [Act.delivered, Sys.next, hw', Option.map_some],
      ⟨rfl, h.procs⟩, hstop⟩

/-- **Actions are explained** by the actions with their answers delivered. -/
lemma ExplainedBy.runTo (hhandler : S.Stops lost) {as : List (Act (S.losing lost))}
    (h : c.ExplainedBy d) (hstop : d.Stops lost) (hn : (S.losing lost).runTo c as = some c') :
    ∃ d', S.runTo d (as.map Act.delivered) = some d' ∧ c'.ExplainedBy d' := by
  induction as generalizing c d with
  | nil =>
    cases hn
    exact ⟨d, rfl, h⟩
  | cons a as ih =>
    obtain ⟨c₁, h₁, hn'⟩ := Option.bind_eq_some_iff.mp hn
    obtain ⟨d₁, hd₁, hex, hstop₁⟩ := h.step hhandler hstop h₁
    obtain ⟨d', hd', hex'⟩ := ih hex hstop₁ hn'
    exact ⟨d', by simp only [List.map_cons, Sys.runTo, hd₁, Option.bind_some, hd'], hex'⟩

/-- **From a start**, before any request has arrived. -/
lemma explainedBy_runTo (hhandler : S.Stops lost) {w : S.World}
    {as : List (Act (S.losing lost))} (hn : (S.losing lost).runTo ⟨w, []⟩ as = some c) :
    ∃ d, S.runTo ⟨w, []⟩ (as.map Act.delivered) = some d ∧ c.ExplainedBy d := by
  have h0 : (⟨w, []⟩ : Conf (S.losing lost)).ExplainedBy (⟨w, []⟩ : Conf S) := ⟨rfl, .nil⟩
  exact h0.runTo hhandler (fun q hq => absurd hq List.not_mem_nil) hn

end Conf

namespace Run

variable (hhandler : S.Stops lost) (R : Run (S.losing lost))

include hhandler in
/-- The actions of a run can be taken with every answer delivered. -/
lemma delivered_ok : (S.runTo ⟨R.start, []⟩ (R.acts.map Act.delivered)).isSome := by
  obtain ⟨c, hc⟩ := Option.isSome_iff_exists.mp R.ok
  obtain ⟨d, hd, -⟩ := Conf.explainedBy_runTo hhandler hc
  exact Option.isSome_iff_exists.mpr ⟨d, hd⟩

/-- **The run with every answer delivered.** -/
def delivered : Run S where
  start := R.start
  acts := R.acts.map Act.delivered
  isStart := R.isStart
  ok := R.delivered_ok hhandler

lemma delivered_len : (R.delivered hhandler).len = R.len := List.length_map _

/-- **A run with lost answers is explained** by the run in which every answer is delivered: at every
time the worlds are the same, and every request is the same unless its last answer was lost.

**Proof sketch.** Step by step, a call takes the same effect in both runs. When its answer is lost,
the request has made its last call, and in the other run it is not run again. -/
theorem delivered_explains (i : ℕ) : (R.conf i).ExplainedBy ((R.delivered hhandler).conf i) := by
  obtain ⟨d, hd, hex⟩ := Conf.explainedBy_runTo hhandler (R.runTo_take (i := i))
  have htake : (R.delivered hhandler).conf i = d := by
    rw [List.map_take] at hd
    exact Option.some.inj ((R.delivered hhandler).runTo_take.symm.trans hd)
  rwa [htake]

/-- The world is the one of the run in which every answer is delivered. -/
lemma delivered_world (i : ℕ) : (R.delivered hhandler).world i = R.world i :=
  (R.delivered_explains hhandler i).world

/-- A request is explained by the same request of the run in which every answer is delivered. -/
lemma delivered_proc {i pid : ℕ} {p : Proc (S.losing lost)} (hp : R.proc i pid = some p) :
    ∃ q, (R.delivered hhandler).proc i pid = some q ∧ p.ExplainedBy q :=
  (R.delivered_explains hhandler i).get hp

end Run

end Async
