import Mathlib.Data.Nat.Init
import Mathlib.Order.Basic
import Fapi2As.Async.Prog

set_option relaxedAutoImplicit false
set_option autoImplicit false

/-!
# Interleaved runs of asynchronous programs

A system serves requests: each request starts the program its handler gives, and the programs of
all requests in flight share one world. A step lets a new request arrive, lets one program make
its pending call and run on to its next call, or lets the world move on its own (time passing,
an operator's change). Any program may be chosen at any step, so the runs of the system are all
the interleavings of the requests at their calls.

What a call does to the world may depend on things outside the model (random values, another
service); the action that makes the step carries them, so a run is given by its list of actions
and can be evaluated.

## Main definitions

* `Async.Sys` — a system; `Async.Proc`, `Async.Conf` — a request in flight, a configuration.
* `Async.Sys.next` — one step; `Async.Run` — a list of actions that can all be taken.
* `Async.Run.Does` — at step `i` the process `pid` makes the call of an event.

## Main results

* `Async.Run.did_at`, `Async.Run.did` — every call in a process's past was made at some earlier
  step; `Async.Run.Does.unique` — at one step only.
* `Async.Run.path` — a process is on a path of its handler.
* `Async.Run.wp_proc` — a program fact about the handlers holds of every process at every time.
* `Async.Run.world_step` — what a step can do to the world.
* `Async.Run.origin` — where the values in the world come from.
* `Async.Run.becomes`, `Async.Run.stays` — how a property of the world comes to hold, and when
  it is kept; `Async.Run.Rises.mono` — a quantity that never falls.
-/

namespace Async

variable {Op : Type} {Ret : Op → Type} {ε α : Type}

/-- A system of programs over the interface `Ret`. -/
structure Sys (Ret : Op → Type) (ε α : Type) where
  /-- The requests it serves. -/
  Req : Type
  /-- The state its programs share. -/
  World : Type
  /-- What a call leaves to the outside. -/
  Oracle : Type
  /-- The moves of the world that no program makes. -/
  Env : Type
  /-- The worlds a run may start from. -/
  Start : World → Prop
  /-- The program that serves a request. -/
  handler : Req → Prog Ret ε α
  /-- The effect of a call and its answer. -/
  exec : (o : Op) → Oracle → World → Option (Ret o × World)
  /-- The effect of a move of the world. -/
  env : Env → World → Option World

/-- A request being served: the calls made so far and the rest of the program. -/
structure Proc (S : Sys Ret ε α) where
  /-- The request. -/
  req : S.Req
  /-- The calls made for it, oldest first. -/
  past : List (Event Ret)
  /-- What is left to do. -/
  todo : Prog Ret ε α

/-- A configuration: the world and the requests seen so far, in order of arrival. -/
structure Conf (S : Sys Ret ε α) where
  /-- The shared state. -/
  world : S.World
  /-- The requests. -/
  procs : List (Proc S)

/-- What can happen next. -/
inductive Act (S : Sys Ret ε α) : Type
  | arrive (r : S.Req)
  | run (pid : ℕ) (x : S.Oracle)
  | env (e : S.Env)

namespace Sys

variable (S : Sys Ret ε α)

/-- One step of the system. -/
def next (c : Conf S) : Act S → Option (Conf S)
  | .arrive r => some { c with procs := c.procs ++ [⟨r, [], S.handler r⟩] }
  | .run pid x =>
    match c.procs[pid]? with
    | some ⟨r, past, .call o k⟩ =>
      (S.exec o x c.world).map fun (res, w) =>
        { world := w, procs := c.procs.set pid ⟨r, past ++ [⟨o, res⟩], k res⟩ }
    | _ => none
  | .env e => (S.env e c.world).map fun w => { c with world := w }

/-- Take the actions of a list in order. -/
def runTo (c : Conf S) : List (Act S) → Option (Conf S)
  | [] => some c
  | a :: as => (S.next c a).bind fun c' => runTo c' as

variable {S}

/-- A list of actions is taken in two parts. -/
lemma runTo_append (c : Conf S) (as bs : List (Act S)) :
    S.runTo c (as ++ bs) = (S.runTo c as).bind fun c' => S.runTo c' bs := by
  induction as generalizing c with
  | nil => rfl
  | cons a as ih =>
    simp only [List.cons_append, runTo, Option.bind_assoc]
    congr 1
    funext c'
    exact ih c'

/-- **The steps of a process**: a process can only be run at a pending call, whose effect gives
the new world and whose answer goes to the rest of its program. -/
lemma next_run {c c' : Conf S} {pid : ℕ} {x : S.Oracle} (h : S.next c (.run pid x) = some c') :
    ∃ p o k res w, c.procs[pid]? = some p ∧ p.todo = .call o k ∧
      S.exec o x c.world = some (res, w) ∧
      c' = ⟨w, c.procs.set pid ⟨p.req, p.past ++ [⟨o, res⟩], k res⟩⟩ := by
  simp only [next] at h
  split at h
  · rename_i r past o k hp
    obtain ⟨⟨res, w⟩, hx, rfl⟩ := Option.map_eq_some_iff.mp h
    exact ⟨_, o, k, res, w, hp, rfl, hx, rfl⟩
  · cases h

end Sys

/-- A run: a starting configuration in which no request has arrived, and actions that can all be
taken from it. -/
structure Run (S : Sys Ret ε α) where
  /-- The world at the start. -/
  start : S.World
  /-- The actions, in order. -/
  acts : List (Act S)
  /-- The world at the start is one the system starts from. -/
  isStart : S.Start start
  /-- Every action can be taken when its turn comes. -/
  ok : (S.runTo ⟨start, []⟩ acts).isSome

namespace Run

variable {S : Sys Ret ε α} (R : Run S)

/-- The number of steps. -/
def len : ℕ := R.acts.length

/-- The configuration after `i` steps. -/
def conf (i : ℕ) : Conf S := (S.runTo ⟨R.start, []⟩ (R.acts.take i)).getD ⟨R.start, []⟩

/-- The world after `i` steps. -/
def world (i : ℕ) : S.World := (R.conf i).world

/-- The process `pid` after `i` steps. -/
def proc (i pid : ℕ) : Option (Proc S) := (R.conf i).procs[pid]?

@[simp] lemma world_zero : R.world 0 = R.start := by simp [world, conf, Sys.runTo]

@[simp] lemma proc_zero (pid : ℕ) : R.proc 0 pid = none := by simp [proc, conf, Sys.runTo]

/-- After `i` steps the first `i` actions have been taken. -/
lemma runTo_take {i : ℕ} : S.runTo ⟨R.start, []⟩ (R.acts.take i) = some (R.conf i) := by
  have h := R.ok
  rw [← List.take_append_drop i R.acts, Sys.runTo_append] at h
  cases hc : S.runTo ⟨R.start, []⟩ (R.acts.take i) with
  | none => simp [hc] at h
  | some c => simp [conf, hc]

/-- Every step of a run is a step of the system. -/
lemma step {i : ℕ} (h : i < R.len) :
    S.next (R.conf i) (R.acts.get ⟨i, h⟩) = some (R.conf (i + 1)) := by
  have h1 := R.runTo_take (i := i + 1)
  rw [List.take_succ_eq_append_getElem h, Sys.runTo_append, R.runTo_take] at h1
  simp only [Sys.runTo, Option.bind_some, Option.bind_fun_some] at h1
  exact h1

/-- At step `i` the process `pid`, in state `p`, makes the call `e.op` and is answered `e.res`. -/
structure Does (i pid : ℕ) (p : Proc S) (e : Event Ret) : Prop where
  /-- The step is one of the run. -/
  lt : i < R.len
  /-- The process is in state `p` before the step. -/
  proc : R.proc i pid = some p
  /-- The call was pending, and its answer goes to the rest of the program. -/
  todo : ∃ k, p.todo = .call e.op k ∧
    R.proc (i + 1) pid = some ⟨p.req, p.past ++ [e], k e.res⟩
  /-- The call takes its effect on the world. -/
  exec : ∃ x, R.acts[i]? = some (.run pid x) ∧
    S.exec e.op x (R.world i) = some (e.res, R.world (i + 1))

/-- What happens at step `i`: a request arrives, a process makes a call, or the world moves. -/
inductive Happens (i : ℕ) : Prop
  | arrive (r : S.Req) (world : R.world (i + 1) = R.world i)
      (procs : (R.conf (i + 1)).procs = (R.conf i).procs ++ [⟨r, [], S.handler r⟩])
  | does (pid : ℕ) (p : Proc S) (e : Event Ret) (h : R.Does i pid p e)
      (others : ∀ q, q ≠ pid → R.proc (i + 1) q = R.proc i q)
  | env (e : S.Env) (act : R.acts[i]? = some (.env e))
      (world : S.env e (R.world i) = some (R.world (i + 1)))
      (procs : (R.conf (i + 1)).procs = (R.conf i).procs)

/-- **Every step is one of the three kinds.** -/
lemma happens {i : ℕ} (h : i < R.len) : R.Happens i := by
  have hs := R.step h
  have ha : R.acts[i]? = some (R.acts.get ⟨i, h⟩) := List.getElem?_eq_getElem h
  cases hact : R.acts.get ⟨i, h⟩ with
  | arrive r =>
    rw [hact] at hs
    have hc : R.conf (i + 1) = _ := (Option.some.inj hs).symm
    exact .arrive r (by simp only [world, hc]) (by simp only [hc])
  | run pid x =>
    rw [hact] at hs ha
    obtain ⟨p, o, k, res, w, hp, hk, hx, hc⟩ := Sys.next_run hs
    have hlt : pid < (R.conf i).procs.length := (List.getElem?_eq_some_iff.mp hp).1
    refine .does pid p ⟨o, res⟩ ⟨h, hp, ⟨k, hk, ?_⟩, x, ha, ?_⟩ fun q hq => ?_
    · simp only [proc, hc, List.getElem?_set_self hlt]
    · simp only [world, hc]
      exact hx
    · simp only [proc, hc, List.getElem?_set_ne hq.symm]
  | env e =>
    rw [hact] at hs ha
    obtain ⟨w, hw, hc⟩ := Option.map_eq_some_iff.mp hs
    exact .env e ha (by simp only [world, ← hc]; exact hw) (by simp only [← hc])

/-- What a step can do to the world: nothing, the effect of one call, or a move of its own. -/
lemma world_step {i : ℕ} (h : i < R.len) :
    R.world (i + 1) = R.world i ∨ (∃ pid p e, R.Does i pid p e) ∨
      ∃ e, R.acts[i]? = some (.env e) ∧ S.env e (R.world i) = some (R.world (i + 1)) := by
  cases R.happens h with
  | arrive r hw _ => exact .inl hw
  | does pid p e h _ => exact .inr (.inl ⟨pid, p, e, h⟩)
  | env e ha hw _ => exact .inr (.inr ⟨e, ha, hw⟩)

/-! ## Processes over time -/

/-- A step changes a process only by running it. -/
lemma proc_step {i pid : ℕ} {p : Proc S} (h : i < R.len) (hp : R.proc i pid = some p) :
    R.proc (i + 1) pid = some p ∨ ∃ e, R.Does i pid p e := by
  cases R.happens h with
  | arrive r _ hps =>
    left
    rw [proc, hps, List.getElem?_append_left (List.getElem?_eq_some_iff.mp hp).1]
    exact hp
  | does q p' e hd ho =>
    by_cases hq : pid = q
    · subst hq
      obtain rfl : p' = p := by simpa [hp, eq_comm] using hd.proc
      exact .inr ⟨e, hd⟩
    · exact .inl ((ho pid hq).trans hp)
  | env e _ _ hps => exact .inl (by rw [proc, hps]; exact hp)

/-- A process seen after a step was there before it, has just arrived, or was run by it. -/
lemma proc_succ {i pid : ℕ} {q : Proc S} (h : i < R.len) (hq : R.proc (i + 1) pid = some q) :
    R.proc i pid = some q ∨ (∃ r, q = ⟨r, [], S.handler r⟩) ∨
      ∃ p e k, R.Does i pid p e ∧ p.todo = .call e.op k ∧ q = ⟨p.req, p.past ++ [e], k e.res⟩ := by
  cases R.happens h with
  | arrive r _ hps =>
    rw [proc, hps, List.getElem?_append] at hq
    split_ifs at hq with hlt
    · exact .inl hq
    · exact .inr (.inl ⟨r, (List.mem_singleton.mp (List.mem_of_getElem? hq))⟩)
  | does r p e hd ho =>
    by_cases hr : pid = r
    · subst hr
      obtain ⟨k, hk, hk'⟩ := hd.todo
      exact .inr (.inr ⟨p, e, k, hd, hk, by simpa [hq] using hk'⟩)
    · exact .inl ((ho pid hr).symm.trans hq)
  | env e _ _ hps => exact .inl (by rw [proc, hps] at hq; exact hq)

/-- A process stays, keeps its request, and keeps the calls it has made. -/
lemma proc_mono {i j pid : ℕ} {p : Proc S} (hij : i ≤ j) (hj : j ≤ R.len)
    (hp : R.proc i pid = some p) :
    ∃ q, R.proc j pid = some q ∧ q.req = p.req ∧ p.past <+: q.past := by
  induction j, hij using Nat.le_induction with
  | base => exact ⟨p, hp, rfl, List.prefix_rfl⟩
  | succ j hij ih =>
    obtain ⟨q, hq, hr, hpast⟩ := ih (by omega)
    rcases R.proc_step (by omega) hq with h | ⟨e, hd⟩
    · exact ⟨q, h, hr, hpast⟩
    · obtain ⟨k, -, hk⟩ := hd.todo
      exact ⟨_, hk, hr, hpast.trans (List.prefix_append _ _)⟩

/-- A process that is not at a call stays as it is. -/
lemma proc_stays {i j pid : ℕ} {p : Proc S} (hij : i ≤ j) (hj : j ≤ R.len)
    (hp : R.proc i pid = some p) (hcall : ∀ o k, p.todo ≠ .call o k) : R.proc j pid = some p := by
  induction j, hij using Nat.le_induction with
  | base => exact hp
  | succ j hij ih =>
    rcases R.proc_step (by omega) (ih (by omega)) with h | ⟨e, hd⟩
    · exact h
    · obtain ⟨k, hk, -⟩ := hd.todo
      exact absurd hk (hcall _ _)

/-- A request that has been answered. -/
def IsAnswered (i pid : ℕ) : Prop := ∃ r past a, R.proc i pid = some ⟨r, past, .ret a⟩

/-- A process that was there and unanswered, and is answered later, was run in between, with all
the calls in its past that it had made before. -/
lemma runs_until_answered {i j pid : ℕ} {p : Proc S} (hij : i ≤ j) (hj : j ≤ R.len)
    (hp : R.proc i pid = some p) (hi : ¬R.IsAnswered i pid) (h : R.IsAnswered j pid) :
    ∃ k q e, i ≤ k ∧ k < j ∧ R.Does k pid q e ∧ p.past <+: q.past := by
  induction j, hij using Nat.le_induction with
  | base => exact absurd h hi
  | succ j hij ih =>
    by_cases ha : R.IsAnswered j pid
    · obtain ⟨k, q, e, hk, hlt, hd⟩ := ih (by omega) ha
      exact ⟨k, q, e, hk, by omega, hd⟩
    · obtain ⟨q, hq, -, hpast⟩ := R.proc_mono hij (by omega) hp
      rcases R.proc_step (by omega) hq with hs | ⟨e, hd⟩
      · obtain ⟨r, past, a, h⟩ := h
        obtain rfl := Option.some.inj (hs.symm.trans h)
        exact absurd ⟨r, past, a, hq⟩ ha
      · exact ⟨j, q, e, hij, by omega, hd, hpast⟩

/-- **Every call in a process's past was made at an earlier step**, by the same process serving
the same request, after exactly the calls that stand before it.

**Proof sketch.** Induction on the number of steps. A step that runs the process adds one call
to its past, made at that step; every other step leaves its past as it was. -/
lemma did_at {i pid : ℕ} {p : Proc S} {before after : List (Event Ret)} {e : Event Ret}
    (hi : i ≤ R.len) (hp : R.proc i pid = some p) (he : p.past = before ++ e :: after) :
    ∃ j < i, ∃ q, R.Does j pid q e ∧ q.req = p.req ∧ q.past = before := by
  induction i generalizing p after with
  | zero => simp at hp
  | succ i ih =>
    rcases R.proc_succ (by omega) hp with h | ⟨r, rfl⟩ | ⟨q, f, k, hd, -, rfl⟩
    · obtain ⟨j, hj, hq⟩ := ih (by omega) h he
      exact ⟨j, by omega, hq⟩
    · simp at he
    · rcases List.eq_nil_or_concat after with rfl | ⟨after', g, rfl⟩
      · obtain ⟨h1, h2⟩ := List.append_inj' he rfl
        obtain rfl : f = e := by simpa using h2
        exact ⟨i, by omega, q, hd, rfl, h1⟩
      · have he' : q.past ++ [f] = (before ++ e :: after') ++ [g] := by simpa using he
        obtain ⟨j, hj, hq⟩ := ih (by omega) hd.proc (List.append_inj' he' rfl).1
        exact ⟨j, by omega, hq⟩

/-- Every call in a process's past was made at an earlier step. -/
lemma did {i pid : ℕ} {p : Proc S} {e : Event Ret} (hi : i ≤ R.len) (hp : R.proc i pid = some p)
    (he : e ∈ p.past) :
    ∃ j < i, ∃ q, R.Does j pid q e ∧ q.req = p.req ∧ q.past ++ [e] <+: p.past := by
  obtain ⟨before, after, h⟩ := List.append_of_mem he
  obtain ⟨j, hj, q, hq, hr, rfl⟩ := R.did_at hi hp h
  exact ⟨j, hj, q, hq, hr, after, by simp [h]⟩

/-- A process makes one call at each position of its past. -/
lemma Does.unique {R : Run S} {i j pid : ℕ} {p q : Proc S} {e f : Event Ret} (hi : R.Does i pid p e)
    (hj : R.Does j pid q f) (h : p.past.length = q.past.length) : i = j := by
  have key : ∀ {i j : ℕ} {p q : Proc S} {e f : Event Ret}, R.Does i pid p e → R.Does j pid q f →
      p.past.length = q.past.length → ¬i < j := by
    intro i j p q e f hi hj h hlt
    obtain ⟨k, -, hk⟩ := hi.todo
    obtain ⟨q', hq', -, hpre⟩ := R.proc_mono hlt (Nat.le_of_lt hj.lt) hk
    obtain rfl : q' = q := by simpa [hj.proc, eq_comm] using hq'
    have := hpre.length_le
    simp only [List.length_append, List.length_singleton] at this
    omega
  have h1 := key hi hj h
  have h2 := key hj hi h.symm
  omega

/-- At one step at most one call is made. -/
lemma Does.functional {R : Run S} {i pid pid' : ℕ} {p p' : Proc S} {e e' : Event Ret}
    (h : R.Does i pid p e) (h' : R.Does i pid' p' e') : pid = pid' ∧ p = p' ∧ e = e' := by
  obtain ⟨x, hx, -⟩ := h.exec
  obtain ⟨x', hx', -⟩ := h'.exec
  obtain ⟨rfl, -⟩ : pid = pid' ∧ x = x' := by simpa [hx] using hx'
  obtain rfl : p = p' := by simpa [h.proc] using h'.proc
  obtain ⟨k, hk, hq⟩ := h.todo
  obtain ⟨k', hk', hq'⟩ := h'.todo
  rw [hq] at hq'
  have hpast := congrArg Proc.past (Option.some.inj hq')
  exact ⟨rfl, rfl, by simpa using hpast⟩

/-- Every process is on a path of its handler. -/
lemma path {i pid : ℕ} {p : Proc S} (hi : i ≤ R.len) (hp : R.proc i pid = some p) :
    Prog.Path (S.handler p.req) p.past p.todo := by
  induction i generalizing p with
  | zero => simp at hp
  | succ i ih =>
    rcases R.proc_succ (by omega) hp with h | ⟨r, rfl⟩ | ⟨q, e, k, hd, hk, rfl⟩
    · exact ih (by omega) h
    · exact .done _
    · have hq := ih (by omega) hd.proc
      rw [hk] at hq
      exact hq.snoc e.res

/-- Two states of a process with the same calls are the same. -/
lemma proc_eq_of_past {i j pid : ℕ} {p q : Proc S} (hi : i ≤ R.len) (hj : j ≤ R.len)
    (hp : R.proc i pid = some p) (hq : R.proc j pid = some q) (h : p.past = q.past) : p = q := by
  have hreq : p.req = q.req := by
    rcases Nat.le_total i j with hij | hji
    · obtain ⟨q', hq', hr, -⟩ := R.proc_mono hij hj hp
      obtain rfl := Option.some.inj (hq.symm.trans hq')
      exact hr.symm
    · obtain ⟨p', hp', hr, -⟩ := R.proc_mono hji hi hq
      obtain rfl := Option.some.inj (hp.symm.trans hp')
      exact hr
  have hpath := R.path hi hp
  rw [hreq, h] at hpath
  have htodo := hpath.functional (R.path hj hq)
  obtain ⟨req, past, todo⟩ := p
  obtain ⟨req', past', todo'⟩ := q
  simp only at hreq h htodo
  rw [hreq, h, htodo]

/-! ## Program facts along a run -/

variable {pre : S.Req → List (Event Ret) → Op → Prop}
  {post : S.Req → List (Event Ret) → Except ε α → Prop}

/-- **A fact about all handlers holds of every process at every time.**

**Proof sketch.** Induction on the number of steps: an arriving process starts with the fact, and
running a process takes one of the branches the fact speaks about. -/
lemma wp_proc (hS : ∀ r, Prog.wp (pre r) (post r) [] (S.handler r)) {i pid : ℕ} {p : Proc S}
    (hi : i ≤ R.len) (hp : R.proc i pid = some p) :
    Prog.wp (pre p.req) (post p.req) p.past p.todo := by
  induction i generalizing p with
  | zero => simp at hp
  | succ i ih =>
    rcases R.proc_succ (by omega) hp with h | ⟨r, rfl⟩ | ⟨q, e, k, hd, hk, rfl⟩
    · exact ih (by omega) h
    · exact hS r
    · have hq := ih (by omega) hd.proc
      rw [hk] at hq
      exact hq.2 e.res

/-- A call that is made meets what the handlers guarantee of their calls. -/
lemma Does.meets {R : Run S} (hS : ∀ r, Prog.wp (pre r) (post r) [] (S.handler r)) {i pid : ℕ}
    {p : Proc S} {e : Event Ret} (h : R.Does i pid p e) : pre p.req p.past e.op := by
  have hp := R.wp_proc hS (Nat.le_of_lt h.lt) h.proc
  obtain ⟨k, hk, -⟩ := h.todo
  rw [hk] at hp
  exact hp.1

/-- The answer of a finished process meets what the handlers guarantee of their answers. -/
lemma answered (hS : ∀ r, Prog.wp (pre r) (post r) [] (S.handler r)) {i pid : ℕ}
    {r : S.Req} {past : List (Event Ret)} {a : α} (hi : i ≤ R.len)
    (hp : R.proc i pid = some ⟨r, past, .ret a⟩) : post r past (.ok a) := R.wp_proc hS hi hp

/-- The exception of a failed process meets what the handlers guarantee of their exceptions. -/
lemma failed (hS : ∀ r, Prog.wp (pre r) (post r) [] (S.handler r)) {i pid : ℕ}
    {r : S.Req} {past : List (Event Ret)} {e : ε} (hi : i ≤ R.len)
    (hp : R.proc i pid = some ⟨r, past, .throw e⟩) : post r past (.error e) := R.wp_proc hS hi hp

/-! ## Properties of the world over time -/

/-- A property of the world that did not hold and holds later came to hold at some step. -/
lemma becomes {P : S.World → Prop} {m i : ℕ} (hmi : m ≤ i) (h0 : ¬P (R.world m))
    (h : P (R.world i)) : ∃ j, m ≤ j ∧ j < i ∧ ¬P (R.world j) ∧ P (R.world (j + 1)) := by
  induction i, hmi using Nat.le_induction with
  | base => exact absurd h h0
  | succ i hmi ih =>
    by_cases hi : P (R.world i)
    · obtain ⟨j, hj, hlt, hP⟩ := ih hi
      exact ⟨j, hj, by omega, hP⟩
    · exact ⟨i, hmi, by omega, hi, h⟩

/-- A property of the world that every step from `m` on keeps is kept. -/
lemma stays {P : S.World → Prop} {m i : ℕ} (hmi : m ≤ i) (h : P (R.world m))
    (hs : ∀ j, m ≤ j → j < i → P (R.world j) → P (R.world (j + 1))) : P (R.world i) := by
  induction i, hmi using Nat.le_induction with
  | base => exact h
  | succ i hmi ih => exact hs i hmi (by omega) (ih fun j hj hlt => hs j hj (by omega))

/-- A quantity of the world never falls. -/
def Rises {β : Type} [Preorder β] (f : S.World → β) : Prop :=
  ∀ j < R.len, f (R.world j) ≤ f (R.world (j + 1))

/-- A quantity never falls when no call and no move of the world lets it fall. -/
lemma rises_of_moves {β : Type} [Preorder β] {f : S.World → β}
    (hexec : ∀ o x w res w', S.exec o x w = some (res, w') → f w ≤ f w')
    (henv : ∀ j e, R.acts[j]? = some (.env e) → S.env e (R.world j) = some (R.world (j + 1)) →
      f (R.world j) ≤ f (R.world (j + 1))) : R.Rises f := by
  intro j hj
  rcases R.world_step hj with h | ⟨pid, p, e, h⟩ | ⟨e, ha, h⟩
  · rw [h]
  · obtain ⟨x, -, hx⟩ := h.exec
    exact hexec _ _ _ _ _ hx
  · exact henv j e ha h

/-- **A quantity that never falls is monotone along the run.** -/
lemma Rises.mono {R : Run S} {β : Type} [Preorder β] {f : S.World → β} (h : R.Rises f) {i j : ℕ}
    (hij : i ≤ j) (hj : j ≤ R.len) : f (R.world i) ≤ f (R.world j) := by
  induction j, hij using Nat.le_induction with
  | base => exact le_rfl
  | succ j _ ih => exact (ih (by omega)).trans (h j (by omega))

/-- **Where a value comes from**: a part of the world that is empty at the start, and whose values
a step keeps, up to what they hold besides their key, or introduces, holds values that some step
introduced. -/
lemma origin {ρ κ : Type} (get : S.World → Option ρ) (key : ρ → κ) (Introduces : ℕ → κ → Prop)
    (h0 : get R.start = none)
    (hstep : ∀ j < R.len, ∀ v, get (R.world (j + 1)) = some v →
      (∃ v', get (R.world j) = some v' ∧ key v' = key v) ∨ Introduces j (key v))
    {i : ℕ} (hi : i ≤ R.len) {v : ρ} (hv : get (R.world i) = some v) :
    ∃ j < i, Introduces j (key v) := by
  induction i generalizing v with
  | zero => rw [R.world_zero, h0] at hv; cases hv
  | succ i ih =>
    rcases hstep i (by omega) v hv with ⟨v', hv', hk⟩ | h
    · obtain ⟨j, hj, h⟩ := ih (by omega) hv'
      exact ⟨j, by omega, hk ▸ h⟩
    · exact ⟨i, by omega, h⟩

end Run

end Async
