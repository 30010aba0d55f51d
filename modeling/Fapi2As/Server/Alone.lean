import Fapi2As.Async.BigStep
import Fapi2As.Server.Runs

set_option relaxedAutoImplicit false
set_option autoImplicit false

/-!
# Programs of the server that run alone

The executions of a program of the server from a state while no other request makes a call, so that
the clock stands still and the tables change by its own calls only.

## Main definitions

* `Fapi2As.RunsAlone` — an execution of a program from a state.
* `Fapi2As.Call.isRead` — the calls that leave the state as it is.

## Main results

* `Fapi2As.alone_now`, `Fapi2As.alone_db` — one call.
* `Fapi2As.alone_reads` — a program that only reads leaves the state, and reads what is in it.
-/

namespace Fapi2As

open Js Async

variable {P : Platform} {config : AppConfig} {backend : Backend} {α : Type}

/-- A program of the server runs alone: from the state `w` it makes the calls `es`, has the outcome
`y` and leaves the state `w'`. -/
abbrev RunsAlone (P : Platform) (config : AppConfig) (backend : Backend) (p : Handler α) (w : World)
    (es : List Event) (y : Except Exn α) (w' : World) : Prop :=
  Sys.Alone (server P config backend) p w es y w'

/-- The calls that leave the state as it is. -/
def Call.isRead : Call → Bool
  | .db q => q.isRead
  | .now | .publicJwks | .signJwt _ _ | .evaluate _ | .fetchJwks _ => true
  | _ => false

variable {w w' : World} {es : List Event}

/-- A repository call that reads leaves the tables. -/
lemma exec_isRead_store {b : Backend} {s s' : Store} {x : DbChoice} {q : Query}
    {r : Except Fault q.Res} (h : b.exec s x q = (r, s')) (hq : q.isRead = true) : s' = s := by
  rcases Backend.exec_cases h with ⟨a, hc, -⟩ | ⟨hs, -⟩
  · have heq := hc.eq_memory (by cases q <;> first | rfl | cases hq)
    cases q <;> first | exact (Prod.mk.inj heq).2 | cases hq
  · exact hs

/-- A call that reads leaves the state. -/
lemma exec_isRead {o : Call} {x : Oracle} {r : Ret o}
    (h : exec P config backend o x w = some (r, w')) (ho : o.isRead = true) : w' = w := by
  cases o with
  | db q =>
    have hs := exec_isRead_store (exec_db h) ho
    simp only [exec, Option.some.injEq, Prod.mk.injEq] at h
    obtain ⟨-, rfl⟩ := h
    exact congrArg (fun s => { w with store := s }) hs
  | signJwt payload typ =>
    cases htoken : x.token with
    | ok token =>
      simp only [exec, htoken, Option.ite_none_right_eq_some, Option.some.injEq, Prod.mk.injEq] at h
      exact h.2.2.symm
    | error e =>
      simp only [exec, htoken, Option.some.injEq, Prod.mk.injEq] at h
      exact h.2.symm
  | now => cases h; rfl
  | publicJwks => cases h; rfl
  | evaluate _ => cases h; rfl
  | fetchJwks _ => cases h; rfl
  | _ => cases ho

/-- **A program that only reads leaves the state**, and its calls are answered in it. -/
lemma alone_reads {p : Handler α} {y : Except Exn α} (h : RunsAlone P config backend p w es y w')
    (hp : p.OnlyCalls fun o => o.isRead = true) :
    w' = w ∧ ∀ e ∈ es, ∃ x, exec P config backend e.op x w = some (e.res, w) :=
  h.reads (fun _ _ _ _ _ ho hx => exec_isRead hx ho) hp

/-- The clock is read. -/
lemma alone_now {y : Except Exn ℕ} (h : RunsAlone P config backend now w es y w') :
    es = [⟨.now, w.clock⟩] ∧ w' = w ∧ y = .ok w.clock := by
  obtain ⟨x, r, hx, rfl, rfl⟩ := h.perform
  have hx : some (w.clock, w) = some (r, w') := hx
  obtain ⟨rfl, rfl⟩ := Prod.mk.inj (Option.some.inj hx)
  exact ⟨rfl, rfl, rfl⟩

/-- A repository call is executed on the tables. -/
lemma alone_db_exec {q : Query} {y : Except Exn q.Res}
    (h : RunsAlone P config backend (db q) w es y w') :
    ∃ x r, backend.exec w.store x q = (r, w'.store) ∧ w' = { w with store := w'.store } ∧
      es = [⟨.db q, r⟩] ∧
        ((∃ a, r = .ok a ∧ y = .ok a) ∨ ∃ e, r = .error e ∧ y = .error .other) := by
  rcases h.bind with ⟨r, es₁, es₂, w₁, h1, h2, rfl⟩ | ⟨e, h1, rfl⟩
  · obtain ⟨x, r', hx, rfl, hr⟩ := h1.perform
    obtain rfl := Except.ok.inj hr
    obtain ⟨rfl, rfl, hsettled⟩ := h2.settle
    have hx : exec P config backend (.db q) x w = some (r, w') := hx
    refine ⟨x.db, r, exec_db hx, ?_, by simp, hsettled⟩
    simp only [exec, Option.some.injEq, Prod.mk.injEq] at hx
    obtain ⟨-, rfl⟩ := hx
    rfl
  · obtain ⟨_, _, _, -, hr⟩ := h1.perform
    cases hr

/-- **A repository call** is carried out on the tables, or rejects and leaves the state. -/
lemma alone_db {q : Query} {y : Except Exn q.Res}
    (h : RunsAlone P config backend (db q) w es y w') :
    (∃ a, Carried w.store q a w'.store ∧ w' = { w with store := w'.store } ∧ es = [⟨.db q, .ok a⟩] ∧
      y = .ok a) ∨
    w' = w ∧ es = [⟨.db q, .error .rejected⟩] ∧ y = .error .other := by
  obtain ⟨x, r, hx, hworld, rfl, hy⟩ := alone_db_exec h
  rcases Backend.exec_cases hx with ⟨a, hc, rfl⟩ | ⟨hs, rfl⟩
  · rcases hy with ⟨a', ha, rfl⟩ | ⟨e, he, -⟩
    · obtain rfl := Except.ok.inj ha
      exact .inl ⟨a, hc, hworld, rfl, rfl⟩
    · cases he
  · rcases hy with ⟨a', ha, -⟩ | ⟨e, he, rfl⟩
    · cases ha
    · refine .inr ⟨?_, rfl, rfl⟩
      rw [hworld, hs]

end Fapi2As
