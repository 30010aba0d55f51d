import Fapi2As.Server.Runs

set_option relaxedAutoImplicit false
set_option autoImplicit false

/-!
# Clock readings along a run

The clock is part of the state that all requests share, and only a move of the environment sets it.
When it is never set back, the readings of all requests are ordered as the steps at which they were
made.

## Main definitions

* `Fapi2As.ServerRun.ClockForward` — the clock is never set back.

## Main results

* `Fapi2As.ServerRun.clock_mono` — the clock is monotone along a run.
* `Fapi2As.ServerRun.first_reading_le` — the first reading of a request is its earliest.
-/

namespace Fapi2As

open Js Async

variable {P : Platform} {config : AppConfig} {backend : Backend}

namespace ServerRun

variable (R : ServerRun P config backend)

/-- The clock is never set back. -/
def ClockForward : Prop := R.Rises World.clock

variable {R}

/-- A run in which no move sets the clock back. -/
lemma clockForward_of_moves (h : ∀ i t, R.acts[i]? = some (.env (.setClock t)) →
    (R.world i).clock ≤ t) : R.ClockForward := by
  refine R.rises_of_moves (fun _ _ _ _ _ hx => (exec_clock hx).ge) fun i e ha he => ?_
  cases e with
  | setClock t =>
    simp only [envStep, Option.ite_none_right_eq_some, Option.some.injEq] at he
    rw [← he.2]
    exact h i t ha
  | upsertClient rec =>
    simp only [envStep, Option.some.injEq] at he
    rw [← he]

/-- **The clock is monotone along a run.** -/
lemma clock_mono (hclock : R.ClockForward) {i j : ℕ} (hij : i ≤ j) (hj : j ≤ R.len) :
    (R.world i).clock ≤ (R.world j).clock := hclock.mono hij hj

/-- A reading of the clock is its value at that step. -/
lemma clock_read {i pid : ℕ} {p : Proc (server P config backend)} {t : ℕ}
    (h : R.Does i pid p ⟨.now, t⟩) : (R.world i).clock = t := by
  obtain ⟨x, -, hx⟩ := h.exec
  have hx : exec P config backend .now x (R.world i) = some (t, R.world (i + 1)) := hx
  simp only [exec, Option.some.injEq, Prod.mk.injEq] at hx
  exact hx.1

/-- Readings are ordered as their steps. -/
lemma reading_mono (hclock : R.ClockForward) {i j pid pid' : ℕ}
    {p p' : Proc (server P config backend)} {t t' : ℕ} (h : R.Does i pid p ⟨.now, t⟩)
    (h' : R.Does j pid' p' ⟨.now, t'⟩) (hij : i ≤ j) : t ≤ t' := by
  have hmono := clock_mono hclock hij (Nat.le_of_lt h'.lt)
  rw [clock_read h, clock_read h'] at hmono
  exact hmono

/-- **The first reading of a request is its earliest.** -/
lemma first_reading_le (hclock : R.ClockForward) {i pid : ℕ} {p : Proc (server P config backend)}
    (hi : i ≤ R.len) (hp : R.proc i pid = some p) {t₀ t : ℕ}
    (hfirst : p.past.head? = some ⟨.now, t₀⟩) (ht : ⟨.now, t⟩ ∈ p.past) : t₀ ≤ t := by
  obtain ⟨rest, hrest⟩ := List.head?_eq_some_iff.mp hfirst
  rw [← List.nil_append (_ :: rest)] at hrest
  obtain ⟨before, after, hsplit⟩ := List.append_of_mem ht
  obtain ⟨j₀, hj₀, q₀, hd₀, -, hq₀⟩ := R.did_at hi hp hrest
  obtain ⟨j, hj, q, hd, -, hq⟩ := R.did_at hi hp hsplit
  by_cases hle : j₀ ≤ j
  · exact reading_mono hclock hd₀ hd hle
  · -- a later first reading would have no call before it that the other one had
    obtain ⟨k, -, hk⟩ := hd.todo
    obtain ⟨q', hq', -, hpre⟩ := R.proc_mono (i := j + 1) (by omega) (Nat.le_of_lt hd₀.lt) hk
    obtain rfl := Option.some.inj (hq'.symm.trans hd₀.proc)
    have hlen := hpre.length_le
    rw [hq₀] at hlen
    simp at hlen

end ServerRun

end Fapi2As
