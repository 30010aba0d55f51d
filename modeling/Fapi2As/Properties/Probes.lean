import Fapi2As.Async.Trace
import Fapi2As.Quota.Spacing
import Fapi2As.Readiness

set_option relaxedAutoImplicit false
set_option autoImplicit false

/-!
# Readiness probes do not load the storage

However many probes come and however they interleave, one ping is under way at a time and a ping is
sent only when the last answer is old, so the probes cannot send many pings. Each of them still
reports what a ping has found that ended while it was served, or shortly before.

## Main definitions

* `Fapi2As.ProbeRun` — the runs.
* `Fapi2As.ProbeStep` — what a step does to the shared variables.
* `Fapi2As.ProbeWorld.Sequential`, `Fapi2As.ProbeWorld.Timed` — what holds of the pings at all
  times.

## Main results

* `Fapi2As.ProbeRun.pings_bounded` — how many pings are sent in an interval.
* `Fapi2As.ProbeRun.probe_truthful` — what an answer rests on.
* `Fapi2As.ProbeRun.probe_goes_on` — no probe fails, and none waits for a ping that is not under
  way.
-/

namespace Fapi2As

open Js Async

variable {backend : Backend} {storage : String}

/-- The runs of the readiness probes of a server. -/
abbrev ProbeRun (backend : Backend) (storage : String) : Type := Run (probes backend storage)

/-! ## What a step does -/

/-- A ping is under way. -/
def ProbeWorld.InFlight (w : ProbeWorld) (n : ℕ) : Prop := ∃ s, w.pings[n]? = some ⟨s, none⟩

/-- **What a step does to the shared variables.** -/
inductive ProbeStep (w : ProbeWorld) : ProbeWorld → Prop
  | same : ProbeStep w w
  | send (hstale : w.isStale = true) (hnone : w.pendingPing = none) : ProbeStep w w.send
  | setClock (t : ℕ) : ProbeStep w { w with clock := t }
  | settle (n s : ℕ) (up : Bool) (h : w.pings[n]? = some ⟨s, none⟩) : ProbeStep w (w.settle n s up)

variable {w w' : ProbeWorld} {n : ℕ}

/-- Sending a ping adds one that is under way. -/
lemma ProbeWorld.mem_send {p : Ping} (hp : p ∈ w.send.pings) :
    p ∈ w.pings ∨ p = { startedAt := w.clock } :=
  (List.mem_append.mp hp).imp_right List.mem_singleton.mp

/-- The two ways in which a probe begins: the last answer is recent, or it waits for a ping. -/
lemma enter_cases {found : Option Bool ⊕ ℕ} (h : probeExec .enter () w = some (found, w')) :
    (w.isStale = false ∧ found = .inl w.up ∧ w' = w) ∨
      (w.isStale = true ∧ ∃ n, found = .inr n ∧
        ((w.pendingPing = some n ∧ w' = w) ∨
          (w.pendingPing = none ∧ n = w.pings.length ∧ w' = w.send))) := by
  simp only [probeExec] at h
  split_ifs at h with hstale
  · cases h
    refine .inr ⟨hstale, _, rfl, ?_⟩
    unfold ProbeWorld.join
    cases hpending : w.pendingPing with
    | some n => exact .inl ⟨rfl, rfl⟩
    | none => exact .inr ⟨rfl, rfl, rfl⟩
  · cases h
    exact .inl ⟨by simpa using hstale, rfl, rfl⟩

/-- A probe goes on when its ping has ended, and reads the last answer. -/
lemma resume_cases {up : Option Bool} (h : probeExec (.resume n) () w = some (up, w')) :
    (∃ s e, w.pings[n]? = some ⟨s, some e⟩) ∧ up = w.up ∧ w' = w := by
  simp only [probeExec] at h
  split_ifs at h with hended
  cases h
  obtain ⟨⟨s, ended⟩, hping, hsome⟩ := (Option.any_eq_true _ _).mp hended
  obtain ⟨e, he⟩ := Option.isSome_iff_exists.mp hsome
  obtain rfl : ended = some e := he
  exact ⟨⟨s, e, hping⟩, rfl, rfl⟩

/-- The callback of a ping runs when it ends. -/
lemma settle_cases {queried : Bool} (h : probeEnv backend (.settle n queried) w = some w') :
    ∃ s, w.pings[n]? = some ⟨s, none⟩ ∧ w' = w.settle n s (backend.ping queried) := by
  simp only [probeEnv] at h
  split at h
  · rename_i s hs
    exact ⟨s, hs, (Option.some.inj h).symm⟩
  · cases h

namespace ProbeRun

variable {R : ProbeRun backend storage} {i j k pid : ℕ}

/-- Every step is one of these. -/
lemma probe_step (hi : i < R.len) : ProbeStep (R.world i) (R.world (i + 1)) := by
  rcases R.world_step hi with h | ⟨pid, p, ⟨o, res⟩, hd⟩ | ⟨e, -, h⟩
  · rw [h]
    exact .same
  · obtain ⟨x, -, hx⟩ := hd.exec
    cases o with
    | enter =>
      rcases enter_cases hx with ⟨-, -, h⟩ | ⟨hstale, n, -, ⟨-, h⟩ | ⟨hnone, -, h⟩⟩
      · rw [h]
        exact .same
      · rw [h]
        exact .same
      · rw [h]
        exact .send hstale hnone
    | resume n =>
      obtain ⟨-, -, hw⟩ := resume_cases hx
      rw [hw]
      exact .same
  · cases e with
    | setClock t =>
      rw [← Option.some.inj h]
      exact .setClock t
    | settle n queried =>
      obtain ⟨s, hs, h⟩ := settle_cases h
      rw [h]
      exact .settle n s _ hs

end ProbeRun

/-! ## One ping at a time -/

/-- **The pings follow one another.** -/
structure ProbeWorld.Sequential (w : ProbeWorld) : Prop where
  /-- A ping is sent when the ones before it have ended. -/
  ordered : w.pings.Pairwise fun p _ => p.ended ≠ none
  /-- The pending ping is the one under way. -/
  pending : ∀ n, w.pendingPing = some n ↔ w.InFlight n
  /-- Once a ping has ended there is a last answer. -/
  known : ∀ p ∈ w.pings, p.ended ≠ none → w.lastPing ≠ none

namespace ProbeWorld.Sequential

/-- Without a pending ping every ping has ended. -/
lemma all_ended (h : w.Sequential) (hnone : w.pendingPing = none) {p : Ping} (hp : p ∈ w.pings) :
    p.ended ≠ none := by
  intro hended
  obtain ⟨n, hn⟩ := List.mem_iff_getElem?.mp hp
  obtain ⟨s, ended⟩ := p
  obtain rfl : ended = none := hended
  have hpending := (h.pending n).mpr ⟨s, hn⟩
  rw [hnone] at hpending
  cases hpending

/-- The ping under way is the last one. -/
lemma exists_concat (h : w.Sequential) {s : ℕ} (hn : w.pings[n]? = some ⟨s, none⟩) :
    ∃ ended, w.pings = ended ++ [⟨s, none⟩] ∧ ended.length = n := by
  obtain ⟨hlt, hget⟩ := List.getElem?_eq_some_iff.mp hn
  have hsplit : w.pings = w.pings.take n ++ ⟨s, none⟩ :: w.pings.drop (n + 1) := by
    rw [← hget, ← List.drop_eq_getElem_cons hlt, List.take_append_drop]
  have hlast : w.pings.drop (n + 1) = [] := by
    have hord := h.ordered
    rw [hsplit] at hord
    cases hrest : w.pings.drop (n + 1) with
    | nil => rfl
    | cons q qs =>
      rw [hrest] at hord
      have hcons := (List.pairwise_append.mp hord).2.1
      exact absurd rfl ((List.pairwise_cons.mp hcons).1 q List.mem_cons_self)
  rw [hlast] at hsplit
  exact ⟨w.pings.take n, hsplit, List.length_take_of_le (Nat.le_of_lt hlt)⟩

/-- A ping that ends takes the place of the one that was under way. -/
lemma settle_pings (h : w.Sequential) {s : ℕ} (hn : w.pings[n]? = some ⟨s, none⟩) (up : Bool) :
    ∃ ended, w.pings = ended ++ [⟨s, none⟩] ∧
      (w.settle n s up).pings = ended ++ [⟨s, some (w.clock, up)⟩] := by
  obtain ⟨ended, hpings, hlen⟩ := h.exists_concat hn
  refine ⟨ended, hpings, ?_⟩
  simp only [ProbeWorld.settle, hpings, ← hlen]
  simp

/-- **Every step keeps them in sequence.** -/
lemma step (h : w.Sequential) (hs : ProbeStep w w') : w'.Sequential := by
  cases hs with
  | same => exact h
  | setClock t => exact ⟨h.ordered, h.pending, h.known⟩
  | send hstale hnone =>
    refine ⟨?_, fun m => ?_, fun p hp hended => ?_⟩
    · exact List.pairwise_append.mpr ⟨h.ordered, List.pairwise_singleton _ _,
        fun p hp _ _ => h.all_ended hnone hp⟩
    · simp only [ProbeWorld.send, ProbeWorld.InFlight, Option.some.injEq]
      constructor
      · rintro rfl
        exact ⟨w.clock, by simp⟩
      · rintro ⟨s, hm⟩
        rw [List.getElem?_append] at hm
        split_ifs at hm with hlt
        · exact absurd rfl (h.all_ended hnone (List.mem_of_getElem? hm))
        · have hone : m - w.pings.length < 1 := (List.getElem?_eq_some_iff.mp hm).1
          omega
    · rcases ProbeWorld.mem_send hp with hp | rfl
      · exact h.known p hp hended
      · exact absurd rfl hended
  | settle n s up hn =>
    obtain ⟨ended, hpings, hpings'⟩ := h.settle_pings hn up
    have hord := h.ordered
    rw [hpings] at hord
    obtain ⟨hended, -, hlast⟩ := List.pairwise_append.mp hord
    refine ⟨?_, fun m => ?_, fun p hp hne => by simp [ProbeWorld.settle]⟩
    · rw [hpings']
      exact List.pairwise_append.mpr ⟨hended, List.pairwise_singleton _ _,
        fun p hp _ _ => hlast p hp _ List.mem_cons_self⟩
    · refine ⟨fun hm => (by cases hm), ?_⟩
      rintro ⟨s', hm⟩
      have hmem := List.mem_of_getElem? hm
      rw [hpings'] at hmem
      rcases List.mem_append.mp hmem with hmem | hmem
      · exact absurd rfl (hlast _ hmem _ List.mem_cons_self)
      · cases List.mem_singleton.mp hmem

end ProbeWorld.Sequential

namespace ProbeRun

variable {R : ProbeRun backend storage} {i j k pid : ℕ} {p : Proc (probes backend storage)}

/-- **The pings are in sequence at all times.** -/
lemma sequential (hi : i ≤ R.len) : (R.world i).Sequential := by
  induction i with
  | zero =>
    obtain ⟨hlast, hpending, hpings⟩ := R.isStart
    rw [R.world_zero]
    refine ⟨by simp [hpings], fun n => ?_, fun p hp => by simp [hpings] at hp⟩
    simp [hpending, hpings, ProbeWorld.InFlight]
  | succ i ih => exact (ih (Nat.le_of_succ_le hi)).step (probe_step hi)

/-- At most one ping is under way. -/
lemma inFlight_unique (hi : i ≤ R.len) {m n : ℕ} (hm : (R.world i).InFlight m)
    (hn : (R.world i).InFlight n) : m = n := by
  have hm' := ((sequential hi).pending m).mpr hm
  have hn' := ((sequential hi).pending n).mpr hn
  exact Option.some.inj (hm'.symm.trans hn')

/-! ## The time of the pings -/

variable (R) in
/-- The clock after some steps. -/
def clock (k : ℕ) : ℕ := (R.world k).clock

variable (R) in
/-- The clock is never set back. -/
def ClockForward : Prop := R.Rises ProbeWorld.clock

lemma clock_mono (h : R.ClockForward) (hij : i ≤ j) (hj : j ≤ R.len) : R.clock i ≤ R.clock j :=
  h.mono hij hj

end ProbeRun

/-- **The pings are in order of time**, a while apart. -/
structure ProbeWorld.Timed (w : ProbeWorld) : Prop where
  spaced : w.pings.Pairwise fun p q => ∀ e, p.ended = some e → e.1 + pingMaxAgeMs < q.startedAt
  started : ∀ p ∈ w.pings, p.startedAt ≤ w.clock
  ended : ∀ p ∈ w.pings, ∀ e, p.ended = some e → p.startedAt ≤ e.1 ∧ e.1 ≤ w.clock
  /-- The last answer is the newest one. -/
  newest : ∀ p ∈ w.pings, ∀ e, p.ended = some e → ∃ l, w.lastPing = some l ∧ e.1 ≤ l.1

/-- **Every step of a clock that goes forward keeps them so.** -/
lemma ProbeWorld.Timed.step (h : w.Timed) (hseq : w.Sequential) (hs : ProbeStep w w')
    (hclock : w.clock ≤ w'.clock) : w'.Timed := by
  cases hs with
  | same => exact h
  | setClock t =>
    exact ⟨h.spaced, fun p hp => (h.started p hp).trans hclock,
      fun p hp e he => (h.ended p hp e he).imp_right fun hle => hle.trans hclock, h.newest⟩
  | send hstale hnone =>
    refine ⟨List.pairwise_append.mpr ⟨h.spaced, List.pairwise_singleton _ _, ?_⟩, ?_, ?_, ?_⟩
    · intro p hp q hq e he
      obtain rfl := List.mem_singleton.mp hq
      obtain ⟨⟨at_, up⟩, hl, hle⟩ := h.newest p hp e he
      rw [ProbeWorld.isStale, hl] at hstale
      exact lt_of_le_of_lt (Nat.add_le_add_right hle _) (of_decide_eq_true hstale)
    · intro p hp
      rcases ProbeWorld.mem_send hp with hp | rfl
      · exact h.started p hp
      · exact le_rfl
    · intro p hp e he
      rcases ProbeWorld.mem_send hp with hp | rfl
      · exact h.ended p hp e he
      · cases he
    · intro p hp e he
      rcases ProbeWorld.mem_send hp with hp | rfl
      · exact h.newest p hp e he
      · cases he
  | settle n s up hn =>
    obtain ⟨ended, hpings, hpings'⟩ := hseq.settle_pings hn up
    have hmem : ∀ {p : Ping}, p ∈ ended → p ∈ w.pings := fun hp => by
      rw [hpings]
      exact List.mem_append_left _ hp
    have hself : s ≤ w.clock := h.started ⟨s, none⟩ (List.mem_of_getElem? hn)
    have hspaced := h.spaced
    rw [hpings] at hspaced
    obtain ⟨hold, -, hnew⟩ := List.pairwise_append.mp hspaced
    -- the ping that ends was sent at `s`, after all others had ended
    have hcases : ∀ p ∈ (w.settle n s up).pings, ∀ e, p.ended = some e →
        (p ∈ w.pings ∧ p.ended = some e) ∨ (p.startedAt = s ∧ e.1 = w.clock) := by
      intro p hp e he
      rw [hpings'] at hp
      rcases List.mem_append.mp hp with hp | hp
      · exact .inl ⟨hmem hp, he⟩
      · obtain rfl := List.mem_singleton.mp hp
        obtain rfl := Option.some.inj he
        exact .inr ⟨rfl, rfl⟩
    refine ⟨?_, fun p hp => ?_, fun p hp e he => ?_, fun p hp e he => ⟨_, rfl, ?_⟩⟩
    · rw [hpings']
      refine List.pairwise_append.mpr ⟨hold, List.pairwise_singleton _ _, fun p hp q hq e he => ?_⟩
      obtain rfl := List.mem_singleton.mp hq
      exact hnew p hp _ List.mem_cons_self e he
    · rw [hpings'] at hp
      rcases List.mem_append.mp hp with hp | hp
      · exact h.started p (hmem hp)
      · obtain rfl := List.mem_singleton.mp hp
        exact hself
    · rcases hcases p hp e he with ⟨hp, he⟩ | ⟨hstart, hend⟩
      · exact h.ended p hp e he
      · rw [hstart, hend]
        exact ⟨hself, le_rfl⟩
    · rcases hcases p hp e he with ⟨hp, he⟩ | ⟨-, hend⟩
      · exact (h.ended p hp e he).2
      · exact hend.le

/-- The pings are sent at instants that are spaced. -/
lemma ProbeWorld.Timed.spaced_starts (h : w.Timed) (hseq : w.Sequential) :
    Quota.Spaced pingMaxAgeMs (w.pings.map (·.startedAt)) := by
  refine List.pairwise_map.mpr (List.Pairwise.imp_of_mem ?_ (h.spaced.and hseq.ordered))
  rintro p q hp - ⟨hspaced, hended⟩
  obtain ⟨e, he⟩ := Option.ne_none_iff_exists'.mp hended
  exact lt_of_le_of_lt (Nat.add_le_add_right (h.ended p hp e he).1 _) (hspaced e he)

namespace ProbeRun

variable {R : ProbeRun backend storage} {i j k pid : ℕ} {p : Proc (probes backend storage)}
  {up : Option Bool}

/-- **The pings are in order of time**, while the clock goes forward. -/
lemma timed (hclock : R.ClockForward) (hi : i ≤ R.len) : (R.world i).Timed := by
  induction i with
  | zero =>
    obtain ⟨-, -, hpings⟩ := R.isStart
    rw [R.world_zero]
    have hnone : ∀ p, p ∉ R.start.pings := fun p hp => by simp [hpings] at hp
    exact ⟨by simp [hpings], fun p hp => absurd hp (hnone p), fun p hp => absurd hp (hnone p),
      fun p hp => absurd hp (hnone p)⟩
  | succ i ih =>
    exact (ih (Nat.le_of_succ_le hi)).step (sequential (Nat.le_of_succ_le hi)) (probe_step hi)
      (hclock i hi)

/-- **Probes do not load the storage**: however many there are, at most one ping is under way; and
while the clock goes forward, an interval holds one ping and at most one more for each two seconds
of it.

**Proof sketch.** A ping is sent when no ping is pending and the last answer is old, so every ping
before it has ended a while ago: the instants at which pings are sent are spaced. -/
theorem pings_bounded (hi : i ≤ R.len) :
    (∀ m n, (R.world i).InFlight m → (R.world i).InFlight n → m = n) ∧
    (R.ClockForward → ∀ t width : ℕ,
      (R.world i).pings.countP (fun p => t ≤ p.startedAt ∧ p.startedAt ≤ t + width) ≤
        width / 2001 + 1) := by
  refine ⟨fun m n => inFlight_unique hi, fun hclock t width => ?_⟩
  have hbound := ((timed hclock hi).spaced_starts (sequential hi)).countP_le t width
  rw [List.countP_map] at hbound
  exact hbound

/-! ## What the answers say -/

/-- The last answer is that of a ping that has ended. -/
lemma lastPing_settled {l : ℕ × Bool} (hi : i ≤ R.len) (h : (R.world i).lastPing = some l) :
    ∃ k < i, ∃ n queried, R.acts[k]? = some (.env (.settle n queried)) ∧
      l = (R.clock k, backend.ping queried) := by
  induction i with
  | zero =>
    rw [R.world_zero, R.isStart.1] at h
    cases h
  | succ i ih =>
    have hlater : (R.world i).lastPing = some l → ∃ k < i + 1, ∃ n queried,
        R.acts[k]? = some (.env (.settle n queried)) ∧ l = (R.clock k, backend.ping queried) := by
      intro h
      obtain ⟨k, hk, hsettled⟩ := ih (Nat.le_of_succ_le hi) h
      exact ⟨k, Nat.lt_succ_of_lt hk, hsettled⟩
    rcases R.world_step hi with hsame | ⟨pid, p, ⟨o, res⟩, hd⟩ | ⟨e, hact, hmove⟩
    · rw [hsame] at h
      exact hlater h
    · obtain ⟨x, -, hx⟩ := hd.exec
      have hkeep : (R.world (i + 1)).lastPing = (R.world i).lastPing := by
        cases o with
        | enter =>
          rcases enter_cases hx with ⟨-, -, hw⟩ | ⟨-, n, -, ⟨-, hw⟩ | ⟨-, -, hw⟩⟩
          · rw [hw]
          · rw [hw]
          · exact (congrArg ProbeWorld.lastPing hw).trans rfl
        | resume n => exact congrArg ProbeWorld.lastPing (resume_cases hx).2.2
      exact hlater (hkeep.symm.trans h)
    · cases e with
      | setClock t =>
        rw [← Option.some.inj hmove] at h
        exact hlater h
      | settle n queried =>
        obtain ⟨s, -, hw⟩ := settle_cases hmove
        rw [hw] at h
        exact ⟨i, Nat.lt_succ_self i, n, queried, hact, (Option.some.inj h).symm⟩

/-- The last answer is no older than a ping that was under way and has ended. -/
lemma lastPing_since (hclock : R.ClockForward) (hij : i ≤ j) (hj : j ≤ R.len)
    (hin : (R.world i).InFlight n) {s : ℕ} {e : ℕ × Bool}
    (hended : (R.world j).pings[n]? = some ⟨s, some e⟩) :
    ∃ l, (R.world j).lastPing = some l ∧ R.clock i ≤ l.1 := by
  have hnot : ¬(R.world j).InFlight n := by
    rintro ⟨s', hs'⟩
    rw [hended] at hs'
    cases hs'
  obtain ⟨k, hik, hkj, hbefore, hafter⟩ :=
    R.becomes (P := fun w => ¬w.InFlight n) hij (not_not_intro hin) hnot
  obtain ⟨s', hk⟩ := not_not.mp hbefore
  have hfresh : ∃ l, (R.world (k + 1)).lastPing = some l ∧ R.clock i ≤ l.1 := by
    have hstep := probe_step (R := R) (Nat.lt_of_lt_of_le hkj hj)
    generalize R.world (k + 1) = w' at hstep hafter
    cases hstep with
    | same => exact absurd ⟨s', hk⟩ hafter
    | setClock t => exact absurd ⟨s', hk⟩ hafter
    | send hstale hnone =>
      exact absurd ⟨s', List.getElem?_append_left (List.getElem?_eq_some_iff.mp hk).1 ▸ hk⟩ hafter
    | settle m s up hm => exact ⟨_, rfl, clock_mono hclock hik (Nat.le_of_lt (by omega))⟩
  -- later answers are newer still
  refine R.stays (P := fun w => ∃ l, w.lastPing = some l ∧ R.clock i ≤ l.1) hkj hfresh
    fun m hkm hmj hlast => ?_
  have hstep := probe_step (R := R) (Nat.lt_of_lt_of_le hmj hj)
  generalize R.world (m + 1) = w' at hstep
  cases hstep with
  | same => exact hlast
  | setClock t => exact hlast
  | send hstale hnone => exact hlast
  | settle m' s up hm => exact ⟨_, rfl, clock_mono hclock (by omega) (by omega)⟩

/-! ## The handler -/

/-- The calls of a probe, after those that it has made. -/
def Probing (past : List (Async.Event ProbeRet)) (o : ProbeCall) : Prop :=
  (past = [] ∧ o = .enter) ∨ ∃ n, past = [⟨.enter, .inr n⟩] ∧ o = .resume n

/-- A probe has read the last answer, at once or after it has waited. -/
def HasRead (past : List (Async.Event ProbeRet)) (up : Option Bool) : Prop :=
  past = [⟨.enter, .inl up⟩] ∨ ∃ n, past = [⟨.enter, .inr n⟩, ⟨.resume n, up⟩]

/-- **What a probe does**: it reads the last answer and reports it. -/
lemma healthz_reads (storage : String) : Prog.wp Probing
    (fun past x => ∃ up : Option Bool, HasRead past up ∧
      x = up.elim (.error .typeError) fun up => .ok (probeReply storage up)) []
        (healthz storage) := by
  have hreport : ∀ {past : List (Async.Event ProbeRet)} {up : Option Bool}, HasRead past up →
      Prog.wp Probing (fun past x => ∃ up : Option Bool, HasRead past up ∧
        x = up.elim (.error .typeError) fun up => .ok (probeReply storage up)) past
        (report storage up) := by
    intro past up h
    cases up with
    | none => exact ⟨none, h, rfl⟩
    | some up => exact ⟨some up, h, rfl⟩
  unfold healthz
  rw [Prog.wp_bind, Prog.wp_perform]
  refine ⟨.inl ⟨rfl, rfl⟩, fun found => ?_⟩
  cases found with
  | inl up => exact hreport (.inl rfl)
  | inr n =>
    show Prog.wp _ _ _ (Prog.perform (ProbeCall.resume n) >>= fun up => report storage up)
    rw [Prog.wp_bind, Prog.wp_perform]
    exact ⟨.inr ⟨n, rfl, rfl⟩, fun up => hreport (.inr ⟨n, rfl⟩)⟩

/-- The first call of a probe was made at some step. -/
lemma began {e : Async.Event ProbeRet} {rest : List (Async.Event ProbeRet)} (hi : i ≤ R.len)
    (hp : R.proc i pid = some p) (hpast : p.past = e :: rest) : ∃ j < i, ∃ q, R.Does j pid q e := by
  obtain ⟨j, hj, q, hd, -⟩ := R.did hi hp (hpast ▸ List.mem_cons_self)
  exact ⟨j, hj, q, hd⟩

/-- The second call of a probe was made after the first one. -/
lemma went_on {e e' : Async.Event ProbeRet} (hi : i ≤ R.len) (hp : R.proc i pid = some p)
    (hpast : p.past = [e, e']) : ∃ j < i, ∃ q, R.Does j pid q e' ∧ q.past = [e] := by
  have hsplit : p.past = [e] ++ e' :: [] := hpast
  obtain ⟨j, hj, q, hd, -, hq⟩ := R.did_at hi hp hsplit
  exact ⟨j, hj, q, hd, hq⟩

/-- The last answer is read when there is one. -/
lemma entered (hd : R.Does j pid p ⟨.enter, .inl up⟩) :
    ∃ l, (R.world j).lastPing = some l ∧ up = some l.2 ∧ R.clock j ≤ l.1 + pingMaxAgeMs := by
  obtain ⟨x, -, hx⟩ := hd.exec
  rcases enter_cases hx with ⟨hfresh, hup, -⟩ | ⟨-, n, hup, -⟩
  · obtain rfl := Sum.inl.inj hup
    unfold ProbeWorld.isStale at hfresh
    unfold ProbeWorld.up
    cases hl : (R.world j).lastPing with
    | none =>
      rw [hl] at hfresh
      cases hfresh
    | some l =>
      rw [hl] at hfresh
      exact ⟨l, rfl, rfl, Nat.le_of_not_lt (of_decide_eq_false hfresh)⟩
  · cases hup

/-- A probe waits for a ping that is under way. -/
lemma joined (hd : R.Does j pid p ⟨.enter, .inr n⟩) : (R.world (j + 1)).InFlight n := by
  obtain ⟨x, -, hx⟩ := hd.exec
  rcases enter_cases hx with ⟨-, hfound, -⟩ | ⟨-, m, hfound, hjoin⟩
  · cases hfound
  · obtain rfl := Sum.inr.inj hfound
    rcases hjoin with ⟨hpending, hw⟩ | ⟨-, rfl, hw⟩
    · rw [hw]
      exact ((sequential (Nat.le_of_lt hd.lt)).pending _).mp hpending
    · rw [hw]
      exact ⟨(R.world j).clock, by simp [ProbeWorld.send]⟩

/-- A probe that has waited reads an answer. -/
lemma resumed (hd : R.Does j pid p ⟨.resume n, up⟩) :
    (∃ s e, (R.world j).pings[n]? = some ⟨s, some e⟩) ∧
      ∃ l, (R.world j).lastPing = some l ∧ up = some l.2 := by
  obtain ⟨x, -, hx⟩ := hd.exec
  obtain ⟨⟨s, e, hping⟩, hup, -⟩ := resume_cases hx
  refine ⟨⟨s, e, hping⟩, ?_⟩
  have hknown := (sequential (Nat.le_of_lt hd.lt)).known _ (List.mem_of_getElem? hping)
    (Option.some_ne_none e)
  obtain ⟨l, hl⟩ := Option.ne_none_iff_exists'.mp hknown
  have hread : (R.world j).up = some l.2 := by
    rw [ProbeWorld.up, hl]
    rfl
  exact ⟨l, hl, hup.trans hread⟩

/-- A probe that has read the last answer began at some step, and read what a ping has found that
ended then or later, or not long before. -/
lemma read_settled (hclock : R.ClockForward) (hi : i ≤ R.len) (hp : R.proc i pid = some p)
    (hread : HasRead p.past up) : ∃ l j q found, up = some l ∧ j < i ∧
      R.Does j pid q ⟨.enter, found⟩ ∧ ∃ k < i, ∃ n queried,
        R.acts[k]? = some (.env (.settle n queried)) ∧ l = backend.ping queried ∧
          R.clock j ≤ R.clock k + pingMaxAgeMs := by
  rcases hread with hpast | ⟨n, hpast⟩
  · obtain ⟨j, hj, q, hd⟩ := began hi hp hpast
    obtain ⟨l, hl, hup, hage⟩ := entered hd
    obtain ⟨k, hk, m, queried, hact, rfl⟩ := lastPing_settled (Nat.le_of_lt hd.lt) hl
    exact ⟨_, j, q, _, hup, hj, hd, k, by omega, m, queried, hact, rfl, hage⟩
  · obtain ⟨j', hj', q', hd', hpast'⟩ := went_on hi hp hpast
    obtain ⟨j, hj, q, hd⟩ := began (Nat.le_of_lt hd'.lt) hd'.proc hpast'
    obtain ⟨⟨s, e, hended⟩, l, hl, hup⟩ := resumed hd'
    obtain ⟨l', hl', hsince⟩ :=
      lastPing_since hclock hj (Nat.le_of_lt hd'.lt) (joined hd) hended
    obtain rfl := Option.some.inj (hl.symm.trans hl')
    obtain ⟨k, hk, m, queried, hact, rfl⟩ := lastPing_settled (Nat.le_of_lt hd'.lt) hl
    have hstart := hclock j hd.lt
    exact ⟨_, j, q, _, hup, by omega, hd, k, by omega, m, queried, hact, rfl,
      (hstart.trans hsince).trans (Nat.le_add_right _ _)⟩

/-- **A probe reports what a ping has found**, one that ended while the probe was served or at most
two seconds before it began.

**Proof sketch.** A probe that does not wait has read an answer that was not old. One that waits has
waited for a ping that was under way when it began, so the last answer that it reads came later. -/
theorem probe_truthful (hclock : R.ClockForward) (hi : i ≤ R.len) {req : Unit}
    {past : List (Async.Event ProbeRet)} {reply : Reply}
    (hp : R.proc i pid = some ⟨req, past, .ret reply⟩) :
    ∃ j < i, ∃ p found, R.Does j pid p ⟨.enter, found⟩ ∧
      ∃ k < i, ∃ n queried, R.acts[k]? = some (.env (.settle n queried)) ∧
        reply = probeReply storage (backend.ping queried) ∧ R.clock j ≤ R.clock k + 2000 := by
  obtain ⟨up, hread, hreply⟩ := R.answered (fun _ => healthz_reads storage) hi hp
  obtain ⟨l, j, q, found, rfl, hj, hd, k, hk, n, queried, hact, rfl, hage⟩ :=
    read_settled hclock hi hp hread
  exact ⟨j, hj, q, found, hd, k, hk, n, queried, hact, Except.ok.inj hreply, hage⟩

/-- **Every probe goes on**: it never fails, and when it cannot go on it waits for a ping that is
under way. -/
theorem probe_goes_on (hi : i ≤ R.len) (hp : R.proc i pid = some p) :
    (∃ reply, p.todo = .ret reply) ∨ ∃ o c, p.todo = .call o c ∧
      ((∃ found w', probeExec o () (R.world i) = some (found, w')) ∨
        ∃ n, o = .resume n ∧ (R.world i).InFlight n) := by
  have hreads := R.wp_proc (fun _ => healthz_reads storage) hi hp
  obtain ⟨req, past, todo⟩ := p
  cases todo with
  | ret reply => exact .inl ⟨reply, rfl⟩
  | throw e =>
    obtain ⟨up, hread, hthrown⟩ := hreads
    exfalso
    have hsome : ∃ l, up = some l := by
      rcases hread with hpast | ⟨n, hpast⟩
      · obtain ⟨j, -, q, hd⟩ := began hi hp hpast
        obtain ⟨l, -, hup, -⟩ := entered hd
        exact ⟨_, hup⟩
      · obtain ⟨j, -, q, hd, -⟩ := went_on hi hp hpast
        obtain ⟨-, l, -, hup⟩ := resumed hd
        exact ⟨_, hup⟩
    obtain ⟨l, rfl⟩ := hsome
    cases hthrown
  | call o c =>
    refine .inr ⟨o, c, rfl, ?_⟩
    rcases hreads.1 with ⟨-, rfl⟩ | ⟨n, hpast, rfl⟩
    · simp only [probeExec]
      split_ifs
      · exact .inl ⟨_, _, rfl⟩
      · exact .inl ⟨_, _, rfl⟩
    · obtain ⟨j, hj, q, hd⟩ := began hi hp hpast
      obtain ⟨s, hs⟩ := joined hd
      -- no ping is forgotten
      have hlt : n < (R.world i).pings.length := by
        refine R.stays (P := fun w => n < w.pings.length) hj (List.getElem?_eq_some_iff.mp hs).1
          fun m _ hm hlt => ?_
        have hstep := probe_step (R := R) (Nat.lt_of_lt_of_le hm hi)
        generalize R.world (m + 1) = w' at hstep
        cases hstep with
        | same => exact hlt
        | setClock t => exact hlt
        | send hstale hnone =>
          rw [ProbeWorld.send, List.length_append]
          exact Nat.lt_add_right _ hlt
        | settle m' s up hm => simpa [ProbeWorld.settle] using hlt
      have hping := List.getElem?_eq_getElem hlt
      cases hended : ((R.world i).pings.get ⟨n, hlt⟩).ended with
      | none => exact .inr ⟨n, rfl, _, hping.trans (congrArg some (congrArg (Ping.mk _) hended))⟩
      | some e =>
        refine .inl ⟨(R.world i).up, R.world i, ?_⟩
        have hany : (R.world i).pings[n]?.any (·.ended.isSome) = true := by
          rw [hping]
          exact Option.isSome_iff_exists.mpr ⟨e, hended⟩
        exact if_pos hany

end ProbeRun

namespace Sample

/-- A step of a probe. -/
def probeStep (pid : ℕ) : Act (probes .pg "postgres") := .run pid ()

/-- Two probes share a ping, which fails. A third one has its answer, and a fourth one sends another
ping, which succeeds. -/
def probingSteps : List (Act (probes .pg "postgres")) :=
  [.arrive (), .arrive (), probeStep 0, probeStep 1, .env (.setClock 30), .env (.settle 0 false),
    probeStep 1, probeStep 0, .env (.setClock 1500), .arrive (), probeStep 2, .env (.setClock 2500),
    .arrive (), probeStep 3, .env (.settle 1 true), probeStep 3]

/-- The clock goes on, and the probes are answered. -/
def probed (t : List (TraceStep (probes .pg "postgres")) × Conf (probes .pg "postgres")) : Bool :=
  ((t.1.map (·.before) ++ [t.2]).map (·.world.clock)).Pairwise (· ≤ ·) &&
  t.2.answers 1 (fun _ _ reply => reply.status = 503) &&
  t.2.answers 3 (fun _ _ reply => reply.status = 200)

lemma probing_trace :
    ((probes .pg "postgres").trace ⟨{}, []⟩ probingSteps).any probed = true := by
  decide +kernel

/-- The run of these probes. -/
def probingRun : ProbeRun .pg "postgres" :=
  .ofTrace {} probingSteps ⟨rfl, rfl, rfl⟩ probed probing_trace

lemma probingRun_clockForward : probingRun.ClockForward := by
  obtain ⟨steps, last, ht, h⟩ : ∃ steps last, probingRun.HasTrace steps last ∧
    probed (steps, last) = true := Run.hasTrace_ofTrace probing_trace
  simp only [probed, Bool.and_eq_true, decide_eq_true_eq] at h
  exact fun k hk => ht.consecutive (List.pairwise_map.mp h.1.1) hk

/-- Three seconds hold two pings at most. -/
theorem probing_bounded :
    (∀ m n, (probingRun.world probingRun.len).InFlight m →
      (probingRun.world probingRun.len).InFlight n → m = n) ∧
    (probingRun.world probingRun.len).pings.countP
      (fun p => 0 ≤ p.startedAt ∧ p.startedAt ≤ 0 + 3000) ≤ 3000 / 2001 + 1 :=
  (ProbeRun.pings_bounded le_rfl).imp_right fun h => h probingRun_clockForward 0 3000

/-- The second probe is told that the storage is down, as a ping has found. -/
theorem probing_truthful : ∃ reply : Reply, reply.status = 503 ∧ ∃ (k n : ℕ) (queried : Bool),
    probingRun.acts[k]? = some (.env (.settle n queried)) ∧
      reply = probeReply "postgres" (Backend.pg.ping queried) := by
  obtain ⟨steps, last, ht, h⟩ : ∃ steps last, probingRun.HasTrace steps last ∧
    probed (steps, last) = true := Run.hasTrace_ofTrace probing_trace
  simp only [probed, Bool.and_eq_true] at h
  obtain ⟨req, past, reply, hp, hstatus⟩ := ht.answers h.1.2
  obtain ⟨_, -, _, _, -, k, -, n, queried, hact, hreply, -⟩ :=
    ProbeRun.probe_truthful probingRun_clockForward le_rfl hp
  exact ⟨reply, of_decide_eq_true hstatus, k, n, queried, hact, hreply⟩

/-- The fourth probe has been answered. -/
theorem probing_goes_on : ∃ p reply, probingRun.proc probingRun.len 3 = some p ∧
    p.todo = .ret reply := by
  obtain ⟨steps, last, ht, h⟩ : ∃ steps last, probingRun.HasTrace steps last ∧
    probed (steps, last) = true := Run.hasTrace_ofTrace probing_trace
  simp only [probed, Bool.and_eq_true] at h
  obtain ⟨req, past, reply, hp, -⟩ := ht.answers h.2
  rcases ProbeRun.probe_goes_on le_rfl hp with ⟨reply, htodo⟩ | ⟨o, c, htodo, -⟩
  · exact ⟨_, reply, hp, htodo⟩
  · cases htodo

end Sample

end Fapi2As
