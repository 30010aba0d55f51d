import Mathlib.Algebra.Order.BigOperators.Group.List
import Mathlib.Algebra.Order.Ring.Nat
import Mathlib.Data.List.Induction
import Fapi2As.Endpoints.RateLimit
import Fapi2As.Quota.Windows

set_option relaxedAutoImplicit false
set_option autoImplicit false

/-!
# The bounds of the rate limiter

A limiter with any limit, window length and cap, over any sequence of calls whose instants do not
decrease. A window is never lost or restarted while it is live, whatever is swept, so the calls it
admits are the first ones up to the limit; windows of one key do not overlap, so an interval of one
window length meets at most two of them.

## Main definitions

* `Fapi2As.Ask`, `Fapi2As.RateLimiter.after`, `Fapi2As.RateLimiter.answers` — sequences of calls.
* `Fapi2As.RateLimiter.Opens` — a call that starts a window of its key.
* `Fapi2As.RateLimiter.Bounded` — what holds of a sequence of calls.

## Main results

* `Fapi2As.RateLimiter.allow_cases` — what one call does.
* `Fapi2As.RateLimiter.window_kept` — a live window is kept, with all the calls of its key counted.
* `Fapi2As.RateLimiter.bounded` — the bounds.
-/

namespace Fapi2As

open Js Quota

/-- A call of `allow`. -/
structure Ask where
  key : String
  now : ℕ

namespace RateLimiter

variable (limit windowMs maxKeys : ℕ)

/-- A limiter after a sequence of calls. -/
def after : RateLimiter → List Ask → RateLimiter
  | r, [] => r
  | r, a :: l => after (r.allow limit a.key a.now windowMs maxKeys).2 l

/-- The calls of a sequence with their answers. -/
def answers : RateLimiter → List Ask → List (Ask × Bool)
  | _, [] => []
  | r, a :: l =>
    (a, (r.allow limit a.key a.now windowMs maxKeys).1) ::
      answers (r.allow limit a.key a.now windowMs maxKeys).2 l

/-- The instants of the admitted calls of a key. -/
def admitted (key : String) (l : List (Ask × Bool)) : List ℕ :=
  (l.filter fun e => e.1.key = key ∧ e.2).map (·.1.now)

/-- **A call starts a window of its key**: it is admitted while the key has no live window. -/
def Opens (r : RateLimiter) (a : Ask) : Prop :=
  (∀ w, r.windows.get? a.key = some w → w.live a.now windowMs = false) ∧
    (r.allow limit a.key a.now windowMs maxKeys).1 = true

/-- **What holds of a sequence of calls** on a new limiter. -/
structure Bounded (asks : List Ask) : Prop where
  /-- An interval of one window length has at most twice the limit of admitted calls of a key. -/
  twice : ∀ key t, inWindow windowMs t
    (admitted key (answers limit windowMs maxKeys {} asks)) ≤ 2 * limit
  /-- In a window of a key, a call is admitted when it is one of the first `limit`. -/
  first : ∀ past a later b rest, asks = past ++ a :: later ++ b :: rest →
    Opens limit windowMs maxKeys (after limit windowMs maxKeys {} past) a → b.key = a.key →
    b.now < a.now + windowMs →
    (((after limit windowMs maxKeys {} (past ++ a :: later)).allow limit b.key b.now windowMs
        maxKeys).1 = true ↔
      (a :: later ++ [b]).countP (·.key = a.key) ≤ limit)
  /-- A window of a key is there, with all the calls of the key counted, as long as it is live. -/
  kept : ∀ past later rest key w, asks = past ++ later ++ rest →
    (after limit windowMs maxKeys {} past).windows.get? key = some w →
    (∀ a ∈ later, w.live a.now windowMs) →
    (after limit windowMs maxKeys {} (past ++ later)).windows.get? key =
      some ⟨w.start, w.count + later.countP (·.key = key)⟩
  /-- The keys that are tracked are never more than the cap. -/
  capped : ∀ past rest, asks = past ++ rest →
    (after limit windowMs maxKeys {} past).windows.size ≤ maxKeys
  /-- A key that has not used up the limit in its live window is not refused. -/
  served : ∀ past a rest w, asks = past ++ a :: rest →
    (after limit windowMs maxKeys {} past).windows.get? a.key = some w →
    w.live a.now windowMs →
    inWindow windowMs w.start (admitted a.key (answers limit windowMs maxKeys {} past)) < limit →
    ((after limit windowMs maxKeys {} past).allow limit a.key a.now windowMs maxKeys).1 = true
  /-- A key without a live window is refused only when it is not tracked and the cap is still
  reached after the sweep. -/
  started : ∀ past a rest, asks = past ++ a :: rest →
    (∀ w, (after limit windowMs maxKeys {} past).windows.get? a.key = some w →
      w.live a.now windowMs = false) →
    (((after limit windowMs maxKeys {} past).allow limit a.key a.now windowMs maxKeys).1 = true ↔
      ((after limit windowMs maxKeys {} past).windows.get? a.key = none →
        ((after limit windowMs maxKeys {} past).sweep a.now windowMs maxKeys).windows.size <
          maxKeys))

variable {limit windowMs maxKeys : ℕ} {r : RateLimiter} {key key' : String} {now n : ℕ}
  {w : Window} {asks : List Ask} {a : Ask}

/-! ## One call -/

lemma live_iff : w.live now windowMs = true ↔ now < w.start + windowMs := by
  unfold Window.live
  rw [decide_eq_true_iff]
  omega

/-- The sweep keeps a live window. -/
lemma sweep_of_live (h : r.windows.get? key = some w) (hw : w.live now windowMs) :
    (r.sweep now windowMs maxKeys).windows.get? key = some w := by
  unfold sweep
  split_ifs
  · rw [Map.get?_filter, h]
    simp [Option.filter, hw]
  · exact h

/-- What is there after the sweep was there before. -/
lemma get?_of_sweep (h : (r.sweep now windowMs maxKeys).windows.get? key = some w) :
    r.windows.get? key = some w := by
  unfold sweep at h
  split_ifs at h
  · rw [Map.get?_filter, Option.filter_eq_some_iff] at h
    exact h.1
  · exact h

/-- The sweep leaves a window as it is, or removes it when it is not live. -/
lemma sweep_cases (r : RateLimiter) (key : String) (now windowMs maxKeys : ℕ) :
    (r.sweep now windowMs maxKeys).windows.get? key = r.windows.get? key ∨
      (r.sweep now windowMs maxKeys).windows.get? key = none ∧
        ∃ w, r.windows.get? key = some w ∧ w.live now windowMs = false := by
  cases h : (r.sweep now windowMs maxKeys).windows.get? key with
  | some w => exact .inl (get?_of_sweep h).symm
  | none =>
    cases h' : r.windows.get? key with
    | none => exact .inl rfl
    | some w =>
      refine .inr ⟨rfl, w, rfl, ?_⟩
      rw [← Bool.not_eq_true]
      intro hw
      rw [sweep_of_live h' hw] at h
      cases h

lemma size_sweep_le (r : RateLimiter) (now windowMs maxKeys : ℕ) :
    (r.sweep now windowMs maxKeys).windows.size ≤ r.windows.size := by
  unfold sweep
  split_ifs
  · exact Map.size_filter_le _ _
  · exact le_rfl

/-- The sweep that removes a key leaves fewer of them. -/
lemma size_sweep_lt (h : r.windows.get? key = some w)
    (hs : (r.sweep now windowMs maxKeys).windows.get? key = none) :
    (r.sweep now windowMs maxKeys).windows.size < r.windows.size := by
  unfold sweep at hs ⊢
  split_ifs at hs ⊢ with hif
  · apply Map.size_filter_lt h
    rw [Map.get?_filter, h] at hs
    simpa [Option.filter] using hs
  · rw [h] at hs
    cases hs

/-- **What one call does**: it counts in a live window, or the limiter is swept and the call is
refused, for a new key at the cap, or starts a window. -/
lemma allow_cases (hlimit : 0 < limit) (r : RateLimiter) (key : String) (now windowMs maxKeys : ℕ) :
    (∃ w, r.windows.get? key = some w ∧ w.live now windowMs = true ∧
      r.allow limit key now windowMs maxKeys = (decide (w.count + 1 ≤ limit),
        { r with windows := r.windows.set key ⟨w.start, w.count + 1⟩ })) ∨
    ((∀ w, r.windows.get? key = some w → w.live now windowMs = false) ∧
      (r.windows.get? key = none ∧ maxKeys ≤ (r.sweep now windowMs maxKeys).windows.size) ∧
      r.allow limit key now windowMs maxKeys = (false, r.sweep now windowMs maxKeys)) ∨
    ((∀ w, r.windows.get? key = some w → w.live now windowMs = false) ∧
      (r.windows.get? key = none → (r.sweep now windowMs maxKeys).windows.size < maxKeys) ∧
      r.allow limit key now windowMs maxKeys = (true, { r.sweep now windowMs maxKeys with
        windows := (r.sweep now windowMs maxKeys).windows.set key ⟨now, 1⟩ })) := by
  unfold allow
  rw [if_neg (by omega : ¬limit = 0)]
  cases hfilter : (r.windows.get? key).filter (·.live now windowMs) with
  | some w =>
    obtain ⟨hget, hlive⟩ := Option.filter_eq_some_iff.mp hfilter
    exact .inl ⟨w, hget, hlive, by simp only [hfilter]⟩
  | none =>
    have hdead : ∀ w, r.windows.get? key = some w → w.live now windowMs = false := by
      intro w hw
      rw [hw] at hfilter
      simpa [Option.filter] using hfilter
    by_cases hif : (r.windows.get? key).isNone = true ∧
        maxKeys ≤ (r.sweep now windowMs maxKeys).windows.size
    · exact .inr (.inl ⟨hdead, ⟨Option.isNone_iff_eq_none.mp hif.1, hif.2⟩, by
        simp only [hfilter, if_pos hif]⟩)
    · refine .inr (.inr ⟨hdead, fun hnone => ?_, by simp only [hfilter, if_neg hif]⟩)
      rw [hnone] at hif
      simpa using hif

/-! ## Live windows and the cap -/

/-- **A live window is neither removed nor restarted** by a call, of whatever key. -/
lemma window_step (hlimit : 0 < limit) (h : r.windows.get? key = some w)
    (hw : w.live a.now windowMs) :
    (r.allow limit a.key a.now windowMs maxKeys).2.windows.get? key =
      some ⟨w.start, w.count + if a.key = key then 1 else 0⟩ := by
  rcases allow_cases hlimit r a.key a.now windowMs maxKeys with
    ⟨w', hget, -, heq⟩ | ⟨hdead, -, heq⟩ | ⟨hdead, -, heq⟩
  · rw [heq]
    simp only [Map.get?_set]
    split_ifs with hk hk' hk'
    · obtain rfl := Option.some.inj (h.symm.trans (hk ▸ hget))
      rfl
    · exact absurd hk.symm hk'
    · exact absurd hk'.symm hk
    · exact h
  · have hk : a.key ≠ key := fun hk => by
      rw [hdead w (hk ▸ h)] at hw
      cases hw
    rw [heq, if_neg hk]
    exact sweep_of_live h hw
  · have hk : a.key ≠ key := fun hk => by
      rw [hdead w (hk ▸ h)] at hw
      cases hw
    rw [heq, if_neg hk]
    simp only [Map.get?_set, if_neg (Ne.symm hk)]
    exact sweep_of_live h hw

/-- **A window is kept while it is live**, and counts every call of its key. -/
lemma window_kept (hlimit : 0 < limit) {later : List Ask} (h : r.windows.get? key = some w)
    (hlive : ∀ a ∈ later, w.live a.now windowMs) :
    (after limit windowMs maxKeys r later).windows.get? key =
      some ⟨w.start, w.count + later.countP (·.key = key)⟩ := by
  induction later generalizing r w with
  | nil => exact h
  | cons a later ih =>
    have hstep : (r.allow limit a.key a.now windowMs maxKeys).2.windows.get? key = _ :=
      window_step hlimit h (hlive a List.mem_cons_self)
    rw [after, ih hstep fun b hb => hlive b (List.mem_cons_of_mem a hb), List.countP_cons]
    congr 2
    by_cases hk : a.key = key
    · simp [hk]
      omega
    · simp [hk]

/-- One call tracks no more keys than the cap. -/
lemma size_allow_le (hlimit : 0 < limit) (h : r.windows.size ≤ maxKeys) :
    (r.allow limit key now windowMs maxKeys).2.windows.size ≤ maxKeys := by
  have hsweep := size_sweep_le r now windowMs maxKeys
  rcases allow_cases hlimit r key now windowMs maxKeys with
    ⟨w, hget, -, heq⟩ | ⟨-, -, heq⟩ | ⟨-, hnew, heq⟩
  · rw [heq]
    exact (Map.size_set_of_some hget _).trans_le h
  · rw [heq]
    exact hsweep.trans h
  · rw [heq]
    cases hs : (r.sweep now windowMs maxKeys).windows.get? key with
    | some w => exact (Map.size_set_of_some hs _).trans_le (hsweep.trans h)
    | none =>
      have hset := Map.size_set_le (r.sweep now windowMs maxKeys).windows key ⟨now, 1⟩
      apply hset.trans
      -- a key that is not there after the sweep was swept, or was not there
      cases hget : r.windows.get? key with
      | some w =>
        have := size_sweep_lt hget hs
        omega
      | none => exact hnew hget

lemma size_after_le (hlimit : 0 < limit) (h : r.windows.size ≤ maxKeys) (asks : List Ask) :
    (after limit windowMs maxKeys r asks).windows.size ≤ maxKeys := by
  induction asks generalizing r with
  | nil => exact h
  | cons a asks ih => exact ih (size_allow_le hlimit h)

/-! ## Sequences of calls -/

lemma after_append (r : RateLimiter) (l l' : List Ask) :
    after limit windowMs maxKeys r (l ++ l') =
      after limit windowMs maxKeys (after limit windowMs maxKeys r l) l' := by
  induction l generalizing r with
  | nil => rfl
  | cons a l ih => exact ih _

lemma answers_append (r : RateLimiter) (l l' : List Ask) :
    answers limit windowMs maxKeys r (l ++ l') = answers limit windowMs maxKeys r l ++
      answers limit windowMs maxKeys (after limit windowMs maxKeys r l) l' := by
  induction l generalizing r with
  | nil => rfl
  | cons a l ih => exact congrArg _ (ih _)

lemma admitted_append (key : String) (l l' : List (Ask × Bool)) :
    admitted key (l ++ l') = admitted key l ++ admitted key l' := by
  simp [admitted]

/-- The instants admitted of a key after one more call. -/
lemma admitted_snoc (key : String) (a : Ask) (asks : List Ask) :
    admitted key (answers limit windowMs maxKeys {} (asks ++ [a])) =
      admitted key (answers limit windowMs maxKeys {} asks) ++
        if a.key = key ∧ ((after limit windowMs maxKeys {} asks).allow limit a.key a.now windowMs
          maxKeys).1 then [a.now] else [] := by
  rw [answers_append, admitted_append]
  congr 1
  simp only [answers, admitted, List.filter_cons, List.filter_nil, decide_eq_true_eq]
  split_ifs <;> rfl

/-- A window that is tracked started at an instant that has passed. -/
lemma start_le (hlimit : 0 < limit) (hn : ∀ a ∈ asks, a.now ≤ n)
    (hr : ∀ key w, r.windows.get? key = some w → w.start ≤ n)
    (h : (after limit windowMs maxKeys r asks).windows.get? key = some w) : w.start ≤ n := by
  induction asks generalizing r with
  | nil => exact hr key w h
  | cons a asks ih =>
    apply ih (fun b hb => hn b (List.mem_cons_of_mem a hb)) ?_ h
    intro key' w' hw'
    have ha := hn a List.mem_cons_self
    rcases allow_cases hlimit r a.key a.now windowMs maxKeys with
      ⟨w₀, hget, -, heq⟩ | ⟨-, -, heq⟩ | ⟨-, -, heq⟩
    · rw [heq, Map.get?_set] at hw'
      split_ifs at hw' with hk
      · obtain rfl := Option.some.inj hw'
        exact hr a.key w₀ hget
      · exact hr key' w' hw'
    · rw [heq] at hw'
      exact hr key' w' (get?_of_sweep hw')
    · rw [heq, Map.get?_set] at hw'
      split_ifs at hw' with hk
      · obtain rfl := Option.some.inj hw'
        exact ha
      · exact hr key' w' (get?_of_sweep hw')

/-! ## The windows of a key -/

/-- **The windows of a key so far**: separate windows hold its admitted calls; the tracked one is
the last, and the calls admitted in it are those counted up to the limit; when none is tracked, all
are over. -/
structure Tracks (limit windowMs : ℕ) (r : RateLimiter) (key : String) (starts : Set ℕ)
    (times : List ℕ) (now : ℕ) : Prop where
  windows : Windows windowMs limit starts times
  tracked : ∀ w, r.windows.get? key = some w →
    w.start ∈ starts ∧ (∀ s ∈ starts, s = w.start ∨ s + windowMs ≤ w.start) ∧
      inWindow windowMs w.start times = min w.count limit
  untracked : r.windows.get? key = none → ∀ s ∈ starts, s + windowMs ≤ now

lemma Tracks.mono {starts : Set ℕ} {times : List ℕ}
    (h : Tracks limit windowMs r key starts times now) (hle : now ≤ n) :
    Tracks limit windowMs r key starts times n where
  windows := h.windows
  tracked := h.tracked
  untracked hnone s hs := (h.untracked hnone s hs).trans hle

/-- A key without a live window has no window that is not over. -/
lemma Tracks.over {starts : Set ℕ} {times : List ℕ}
    (h : Tracks limit windowMs r key starts times now)
    (hdead : ∀ w, r.windows.get? key = some w → w.live now windowMs = false) :
    ∀ s ∈ starts, s + windowMs ≤ now := by
  intro s hs
  cases hget : r.windows.get? key with
  | none => exact h.untracked hget s hs
  | some w =>
    have hend : w.start + windowMs ≤ now := by
      have := hdead w hget
      rw [← Bool.not_eq_true, live_iff] at this
      omega
    rcases (h.tracked w hget).2.1 s hs with rfl | hle <;> omega

/-- The sweep leaves the windows of a key as they are, or they are all over. -/
lemma Tracks.sweep {starts : Set ℕ} {times : List ℕ}
    (h : Tracks limit windowMs r key starts times now) (maxKeys : ℕ) :
    Tracks limit windowMs (r.sweep now windowMs maxKeys) key starts times now where
  windows := h.windows
  tracked w hw := h.tracked w (get?_of_sweep hw)
  untracked hnone := by
    rcases sweep_cases r key now windowMs maxKeys with heq | ⟨-, w, hw, hdead⟩
    · exact h.untracked (heq.symm.trans hnone)
    · apply h.over
      intro w' hw'
      obtain rfl := Option.some.inj (hw.symm.trans hw')
      exact hdead

/-- The windows of a key depend on its own entry only. -/
lemma Tracks.congr {r' : RateLimiter} {starts : Set ℕ} {times : List ℕ}
    (h : Tracks limit windowMs r key starts times now)
    (heq : r'.windows.get? key = r.windows.get? key) :
    Tracks limit windowMs r' key starts times now where
  windows := h.windows
  tracked w hw := h.tracked w (heq ▸ hw)
  untracked hnone := h.untracked (heq ▸ hnone)

/-- A call that counts in the live window of its key. -/
lemma Tracks.counted {starts : Set ℕ} {times : List ℕ}
    (h : Tracks limit windowMs r key starts times now) (hget : r.windows.get? key = some w)
    (hstart : w.start ≤ now) (hlive : w.live now windowMs) :
    Tracks limit windowMs { r with windows := r.windows.set key ⟨w.start, w.count + 1⟩ } key starts
      (times ++ if w.count + 1 ≤ limit then [now] else []) now := by
  obtain ⟨hmem, hlast, hcount⟩ := h.tracked w hget
  have hin : w.start ≤ now ∧ now < w.start + windowMs := ⟨hstart, live_iff.mp hlive⟩
  refine ⟨?_, fun w' hw' => ?_, fun hnone => ?_⟩
  · split_ifs with hle
    · apply h.windows.add hmem hin
      omega
    · rw [List.append_nil]
      exact h.windows
  · rw [Map.get?_set_self] at hw'
    obtain rfl := Option.some.inj hw'
    refine ⟨hmem, hlast, ?_⟩
    show inWindow windowMs w.start _ = min (w.count + 1) limit
    rw [inWindow_append, hcount]
    split_ifs with hle
    · rw [inWindow_singleton, if_pos hin]
      omega
    · rw [inWindow, List.countP_nil]
      omega
  · rw [Map.get?_set_self] at hnone
    cases hnone

/-- A call that starts a window of its key. -/
lemma Tracks.opened {starts : Set ℕ} {times : List ℕ} (hlimit : 0 < limit) (hwidth : 0 < windowMs)
    (h : Tracks limit windowMs r key starts times now) (hover : ∀ s ∈ starts, s + windowMs ≤ now) :
    Tracks limit windowMs { r with windows := r.windows.set key ⟨now, 1⟩ } key (insert now starts)
      (times ++ [now]) now := by
  refine ⟨h.windows.start hwidth hlimit hover, fun w hw => ?_, fun hnone => ?_⟩
  · rw [Map.get?_set_self] at hw
    obtain rfl := Option.some.inj hw
    refine ⟨Set.mem_insert now starts, fun s hs => ?_, ?_⟩
    · rcases hs with rfl | hs
      · exact .inl rfl
      · exact .inr (hover s hs)
    · show inWindow windowMs now _ = min 1 limit
      rw [inWindow_append, h.windows.inWindow_eq_zero hover, inWindow_singleton, if_pos (by omega)]
      omega
  · rw [Map.get?_set_self] at hnone
    cases hnone

/-- **One call keeps the windows of every key.** -/
lemma Tracks.step {starts : Set ℕ} {times : List ℕ} (hlimit : 0 < limit) (hwidth : 0 < windowMs)
    (h : Tracks limit windowMs r key starts times a.now)
    (hstart : ∀ w, r.windows.get? key = some w → w.start ≤ a.now) (maxKeys : ℕ) :
    ∃ starts', Tracks limit windowMs (r.allow limit a.key a.now windowMs maxKeys).2 key starts'
      (times ++
        if a.key = key ∧ (r.allow limit a.key a.now windowMs maxKeys).1 then [a.now] else [])
      a.now := by
  by_cases hk : a.key = key
  · simp only [hk, true_and]
    rcases allow_cases hlimit r key a.now windowMs maxKeys with
      ⟨w, hget, hlive, heq⟩ | ⟨-, -, heq⟩ | ⟨hdead, -, heq⟩
    · refine ⟨starts, ?_⟩
      rw [heq]
      simpa only [decide_eq_true_eq] using h.counted hget (hstart w hget) hlive
    · refine ⟨starts, ?_⟩
      rw [heq]
      simpa using h.sweep maxKeys
    · refine ⟨insert a.now starts, ?_⟩
      rw [heq]
      exact (h.sweep maxKeys).opened hlimit hwidth (h.over hdead)
  · refine ⟨starts, ?_⟩
    simp only [hk, false_and, if_false, List.append_nil]
    rcases allow_cases hlimit r a.key a.now windowMs maxKeys with
      ⟨w, -, -, heq⟩ | ⟨-, -, heq⟩ | ⟨-, -, heq⟩
    · rw [heq]
      exact h.congr (by simp only [Map.get?_set, if_neg (Ne.symm hk)])
    · rw [heq]
      exact h.sweep maxKeys
    · rw [heq]
      exact (h.sweep maxKeys).congr (by simp only [Map.get?_set, if_neg (Ne.symm hk)])

/-- **The windows of a key over a sequence of calls** whose instants do not decrease. -/
lemma tracks (hlimit : 0 < limit) (hwidth : 0 < windowMs) (maxKeys : ℕ) (key : String)
    (hasks : asks.Pairwise fun a b => a.now ≤ b.now) (hn : ∀ a ∈ asks, a.now ≤ n) :
    ∃ starts, Tracks limit windowMs (after limit windowMs maxKeys {} asks) key starts
      (admitted key (answers limit windowMs maxKeys {} asks)) n := by
  induction asks using List.reverseRecOn generalizing n with
  | nil =>
    refine ⟨∅, Windows.nil windowMs limit, fun w hw => ?_, fun _ s hs => ?_⟩
    · cases hw
    · exact absurd hs (Set.notMem_empty s)
  | append_singleton asks a ih =>
    rw [List.pairwise_append] at hasks
    obtain ⟨hpast, -, hle⟩ := hasks
    obtain ⟨starts, htracks⟩ := ih hpast fun b hb => hle b hb a List.mem_cons_self
    obtain ⟨starts', hstep⟩ := htracks.step hlimit hwidth
      (fun w hw => start_le hlimit (fun b hb => hle b hb a List.mem_cons_self) (by simp) hw) maxKeys
    refine ⟨starts', ?_⟩
    rw [after_append, admitted_snoc]
    exact hstep.mono (hn a (by simp))

/-! ## The bounds -/

/-- What a key's call gets when its window is live: the count decides. -/
lemma allow_of_live (hlimit : 0 < limit) (h : r.windows.get? key = some w)
    (hw : w.live now windowMs) :
    (r.allow limit key now windowMs maxKeys).1 = decide (w.count + 1 ≤ limit) := by
  rcases allow_cases hlimit r key now windowMs maxKeys with
    ⟨w', hget, -, heq⟩ | ⟨hdead, -, -⟩ | ⟨hdead, -, -⟩
  · obtain rfl := Option.some.inj (h.symm.trans hget)
    rw [heq]
  · rw [hdead w h] at hw
    cases hw
  · rw [hdead w h] at hw
    cases hw

/-- What a key's call gets when its window is not live: the cap decides, for a key that is not
tracked. -/
lemma allow_of_dead (hlimit : 0 < limit)
    (hdead : ∀ w, r.windows.get? key = some w → w.live now windowMs = false) :
    (r.allow limit key now windowMs maxKeys).1 = true ↔
      (r.windows.get? key = none → (r.sweep now windowMs maxKeys).windows.size < maxKeys) := by
  rcases allow_cases hlimit r key now windowMs maxKeys with
    ⟨w, hget, hlive, -⟩ | ⟨-, ⟨hnone, hfull⟩, heq⟩ | ⟨-, hroom, heq⟩
  · rw [hdead w hget] at hlive
    cases hlive
  · rw [heq]
    constructor
    · intro h
      cases h
    · intro h
      exact absurd (h hnone) (not_lt.mpr hfull)
  · rw [heq]
    exact ⟨fun _ => hroom, fun _ => rfl⟩

/-- A call that starts a window leaves the window with one call counted. -/
lemma Opens.get? (hlimit : 0 < limit) (h : Opens limit windowMs maxKeys r a) :
    (r.allow limit a.key a.now windowMs maxKeys).2.windows.get? a.key = some ⟨a.now, 1⟩ := by
  obtain ⟨hdead, hok⟩ := h
  rcases allow_cases hlimit r a.key a.now windowMs maxKeys with
    ⟨w, hget, hlive, -⟩ | ⟨-, -, heq⟩ | ⟨-, -, heq⟩
  · rw [hdead w hget] at hlive
    cases hlive
  · rw [heq] at hok
    cases hok
  · rw [heq]
    exact Map.get?_set_self _ _ _

/-- **The bounds of the limiter**, for every limit, window length and cap, over every sequence of
calls whose instants do not decrease.

**Proof sketch.** A live window is kept with all calls of its key counted, so the answers in it
depend on their number only, and a window is started when the one before is over. The admitted
calls of a key so lie in windows that do not overlap, each with at most the limit of them. -/
theorem bounded (hlimit : 0 < limit) (hasks : asks.Pairwise fun a b => a.now ≤ b.now) :
    Bounded limit windowMs maxKeys asks where
  twice key t := by
    rcases Nat.eq_zero_or_pos windowMs with rfl | hwidth
    · rw [inWindow, List.countP_eq_zero.mpr fun x _ => by simp]
      exact Nat.zero_le _
    · obtain ⟨n, hn⟩ : ∃ n, ∀ a ∈ asks, a.now ≤ n :=
        ⟨(asks.map (·.now)).sum, fun a ha => List.single_le_sum (by simp) _
          (List.mem_map_of_mem ha)⟩
      obtain ⟨starts, htracks⟩ := tracks hlimit hwidth maxKeys key hasks hn
      exact htracks.windows.count_le t
  first past a later b rest heq hopens hkey hlt := by
    have hbefore : ∀ c ∈ later, c.now ≤ b.now := by
      intro c hc
      rw [heq, List.pairwise_append] at hasks
      exact hasks.2.2 c (by simp [hc]) b List.mem_cons_self
    have hwindow : (after limit windowMs maxKeys {} (past ++ a :: later)).windows.get? a.key =
        some ⟨a.now, 1 + later.countP (·.key = a.key)⟩ := by
      rw [after_append, after]
      apply window_kept hlimit (Opens.get? hlimit hopens)
      intro c hc
      exact live_iff.mpr ((hbefore c hc).trans_lt hlt)
    have hanswer : ((after limit windowMs maxKeys {} (past ++ a :: later)).allow limit a.key b.now
        windowMs maxKeys).1 = _ := allow_of_live hlimit hwindow (live_iff.mpr hlt)
    rw [hkey, hanswer, decide_eq_true_iff]
    simp [List.countP_append, hkey]
    omega
  kept past later rest key w _ hget hlive := by
    rw [after_append]
    exact window_kept hlimit hget hlive
  capped past _ _ := size_after_le hlimit (Nat.zero_le maxKeys) past
  served past a rest w heq hget hlive hfew := by
    rw [heq, List.pairwise_append] at hasks
    obtain ⟨hpast, -, hle⟩ := hasks
    have hn : ∀ c ∈ past, c.now ≤ a.now := fun c hc => hle c hc a List.mem_cons_self
    have hstart : w.start ≤ a.now := start_le hlimit hn (by simp) hget
    have hwidth : 0 < windowMs := by
      have := live_iff.mp hlive
      omega
    obtain ⟨starts, htracks⟩ := tracks hlimit hwidth maxKeys a.key hpast hn
    have hcount := (htracks.tracked w hget).2.2
    rw [allow_of_live hlimit hget hlive, decide_eq_true_iff]
    omega
  started _ _ _ _ hdead := allow_of_dead hlimit hdead

/-- Two calls a window and one tracked key: the third call and the second key are refused, and the
first key starts its next window. -/
def sampleAsks : List Ask := [⟨"a", 0⟩, ⟨"a", 3⟩, ⟨"a", 9⟩, ⟨"b", 9⟩, ⟨"a", 10⟩]

example : (answers 2 10 1 {} sampleAsks).map (·.2) = [true, true, false, false, true] := by decide

theorem bounded_sample : Bounded 2 10 1 sampleAsks := bounded (by decide) (by decide)

end RateLimiter

end Fapi2As
