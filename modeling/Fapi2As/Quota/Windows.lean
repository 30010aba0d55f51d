import Mathlib.Algebra.Order.Monoid.Unbundled.Basic
import Mathlib.Algebra.Order.Monoid.Defs
import Mathlib.Data.List.Count
import Mathlib.Data.Set.Insert
import Mathlib.Tactic.Common

set_option relaxedAutoImplicit false
set_option autoImplicit false

/-!
# Windows that do not overlap

A quota by windows admits at most so many instants in each window of a fixed width, and windows
never overlap; they may start at any instant, so an interval of one width can meet two of them but
no third. Instants are those of any linearly ordered cancellative monoid.

## Main definitions

* `Quota.Windows` — instants, the starts of the windows they fall into, and the quota of each.

## Main results

* `Quota.Windows.add`, `Quota.Windows.start` — one more instant in an open window, and in a new
  one.
* `Quota.Windows.count_le` — an interval of one width holds at most twice the quota.
-/

namespace Quota

variable {τ : Type} [AddCommMonoid τ] [LinearOrder τ]

/-- The instants that fall into the window of a width that starts at an instant. -/
def inWindow (width start : τ) (times : List τ) : ℕ :=
  times.countP fun t => start ≤ t ∧ t < start + width

/-- **Instants in separate windows**, at most `quota` in each. -/
structure Windows (width : τ) (quota : ℕ) (starts : Set τ) (times : List τ) : Prop where
  separated : ∀ s ∈ starts, ∀ s' ∈ starts, s < s' → s + width ≤ s'
  covered : ∀ t ∈ times, ∃ s ∈ starts, s ≤ t ∧ t < s + width
  limited : ∀ s ∈ starts, inWindow width s times ≤ quota

variable {width s s' t : τ} {quota : ℕ} {starts : Set τ} {times : List τ}

lemma inWindow_append (width s : τ) (times times' : List τ) :
    inWindow width s (times ++ times') = inWindow width s times + inWindow width s times' :=
  List.countP_append

lemma inWindow_singleton (width s t : τ) :
    inWindow width s [t] = if s ≤ t ∧ t < s + width then 1 else 0 := by
  simp [inWindow]

/-- No instants, no windows. -/
lemma Windows.nil (width : τ) (quota : ℕ) : Windows width quota ∅ [] where
  separated s hs := absurd hs (Set.notMem_empty s)
  covered _ ht := absurd ht List.not_mem_nil
  limited s hs := absurd hs (Set.notMem_empty s)

/-- An instant falls into one window only. -/
lemma Windows.unique (h : Windows width quota starts times) (hs : s ∈ starts) (hs' : s' ∈ starts)
    (ht : s ≤ t ∧ t < s + width) (ht' : s' ≤ t ∧ t < s' + width) : s = s' := by
  rcases lt_trichotomy s s' with hlt | heq | hgt
  · exact absurd (ht.2.trans_le ((h.separated s hs s' hs' hlt).trans ht'.1)) (lt_irrefl t)
  · exact heq
  · exact absurd (ht'.2.trans_le ((h.separated s' hs' s hs hgt).trans ht.1)) (lt_irrefl t)

/-- **One more instant in an open window** whose quota is not used up. -/
lemma Windows.add (h : Windows width quota starts times) (hs : s ∈ starts)
    (ht : s ≤ t ∧ t < s + width) (hq : inWindow width s times < quota) :
    Windows width quota starts (times ++ [t]) where
  separated := h.separated
  covered x hx := by
    rcases List.mem_append.mp hx with hx | hx
    · exact h.covered x hx
    · obtain rfl := List.mem_singleton.mp hx
      exact ⟨s, hs, ht⟩
  limited s' hs' := by
    rw [inWindow_append, inWindow_singleton]
    split_ifs with ht'
    · obtain rfl := h.unique hs hs' ht ht'
      omega
    · have := h.limited s' hs'
      omega

/-- No instant falls into a window that starts when all others are over. -/
lemma Windows.inWindow_eq_zero (h : Windows width quota starts times)
    (hpast : ∀ s ∈ starts, s + width ≤ t) : inWindow width t times = 0 := by
  apply List.countP_eq_zero.mpr
  intro x hx hin
  obtain ⟨s, hs, -, hlt⟩ := h.covered x hx
  have hle := (of_decide_eq_true hin).1
  exact absurd (hlt.trans_le ((hpast s hs).trans hle)) (lt_irrefl x)

/-- Instants that all fall into the windows of one start are within its quota. -/
lemma Windows.countP_le (h : Windows width quota starts times) {p : τ → Bool}
    (hone : ∀ x ∈ times, ∀ y ∈ times, p x → p y → ∀ s ∈ starts, ∀ s' ∈ starts,
      (s ≤ x ∧ x < s + width) → (s' ≤ y ∧ y < s' + width) → s = s') :
    times.countP p ≤ quota := by
  by_cases hex : ∃ x ∈ times, p x
  · obtain ⟨x, hx, hpx⟩ := hex
    obtain ⟨s, hs, hin⟩ := h.covered x hx
    refine le_trans (List.countP_mono_left ?_) (h.limited s hs)
    intro y hy hpy
    obtain ⟨s', hs', hin'⟩ := h.covered y hy
    obtain rfl := hone x hx y hy hpx hpy s hs s' hs' hin hin'
    exact decide_eq_true hin'
  · rw [List.countP_eq_zero.mpr fun x hx hpx => hex ⟨x, hx, hpx⟩]
    exact Nat.zero_le _

variable [IsOrderedCancelAddMonoid τ]

/-- **An instant that starts a window**, when all others are over. -/
lemma Windows.start (h : Windows width quota starts times) (hwidth : 0 < width)
    (hquota : 0 < quota) (hpast : ∀ s ∈ starts, s + width ≤ t) :
    Windows width quota (insert t starts) (times ++ [t]) where
  separated s hs s' hs' hlt := by
    rcases hs with rfl | hs
    · rcases hs' with rfl | hs'
      · exact absurd hlt (lt_irrefl _)
      · have := (le_add_of_nonneg_right hwidth.le).trans (hpast s' hs')
        exact absurd (hlt.trans_le this) (lt_irrefl _)
    · rcases hs' with rfl | hs'
      · exact hpast s hs
      · exact h.separated s hs s' hs' hlt
  covered x hx := by
    rcases List.mem_append.mp hx with hx | hx
    · obtain ⟨s, hs, hin⟩ := h.covered x hx
      exact ⟨s, Set.mem_insert_of_mem t hs, hin⟩
    · obtain rfl := List.mem_singleton.mp hx
      exact ⟨x, Set.mem_insert x starts, le_rfl, lt_add_of_pos_right x hwidth⟩
  limited s hs := by
    rw [inWindow_append, inWindow_singleton]
    rcases hs with rfl | hs
    · rw [h.inWindow_eq_zero hpast]
      split_ifs <;> omega
    · rw [if_neg fun hin => absurd (hin.2.trans_le (hpast s hs)) (lt_irrefl t)]
      exact h.limited s hs

/-- **An interval of one width holds at most twice the quota.**

**Proof sketch.** The instants of the interval that fall into a window started before the interval
all fall into the same one: it reaches into the interval, and the next one starts inside. Those that
fall into a window started inside do so too: its end is past the end of the interval. -/
theorem Windows.count_le (h : Windows width quota starts times) (t : τ) :
    inWindow width t times ≤ 2 * quota := by
  classical
  -- the instants whose window started before the interval, and the others
  set old : τ → Prop := fun x => ∃ s ∈ starts, s < t ∧ s ≤ x ∧ x < s + width with hold
  have hsplit : inWindow width t times =
      (times.filter fun x => t ≤ x ∧ x < t + width).countP (fun x => old x) +
      (times.filter fun x => t ≤ x ∧ x < t + width).countP (fun x => ¬old x) := by
    rw [inWindow, List.countP_eq_length_filter, List.length_eq_countP_add_countP (fun x => old x)]
    simp
  rw [hsplit, List.countP_filter, List.countP_filter]
  have hfirst : times.countP (fun x => old x && (t ≤ x ∧ x < t + width : Bool)) ≤ quota := by
    apply h.countP_le
    intro x hx y hy hpx hpy s hs s' hs' hin hin'
    simp only [Bool.and_eq_true, decide_eq_true_eq] at hpx hpy
    obtain ⟨⟨s₀, hs₀, hlt₀, hin₀⟩, hxt, -⟩ := hpx
    obtain ⟨⟨s₁, hs₁, hlt₁, hin₁⟩, hyt, -⟩ := hpy
    obtain rfl := h.unique hs hs₀ hin hin₀
    obtain rfl := h.unique hs' hs₁ hin' hin₁
    -- both windows hold the start of the interval
    exact h.unique hs hs' ⟨hlt₀.le, hxt.trans_lt hin.2⟩ ⟨hlt₁.le, hyt.trans_lt hin'.2⟩
  have hsecond : times.countP (fun x => (¬old x : Bool) && (t ≤ x ∧ x < t + width : Bool)) ≤
      quota := by
    apply h.countP_le
    intro x hx y hy hpx hpy s hs s' hs' hin hin'
    simp only [Bool.and_eq_true, decide_eq_true_eq] at hpx hpy
    have hst : t ≤ s := le_of_not_gt fun hlt => hpx.1 ⟨s, hs, hlt, hin⟩
    have hst' : t ≤ s' := le_of_not_gt fun hlt => hpy.1 ⟨s', hs', hlt, hin'⟩
    -- the earlier of two different windows would reach past the interval
    rcases lt_trichotomy s s' with hlt | heq | hgt
    · have := (add_le_add_left hst width).trans (h.separated s hs s' hs' hlt)
      exact absurd (hpy.2.2.trans_le (this.trans hin'.1)) (lt_irrefl y)
    · exact heq
    · have := (add_le_add_left hst' width).trans (h.separated s' hs' s hs hgt)
      exact absurd (hpx.2.2.trans_le (this.trans hin.1)) (lt_irrefl x)
  omega

end Quota
