import Mathlib.Data.Nat.Init
import Mathlib.Data.List.Basic
import Mathlib.Logic.Function.Basic
import Mathlib.Order.Basic

set_option relaxedAutoImplicit false
set_option autoImplicit false

/-!
# Replay guards

A replay guard admits a key unless an entry of it is still alive. It keeps the entries it has
admitted with their expiry, may remove expired ones whenever it is called, and may have a state in
which it is full and refuses everything. What such a guard answers over a sequence of calls does not
depend on when it removes what: an admitted key is not admitted again while its entry is alive, and
nothing else is refused.

## Main definitions

* `Replay.Registration` — a call: a key, an expiry and an instant.
* `Replay.Answers` — one call: the answer, and the entries after it.
* `Replay.History` — a sequence of calls on an empty guard.

## Main results

* `Replay.History.keeps` — an entry is kept as long as it is alive.
* `Replay.History.never_readmits` — a key is not admitted while its entry is alive.
* `Replay.History.refused_because` — a refused key has an entry that is alive, or the guard is full.
-/

namespace Replay

variable {κ δ τ : Type}

/-- A call of a guard. -/
structure Registration (κ δ τ : Type) where
  key : κ
  expiry : δ
  now : τ

/-- Entries from which some that are no longer alive were removed. -/
def SweptAt (alive : δ → τ → Prop) (now : τ) (rows rows' : κ → Option δ) : Prop :=
  ∀ k, rows' k = rows k ∨ rows' k = none ∧ ∀ e ∈ rows k, ¬alive e now

variable [DecidableEq κ]

/-- **One call of a guard**: expired entries may go, and the key is admitted, refused, or the call
fails. An admitted key replaces the entry it had. -/
inductive Answers (alive : δ → τ → Prop) (full : Prop) (rows : κ → Option δ)
    (c : Registration κ δ τ) : Option Bool → (κ → Option δ) → Prop
  | admits (rows' : κ → Option δ) (swept : SweptAt alive c.now rows rows')
      (fresh : ∀ e ∈ rows c.key, ¬alive e c.now) :
      Answers alive full rows c (some true) (Function.update rows' c.key (some c.expiry))
  | refuses (rows' : κ → Option δ) (swept : SweptAt alive c.now rows rows')
      (why : (∃ e ∈ rows c.key, alive e c.now) ∨ full) :
      Answers alive full rows c (some false) rows'
  | fails (rows' : κ → Option δ) (swept : SweptAt alive c.now rows rows') :
      Answers alive full rows c none rows'

/-- **A sequence of calls** on a guard without entries: the entries before each call, when it is
full, and the answers. -/
structure History (alive : δ → τ → Prop) (calls : List (Registration κ δ τ)) where
  rows : ℕ → κ → Option δ
  full : ℕ → Prop
  answer : ℕ → Option Bool
  start : rows 0 = fun _ => none
  step : ∀ i c, calls[i]? = some c → Answers alive (full i) (rows i) c (answer i) (rows (i + 1))

namespace History

variable {alive : δ → τ → Prop} {calls : List (Registration κ δ τ)} (H : History alive calls)

/-- An entry after a call was there before it, or the call admitted it. -/
lemma rows_succ {i : ℕ} {c : Registration κ δ τ} (hc : calls[i]? = some c) {k : κ} {e : δ}
    (he : H.rows (i + 1) k = some e) :
    H.rows i k = some e ∨ H.answer i = some true ∧ c.key = k ∧ c.expiry = e := by
  have hstep := H.step i c hc
  have hswept : ∀ rows', SweptAt alive c.now (H.rows i) rows' → rows' k = some e →
      H.rows i k = some e := by
    intro rows' hs hr
    rcases hs k with h | ⟨h, -⟩
    · rw [← h, hr]
    · rw [h] at hr
      cases hr
  generalize hrows : H.rows (i + 1) = rows at hstep he
  generalize hanswer : H.answer i = answer at hstep
  cases hstep with
  | admits rows' hs hfresh =>
    by_cases hk : k = c.key
    · subst hk
      rw [Function.update_self] at he
      exact .inr ⟨rfl, rfl, Option.some.inj he⟩
    · rw [Function.update_of_ne hk] at he
      exact .inl (hswept _ hs he)
  | refuses rows' hs hwhy => exact .inl (hswept _ hs he)
  | fails rows' hs => exact .inl (hswept _ hs he)

/-- **Every entry was admitted by an earlier call.** -/
lemma admitted {j : ℕ} (hj : j ≤ calls.length) {k : κ} {e : δ} (he : H.rows j k = some e) :
    ∃ i < j, ∃ c, calls[i]? = some c ∧ H.answer i = some true ∧ c.key = k ∧ c.expiry = e := by
  induction j with
  | zero =>
    rw [H.start] at he
    cases he
  | succ j ih =>
    have hc : calls[j]? = some (calls.get ⟨j, hj⟩) := List.getElem?_eq_getElem hj
    rcases H.rows_succ hc he with h | ⟨ha, hk, hx⟩
    · obtain ⟨i, hi, rest⟩ := ih (by omega) h
      exact ⟨i, by omega, rest⟩
    · exact ⟨j, by omega, _, hc, ha, hk, hx⟩

variable [Preorder τ]

/-- **An entry is kept as long as it is alive.**

**Proof sketch.** Induction on the calls. An entry that is alive at a later call is alive at every
earlier one, so no call before it removes the entry, and none admits its key. -/
lemma keeps (hmono : ∀ e t t', t ≤ t' → alive e t' → alive e t)
    (hnow : calls.Pairwise fun c c' => c.now ≤ c'.now) {m j : ℕ} (hmj : m ≤ j)
    {c : Registration κ δ τ} (hc : calls[j]? = some c) {k : κ} {e : δ} (he : H.rows m k = some e)
    (halive : alive e c.now) : H.rows j k = some e := by
  have hlen : j < calls.length := (List.getElem?_eq_some_iff.mp hc).1
  have hkeep : ∀ i, m ≤ i → i ≤ j → H.rows i k = some e := by
    intro i hi
    induction i, hi using Nat.le_induction with
    | base => exact fun _ => he
    | succ i hi ih =>
      intro hij
      have hrow := ih (by omega)
      have hci : calls[i]? = some (calls.get ⟨i, by omega⟩) := List.getElem?_eq_getElem (by omega)
      have hle : (calls.get ⟨i, by omega⟩).now ≤ c.now := by
        obtain ⟨hj, rfl⟩ := List.getElem?_eq_some_iff.mp hc
        exact List.pairwise_iff_getElem.mp hnow i j (by omega) hj (by omega)
      have hlive := hmono e _ _ hle halive
      have hswept : ∀ rows', SweptAt alive (calls.get ⟨i, by omega⟩).now (H.rows i) rows' →
          rows' k = some e := by
        intro rows' hs
        rcases hs k with h | ⟨-, h⟩
        · rw [h, hrow]
        · exact absurd hlive (h e hrow)
      have hstep := H.step i _ hci
      generalize H.rows (i + 1) = rows at hstep
      generalize H.answer i = answer at hstep
      cases hstep with
      | admits rows' hs hfresh =>
        by_cases hk : k = (calls.get ⟨i, by omega⟩).key
        · exact absurd hlive (hfresh e (hk ▸ hrow))
        · rw [Function.update_of_ne hk]
          exact hswept _ hs
      | refuses rows' hs hwhy => exact hswept _ hs
      | fails rows' hs => exact hswept _ hs
  exact hkeep j hmj (Nat.le_refl j)

/-- **A key is not admitted while its entry is alive.** -/
lemma never_readmits (hmono : ∀ e t t', t ≤ t' → alive e t' → alive e t)
    (hnow : calls.Pairwise fun c c' => c.now ≤ c'.now) {i j : ℕ} (hij : i < j)
    {c c' : Registration κ δ τ} (hc : calls[i]? = some c) (hc' : calls[j]? = some c')
    (hadmitted : H.answer i = some true) (hkey : c'.key = c.key) (halive : alive c.expiry c'.now) :
    H.answer j ≠ some true := by
  have hentry : H.rows (i + 1) c.key = some c.expiry := by
    have hstep := H.step i c hc
    rw [hadmitted] at hstep
    generalize H.rows (i + 1) = rows at hstep
    cases hstep with
    | admits rows' hs hfresh => exact Function.update_self ..
  have hkept := H.keeps hmono hnow hij hc' hentry halive
  have hstep := H.step j c' hc'
  intro hanswer
  rw [hanswer] at hstep
  generalize H.rows (j + 1) = rows at hstep
  cases hstep with
  | admits rows' hs hfresh => exact hfresh _ (hkey ▸ hkept) halive

omit [Preorder τ] in
/-- **A refused key has an entry that is alive**, which an earlier call admitted, or the guard is
full. -/
lemma refused_because {j : ℕ} {c : Registration κ δ τ} (hc : calls[j]? = some c)
    (hrefused : H.answer j = some false) :
    (∃ i < j, ∃ c', calls[i]? = some c' ∧ H.answer i = some true ∧ c'.key = c.key ∧
      alive c'.expiry c.now) ∨ H.full j := by
  have hlen : j < calls.length := (List.getElem?_eq_some_iff.mp hc).1
  have hstep := H.step j c hc
  rw [hrefused] at hstep
  generalize H.rows (j + 1) = rows at hstep
  cases hstep with
  | refuses rows' hs hwhy =>
    rcases hwhy with ⟨e, he, halive⟩ | hfull
    · obtain ⟨i, hi, c', hc', ha, hk, hx⟩ := H.admitted (Nat.le_of_lt hlen) he
      exact .inl ⟨i, hi, c', hc', ha, hk, hx ▸ halive⟩
    · exact .inr hfull

end History

end Replay
