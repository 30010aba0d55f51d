import Mathlib.Data.List.Basic
import Mathlib.Data.List.Nodup
import Mathlib.Logic.Function.Basic
import Mathlib.Tactic.Common

set_option relaxedAutoImplicit false
set_option autoImplicit false

/-!
# Transactions with a unique key

A database that sessions change by statements: a statement outside a transaction is committed at
once, and one inside is pending until its session commits. Keys are unique: a key that is committed
is not inserted again, and one that is pending in another session has to wait for that session. A
session may be lost at any statement; its transaction is then dropped, and a commit may or may not
have been made.

## Main definitions

* `Txn.Db`, `Txn.Session`, `Txn.Pending` — what is committed, the sessions, and their transactions.
* `Txn.Stmt`, `Txn.Outcome`, `Txn.Db.exec` — the statements and what they do.
* `Txn.Db.Unique` — keys are unique, over what is committed and all that is pending.
* `Txn.Db.Since` — what a step leaves: more is committed, and other sessions stay.

## Main results

* `Txn.Db.Effect.since` — a statement takes nothing back and touches its own session only.
* `Txn.Db.Unique.exec` — statements keep keys unique.
* `Txn.Db.exec_keeps` — a statement that is pending commits nothing.
* `Txn.Db.exec_commit` — a transaction takes effect as a whole, or not at all.
-/

namespace Txn

variable {ω κ : Type}

/-- An open transaction: what it has written and inserted, and whether a statement failed in it. -/
structure Pending (ω κ : Type) where
  writes : List ω := []
  keys : List κ := []
  failed : Bool := false
  deriving DecidableEq

/-- A session: not connected or lost, outside a transaction, or in one. -/
inductive Session (ω κ : Type)
  | lost
  | idle
  | active (p : Pending ω κ)
  deriving DecidableEq

lemma Session.lost_ne (p : Pending ω κ) : (Session.lost : Session ω κ) ≠ .active p := nofun

lemma Session.idle_ne (p : Pending ω κ) : (Session.idle : Session ω κ) ≠ .active p := nofun

/-- A database: the committed writes and keys, in order, and the sessions. -/
structure Db (ω κ : Type) where
  writes : List ω := []
  keys : List κ := []
  session : ℕ → Session ω κ := fun _ => .lost
  /-- The next session. -/
  next : ℕ := 0

/-- The statements of a session. -/
inductive Stmt (ω κ : Type)
  | begin
  | write (v : ω)
  | insert (k : κ)
  | commit
  | rollback

/-- How a statement goes: it is done, it fails, or its session is lost, after it took effect or
before. -/
inductive Outcome
  | done
  | failed
  | lost (took : Bool)
  deriving DecidableEq

namespace Db

variable (d : Db ω κ) (s : ℕ)

/-- A session in another state. -/
def put (x : Session ω κ) : Db ω κ := { d with session := Function.update d.session s x }

/-- More is committed. -/
def add (writes : List ω) (keys : List κ) : Db ω κ :=
  { d with writes := d.writes ++ writes, keys := d.keys ++ keys }

@[simp] lemma session_put_self (x : Session ω κ) : (d.put s x).session s = x :=
  Function.update_self _ _ _

lemma session_put_of_ne (x : Session ω κ) {t : ℕ} (h : t ≠ s) :
    (d.put s x).session t = d.session t := Function.update_of_ne h _ _

/-- A new session. -/
def connect : ℕ × Db ω κ := (d.next, { d.put d.next .idle with next := d.next + 1 })

/-- What a statement outside a transaction does: it is committed at once. -/
def autocommit (writes : List ω) (keys : List κ) : Outcome → Bool × Db ω κ
  | .done => (true, d.add writes keys)
  | .failed => (false, d)
  | .lost true => (false, (d.add writes keys).put s .lost)
  | .lost false => (false, d.put s .lost)

/-- What a statement in a transaction does: it is pending, and a failure is kept in mind. -/
def pend (p : Pending ω κ) (writes : List ω) (keys : List κ) : Outcome → Bool × Db ω κ
  | .done =>
    (true, d.put s (.active { p with writes := p.writes ++ writes, keys := p.keys ++ keys }))
  | .failed => (false, d.put s (.active { p with failed := true }))
  | .lost _ => (false, d.put s .lost)

/-- The end of a transaction: everything pending is committed at once, or nothing is. One in which a
statement failed is rolled back without an error. -/
def finish (p : Pending ω κ) : Outcome → Bool × Db ω κ
  | .done => if p.failed then (true, d.put s .idle) else (true, (d.add p.writes p.keys).put s .idle)
  | .failed => (false, d.put s .idle)
  | .lost true =>
    if p.failed then (false, d.put s .lost) else (false, (d.add p.writes p.keys).put s .lost)
  | .lost false => (false, d.put s .lost)

variable [DecidableEq κ]

/-- A session has a key pending. -/
def holds (t : ℕ) (k : κ) : Bool :=
  match d.session t with
  | .active p => p.keys.contains k
  | _ => false

/-- Another session has a key pending. -/
def heldElsewhere (k : κ) : Bool := (List.range d.next).any fun t => t ≠ s && d.holds t k

/-- **A statement of a session**: whether it succeeds and what it does, `none` while it has to wait.
A key that is there fails; one that another session has pending is waited for, unless the statement
gives up. -/
def exec (o : Outcome) : Stmt ω κ → Option (Bool × Db ω κ)
  | .begin =>
    match d.session s with
    | .lost => some (false, d)
    | .active _ => some (true, d)
    | .idle =>
      match o with
      | .done => some (true, d.put s (.active {}))
      | .failed => some (false, d)
      | .lost _ => some (false, d.put s .lost)
  | .write v =>
    match d.session s with
    | .lost => some (false, d)
    | .idle => some (d.autocommit s [v] [] o)
    | .active p => if p.failed then some (false, d) else some (d.pend s p [v] [] o)
  | .insert k =>
    match d.session s with
    | .lost => some (false, d)
    | .idle =>
      if o = .failed ∨ k ∈ d.keys then some (false, d)
      else if d.heldElsewhere s k then none
      else some (d.autocommit s [] [k] o)
    | .active p =>
      if p.failed then some (false, d)
      else if o = .failed ∨ k ∈ d.keys ∨ k ∈ p.keys then some (d.pend s p [] [] .failed)
      else if d.heldElsewhere s k then none
      else some (d.pend s p [] [k] o)
  | .commit =>
    match d.session s with
    | .lost => some (false, d)
    | .idle => some (true, d)
    | .active p => some (d.finish s p o)
  | .rollback =>
    match d.session s with
    | .lost => some (false, d)
    | _ => if o = .done then some (true, d.put s .idle) else some (false, d.put s .lost)

/-! ## Unique keys -/

/-- **Keys are unique**, over what is committed and all that is pending; a session that was never
opened has nothing pending. -/
structure Unique (d : Db ω κ) : Prop where
  nodup : d.keys.Nodup
  pending : ∀ s p, d.session s = .active p → p.keys.Nodup ∧ ∀ k ∈ p.keys, k ∉ d.keys
  apart : ∀ s t p q, s ≠ t → d.session s = .active p → d.session t = .active q →
    ∀ k ∈ p.keys, k ∉ q.keys
  bounded : ∀ s, d.next ≤ s → d.session s = .lost

/-- A key that is not committed, nor pending in another session. -/
def Free (k : κ) : Prop := k ∉ d.keys ∧ ∀ t p, t ≠ s → d.session t = .active p → k ∉ p.keys

/-- **What a statement of a session can do**: commit writes and free keys, and leave the session
with free keys pending. -/
def Effect (d' : Db ω κ) : Prop :=
  ∃ writes keys x, d' = (d.add writes keys).put s x ∧ keys.Nodup ∧ (∀ k ∈ keys, d.Free s k) ∧
    ∀ p, x = .active p → p.keys.Nodup ∧ ∀ k ∈ p.keys, d.Free s k ∧ k ∉ keys

variable {d s}

omit [DecidableEq κ] in
lemma add_nil : d.add [] [] = d := by
  simp [add]

omit [DecidableEq κ] in
lemma put_self : d.put s (d.session s) = d := by
  unfold put
  rw [Function.update_eq_self]

omit [DecidableEq κ] in
/-- What a session has pending is free for it. -/
lemma Unique.free (h : d.Unique) {p : Pending ω κ} (hp : d.session s = .active p) {k : κ}
    (hk : k ∈ p.keys) : d.Free s k :=
  ⟨(h.pending s p hp).2 k hk, fun t q hts hq => h.apart s t p q (Ne.symm hts) hp hq k hk⟩

/-- A key that no other session holds, and that is not committed, is free. -/
lemma Unique.free_of_not_held (h : d.Unique) {k : κ} (hk : k ∉ d.keys)
    (hheld : d.heldElsewhere s k = false) : d.Free s k := by
  refine ⟨hk, fun t p hts hp hmem => ?_⟩
  have hlt : t < d.next := by
    by_contra hge
    rw [h.bounded t (by omega)] at hp
    cases hp
  have hany : d.heldElsewhere s k = true := by
    apply List.any_eq_true.mpr
    exact ⟨t, List.mem_range.mpr hlt, by simp [hts, holds, hp, hmem]⟩
  rw [hany] at hheld
  cases hheld

omit [DecidableEq κ] in
lemma Effect.refl (h : d.Unique) : d.Effect s d := by
  refine ⟨[], [], d.session s, by rw [add_nil, put_self], List.nodup_nil, by simp, ?_⟩
  intro p hp
  exact ⟨(h.pending s p hp).1, fun k hk => ⟨h.free hp hk, List.not_mem_nil⟩⟩

omit [DecidableEq κ] in
/-- The session is lost or leaves its transaction. -/
lemma Effect.put {x : Session ω κ} (hx : ∀ p, x ≠ .active p) : d.Effect s (d.put s x) :=
  ⟨[], [], x, by rw [add_nil], List.nodup_nil, by simp, fun p hp => absurd hp (hx p)⟩

omit [DecidableEq κ] in
/-- Writes and free keys are committed, and the session leaves its transaction, if it is in one. -/
lemma Effect.add {writes : List ω} {keys : List κ} (hn : keys.Nodup)
    (hfree : ∀ k ∈ keys, d.Free s k) {x : Session ω κ} (hx : ∀ p, x ≠ .active p) :
    d.Effect s ((d.add writes keys).put s x) :=
  ⟨writes, keys, x, rfl, hn, hfree, fun p hp => absurd hp (hx p)⟩

omit [DecidableEq κ] in
lemma Effect.autocommit {writes : List ω} {keys : List κ} (h : d.Unique)
    (hs : d.session s = .idle) (hn : keys.Nodup) (hfree : ∀ k ∈ keys, d.Free s k) (o : Outcome) :
    d.Effect s (d.autocommit s writes keys o).2 := by
  cases o with
  | done =>
    have heq : (d.add writes keys).put s .idle = d.add writes keys := by
      rw [← hs]
      exact put_self (d := d.add writes keys)
    have heffect : d.Effect s ((d.add writes keys).put s .idle) :=
      Effect.add hn hfree Session.idle_ne
    rw [heq] at heffect
    exact heffect
  | failed => exact Effect.refl h
  | lost took =>
    cases took with
    | true => exact Effect.add hn hfree Session.lost_ne
    | false => exact Effect.put Session.lost_ne

omit [DecidableEq κ] in
lemma Effect.pend {p : Pending ω κ} {writes : List ω} {keys : List κ} (h : d.Unique)
    (hs : d.session s = .active p) (hn : (p.keys ++ keys).Nodup)
    (hfree : ∀ k ∈ keys, d.Free s k) (o : Outcome) :
    d.Effect s (d.pend s p writes keys o).2 := by
  cases o with
  | done =>
    refine ⟨[], [], _, by rw [add_nil]; rfl, List.nodup_nil, by simp, fun q hq => ?_⟩
    obtain rfl := Session.active.inj hq
    refine ⟨hn, fun k hk => ⟨?_, List.not_mem_nil⟩⟩
    rcases List.mem_append.mp hk with hk | hk
    · exact h.free hs hk
    · exact hfree k hk
  | failed =>
    refine ⟨[], [], _, by rw [add_nil]; rfl, List.nodup_nil, by simp, fun q hq => ?_⟩
    obtain rfl := Session.active.inj hq
    exact ⟨(h.pending s p hs).1, fun k hk => ⟨h.free hs hk, List.not_mem_nil⟩⟩
  | lost took => exact Effect.put Session.lost_ne

omit [DecidableEq κ] in
lemma Effect.finish {p : Pending ω κ} (h : d.Unique) (hs : d.session s = .active p) (o : Outcome) :
    d.Effect s (d.finish s p o).2 := by
  have hn := (h.pending s p hs).1
  have hfree : ∀ k ∈ p.keys, d.Free s k := fun k hk => h.free hs hk
  cases o with
  | done =>
    unfold Db.finish
    split_ifs
    · exact Effect.put Session.idle_ne
    · exact Effect.add hn hfree Session.idle_ne
  | failed => exact Effect.put Session.idle_ne
  | lost took =>
    cases took with
    | true =>
      unfold Db.finish
      split_ifs
      · exact Effect.put Session.lost_ne
      · exact Effect.add hn hfree Session.lost_ne
    | false => exact Effect.put Session.lost_ne

/-- **Every statement has such an effect.** -/
lemma exec_effect (h : d.Unique) {o : Outcome} {q : Stmt ω κ} {b : Bool} {d' : Db ω κ}
    (hx : d.exec s o q = some (b, d')) : d.Effect s d' := by
  have hsame : ∀ {b'}, some (b', d) = some (b, d') → d.Effect s d' := by
    intro b' heq
    obtain rfl : d = d' := (Prod.mk.inj (Option.some.inj heq)).2
    exact Effect.refl h
  have hput : ∀ {b' y}, (∀ p, y ≠ .active p) → some (b', d.put s y) = some (b, d') →
      d.Effect s d' := by
    intro b' y hy heq
    obtain rfl : d.put s y = d' := (Prod.mk.inj (Option.some.inj heq)).2
    exact Effect.put hy
  have hof : ∀ {y : Bool × Db ω κ}, d.Effect s y.2 → some y = some (b, d') → d.Effect s d' := by
    intro y hy heq
    obtain rfl := Option.some.inj heq
    exact hy
  cases q with
  | begin =>
    simp only [exec] at hx
    split at hx
    · exact hsame hx
    · exact hsame hx
    · cases o with
      | done =>
        obtain rfl : d.put s (.active {}) = d' := (Prod.mk.inj (Option.some.inj hx)).2
        refine ⟨[], [], _, by rw [add_nil], List.nodup_nil, by simp, fun p hp => ?_⟩
        obtain rfl := Session.active.inj hp
        exact ⟨List.nodup_nil, by simp⟩
      | failed => exact hsame hx
      | lost took => exact hput Session.lost_ne hx
  | write v =>
    simp only [exec] at hx
    split at hx
    · exact hsame hx
    · rename_i hs
      exact hof (Effect.autocommit h hs List.nodup_nil (by simp) o) hx
    · rename_i p hs
      split_ifs at hx
      · exact hsame hx
      · exact hof (Effect.pend h hs (by simpa using (h.pending s p hs).1) (by simp) o) hx
  | insert k =>
    simp only [exec] at hx
    split at hx
    · exact hsame hx
    · rename_i hs
      split_ifs at hx with hfail hheld
      · exact hsame hx
      · have hfree := h.free_of_not_held (not_or.mp hfail).2 (by simpa using hheld)
        exact hof (Effect.autocommit h hs (List.nodup_singleton k) (by simpa using hfree) o) hx
    · rename_i p hs
      split_ifs at hx with hfailed hfail hheld
      · exact hsame hx
      · exact hof (Effect.pend h hs (by simpa using (h.pending s p hs).1) (by simp) .failed) hx
      · simp only [not_or] at hfail
        have hfree := h.free_of_not_held hfail.2.1 (by simpa using hheld)
        refine hof (Effect.pend h hs ?_ (by simpa using hfree) o) hx
        exact List.nodup_append.mpr ⟨(h.pending s p hs).1, List.nodup_singleton k, by
          rintro a ha b hb rfl
          exact hfail.2.2 (List.mem_singleton.mp hb ▸ ha)⟩
  | commit =>
    simp only [exec] at hx
    split at hx
    · exact hsame hx
    · exact hsame hx
    · rename_i p hs
      exact hof (Effect.finish h hs o) hx
  | rollback =>
    simp only [exec] at hx
    split at hx
    · exact hsame hx
    · split_ifs at hx
      · exact hput Session.idle_ne hx
      · exact hput Session.lost_ne hx

/-- **What a step leaves**: nothing is taken back, and other sessions stay as they are. -/
structure Since (s : ℕ) (d d' : Db ω κ) : Prop where
  keys : d.keys <+: d'.keys
  others : ∀ t, t ≠ s → d'.session t = d.session t
  next : d.next ≤ d'.next

omit [DecidableEq κ] in
lemma Effect.since {d' : Db ω κ} (h : d.Effect s d') : Since s d d' := by
  obtain ⟨writes, keys, x, rfl, -⟩ := h
  exact ⟨List.prefix_append _ _, fun t ht => Function.update_of_ne ht _ _, Nat.le_refl _⟩

/-- A session that acts was opened, or its statement does nothing. -/
lemma exec_lost {o : Outcome} {q : Stmt ω κ} (h : d.session s = .lost) :
    d.exec s o q = some (false, d) := by
  cases q <;> simp [exec, h]

omit [DecidableEq κ] in
/-- **An effect keeps keys unique**, when the session was opened. -/
lemma Unique.effect (h : d.Unique) {d' : Db ω κ} (he : d.Effect s d') (hs : s < d.next) :
    d'.Unique := by
  obtain ⟨writes, keys, x, rfl, hn, hfree, hx⟩ := he
  have hself : ((d.add writes keys).put s x).session s = x := Function.update_self _ _ _
  have hother : ∀ t, t ≠ s → ((d.add writes keys).put s x).session t = d.session t :=
    fun t ht => Function.update_of_ne ht _ _
  refine ⟨?_, fun t p hp => ?_, fun t u p q htu hp hq k hk => ?_, fun t ht => ?_⟩
  · exact List.nodup_append.mpr ⟨h.nodup, hn, by
      rintro a ha b hb rfl
      exact (hfree a hb).1 ha⟩
  · by_cases hts : t = s
    · subst hts
      rw [hself] at hp
      obtain ⟨hnodup, hall⟩ := hx p hp
      refine ⟨hnodup, fun k hk hmem => ?_⟩
      rcases List.mem_append.mp hmem with hmem | hmem
      · exact (hall k hk).1.1 hmem
      · exact (hall k hk).2 hmem
    · rw [hother t hts] at hp
      refine ⟨(h.pending t p hp).1, fun k hk hmem => ?_⟩
      rcases List.mem_append.mp hmem with hmem | hmem
      · exact (h.pending t p hp).2 k hk hmem
      · exact (hfree k hmem).2 t p hts hp hk
  · by_cases hts : t = s
    · subst hts
      rw [hself] at hp
      rw [hother u (Ne.symm htu)] at hq
      exact ((hx p hp).2 k hk).1.2 u q (Ne.symm htu) hq
    · rw [hother t hts] at hp
      by_cases hus : u = s
      · subst hus
        rw [hself] at hq
        intro hmem
        exact ((hx q hq).2 k hmem).1.2 t p hts hp hk
      · rw [hother u hus] at hq
        exact h.apart t u p q htu hp hq k hk
  · have hts : t ≠ s := by
      rintro rfl
      exact absurd hs (Nat.not_lt.mpr ht)
    rw [hother t hts]
    exact h.bounded t ht

/-- **Statements keep keys unique.** -/
lemma Unique.exec (h : d.Unique) {o : Outcome} {q : Stmt ω κ} {b : Bool} {d' : Db ω κ}
    (hx : d.exec s o q = some (b, d')) : d'.Unique := by
  by_cases hs : s < d.next
  · exact h.effect (exec_effect h hx) hs
  · rw [exec_lost (h.bounded s (by omega))] at hx
    obtain rfl : d = d' := (Prod.mk.inj (Option.some.inj hx)).2
    exact h

omit [DecidableEq κ] in
/-- A new session keeps keys unique. -/
lemma Unique.connect (h : d.Unique) : d.connect.2.Unique := by
  have hself : d.connect.2.session d.next = .idle := Function.update_self _ _ _
  have hother : ∀ t, t ≠ d.next → d.connect.2.session t = d.session t :=
    fun t ht => Function.update_of_ne ht _ _
  have hactive : ∀ t p, d.connect.2.session t = .active p → d.session t = .active p := by
    intro t p hp
    by_cases ht : t = d.next
    · rw [ht, hself] at hp
      cases hp
    · rw [hother t ht] at hp
      exact hp
  refine ⟨h.nodup, fun t p hp => h.pending t p (hactive t p hp), fun t u p q htu hp hq =>
    h.apart t u p q htu (hactive t p hp) (hactive u q hq), fun t ht => ?_⟩
  have hle : d.next + 1 ≤ t := ht
  rw [hother t (by omega)]
  exact h.bounded t (by omega)

omit [DecidableEq κ] in
/-- The loss of a session keeps keys unique. -/
lemma Unique.drop (h : d.Unique) : (d.put s .lost).Unique := by
  by_cases hs : s < d.next
  · exact h.effect (Effect.put Session.lost_ne) hs
  · have hlost := h.bounded s (by omega)
    rw [← hlost, put_self]
    exact h

/-! ## What a statement leaves as it is -/

/-- A statement is pending, or it opens or drops a transaction: nothing is committed by it. -/
def Pends (d : Db ω κ) (s : ℕ) : Stmt ω κ → Prop
  | .begin | .rollback => True
  | .write _ | .insert _ => d.session s ≠ .idle
  | .commit => d.session s = .lost

omit [DecidableEq κ] in
lemma pend_keeps (d : Db ω κ) (s : ℕ) (p : Pending ω κ) (writes : List ω) (keys : List κ)
    (o : Outcome) :
    (d.pend s p writes keys o).2.writes = d.writes ∧
      (d.pend s p writes keys o).2.keys = d.keys := by
  cases o <;> exact ⟨rfl, rfl⟩

/-- **A statement that is pending commits nothing.** -/
lemma exec_keeps {o : Outcome} {q : Stmt ω κ} {b : Bool} (hq : d.Pends s q) {d' : Db ω κ}
    (hx : d.exec s o q = some (b, d')) : d'.writes = d.writes ∧ d'.keys = d.keys := by
  have hof : ∀ {y : Bool × Db ω κ}, (y.2.writes = d.writes ∧ y.2.keys = d.keys) →
      some y = some (b, d') → d'.writes = d.writes ∧ d'.keys = d.keys := by
    intro y hy heq
    obtain rfl := Option.some.inj heq
    exact hy
  cases q with
  | begin =>
    simp only [exec] at hx
    split at hx
    · exact hof ⟨rfl, rfl⟩ hx
    · exact hof ⟨rfl, rfl⟩ hx
    · cases o <;> exact hof ⟨rfl, rfl⟩ hx
  | write v =>
    simp only [exec] at hx
    split at hx
    · exact hof ⟨rfl, rfl⟩ hx
    · rename_i hs
      exact absurd hs hq
    · split_ifs at hx
      · exact hof ⟨rfl, rfl⟩ hx
      · exact hof (pend_keeps d s _ _ _ o) hx
  | insert k =>
    simp only [exec] at hx
    split at hx
    · exact hof ⟨rfl, rfl⟩ hx
    · rename_i hs
      exact absurd hs hq
    · split_ifs at hx
      · exact hof ⟨rfl, rfl⟩ hx
      · exact hof (pend_keeps d s _ _ _ .failed) hx
      · exact hof (pend_keeps d s _ _ _ o) hx
  | commit =>
    rw [exec_lost hq] at hx
    exact hof ⟨rfl, rfl⟩ hx
  | rollback =>
    simp only [exec] at hx
    split at hx
    · exact hof ⟨rfl, rfl⟩ hx
    · split_ifs at hx <;> exact hof ⟨rfl, rfl⟩ hx

/-! ## What a statement that succeeds has done -/

omit [DecidableEq κ] in
/-- A statement that succeeds in a transaction is pending. -/
lemma pend_ok {p : Pending ω κ} {writes : List ω} {keys : List κ} {o : Outcome} {d' : Db ω κ}
    (h : d.pend s p writes keys o = (true, d')) :
    d'.session s = .active { p with writes := p.writes ++ writes, keys := p.keys ++ keys } := by
  cases o with
  | done =>
    obtain rfl := (Prod.mk.inj h).2
    exact Function.update_self _ _ _
  | failed => cases (Prod.mk.inj h).1
  | lost took => cases (Prod.mk.inj h).1

/-- A statement succeeds on a connection only that is not lost. -/
lemma not_lost_of_ok {o : Outcome} {q : Stmt ω κ} {d' : Db ω κ}
    (hx : d.exec s o q = some (true, d')) : d.session s ≠ .lost := by
  intro hs
  rw [exec_lost hs] at hx
  cases (Prod.mk.inj (Option.some.inj hx)).1

lemma exec_begin {o : Outcome} {d' : Db ω κ} (hs : d.session s = .idle)
    (hx : d.exec s o .begin = some (true, d')) : d'.session s = .active {} := by
  simp only [exec, hs] at hx
  cases o with
  | done =>
    obtain rfl := (Prod.mk.inj (Option.some.inj hx)).2
    exact Function.update_self _ _ _
  | failed => cases (Prod.mk.inj (Option.some.inj hx)).1
  | lost took => cases (Prod.mk.inj (Option.some.inj hx)).1

lemma exec_write {o : Outcome} {p : Pending ω κ} {v : ω} {d' : Db ω κ}
    (hs : d.session s = .active p) (hx : d.exec s o (.write v) = some (true, d')) :
    d'.session s = .active { p with writes := p.writes ++ [v] } := by
  simp only [exec, hs] at hx
  by_cases hf : p.failed = true
  · rw [if_pos hf] at hx
    cases (Prod.mk.inj (Option.some.inj hx)).1
  · rw [if_neg hf] at hx
    simpa using pend_ok (Option.some.inj hx)

lemma exec_insert {o : Outcome} {p : Pending ω κ} {k : κ} {d' : Db ω κ}
    (hs : d.session s = .active p) (hx : d.exec s o (.insert k) = some (true, d')) :
    d'.session s = .active { p with keys := p.keys ++ [k] } := by
  simp only [exec, hs] at hx
  by_cases hf : p.failed = true
  · rw [if_pos hf] at hx
    cases (Prod.mk.inj (Option.some.inj hx)).1
  · rw [if_neg hf] at hx
    by_cases hbad : o = .failed ∨ k ∈ d.keys ∨ k ∈ p.keys
    · rw [if_pos hbad] at hx
      cases (Prod.mk.inj (Option.some.inj hx)).1
    · rw [if_neg hbad] at hx
      by_cases hheld : d.heldElsewhere s k = true
      · rw [if_pos hheld] at hx
        cases hx
      · rw [if_neg hheld] at hx
        simpa using pend_ok (Option.some.inj hx)

/-- **A commit takes effect as a whole, or not at all**; it does when it succeeds. -/
lemma exec_commit {o : Outcome} {p : Pending ω κ} {b : Bool} {d' : Db ω κ}
    (hs : d.session s = .active p) (hp : p.failed = false)
    (hx : d.exec s o .commit = some (b, d')) :
    (d'.keys = d.keys ++ p.keys ∧ d'.writes = d.writes ++ p.writes) ∨
      b = false ∧ d'.keys = d.keys ∧ d'.writes = d.writes := by
  simp only [exec, hs] at hx
  cases o with
  | done =>
    rw [finish, hp] at hx
    obtain rfl := (Prod.mk.inj (Option.some.inj hx)).2
    exact .inl ⟨rfl, rfl⟩
  | failed =>
    obtain ⟨rfl, rfl⟩ := Prod.mk.inj (Option.some.inj hx)
    exact .inr ⟨rfl, rfl, rfl⟩
  | lost took =>
    cases took with
    | true =>
      rw [finish, hp] at hx
      obtain rfl := (Prod.mk.inj (Option.some.inj hx)).2
      exact .inl ⟨rfl, rfl⟩
    | false =>
      obtain ⟨rfl, rfl⟩ := Prod.mk.inj (Option.some.inj hx)
      exact .inr ⟨rfl, rfl, rfl⟩

end Db

end Txn
