import Fapi2As.Async.Trace
import Fapi2As.Properties.FirstBoot

set_option relaxedAutoImplicit false
set_option autoImplicit false

/-!
# Keys are published while they are used

A rotation retires the active key in memory before the operations that may fail, and the key is used
until a new one is adopted. It is published for the retention after that, so it is published while
it is used, and for as long as what it has signed is valid, when no rotation is left unfinished for
too long.

## Main definitions

* `Fapi2As.KeptUntil` — a record is published until a time.
* `Fapi2As.KeyRun.Unfinished` — a rotation has retired the active key and introduced no new one.
* `Fapi2As.KeyRun.RotatesEnsured` — rotations begin on an initialised keystore.
* `Fapi2As.KeyRun.LoadsInactive` — no initialisation swaps a key out.

## Main results

* `Fapi2As.KeyRun.active_unfinished` — the active key is retired by an unfinished rotation only.
* `Fapi2As.KeyRun.active_published_iff` — when the active key is published.
* `Fapi2As.KeyRun.signed_published` — what a key has signed can be verified until it expires.
* `Fapi2As.KeyRun.published_everywhere` — what a key has signed can be verified at every keystore
  that has loaded it.
-/

namespace Fapi2As

open Js Async

/-- A record is published until a time. -/
def KeptUntil (D : ℕ) (r : KeyRow) : Prop :=
  r.status = .active ∨ ∀ t, r.retiredAt = some t → D ≤ t + retiredKeyRetentionMs

lemma KeptUntil.isPublished {D now : ℕ} {r : KeyRow} (h : KeptUntil D r) (hnow : now < D) :
    r.isPublished now = true := by
  rw [SigningKeyRecord.isPublished, Bool.or_eq_true]
  refine h.imp (fun h => by simpa using h) fun h => ?_
  cases hr : r.retiredAt with
  | none => rfl
  | some t =>
    have hle := h t hr
    simp only [decide_eq_true_eq]
    omega

/-- A retirement late enough. -/
lemma KeptUntil.retire {D t : ℕ} (r : KeyRow) (h : D ≤ t + retiredKeyRetentionMs) :
    KeptUntil D (r.retire t) :=
  .inr fun t' ht => by
    obtain rfl := Option.some.inj ht
    exact h

/-- A call introduces an active key, or begins another rotation. -/
def renewsActive (i : ℕ) : KeyEvent → Bool
  | ⟨.adopt j _, _⟩ | ⟨.retireActive j, _⟩ => j = i
  | _ => false

namespace KeyRun

variable {R : KeyRun} {k m j pid i D : ℕ} {p : Proc keySystem} {kid : String} {row : KeyRow}

variable (R) in
/-- The clock is never set back. -/
def ClockForward : Prop := R.Rises KeyWorld.clock

lemma clock_mono (h : R.ClockForward) (hkm : k ≤ m) (hm : m ≤ R.len) : R.clock k ≤ R.clock m :=
  h.mono hkm hm

variable (R) in
/-- A rotation has retired the active key at a time; no new key has been introduced since, and no
other rotation has begun. -/
def Unfinished (i t k : ℕ) : Prop :=
  ∃ j < k, ∃ pid p kid, R.Does j pid p ⟨.retireActive i, some (kid, t)⟩ ∧
    ∀ m, j < m → m < k → ∀ pid p ev, R.Does m pid p ev → renewsActive i ev = false

/-- A step that renews nothing leaves a rotation unfinished. -/
lemma Unfinished.succ {t : ℕ} (h : R.Unfinished i t k)
    (hstep : ∀ pid p ev, R.Does k pid p ev → renewsActive i ev = false) :
    R.Unfinished i t (k + 1) := by
  obtain ⟨j, hj, pid, p, kid, hd, hnone⟩ := h
  refine ⟨j, by omega, pid, p, kid, hd, fun m hjm hm => ?_⟩
  rcases Nat.lt_succ_iff_lt_or_eq.mp hm with hlt | rfl
  · exact hnone m hjm hlt
  · exact hstep

/-- A rotation begins with the active key, and retires it at the time of the clock. -/
lemma retired_active {t : ℕ} (h : R.Does m pid p ⟨.retireActive i, some (kid, t)⟩) :
    (R.store m i).active = some kid ∧ t = R.clock m := by
  obtain ⟨x, -, hx⟩ := h.exec
  obtain ⟨hres, -⟩ := Prod.mk.inj (Option.some.inj hx)
  obtain ⟨kid', hkid, heq⟩ := Option.map_eq_some_iff.mp hres
  obtain ⟨rfl, rfl⟩ := Prod.mk.inj heq
  exact ⟨hkid, rfl⟩

/-! ## No key is swapped out -/

variable (R) in
/-- Rotations begin only when an initialisation of the keystore has resolved. -/
def RotatesEnsured (i : ℕ) : Prop :=
  ∀ k pid p previous, R.Does k pid p ⟨.retireActive i, previous⟩ →
  ∃ n : ℕ, (R.store k i).inits[n]? = some (some (.ok ()))

variable (R) in
/-- The initialisation that has set the active key is being run. -/
def Activating (k i : ℕ) : Prop :=
  ∃ pid p n, R.proc k pid = some p ∧ InitRuns i n p.past ∧ Activated i p.past

/-- An initialisation that has set the active key goes on, or resolves. -/
lemma Activating.step (hk : k < R.len) (h : R.Activating k i) : R.Activating (k + 1) i ∨
    ∃ n : ℕ, (R.store (k + 1) i).inits[n]? = some (some (.ok ())) := by
  obtain ⟨pid, p, n, hp, hrun, hact⟩ := h
  rcases R.proc_step hk hp with hp' | ⟨ev, hd⟩
  · exact .inl ⟨pid, p, n, hp', hrun, hact⟩
  · obtain ⟨c, -, hp'⟩ := hd.todo
    by_cases hsettle : ∃ r, ev = ⟨.settle i n r, ()⟩
    · obtain ⟨r, rfl⟩ := hsettle
      obtain rfl := (justified hd).2.1.mpr hact
      exact .inr ⟨n, settles hd⟩
    · exact .inl ⟨pid, _, n, hp', hrun.snoc fun r hr => hsettle ⟨r, hr⟩,
        hact.mono (List.prefix_append _ _)⟩

/-- A keystore with an active key is initialised, or about to be. -/
lemma active_initialised (hens : R.RotatesEnsured i) (hk : k ≤ R.len)
    (h : (R.store k i).active = some kid) : R.Activating k i ∨
      ∃ n : ℕ, (R.store k i).inits[n]? = some (some (.ok ())) := by
  induction k generalizing kid with
  | zero =>
    rw [store, R.world_zero, R.isStart.stores] at h
    cases h
  | succ k ih =>
    have hkeep : ∀ kid, (R.store k i).active = some kid → R.Activating (k + 1) i ∨
        ∃ n : ℕ, (R.store (k + 1) i).inits[n]? = some (some (.ok ())) := fun kid h => by
      rcases ih (by omega) h with hact | ⟨n, hn⟩
      · exact hact.step (by omega)
      · exact .inr ⟨n, settled_step (by omega) hn⟩
    rcases R.store_step (k := k) (by omega) i with hs | ⟨pid, p, ev, hd, hs⟩
    · exact hkeep kid (hs ▸ h)
    · have hjust := justified hd
      obtain ⟨c, -, hp'⟩ := hd.todo
      generalize R.store (k + 1) i = s' at hs h hkeep
      cases hs with
      | start _ => exact hkeep kid h
      | settle _ _ => exact hkeep kid h
      | retireActive => exact hkeep kid h
      | same _ _ => exact hkeep kid h
      | adopt rec =>
        obtain ⟨-, -, ⟨n, hrun⟩ | ⟨previous, hmem⟩⟩ := hjust
        · exact .inl ⟨pid, _, n, hp', hrun.snoc fun r hr => (by cases hr),
            .inl ⟨rec, List.mem_append_right _ List.mem_cons_self⟩⟩
        · obtain ⟨j, hj, q, hd', -⟩ := R.did (by omega) hd.proc hmem
          obtain ⟨n, hn⟩ := hens j pid q previous hd'
          exact .inr ⟨n, settled_stays (by omega) (Nat.le_of_lt hd.lt) hn⟩
      | load records active =>
        obtain ⟨n, listed, stale, hrun, -, -, rfl, hactive, -⟩ := hjust
        cases active with
        | none => cases h
        | some r => exact .inl ⟨pid, _, n, hp', hrun.snoc fun r hr => (by cases hr),
            .inr ⟨_, r, List.mem_append_right _ List.mem_cons_self⟩⟩

/-- Once an initialisation has set the active key or has resolved, nothing is loaded. -/
lemma no_load (h : R.Activating k i ∨ ∃ n : ℕ, (R.store k i).inits[n]? = some (some (.ok ())))
    {records : List KeyRow} {active : Option KeyRow} :
    ¬R.Does k pid p ⟨.load i records active, ()⟩ := by
  intro hd
  have hk := Nat.le_of_lt hd.lt
  obtain ⟨n, _, _, hrun, hno, -⟩ := justified hd
  have halone := initAlone hk hd.proc hrun
  rcases h with ⟨pid', q, n', hq, hrun', hact⟩ | ⟨n', hn⟩
  · obtain rfl := halone.alone pid' q n' hq hrun'
    obtain rfl := Option.some.inj (hd.proc.symm.trans hq)
    exact hno hact
  · obtain ⟨hpromise, -⟩ := initialised hk hn
    obtain rfl := Option.some.inj (halone.promise.symm.trans hpromise)
    have hpending := halone.pending.symm.trans hn
    simp at hpending

/-- **No key is swapped out**: an initialisation sets the keys only while none is active. -/
lemma load_inactive (hens : R.RotatesEnsured i) {records : List KeyRow} {active : Option KeyRow}
    (hd : R.Does k pid p ⟨.load i records active, ()⟩) : (R.store k i).active = none := by
  cases h : (R.store k i).active with
  | none => rfl
  | some kid => exact absurd hd (no_load (active_initialised hens (Nat.le_of_lt hd.lt) h))

variable (R) in
/-- The initialisations of a keystore set the keys only while none is active. -/
def LoadsInactive (i : ℕ) : Prop :=
  ∀ k pid p records active, R.Does k pid p ⟨.load i records active, ()⟩ →
    (R.store k i).active = none

lemma RotatesEnsured.loadsInactive (h : R.RotatesEnsured i) : R.LoadsInactive i :=
  fun _ _ _ _ _ hd => load_inactive h hd

/-! ## Keys in use -/

/-- The key that a load makes active is not retired. -/
lemma load_active {listed : List KeyRow} {stale : List (String × ℕ)}
    (hlist : R.Does j pid p ⟨.list, .ok listed⟩)
    (hstale : ∀ e ∈ stale, ∃ r ∈ (activesOf listed).dropLast, r.kid = e.1) {s : KeyStore}
    (h : (s.load (withRetired stale listed) (activesOf listed).getLast?).active = some kid) :
    ∃ r, (s.load (withRetired stale listed) (activesOf listed).getLast?).keys.get? kid = some r ∧
      r.status = .active := by
  have hsame : ∀ {r r' : KeyRow}, r ∈ listed → r' ∈ listed → r.kid = r'.kid → r = r' := by
    intro r r' hr hr' hkid
    have hrow := (listed_row hlist).mp hr
    rw [hkid, (listed_row hlist).mp hr'] at hrow
    exact (Option.some.inj hrow).symm
  obtain ⟨r, hr, rfl⟩ := Option.map_eq_some_iff.mp h
  obtain ⟨newest, hnewest, hget⟩ := Option.bind_eq_some_iff.mp hr
  have hkid := KeyStore.loadedKeys_keyed _ hget
  refine ⟨r, hkid ▸ hget, ?_⟩
  obtain ⟨r₀, hr₀, rfl⟩ := List.mem_map.mp (KeyStore.mem_of_loadedKeys hget)
  obtain ⟨hin, hactive⟩ := mem_of_newest hnewest
  have hkid₀ : r₀.kid = newest.kid := by
    rw [← hkid]
    split <;> rfl
  obtain rfl := hsame hr₀ hin hkid₀
  split
  · -- the newest key would be stale
    rename_i t ht
    obtain ⟨r₁, hr₁, hkid₁⟩ := hstale _ (mem_of_assoc ht)
    obtain ⟨pre, last, hlast⟩ : ∃ pre last, activesOf listed = pre ++ [last] :=
      ⟨_, _, (List.dropLast_append_getLast? _ hnewest).symm⟩
    have hnodup := nodup_actives hlist
    rw [hlast] at hnewest hr₁ hnodup
    obtain rfl : last = r₀ := by simpa using hnewest
    rw [List.dropLast_concat] at hr₁
    have hrow₁ := actives_row hlist (hlast ▸ List.mem_append_left _ hr₁)
    obtain rfl := hsame ((listed_row hlist).mpr hrow₁.1) hin hkid₁
    rw [List.nodup_append] at hnodup
    exact absurd rfl (hnodup.2.2 r₁ hr₁ r₁ List.mem_cons_self)
  · exact hactive

/-- **The active key is retired by an unfinished rotation only.**

**Proof sketch.** Induction on the number of steps. A rotation that begins retires it now; a key
that is introduced is active, and so is the one that a load makes active, for the stale ones are
others. -/
lemma active_unfinished (hk : k ≤ R.len) (h : (R.store k i).active = some kid) :
    ∃ r, (R.store k i).keys.get? kid = some r ∧
      (r.status = .active ∨ ∃ t, r.retiredAt = some t ∧ R.Unfinished i t k) := by
  induction k generalizing kid with
  | zero =>
    rw [store, R.world_zero, R.isStart.stores] at h
    cases h
  | succ k ih =>
    by_cases hstep : ∃ pid p ev, R.Does k pid p ev
    · obtain ⟨pid, p, ev, hd⟩ := hstep
      have hjust := justified hd
      have hkeep : renewsActive i ev = false → (R.store k i).active = some kid →
          ∃ r, (R.store k i).keys.get? kid = some r ∧
            (r.status = .active ∨ ∃ t, r.retiredAt = some t ∧ R.Unfinished i t (k + 1)) := by
        intro hev h
        obtain ⟨r, hr, hstate⟩ := ih (by omega) h
        rcases hstate with hactive | ⟨t, ht, hun⟩
        · exact ⟨r, hr, .inl hactive⟩
        · refine ⟨r, hr, .inr ⟨t, ht, hun.succ fun pid' p' ev' hd' => ?_⟩⟩
          obtain ⟨-, -, rfl⟩ := hd'.functional hd
          exact hev
      have hs := store_does hd i
      generalize R.store (k + 1) i = s' at hs h
      cases hs with
      | start _ => exact hkeep rfl h
      | settle _ _ => exact hkeep rfl h
      | same _ hno =>
        refine hkeep ?_ h
        revert hno
        obtain ⟨o, r⟩ := ev
        cases o <;> simp [renewsActive, changesStore]
      | adopt rec =>
        obtain rfl := Option.some.inj h
        exact ⟨rec, Map.get?_set_self _ _ _, .inl hjust.1⟩
      | retireActive =>
        obtain ⟨r, hr⟩ := (R.store k i).active_loaded kid h
        refine ⟨r.retire (R.clock k), ?_, .inr ⟨R.clock k, rfl, k, by omega, pid, p, kid, ?_, ?_⟩⟩
        · have h : (R.store k i).active = some kid := h
          simp only [KeyStore.retireActive, Map.get?_mapVals, hr, Option.map_some, if_pos h]
        · have h : (R.store k i).active = some kid := h
          rwa [h] at hd
        · intro m hm hm'
          omega
      | load records active =>
        obtain ⟨_, listed, stale, -, -, hmem, rfl, rfl, hstale⟩ := hjust
        obtain ⟨j, hj, q, hd', -⟩ := R.did (by omega) hd.proc hmem
        obtain ⟨r, hr, hactive⟩ := load_active hd' hstale h
        exact ⟨r, hr, .inl hactive⟩
    · have hs : R.store (k + 1) i = R.store k i := by
        rcases R.store_step (k := k) (by omega) i with hs | ⟨pid, p, ev, hd, -⟩
        · exact hs
        · exact absurd ⟨pid, p, ev, hd⟩ hstep
      rw [hs] at h ⊢
      obtain ⟨r, hr, hactive | ⟨t, ht, hun⟩⟩ := ih (by omega) h
      · exact ⟨r, hr, .inl hactive⟩
      · exact ⟨r, hr, .inr ⟨t, ht, hun.succ fun pid p ev hd => absurd ⟨pid, p, ev, hd⟩ hstep⟩⟩

/-- The active key is kept until a time at which no rotation that retired it is too long unfinished.
-/
lemma active_kept {limit : ℕ} (hk : k ≤ R.len) (h : (R.store k i).active = some kid)
    (hun : ∀ t, R.Unfinished i t k → limit ≤ t + retiredKeyRetentionMs) :
    ∃ r, (R.store k i).keys.get? kid = some r ∧ KeptUntil limit r := by
  obtain ⟨r, hr, hactive | ⟨t, ht, hunfinished⟩⟩ := active_unfinished hk h
  · exact ⟨r, hr, .inl hactive⟩
  · refine ⟨r, hr, .inr fun t' ht' => ?_⟩
    obtain rfl := Option.some.inj (ht.symm.trans ht')
    exact hun t hunfinished

/-- An unfinished rotation leaves the active key retired. -/
lemma unfinished_retired (hens : R.RotatesEnsured i) {t : ℕ} (hk : k ≤ R.len)
    (h : R.Unfinished i t k) :
    ∃ kid r, (R.store k i).active = some kid ∧ (R.store k i).keys.get? kid = some r ∧
      r.status = .retired ∧ r.retiredAt = some t := by
  obtain ⟨j, hj, pid, p, kid, hd, hnone⟩ := h
  have hle : j + 1 ≤ k := hj
  clear hj
  induction k, hle using Nat.le_induction with
  | base =>
    obtain ⟨hactive, rfl⟩ := retired_active hd
    obtain ⟨r, hr⟩ := (R.store j i).active_loaded kid hactive
    have hs := store_does hd i
    generalize R.store (j + 1) i = s' at hs
    generalize hev : (⟨.retireActive i, some (kid, R.clock j)⟩ : KeyEvent) = ev at hs
    cases hs with
    | retireActive =>
      refine ⟨kid, r.retire (R.clock j), hactive, ?_, rfl, rfl⟩
      simp only [KeyStore.retireActive, Map.get?_mapVals, hr, Option.map_some, if_pos hactive]
    | same _ hno =>
      subst hev
      simp [changesStore] at hno
    | _ => cases hev
  | succ k hjk ih =>
    obtain ⟨kid', r, hactive, hr, hstatus⟩ := ih (by omega) fun m hm hmk => hnone m hm (by omega)
    rcases R.store_step (k := k) (by omega) i with hs | ⟨pid', p', ev, hd', hs⟩
    · rw [hs]
      exact ⟨kid', r, hactive, hr, hstatus⟩
    · have hold := hnone k (by omega) (by omega) pid' p' ev hd'
      generalize R.store (k + 1) i = s' at hs
      cases hs with
      | start _ => exact ⟨kid', r, hactive, hr, hstatus⟩
      | settle _ _ => exact ⟨kid', r, hactive, hr, hstatus⟩
      | same _ _ => exact ⟨kid', r, hactive, hr, hstatus⟩
      | load records active =>
        rw [load_inactive hens hd'] at hactive
        cases hactive
      | adopt rec => simp [renewsActive] at hold
      | retireActive => simp [renewsActive] at hold

/-- **The active key is published exactly while no rotation has been left unfinished for the
retention.**

**Proof sketch.** It is active in memory, or retired by the unfinished rotation
(`active_unfinished`); and an unfinished rotation leaves it retired since then
(`unfinished_retired`). -/
theorem active_published_iff (hens : R.RotatesEnsured i) (hk : k ≤ R.len)
    (h : (R.store k i).active = some kid) : (R.store k i).Publishes kid (R.clock k) ↔
      ∀ t, R.Unfinished i t k → R.clock k < t + retiredKeyRetentionMs := by
  obtain ⟨r, hr, -⟩ := active_unfinished hk h
  rw [(R.store k i).publishes_iff hr]
  constructor
  · intro hpub t hun
    obtain ⟨kid', r', hactive', hr', hstatus, hretired⟩ := unfinished_retired hens hk hun
    obtain rfl := Option.some.inj (h.symm.trans hactive')
    obtain rfl := Option.some.inj (hr.symm.trans hr')
    simp only [SigningKeyRecord.isPublished, hstatus, hretired, reduceCtorEq, decide_false,
      Bool.false_or, decide_eq_true_eq] at hpub
    omega
  · intro hall
    obtain ⟨r', hr', hkept⟩ := active_kept hk h hall
    obtain rfl := Option.some.inj (hr'.symm.trans hr)
    exact hkept.isPublished (Nat.lt_succ_self _)

/-- The key that something is signed with is the active one. -/
lemma signed_active (h : R.Does k pid p ⟨.mustActive i, .ok kid⟩) :
    (R.store k i).active = some kid := by
  obtain ⟨x, -, hx⟩ := h.exec
  have hx : keyExec (.mustActive i) x (R.world k) = some (.ok kid, R.world (k + 1)) := hx
  simp only [keyExec] at hx
  split at hx
  · rename_i kid' hactive
    simp only [Option.some.injEq, Prod.mk.injEq, Except.ok.injEq] at hx
    rw [← hx.1]
    exact hactive
  · cases hx

/-- **A key that was kept until a time is kept**: it can only be retired later. -/
lemma kept_stays (hforward : R.ClockForward) (hloads : R.LoadsInactive i) {lifetime : ℕ}
    (hlife : lifetime ≤ retiredKeyRetentionMs) (hjm : j ≤ m) (hm : m ≤ R.len)
    (hactive : ∃ kid, (R.store j i).active = some kid)
    (h : ∃ r, (R.store j i).keys.get? kid = some r ∧ KeptUntil (R.clock j + lifetime) r) :
    (∃ kid, (R.store m i).active = some kid) ∧
      ∃ r, (R.store m i).keys.get? kid = some r ∧ KeptUntil (R.clock j + lifetime) r := by
  induction m, hjm using Nat.le_induction with
  | base => exact ⟨hactive, h⟩
  | succ m hjm ih =>
    obtain ⟨⟨kid', hactive'⟩, r, hr, hkept⟩ := ih (by omega)
    rcases R.store_step (k := m) (by omega) i with hs | ⟨pid, p, ev, hd, hs⟩
    · rw [hs]
      exact ⟨⟨kid', hactive'⟩, r, hr, hkept⟩
    · have hjust := justified hd
      generalize R.store (m + 1) i = s' at hs
      cases hs with
      | start _ => exact ⟨⟨kid', hactive'⟩, r, hr, hkept⟩
      | settle _ _ => exact ⟨⟨kid', hactive'⟩, r, hr, hkept⟩
      | same _ _ => exact ⟨⟨kid', hactive'⟩, r, hr, hkept⟩
      | load records active =>
        rw [hloads m pid p records active hd] at hactive'
        cases hactive'
      | adopt rec =>
        refine ⟨⟨rec.kid, rfl⟩, ?_⟩
        simp only [KeyStore.adopt, Map.get?_set]
        split_ifs
        · exact ⟨rec, rfl, .inl hjust.1⟩
        · exact ⟨r, hr, hkept⟩
      | retireActive =>
        refine ⟨⟨kid', hactive'⟩, ?_⟩
        simp only [KeyStore.retireActive, Map.get?_mapVals, hr, Option.map_some]
        refine ⟨_, rfl, ?_⟩
        split_ifs
        · have hle := clock_mono hforward hjm (by omega)
          exact .retire r (by omega)
        · exact hkept

/-- A key that signs is kept until what it signs expires, when that fits into what is left of the
retention. -/
lemma signed_kept (hforward : R.ClockForward) (hloads : R.LoadsInactive i) {lifetime : ℕ}
    (hlife : lifetime ≤ retiredKeyRetentionMs) (hd : R.Does k pid p ⟨.mustActive i, .ok kid⟩)
    (hprompt : ∀ t, R.Unfinished i t k → R.clock k + lifetime ≤ t + retiredKeyRetentionMs)
    (hkm : k ≤ m) (hm : m ≤ R.len) :
    ∃ r, (R.store m i).keys.get? kid = some r ∧ KeptUntil (R.clock k + lifetime) r := by
  have hactive := signed_active hd
  exact (kept_stays hforward hloads hlife hkm hm ⟨kid, hactive⟩
    (active_kept (Nat.le_of_lt hd.lt) hactive hprompt)).2

/-- **What a key has signed can be verified until it expires**, whatever fails and whatever
overlaps, unless it was signed when a rotation had been unfinished for so long that less than the
lifetime is left of the retention.

**Proof sketch.** The active key is retired only by an unfinished rotation (`active_unfinished`), so
it is kept until what it signs expires; after that it can only be retired later (`signed_kept`). -/
theorem signed_published (hforward : R.ClockForward) (hens : R.RotatesEnsured i) {lifetime : ℕ}
    (hlife : lifetime ≤ retiredKeyRetentionMs) (hd : R.Does k pid p ⟨.mustActive i, .ok kid⟩)
    (hprompt : ∀ t, R.Unfinished i t k → R.clock k + lifetime ≤ t + retiredKeyRetentionMs)
    (hkm : k ≤ m) (hm : m ≤ R.len) (hbefore : R.clock m < R.clock k + lifetime) :
    (R.store m i).Publishes kid (R.clock m) := by
  obtain ⟨r, hr, hkept⟩ := signed_kept hforward hens.loadsInactive hlife hd hprompt hkm hm
  exact ((R.store m i).publishes_iff hr).mpr (hkept.isPublished hbefore)

/-! ## Other keystores -/

variable (R) in
/-- A key is retired late enough for what is valid until a time, wherever it is retired. -/
def RetiredLate (kid : String) (D : ℕ) : Prop :=
  ∀ m pid p i t, R.Does m pid p ⟨.retireActive i, some (kid, t)⟩ → D ≤ t + retiredKeyRetentionMs

/-- The row of a key is kept when the key is retired late. -/
lemma row_kept (h0 : OneActive (R.table 0))
    (hrow0 : ∀ row, (R.table 0).get? kid = some row → row.status = .active)
    (hlate : R.RetiredLate kid D) (hk : k ≤ R.len) (h : (R.table k).get? kid = some row) :
    KeptUntil D row := by
  induction k generalizing row with
  | zero => exact .inl (hrow0 row h)
  | succ k ih =>
    rcases R.table_step (k := k) (by omega) with hs | ⟨pid, p, ev, hd, hs⟩
    · exact ih (by omega) (hs ▸ h)
    · have hjust := justified hd
      generalize R.table (k + 1) = m' at hs h
      cases hs with
      | same _ _ => exact ih (by omega) h
      | insert rec r _ =>
        obtain ⟨_, key, -, rfl⟩ := hjust
        rw [Map.get?_set] at h
        split_ifs at h
        · rw [← Option.some.inj h]
          exact .inl rfl
        · exact ih (by omega) h
      | setStatus kid' status t r =>
        obtain ⟨rfl, t, rfl, hwhy⟩ := hjust
        rw [Map.get?_modify] at h
        obtain ⟨row', hrow', rfl⟩ := Option.map_eq_some_iff.mp h
        split_ifs with hkid
        · subst hkid
          refine .retire row' ?_
          rcases hwhy with ⟨i, hmem⟩ | ⟨listed, hmem, r, hr, -⟩
          · obtain ⟨j, -, q, hd', -⟩ := R.did (by omega) hd.proc hmem
            exact hlate j _ q i t hd'
          · obtain ⟨j, -, q, hd', -⟩ := R.did (by omega) hd.proc hmem
            rw [not_listedStale h0 hd'] at hr
            cases hr
        · exact ih (by omega) hrow'

/-- The record of a key is kept at every keystore when the key is retired late. -/
lemma record_kept (h0 : OneActive (R.table 0))
    (hrow0 : ∀ row, (R.table 0).get? kid = some row → row.status = .active)
    (hlate : R.RetiredLate kid D) (hk : k ≤ R.len) {r : KeyRow}
    (h : (R.store k i).keys.get? kid = some r) : KeptUntil D r := by
  induction k generalizing r with
  | zero =>
    rw [store, R.world_zero, R.isStart.stores] at h
    cases h
  | succ k ih =>
    rcases R.store_step (k := k) (by omega) i with hs | ⟨pid, p, ev, hd, hs⟩
    · exact ih (by omega) (hs ▸ h)
    · have hjust := justified hd
      have hretired := hlate k pid p i
      generalize R.store (k + 1) i = s' at hs h
      cases hs with
      | start _ => exact ih (by omega) h
      | settle _ _ => exact ih (by omega) h
      | same _ _ => exact ih (by omega) h
      | adopt rec =>
        simp only [KeyStore.adopt, Map.get?_set] at h
        split_ifs at h
        · rw [← Option.some.inj h]
          exact .inl hjust.1
        · exact ih (by omega) h
      | retireActive =>
        simp only [KeyStore.retireActive, Map.get?_mapVals] at h
        obtain ⟨r', hr', rfl⟩ := Option.map_eq_some_iff.mp h
        split_ifs with hactive
        · rw [hactive] at hd
          exact .retire r' (hretired _ hd)
        · exact ih (by omega) hr'
      | load records active =>
        obtain ⟨_, listed, stale, -, -, hmem, rfl, rfl, hstale⟩ := hjust
        obtain ⟨j, hj, q, hd', -⟩ := R.did (by omega) hd.proc hmem
        rw [not_listedStale h0 hd'] at hstale
        have hkid := KeyStore.loadedKeys_keyed _ h
        have hin := KeyStore.mem_of_loadedKeys h
        rw [withRetired_nil hstale] at hin
        have hrow := (listed_row hd').mp hin
        rw [hkid] at hrow
        exact row_kept h0 hrow0 hlate (by omega) hrow

/-- A key that is a row when the table is listed is loaded. -/
lemma load_key {records : List KeyRow} {active : Option KeyRow}
    (hload : R.Does m pid p ⟨.load i records active, ()⟩)
    (hrow : ∀ j q listed, j < m → R.Does j pid q ⟨.list, .ok listed⟩ →
      ∃ row, (R.table j).get? kid = some row) :
    ∃ r, (R.store (m + 1) i).keys.get? kid = some r := by
  obtain ⟨_, listed, stale, -, -, hmem, rfl, -⟩ := justified hload
  obtain ⟨j, hj, q, hlist, -⟩ := R.did (Nat.le_of_lt hload.lt) hload.proc hmem
  obtain ⟨row, hrow⟩ := hrow j q listed hj hlist
  obtain rfl := table_keyed (Nat.le_of_lt hlist.lt) hrow
  obtain ⟨r', hr', hkid'⟩ := exists_withRetired stale ((listed_row hlist).mpr hrow)
  obtain ⟨r'', hr''⟩ := KeyStore.exists_loadedKeys hr'
  have hs := store_does hload i
  generalize R.store (m + 1) i = s' at hs
  cases hs with
  | load _ _ => exact ⟨r'', hkid' ▸ hr''⟩
  | same _ hno => simp [changesStore] at hno

/-- **What a key has signed can be verified everywhere.** When a keystore signs with a key whose
retirement no keystore has begun, then every keystore that has loaded the key publishes it until the
signature expires, and every keystore that begins to load the table after that loads the key;
whatever is rotated meanwhile, and wherever that fails.

**Proof sketch.** All retirements of the key come later, so they are late enough (`RetiredLate`) in
every record of the key (`record_kept`). The key is persisted before it signs, and rows stay. -/
theorem published_everywhere (hforward : R.ClockForward) (h0 : OneActive (R.table 0))
    {lifetime : ℕ} (hlife : lifetime ≤ retiredKeyRetentionMs)
    (hd : R.Does j pid p ⟨.mustActive i, .ok kid⟩)
    (hrow0 : ∀ row, (R.table 0).get? kid = some row → row.status = .active)
    (hfresh : ∀ m < j, ∀ pid' p' i' t, ¬R.Does m pid' p' ⟨.retireActive i', some (kid, t)⟩) :
    (∀ m, j ≤ m → m ≤ R.len → R.clock m < R.clock j + lifetime → ∀ i' r,
      (R.store m i').keys.get? kid = some r → (R.store m i').Publishes kid (R.clock m)) ∧
    ∀ m pid' p' i' records active, R.Does m pid' p' ⟨.load i' records active, ()⟩ →
      R.proc j pid' = none → ∃ r, (R.store (m + 1) i').keys.get? kid = some r := by
  have hlate : R.RetiredLate kid (R.clock j + lifetime) := by
    intro m pid' p' i' t hd'
    have hjm : j ≤ m := Nat.le_of_not_lt fun hlt => hfresh m hlt pid' p' i' t hd'
    have hle := clock_mono hforward hjm (Nat.le_of_lt hd'.lt)
    rw [(retired_active hd').2]
    omega
  constructor
  · intro m _ hm hbefore i' r hr
    exact ((R.store m i').publishes_iff hr).mpr
      ((record_kept h0 hrow0 hlate hm hr).isPublished hbefore)
  · intro m pid' p' i' records active hload hnew
    obtain ⟨r₀, hr₀⟩ := (R.store j i).active_loaded kid (signed_active hd)
    refine load_key hload fun j' q listed hj' hlist => ?_
    have hjj' : j ≤ j' := Nat.le_of_not_lt fun hlt => by
      obtain ⟨q', hq', -⟩ := R.proc_mono (Nat.le_of_lt hlt) (Nat.le_of_lt hd.lt) hlist.proc
      rw [hnew] at hq'
      cases hq'
    exact row_stays hjj' (Nat.le_of_lt hlist.lt) (loaded_row (Nat.le_of_lt hd.lt) hr₀)

end KeyRun

namespace Sample

/-- Two keystores load the key that the first one has generated. It signs, its rotation is begun,
and it signs again before the new key is adopted, while the clock goes on. -/
def rotatingSteps : List (Act keySystem) :=
  [.arrive (.ensure 0), keyStep 0 "", keyStep 0 "", keyStep 0 "", keyStep 0 "first", keyStep 0 "",
    keyStep 0 "", keyStep 0 "", .arrive (.ensure 1), keyStep 1 "", keyStep 1 "", keyStep 1 "",
    keyStep 1 "", keyStep 1 "", .env ⟨1000⟩, .arrive (.signJwt 0), keyStep 2 "",
    .arrive (.rotate 0),
    keyStep 3 "", keyStep 3 "", .env ⟨2000⟩, .arrive (.signJwt 0), keyStep 4 "", keyStep 3 "second",
    keyStep 3 "", keyStep 3 "", .env ⟨3000⟩]

/-- An event begins a rotation. -/
def beginsRotation (ev : KeyEvent) : Bool := match ev.op with
  | .retireActive _ => true
  | _ => false

/-- The first initialisation of a keystore has resolved. -/
def resolved (s : KeyStore) : Bool := s.inits[0]?.any fun o => o.any Except.isOk

lemma inits_of_resolved {s : KeyStore} (h : resolved s = true) :
    s.inits[0]? = some (some (.ok ())) := by
  obtain ⟨o, ho, hsettled⟩ := (Option.any_eq_true _ _).mp h
  obtain ⟨outcome, rfl, hok⟩ := (Option.any_eq_true _ _).mp hsettled
  cases outcome with
  | ok _ => exact ho
  | error e => cases hok

/-- The clock goes on, rotations begin only when the first keystore is initialised and the first key
has signed, and the second keystore has loaded that key. -/
def rotated (t : List (TraceStep keySystem) × Conf keySystem) : Bool :=
  ((t.1.map (·.before) ++ [t.2]).map (·.world.clock)).Pairwise (· ≤ ·) &&
  t.2.world.clock = 3000 &&
  (t.1.drop 17).all
    (fun s => resolved (s.before.world.stores 0) && s.made.all fun (pid, _, _) => pid ≠ 2) &&
  (t.1.take 17).all (fun s => s.made.all fun (_, _, ev) => !beginsRotation ev) &&
  t.2.answers 2 (fun _ past _ => past.any fun ev => match ev with
    | ⟨.mustActive 0, .ok kid⟩ => kid = "first"
    | _ => false) &&
  ((t.2.world.stores 1).keys.get? "first").isSome

lemma rotating_trace : (keySystem.trace ⟨emptyTable, []⟩ rotatingSteps).any rotated = true := by
  decide +kernel

/-- The run of the rotation. -/
def rotatingRun : KeyRun :=
  .ofTrace emptyTable rotatingSteps emptyTable_initial rotated rotating_trace

lemma rotatingRun_clock : rotatingRun.ClockForward ∧ rotatingRun.clock rotatingRun.len = 3000 := by
  obtain ⟨steps, last, ht, h⟩ : ∃ steps last, rotatingRun.HasTrace steps last ∧
    rotated (steps, last) = true := Run.hasTrace_ofTrace rotating_trace
  simp only [rotated, Bool.and_eq_true, decide_eq_true_eq] at h
  obtain ⟨⟨⟨⟨⟨hmono, hlast⟩, -⟩, -⟩, -⟩, -⟩ := h
  exact ⟨fun k hk => ht.consecutive (List.pairwise_map.mp hmono) hk,
    by rw [KeyRun.clock, Run.world, ht.last]; exact hlast⟩

lemma rotatingRun_clock_le {k : ℕ} (hk : k ≤ rotatingRun.len) : rotatingRun.clock k ≤ 3000 :=
  (KeyRun.clock_mono rotatingRun_clock.1 hk le_rfl).trans rotatingRun_clock.2.le

/-- Rotations begin after step 16. -/
lemma rotatingRun_begins {k pid i : ℕ} {p : Proc keySystem} {previous : Option (String × ℕ)}
    (hd : rotatingRun.Does k pid p ⟨.retireActive i, previous⟩) : 17 ≤ k := by
  obtain ⟨steps, last, ht, h⟩ : ∃ steps last, rotatingRun.HasTrace steps last ∧
    rotated (steps, last) = true := Run.hasTrace_ofTrace rotating_trace
  simp only [rotated, Bool.and_eq_true, List.all_eq_true] at h
  obtain ⟨s, hs, hmade⟩ := hd.traced ht
  by_contra hk
  have hmem : s ∈ steps.take 17 :=
    List.mem_iff_getElem?.mpr ⟨k, by rw [List.getElem?_take_of_lt (by omega), hs]⟩
  have htest := h.1.1.2 s hmem
  rw [hmade] at htest
  cases htest

lemma rotatingRun_ensured : rotatingRun.RotatesEnsured 0 := by
  obtain ⟨steps, last, ht, h⟩ : ∃ steps last, rotatingRun.HasTrace steps last ∧
    rotated (steps, last) = true := Run.hasTrace_ofTrace rotating_trace
  simp only [rotated, Bool.and_eq_true, List.all_eq_true] at h
  intro k pid p previous hd
  have hk := rotatingRun_begins hd
  obtain ⟨s, hs, hbefore⟩ := ht.conf hd.lt
  have hmem : s ∈ steps.drop 17 :=
    List.mem_iff_getElem?.mpr ⟨k - 17, by rw [List.getElem?_drop, Nat.add_sub_cancel' hk, hs]⟩
  refine ⟨0, ?_⟩
  rw [KeyRun.store, Run.world, ← hbefore]
  exact inits_of_resolved (h.1.1.1.2 s hmem).1

/-- The first key signs. -/
lemma rotatingRun_signs : ∃ k p, rotatingRun.Does k 2 p ⟨.mustActive 0, .ok "first"⟩ ∧ k < 17 := by
  obtain ⟨steps, last, ht, h⟩ : ∃ steps last, rotatingRun.HasTrace steps last ∧
    rotated (steps, last) = true := Run.hasTrace_ofTrace rotating_trace
  simp only [rotated, Bool.and_eq_true, List.all_eq_true] at h
  obtain ⟨req, past, kids, hp, htest⟩ := ht.answers h.1.2
  obtain ⟨ev, hev, hsigns⟩ := List.any_eq_true.mp htest
  split at hsigns
  · rename_i kid
    obtain rfl := of_decide_eq_true hsigns
    obtain ⟨k, -, p, hd, -⟩ := rotatingRun.did le_rfl hp hev
    refine ⟨k, p, hd, ?_⟩
    by_contra hk
    obtain ⟨s, hs, hmade⟩ := hd.traced ht
    have hmem : s ∈ steps.drop 17 :=
      List.mem_iff_getElem?.mpr
        ⟨k - 17, by rw [List.getElem?_drop, Nat.add_sub_cancel' (by omega), hs]⟩
    have hother := (h.1.1.1.2 s hmem).2
    rw [hmade] at hother
    simp at hother
  · cases hsigns

/-- The rotation takes a few seconds, so the first key is published when it signs. -/
theorem rotating_in_use : ∃ k, (rotatingRun.store k 0).active = some "first" ∧
    (rotatingRun.store k 0).Publishes "first" (rotatingRun.clock k) := by
  obtain ⟨k, p, hd, -⟩ := rotatingRun_signs
  have hk := Nat.le_of_lt hd.lt
  have hactive := KeyRun.signed_active hd
  refine ⟨k, hactive,
    (KeyRun.active_published_iff rotatingRun_ensured hk hactive).mpr fun t _ => ?_⟩
  have hclock := rotatingRun_clock_le hk
  rw [retiredKeyRetentionMs]
  omega

/-- The first key is published until the end, as it was not retired for long when it signed. -/
theorem rotating_signed : (rotatingRun.store rotatingRun.len 0).Publishes "first" 3000 := by
  obtain ⟨k, p, hd, -⟩ := rotatingRun_signs
  have hclock := rotatingRun_clock_le (Nat.le_of_lt hd.lt)
  refine rotatingRun_clock.2 ▸ KeyRun.signed_published rotatingRun_clock.1 rotatingRun_ensured
    (by decide : 300000 ≤ retiredKeyRetentionMs) hd (fun t _ => ?_) (Nat.le_of_lt hd.lt) le_rfl ?_
  · rw [retiredKeyRetentionMs]
    omega
  · rw [rotatingRun_clock.2]
    omega

/-- The second keystore publishes the first key when the first keystore has rotated. -/
theorem rotating_everywhere : (rotatingRun.store rotatingRun.len 1).Publishes "first" 3000 := by
  obtain ⟨steps, last, ht, h⟩ : ∃ steps last, rotatingRun.HasTrace steps last ∧
    rotated (steps, last) = true := Run.hasTrace_ofTrace rotating_trace
  simp only [rotated, Bool.and_eq_true] at h
  obtain ⟨r, hr⟩ := Option.isSome_iff_exists.mp h.2
  have hloaded : (rotatingRun.store rotatingRun.len 1).keys.get? "first" = some r := by
    rw [KeyRun.store, Run.world, ht.last]
    exact hr
  obtain ⟨k, p, hd, hk⟩ := rotatingRun_signs
  have hnone : ∀ {kid row}, (rotatingRun.table 0).get? kid = some row → False :=
    fun hrow => by cases hrow
  refine rotatingRun_clock.2 ▸ (KeyRun.published_everywhere rotatingRun_clock.1
    (fun _ _ _ _ hrow => (hnone hrow).elim) (by decide : 300000 ≤ retiredKeyRetentionMs) hd
    (fun _ hrow => (hnone hrow).elim) (fun m hm pid' p' i' t hd' => ?_)).1 rotatingRun.len
    (Nat.le_of_lt hd.lt) le_rfl ?_ 1 r hloaded
  · have hlt := rotatingRun_begins hd'
    omega
  · rw [rotatingRun_clock.2]
    omega

end Sample

end Fapi2As
