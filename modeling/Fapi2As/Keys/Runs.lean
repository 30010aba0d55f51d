import Fapi2As.Keys.Spec

set_option relaxedAutoImplicit false
set_option autoImplicit false

/-!
# Runs of the keystores

What every run of the keystores has in common, whatever the interleaving of their operations and
wherever they fail: who can change a keystore, how the table changes, and that initialisations of
one keystore exclude each other.

## Main definitions

* `Fapi2As.KeyRun` — the runs.
* `Fapi2As.StoreStep`, `Fapi2As.TableStep` — what a call does to a keystore and to the table.

## Main results

* `Fapi2As.KeyRun.store_step`, `Fapi2As.KeyRun.table_step` — how they change at a step.
* `Fapi2As.KeyRun.initAlone` — at most one initialisation of a keystore is run at a time.
* `Fapi2As.KeyRun.initialised` — a keystore whose initialisation has resolved has an active key.
* `Fapi2As.KeyRun.row_stays`, `Fapi2As.KeyRun.loaded_row` — no row is deleted, and loaded keys are
  rows.
-/

namespace Fapi2As

open Js Async

/-- The runs of the keystores. -/
abbrev KeyRun : Type := Run keySystem

/-! ## What a call changes -/

/-- A call changes a keystore. -/
def changesStore (i : ℕ) : KeyEvent → Bool
  | ⟨.ensure j, (_, started)⟩ => started && j = i
  | ⟨.settle j _ _, _⟩ | ⟨.load j _ _, _⟩ | ⟨.retireActive j, _⟩ | ⟨.adopt j _, _⟩ => j = i
  | _ => false

/-- **What a call does to a keystore.** -/
inductive StoreStep (i : ℕ) (s : KeyStore) (t : ℕ) : KeyEvent → KeyStore → Prop
  | start (h : s.initPromise = none) : StoreStep i s t ⟨.ensure i, (s.inits.length, true)⟩ s.start
  | settle (n : ℕ) (r : Except KeyFault Unit) : StoreStep i s t ⟨.settle i n r, ()⟩ (s.settle n r)
  | load (records : List KeyRow) (active : Option KeyRow) :
      StoreStep i s t ⟨.load i records active, ()⟩ (s.load records active)
  | retireActive :
      StoreStep i s t ⟨.retireActive i, s.active.map fun kid => (kid, t)⟩ (s.retireActive t)
  | adopt (rec : KeyRow) : StoreStep i s t ⟨.adopt i rec, ()⟩ (s.adopt rec)
  | same (ev : KeyEvent) (h : changesStore i ev = false) : StoreStep i s t ev s

/-- A call is known to have changed the table. -/
def changesTable : KeyEvent → Bool
  | ⟨.insert _, .ok _⟩ | ⟨.setStatus _ _ _, .ok _⟩ => true
  | _ => false

/-- **What a call does to the table.** -/
inductive TableStep (m : Map String KeyRow) : KeyEvent → Map String KeyRow → Prop
  | insert (rec : KeyRow) (r : Except KeyFault Unit)
      (h : rec.status = .active → ∀ kid row, m.get? kid = some row → row.status ≠ .active) :
      TableStep m ⟨.insert rec, r⟩ (m.set rec.kid rec)
  | setStatus (kid : String) (status : KeyStatus) (t : Option ℕ) (r : Except KeyFault Unit) :
      TableStep m ⟨.setStatus kid status t, r⟩
        (m.modify kid fun row => { row with status := status, retiredAt := t })
  | same (ev : KeyEvent) (h : changesTable ev = false) : TableStep m ev m

variable {w w' : KeyWorld} {o : KeyCall} {x : KeyOracle} {r : KeyRet o}

/-- Changing a keystore leaves the others alone. -/
lemma KeyWorld.stores_setStore (w : KeyWorld) (i j : ℕ) (s : KeyStore) :
    (w.setStore j s).stores i = if i = j then s else w.stores i := by
  simp only [KeyWorld.setStore, Function.update_apply]

/-- An operation on the table leaves the keystores alone. -/
lemma KeyWorld.stores_carry {α : Type} {w w₁ : KeyWorld} (h : w₁.stores = w.stores) (a : α)
    (out : KeyOutcome) : (w.carry a w₁ out).2.stores = w.stores := by
  cases out
  · exact h
  · rfl
  · exact h

/-- A call leaves a keystore alone, or is one of those that change it. -/
lemma keyExec_store (i : ℕ) (h : keyExec o x w = some (r, w')) :
    StoreStep i (w.stores i) w.clock ⟨o, r⟩ (w'.stores i) := by
  have hset : ∀ (j : ℕ) (s : KeyStore) (ev : KeyEvent),
      (i = j → StoreStep i (w.stores i) w.clock ev s) → (i ≠ j → changesStore i ev = false) →
      StoreStep i (w.stores i) w.clock ev ((w.setStore j s).stores i) := by
    intro j s ev hself hother
    rw [KeyWorld.stores_setStore]
    split_ifs with hj
    · exact hself hj
    · exact .same ev (hother hj)
  have htable : ∀ {α : Type} {a : α} {w₁ : KeyWorld} {out : KeyOutcome} {y : Except KeyFault α}
      {ev : KeyEvent}, some (w.carry a w₁ out) = some (y, w') → w₁.stores = w.stores →
      changesStore i ev = false → StoreStep i (w.stores i) w.clock ev (w'.stores i) := by
    intro α a w₁ out y ev h hw₁ hev
    have hsame := KeyWorld.stores_carry hw₁ a out
    rw [Option.some.inj h] at hsame
    have hsame : w'.stores = w.stores := hsame
    rw [hsame]
    exact .same _ hev
  cases o with
  | ensure j =>
    simp only [keyExec] at h
    split at h
    · cases h
      exact .same _ rfl
    · rename_i hnone
      cases h
      refine hset j _ _ (fun hj => ?_) fun hj => by simp [changesStore, Ne.symm hj]
      subst hj
      exact .start hnone
  | join j n =>
    simp only [keyExec] at h
    split at h
    · cases h
      exact .same _ rfl
    · cases h
  | settle j n r' =>
    cases h
    refine hset j _ _ (fun hj => ?_) fun hj => by simp [changesStore, Ne.symm hj]
    subst hj
    exact .settle n r'
  | load j records active =>
    cases h
    refine hset j _ _ (fun hj => ?_) fun hj => by simp [changesStore, Ne.symm hj]
    subst hj
    exact .load records active
  | retireActive j =>
    cases h
    refine hset j _ _ (fun hj => ?_) fun hj => by simp [changesStore, Ne.symm hj]
    subst hj
    exact .retireActive
  | adopt j rec =>
    cases h
    refine hset j _ _ (fun hj => ?_) fun hj => by simp [changesStore, Ne.symm hj]
    subst hj
    exact .adopt rec
  | list => exact htable h rfl rfl
  | insert rec =>
    simp only [keyExec] at h
    split_ifs at h
    · cases h
      exact .same _ rfl
    · exact htable h rfl rfl
  | setStatus kid status t => exact htable h rfl rfl
  | importPrivate rec => exact htable h rfl rfl
  | generate =>
    simp only [keyExec] at h
    split_ifs at h
    cases h
    exact .same _ rfl
  | now =>
    cases h
    exact .same _ rfl
  | mustActive j =>
    simp only [keyExec] at h
    split at h <;> cases h <;> exact .same _ rfl

/-- A call on the table, as it ends. -/
lemma TableStep.of_carry {ev : KeyEvent} {w₁ : KeyWorld} {α : Type} {a : α} {out : KeyOutcome}
    {r : Except KeyFault α} (hdone : TableStep w.table ev w₁.table)
    (hrefused : ∀ e, r = .error e → changesTable ev = false) (h : w.carry a w₁ out = (r, w')) :
    TableStep w.table ev w'.table := by
  cases out with
  | done =>
    cases h
    exact hdone
  | refused =>
    cases h
    exact .same _ (hrefused _ rfl)
  | lost =>
    cases h
    exact hdone

/-- A call leaves the table alone, or is one of those that change it. -/
lemma keyExec_table (h : keyExec o x w = some (r, w')) : TableStep w.table ⟨o, r⟩ w'.table := by
  cases o with
  | insert rec =>
    simp only [keyExec] at h
    split_ifs at h with hc
    · cases h
      exact .same _ rfl
    · refine .of_carry (.insert rec r fun hrec kid row hrow hactive => hc ⟨hrec, ?_⟩)
        (fun e he => by subst he; rfl) (Option.some.inj h)
      exact List.any_eq_true.mpr ⟨row, Map.mem_values hrow, by simp [hactive]⟩
  | setStatus kid status t =>
    exact .of_carry (.setStatus kid status t r) (fun e he => by subst he; rfl) (Option.some.inj h)
  | list => exact .of_carry (.same _ rfl) (fun _ _ => rfl) (Option.some.inj h)
  | importPrivate rec => exact .of_carry (.same _ rfl) (fun _ _ => rfl) (Option.some.inj h)
  | ensure j =>
    simp only [keyExec] at h
    split at h <;> cases h <;> exact .same _ rfl
  | join j n =>
    simp only [keyExec] at h
    split at h <;> cases h
    exact .same _ rfl
  | generate =>
    simp only [keyExec] at h
    split_ifs at h
    cases h
    exact .same _ rfl
  | mustActive j =>
    simp only [keyExec] at h
    split at h <;> cases h <;> exact .same _ rfl
  | _ =>
    cases h
    exact .same _ rfl

/-- The keys of a list that resolves are the rows of the table. -/
lemma keyExec_list {r : Except KeyFault (List KeyRow)}
    (h : keyExec .list x w = some (r, w')) :
    r = .ok w.table.values ∨ r = .error .failure := by
  have h : w.carry w.table.values w x.outcome = (r, w') := Option.some.inj h
  generalize x.outcome = out at h
  cases out <;> cases h <;> simp

namespace KeyRun

variable (R : KeyRun)

/-- A keystore after `k` steps. -/
def store (k i : ℕ) : KeyStore := (R.world k).stores i

/-- The table after `k` steps. -/
def table (k : ℕ) : Map String KeyRow := (R.world k).table

/-- The clock after `k` steps. -/
def clock (k : ℕ) : ℕ := (R.world k).clock

variable {R} {k pid : ℕ} {p : Proc keySystem} {ev : KeyEvent} {i n : ℕ}

/-- What a step of an operation does to a keystore. -/
lemma store_does (h : R.Does k pid p ev) (i : ℕ) :
    StoreStep i (R.store k i) (R.clock k) ev (R.store (k + 1) i) := by
  obtain ⟨x, -, hx⟩ := h.exec
  exact keyExec_store i hx

/-- What a step of an operation does to the table. -/
lemma table_does (h : R.Does k pid p ev) : TableStep (R.table k) ev (R.table (k + 1)) := by
  obtain ⟨x, -, hx⟩ := h.exec
  exact keyExec_table hx

/-- A call is made for a reason. -/
lemma justified (h : R.Does k pid p ev) : KeyJustified p.req p.past ev.op :=
  h.meets keyHandler_spec

/-- **How a keystore changes at a step**: not at all, or by a call. -/
lemma store_step (hk : k < R.len) (i : ℕ) : R.store (k + 1) i = R.store k i ∨
    ∃ pid p ev, R.Does k pid p ev ∧ StoreStep i (R.store k i) (R.clock k) ev
    (R.store (k + 1) i) := by
  rcases R.world_step hk with h | ⟨pid, p, ev, h⟩ | ⟨move, -, h⟩
  · exact .inl (by simp only [store, h])
  · exact .inr ⟨pid, p, ev, h, store_does h i⟩
  · exact .inl (by simp only [store, ← Option.some.inj h])

/-- **How the table changes at a step**: not at all, or by a call. -/
lemma table_step (hk : k < R.len) : R.table (k + 1) = R.table k ∨
    ∃ pid p ev, R.Does k pid p ev ∧ TableStep (R.table k) ev (R.table (k + 1)) := by
  rcases R.world_step hk with h | ⟨pid, p, ev, h⟩ | ⟨move, -, h⟩
  · exact .inl (by simp only [table, h])
  · exact .inr ⟨pid, p, ev, h, table_does h⟩
  · exact .inl (by simp only [table, ← Option.some.inj h])

/-! ## Initialisations exclude each other -/

/-- What is known while an initialisation is run: it is the pending one, and no other operation runs
one on the keystore. -/
structure InitAlone (k pid i n : ℕ) : Prop where
  promise : (R.store k i).initPromise = some n
  pending : (R.store k i).inits[n]? = some none
  alone : ∀ pid' p' n', R.proc k pid' = some p' → InitRuns i n' p'.past → pid' = pid

/-- **Initialisations of a keystore exclude each other.**

**Proof sketch.** Induction on the number of steps. An initialisation starts only when there is no
promise, and then none is being run; its own end is the only call that settles it. -/
lemma initAlone {k : ℕ} (hk : k ≤ R.len) {pid : ℕ} {p : Proc keySystem} {i n : ℕ}
    (hp : R.proc k pid = some p) (hrun : InitRuns i n p.past) : InitAlone (R := R) k pid i n := by
  induction k generalizing pid p i n with
  | zero => simp at hp
  | succ k ih =>
    -- an initialisation that is run now was run before, or is started by this step
    have hback : ∀ {pid' p' n'}, R.proc (k + 1) pid' = some p' → InitRuns i n' p'.past →
        (∃ p'', R.proc k pid' = some p'' ∧ InitRuns i n' p''.past) ∨
          ∃ p'', R.Does k pid' p'' ⟨.ensure i, (n', true)⟩ := by
      intro pid' p' n' hp' hrun'
      rcases R.proc_succ (by omega) hp' with h | ⟨r, rfl⟩ | ⟨q, e, c, hd, -, rfl⟩
      · exact .inl ⟨p', h, hrun'⟩
      · cases hrun'.1
      · rcases hrun'.of_snoc with h | rfl
        · exact .inl ⟨q, hd.proc, h⟩
        · exact .inr ⟨q, hd⟩
    have hstart : ∀ {pid' p' n'}, R.Does k pid' p' ⟨.ensure i, (n', true)⟩ →
        (R.store k i).initPromise = none ∧ n' = (R.store k i).inits.length ∧
          R.store (k + 1) i = (R.store k i).start := by
      intro pid' p' n' hd
      have hstep := store_does hd i
      generalize R.store (k + 1) i = s' at hstep
      cases hstep with
      | start hnone => exact ⟨hnone, rfl, rfl⟩
      | same _ hno => simp [changesStore] at hno
    rcases hback hp hrun with ⟨p₀, hp₀, hrun₀⟩ | ⟨p₀, hd⟩
    · -- it was run before, so no other one starts
      have hin := ih (by omega) hp₀ hrun₀
      have halone : ∀ pid' p' n', R.proc (k + 1) pid' = some p' → InitRuns i n' p'.past →
          pid' = pid := by
        intro pid' p' n' hp' hrun'
        rcases hback hp' hrun' with ⟨p'', hp'', hrun''⟩ | ⟨p'', hd⟩
        · exact hin.alone pid' p'' n' hp'' hrun''
        · have hsome := hin.promise
          rw [(hstart hd).1] at hsome
          cases hsome
      rcases R.store_step (k := k) (by omega) i with hs | ⟨q, p₁, e, hd, hstep⟩
      · exact ⟨by rw [hs]; exact hin.promise, by rw [hs]; exact hin.pending, halone⟩
      · have hjust := justified hd
        obtain ⟨c, -, hnext⟩ := hd.todo
        suffices (R.store (k + 1) i).initPromise = some n ∧
            (R.store (k + 1) i).inits[n]? = some none from ⟨this.1, this.2, halone⟩
        generalize R.store (k + 1) i = s' at hstep
        cases hstep with
        | start hnone =>
          rw [hin.promise] at hnone
          cases hnone
        | settle n' r =>
          -- it would be the end of this initialisation
          obtain rfl := hin.alone q p₁ n' hd.proc hjust.1
          obtain rfl := Option.some.inj
            (hin.promise.symm.trans (ih (by omega) hd.proc hjust.1).promise)
          obtain rfl := Option.some.inj (hp.symm.trans hnext)
          exact absurd (List.mem_append_right _ List.mem_cons_self) (hrun.2 r)
        | load records active => exact ⟨hin.promise, hin.pending⟩
        | retireActive => exact ⟨hin.promise, hin.pending⟩
        | adopt rec => exact ⟨hin.promise, hin.pending⟩
        | same _ _ => exact ⟨hin.promise, hin.pending⟩
    · -- it starts now, so none was run before
      obtain ⟨hnone, rfl, hs⟩ := hstart hd
      refine ⟨by rw [hs]; rfl, by rw [hs]; simp [KeyStore.start], fun pid' p' n' hp' hrun' => ?_⟩
      rcases hback hp' hrun' with ⟨p'', hp'', hrun''⟩ | ⟨p'', hd'⟩
      · have hin := ih (by omega) hp'' hrun''
        simp [hin.promise] at hnone
      · exact (hd'.functional hd).1

/-! ## Initialisations that have settled -/

/-- The outcome of an initialisation is final. -/
lemma settled_step (hk : k < R.len) {r : Except KeyFault Unit}
    (h : (R.store k i).inits[n]? = some (some r)) :
    (R.store (k + 1) i).inits[n]? = some (some r) := by
  rcases R.store_step hk i with hs | ⟨pid, p, e, hd, hstep⟩
  · rwa [hs]
  · have hjust := justified hd
    generalize R.store (k + 1) i = s' at hstep
    cases hstep with
    | start _ =>
      have hlt := (List.getElem?_eq_some_iff.mp h).1
      simpa [KeyStore.start, List.getElem?_append_left hlt] using h
    | settle n' r' =>
      have hpending := (initAlone (Nat.le_of_lt hk) hd.proc hjust.1).pending
      have hne : n' ≠ n := by
        rintro rfl
        rw [h] at hpending
        cases hpending
      simpa [KeyStore.settle, List.getElem?_set_ne hne] using h
    | load records active => exact h
    | retireActive => exact h
    | adopt rec => exact h
    | same _ _ => exact h

lemma settled_stays {k m : ℕ} (hkm : k ≤ m) (hm : m ≤ R.len) {r : Except KeyFault Unit}
    (h : (R.store k i).inits[n]? = some (some r)) : (R.store m i).inits[n]? = some (some r) := by
  induction m, hkm using Nat.le_induction with
  | base => exact h
  | succ m _ ih => exact settled_step (by omega) (ih (by omega))

/-- An initialisation that ends has the outcome that it ends with. -/
lemma settles {r : Except KeyFault Unit} (h : R.Does k pid p ⟨.settle i n r, ()⟩) :
    (R.store (k + 1) i).inits[n]? = some (some r) := by
  have hpending := (initAlone (Nat.le_of_lt h.lt) h.proc (justified h).1).pending
  have hstep := store_does h i
  generalize R.store (k + 1) i = s' at hstep
  cases hstep with
  | settle _ _ => simp [KeyStore.settle, (List.getElem?_eq_some_iff.mp hpending).1]
  | same _ hno => simp [changesStore] at hno

/-- A pending initialisation that is awaited has settled, with the outcome that the await has. -/
lemma joined {r : Except KeyFault Unit} (h : R.Does k pid p ⟨.join i n, r⟩) :
    (R.store k i).inits[n]? = some (some r) := by
  obtain ⟨x, -, hx⟩ := h.exec
  have hx : keyExec (.join i n) x (R.world k) = some (r, R.world (k + 1)) := hx
  simp only [keyExec] at hx
  split at hx
  · rename_i r' hr
    simp only [Option.some.injEq, Prod.mk.injEq] at hx
    exact hx.1 ▸ hr
  · cases hx

/-- **The outcome of `ensure()`** is that of an initialisation. -/
lemma ensured (hk : k ≤ R.len) {past : List KeyEvent} {x : Except KeyFault (List String)}
    (hx : (∃ kids, x = .ok kids ∧ R.proc k pid = some ⟨.ensure i, past, .ret kids⟩) ∨
      ∃ e, x = .error e ∧ R.proc k pid = some ⟨.ensure i, past, .throw e⟩) :
    ∃ n : ℕ, (R.store k i).inits[n]? = some (some (x.map fun _ => ())) := by
  have hproc : ∃ todo, R.proc k pid = some ⟨.ensure i, past, todo⟩ ∧
      KeyAnswered (.ensure i) past x := by
    rcases hx with ⟨kids, rfl, hp⟩ | ⟨e, rfl, hp⟩
    · exact ⟨_, hp, R.answered keyHandler_spec hk hp⟩
    · exact ⟨_, hp, R.failed keyHandler_spec hk hp⟩
  obtain ⟨todo, hp, n, hmem | hmem⟩ := hproc
  · obtain ⟨j, hj, q, hd, -⟩ := R.did hk hp hmem
    exact ⟨n, settled_stays (k := j + 1) hj hk (settles hd)⟩
  · obtain ⟨j, hj, q, hd, -⟩ := R.did hk hp hmem
    exact ⟨n, settled_stays (Nat.le_of_lt hj) hk (joined hd)⟩

/-! ## The active key -/

/-- **The active key that an initialisation has set stays set** until the initialisation ends. -/
lemma activated (hk : k ≤ R.len) (hp : R.proc k pid = some p) (hrun : InitRuns i n p.past)
    (hact : Activated i p.past) : ∃ kid, (R.store k i).active = some kid := by
  induction k generalizing pid p n with
  | zero => simp at hp
  | succ k ih =>
    rcases R.proc_succ (by omega) hp with h | ⟨r, rfl⟩ | ⟨q, e, c, hd, -, rfl⟩
    · have hbefore := ih (by omega) h hrun hact
      have halone := initAlone (by omega) h hrun
      rcases R.store_step (k := k) (by omega) i with hs | ⟨pid', p', e, hd, hstep⟩
      · rwa [hs]
      · have hjust := justified hd
        generalize R.store (k + 1) i = s' at hstep
        cases hstep with
        | start _ => exact hbefore
        | settle _ _ => exact hbefore
        | retireActive => exact hbefore
        | adopt rec => exact ⟨rec.kid, rfl⟩
        | same _ _ => exact hbefore
        | load records active =>
          obtain ⟨n', listed, stale, hrun', hno, -⟩ := hjust
          obtain rfl := halone.alone pid' p' n' hd.proc hrun'
          obtain rfl := Option.some.inj (h.symm.trans hd.proc)
          exact absurd hact hno
    · cases hrun.1
    · have hstep := store_does hd i
      have hjust := justified hd
      rcases hrun.of_snoc with hrun₀ | rfl
      · by_cases hact₀ : Activated i q.past
        · -- it was set before, and this step is no load
          have hbefore := ih (by omega) hd.proc hrun₀ hact₀
          generalize R.store (k + 1) i = s' at hstep
          cases hstep with
          | start _ => exact hbefore
          | settle _ _ => exact hbefore
          | retireActive => exact hbefore
          | adopt rec => exact ⟨rec.kid, rfl⟩
          | same _ _ => exact hbefore
          | load records active =>
            obtain ⟨_, _, _, -, hno, -⟩ := hjust
            exact absurd hact₀ hno
        · rcases hact.of_snoc with h | ⟨rec, rfl⟩ | ⟨records, active, rfl⟩
          · exact absurd h hact₀
          · generalize R.store (k + 1) i = s' at hstep
            cases hstep with
            | adopt _ => exact ⟨rec.kid, rfl⟩
            | same _ hno => simp [changesStore] at hno
          · obtain ⟨_, listed, stale, -, -, -, rfl, hnewest, -⟩ := hjust
            obtain ⟨hmem, -⟩ := mem_of_newest hnewest.symm
            obtain ⟨r', hr', hkid⟩ := exists_withRetired stale hmem
            obtain ⟨r'', hr''⟩ := KeyStore.exists_loadedKeys hr'
            generalize R.store (k + 1) i = s' at hstep
            cases hstep with
            | load _ _ => exact ⟨r''.kid, by simp [KeyStore.load, ← hkid, hr'']⟩
            | same _ hno => simp [changesStore] at hno
      · -- an initialisation starts with nothing set
        have hnil : q.past = [] := hjust
        rw [hnil] at hact
        rcases hact with ⟨_, h⟩ | ⟨_, _, h⟩ <;> cases List.mem_singleton.mp h

/-- **A keystore whose initialisation has resolved has an active key**, and no other initialisation
of it starts. -/
lemma initialised (hk : k ≤ R.len) (h : (R.store k i).inits[n]? = some (some (.ok ()))) :
    (R.store k i).initPromise = some n ∧ ∃ kid, (R.store k i).active = some kid := by
  induction k with
  | zero =>
    have hstart : (R.store 0 i).inits = [] := by
      rw [store, R.world_zero, R.isStart.stores]
    rw [hstart] at h
    cases h
  | succ k ih =>
    rcases R.store_step (k := k) (by omega) i with hs | ⟨pid, p, e, hd, hstep⟩
    · rw [hs] at h ⊢
      exact ih (by omega) h
    · have hjust := justified hd
      generalize R.store (k + 1) i = s' at hstep h
      cases hstep with
      | start hnone =>
        rcases Nat.lt_or_ge n (R.store k i).inits.length with hlt | hge
        · simp only [KeyStore.start, List.getElem?_append_left hlt] at h
          obtain ⟨hpromise, -⟩ := ih (by omega) h
          rw [hpromise] at hnone
          cases hnone
        · simp only [KeyStore.start, List.getElem?_append_right hge, List.getElem?_singleton] at h
          split_ifs at h
          cases Option.some.inj h
      | settle n' r =>
        have halone := initAlone (by omega) hd.proc hjust.1
        by_cases hn : n' = n
        · subst hn
          obtain ⟨hlt, -⟩ := List.getElem?_eq_some_iff.mp halone.pending
          simp only [KeyStore.settle, List.getElem?_set_self hlt, Option.some.injEq] at h
          subst h
          exact ⟨halone.promise, activated (by omega) hd.proc hjust.1 (hjust.2.1.mp rfl)⟩
        · simp only [KeyStore.settle, List.getElem?_set_ne hn] at h
          obtain ⟨hpromise, -⟩ := ih (by omega) h
          exact absurd (Option.some.inj (halone.promise.symm.trans hpromise)) hn
      | load records active =>
        obtain ⟨n', _, _, hrun, -⟩ := hjust
        have halone := initAlone (by omega) hd.proc hrun
        obtain ⟨hpromise, -⟩ := ih (by omega) h
        obtain rfl := Option.some.inj (halone.promise.symm.trans hpromise)
        have hpending := halone.pending.symm.trans h
        simp at hpending
      | retireActive => exact ih (by omega) h
      | adopt rec => exact ⟨(ih (by omega) h).1, rec.kid, rfl⟩
      | same _ _ => exact ih (by omega) h

/-- A keystore that has been ensured has an active key from then on. -/
lemma ensured_active {m : ℕ} (hkm : k ≤ m) (hm : m ≤ R.len) {past : List KeyEvent}
    {kids : List String}
    (h : R.proc k pid = some ⟨.ensure i, past, .ret kids⟩) :
    ∃ kid, (R.store m i).active = some kid := by
  obtain ⟨n, hn⟩ := ensured (by omega) (.inl ⟨kids, rfl, h⟩)
  exact (initialised hm (settled_stays hkm hm hn)).2

/-! ## The table -/

/-- Rows are found under their `kid`. -/
lemma table_keyed (hk : k ≤ R.len) {kid : String} {row : KeyRow}
    (h : (R.table k).get? kid = some row) : row.kid = kid := by
  induction k generalizing row with
  | zero =>
    rw [table, R.world_zero] at h
    exact R.isStart.keyed kid row h
  | succ k ih =>
    rcases R.table_step (k := k) (by omega) with hs | ⟨pid, p, e, hd, hstep⟩
    · exact ih (by omega) (hs ▸ h)
    · generalize R.table (k + 1) = m' at hstep h
      cases hstep with
      | insert rec r _ =>
        rw [Map.get?_set] at h
        split_ifs at h with hkid
        · rw [← Option.some.inj h, hkid]
        · exact ih (by omega) h
      | setStatus kid' status t r =>
        rw [Map.get?_modify] at h
        obtain ⟨row', hrow', rfl⟩ := Option.map_eq_some_iff.mp h
        have hkid := ih (by omega) hrow'
        split_ifs <;> exact hkid
      | same _ _ => exact ih (by omega) h

/-- **No row is ever deleted.** -/
lemma row_stays {m : ℕ} (hkm : k ≤ m) (hm : m ≤ R.len) {kid : String}
    (h : ∃ row, (R.table k).get? kid = some row) : ∃ row, (R.table m).get? kid = some row := by
  induction m, hkm using Nat.le_induction with
  | base => exact h
  | succ m _ ih =>
    obtain ⟨row, hrow⟩ := ih (by omega)
    rcases R.table_step (k := m) (by omega) with hs | ⟨pid, p, e, hd, hstep⟩
    · exact ⟨row, hs ▸ hrow⟩
    · generalize R.table (m + 1) = m' at hstep
      cases hstep with
      | insert rec r _ =>
        rw [Map.get?_set]
        split_ifs
        · exact ⟨rec, rfl⟩
        · exact ⟨row, hrow⟩
      | setStatus kid' status t r => exact ⟨_, by rw [Map.get?_modify, hrow]; rfl⟩
      | same _ _ => exact ⟨row, hrow⟩

/-- A key that is listed is a row at that time. -/
lemma listed_row {listed : List KeyRow} (h : R.Does k pid p ⟨.list, .ok listed⟩)
    {r : KeyRow} : r ∈ listed ↔ (R.table k).get? r.kid = some r := by
  obtain ⟨x, -, hx⟩ := h.exec
  rcases keyExec_list hx with hl | hl
  · obtain rfl := Except.ok.inj hl
    rw [Map.mem_values_iff]
    refine ⟨fun ⟨kid, hkid⟩ => ?_, fun hr => ⟨_, hr⟩⟩
    rwa [table_keyed (Nat.le_of_lt h.lt) hkid]
  · cases hl

/-- The rows of a table are distinct. -/
lemma nodup_values (hk : k ≤ R.len) : (R.table k).values.Nodup := by
  refine List.Nodup.of_map (·.kid) ?_
  have hkeys : (R.table k).values.map (·.kid) = (R.table k).entries.map Prod.fst := by
    rw [Map.values, List.map_map]
    exact List.map_congr_left fun e he => table_keyed hk (Map.get?_of_mem he)
  rw [hkeys]
  exact (R.table k).nodup

/-- The active keys of a list are active rows. -/
lemma actives_row {listed : List KeyRow} (h : R.Does k pid p ⟨.list, .ok listed⟩) {r : KeyRow}
    (hr : r ∈ activesOf listed) : (R.table k).get? r.kid = some r ∧ r.status = .active := by
  obtain ⟨hmem, hactive⟩ := List.mem_filter.mp ((List.perm_insertionSort _ _).mem_iff.mp hr)
  exact ⟨(listed_row h).mp hmem, by simpa using hactive⟩

/-- The active keys of a list are distinct. -/
lemma nodup_actives {listed : List KeyRow} (h : R.Does k pid p ⟨.list, .ok listed⟩) :
    (activesOf listed).Nodup := by
  have hlisted : listed = (R.table k).values := by
    obtain ⟨x, -, hx⟩ := h.exec
    rcases keyExec_list hx with hl | hl
    · exact Except.ok.inj hl
    · cases hl
  rw [activesOf, (List.perm_insertionSort _ _).nodup_iff, hlisted]
  exact (nodup_values (Nat.le_of_lt h.lt)).filter _

/-- A key that was inserted is a row after that. -/
lemma inserted_row {rec : KeyRow} (h : R.Does k pid p ⟨.insert rec, .ok ()⟩) :
    (R.table (k + 1)).get? rec.kid = some rec := by
  have hstep := table_does h
  generalize R.table (k + 1) = m' at hstep
  cases hstep with
  | insert _ _ _ => exact Map.get?_set_self _ _ _
  | same _ hno => cases hno

/-- **Loaded keys are persisted.** -/
lemma loaded_row (hk : k ≤ R.len) {kid : String} {r : KeyRow}
    (h : (R.store k i).keys.get? kid = some r) : ∃ row, (R.table k).get? kid = some row := by
  induction k generalizing r with
  | zero =>
    have hstart : (R.store 0 i).keys = .empty := by
      rw [store, R.world_zero, R.isStart.stores]
    rw [hstart] at h
    cases h
  | succ k ih =>
    have hkeep : (∃ row, (R.table k).get? kid = some row) →
        ∃ row, (R.table (k + 1)).get? kid = some row :=
      row_stays (Nat.le_succ k) hk
    rcases R.store_step (k := k) (by omega) i with hs | ⟨pid, p, e, hd, hstep⟩
    · exact hkeep (ih (by omega) (hs ▸ h))
    · have hjust := justified hd
      generalize R.store (k + 1) i = s' at hstep h
      cases hstep with
      | start _ => exact hkeep (ih (by omega) h)
      | settle _ _ => exact hkeep (ih (by omega) h)
      | same _ _ => exact hkeep (ih (by omega) h)
      | retireActive =>
        simp only [KeyStore.retireActive, Map.get?_mapVals] at h
        obtain ⟨r', hr', -⟩ := Option.map_eq_some_iff.mp h
        exact hkeep (ih (by omega) hr')
      | load records active =>
        obtain ⟨_, listed, stale, -, -, hlisted, rfl, -⟩ := hjust
        have hkid : r.kid = kid := KeyStore.loadedKeys_keyed _ h
        obtain ⟨r₀, hr₀, hr⟩ := List.mem_map.mp (KeyStore.mem_of_loadedKeys h)
        have hsame : r₀.kid = r.kid := by
          rw [← hr]
          split <;> rfl
        obtain ⟨j, hj, q, hd', -⟩ := R.did (by omega) hd.proc hlisted
        have hrow := (listed_row hd').mp hr₀
        rw [hsame, hkid] at hrow
        exact row_stays (by omega) hk ⟨r₀, hrow⟩
      | adopt rec =>
        simp only [KeyStore.adopt, Map.get?_set] at h
        split_ifs at h with hkid
        · subst hkid
          obtain ⟨-, hmem | ⟨listed, hmem, hin⟩, -⟩ := hjust
          · obtain ⟨j, hj, q, hd', -⟩ := R.did (by omega) hd.proc hmem
            exact row_stays (by omega) hk ⟨rec, inserted_row hd'⟩
          · obtain ⟨j, hj, q, hd', -⟩ := R.did (by omega) hd.proc hmem
            exact row_stays (by omega) hk ⟨rec, (listed_row hd').mp hin⟩
        · exact hkeep (ih (by omega) h)

end KeyRun

end Fapi2As
