import Fapi2As.Properties.KeysInUse

set_option relaxedAutoImplicit false
set_option autoImplicit false

/-!
# What other instances publish

Keystores load the table once. A key that is introduced later is unknown to those that were running
before, and a key that was retired by another one is used by them for ever. What is signed with a
key can be verified at all keystores when the key has reached them, that is, when they have adopted
it or have begun to initialise when it was in the table, and when it is not retired too early for
the signature.

## Main definitions

* `Fapi2As.KeyRun.Initialised` — an initialisation of a keystore has resolved.
* `Fapi2As.KeyRun.VerifiesEverywhere` — signatures can be verified at every initialised keystore.
* `Fapi2As.KeyRun.Reaches`, `Fapi2As.KeyRun.SignsReached` — keys sign only when they have reached
  all keystores.

## Main results

* `Fapi2As.KeyRun.signed_row` — a key that signs was not retired when the run started.
* `Fapi2As.KeyRun.verifiesEverywhere_of_reached` — signatures can be verified everywhere, when their
  keys have reached all keystores.
-/

namespace Fapi2As

open Js Async

/-! ## Keys are new -/

/-- The `kid`s of keys are never forgotten. -/
lemma keyExec_kids {w w' : KeyWorld} {o : KeyCall} {x : KeyOracle} {r : KeyRet o} {kid : String}
    (h : keyExec o x w = some (r, w')) (hkid : kid ∈ w.kids) : kid ∈ w'.kids := by
  have hcarry : ∀ {α : Type} {a : α} {w₁ : KeyWorld} {out : KeyOutcome} {y : Except KeyFault α},
      some (w.carry a w₁ out) = some (y, w') → w₁.kids = w.kids → kid ∈ w'.kids := by
    intro α a w₁ out y h hw₁
    cases out <;> cases h
    · exact hw₁ ▸ hkid
    · exact hkid
    · exact hw₁ ▸ hkid
  cases o with
  | list => exact hcarry h rfl
  | setStatus _ _ _ => exact hcarry h rfl
  | importPrivate _ => exact hcarry h rfl
  | insert rec =>
    simp only [keyExec] at h
    split_ifs at h
    · cases h
      exact hkid
    · exact hcarry h rfl
  | generate =>
    simp only [keyExec] at h
    split_ifs at h
    cases h
    exact List.mem_cons_of_mem _ hkid
  | ensure _ | join _ _ | mustActive _ =>
    simp only [keyExec] at h
    split at h <;> cases h <;> exact hkid
  | _ =>
    cases h
    exact hkid

namespace KeyRun

variable {R : KeyRun} {k m j pid i : ℕ} {p : Proc keySystem} {kid : String} {row : KeyRow}

lemma kids_mono (hm : m ≤ R.len) (h : kid ∈ (R.world 0).kids) : kid ∈ (R.world m).kids := by
  refine R.stays (P := fun w => kid ∈ w.kids) (Nat.zero_le m) h fun k _ hk hkid => ?_
  rcases R.world_step (i := k) (by omega) with hw | ⟨pid, p, ev, hd⟩ | ⟨move, -, hw⟩
  · exact hw ▸ hkid
  · obtain ⟨x, -, hx⟩ := hd.exec
    exact keyExec_kids hx hkid
  · exact Option.some.inj hw ▸ hkid

/-- A key that is generated is not in the table that the run starts with. -/
lemma generated_new {key : GeneratedKey} (h : R.Does k pid p ⟨.generate, key⟩) :
    (R.table 0).get? key.kid = none := by
  obtain ⟨x, -, hx⟩ := h.exec
  have hx : keyExec .generate x (R.world k) = some (key, R.world (k + 1)) := hx
  simp only [keyExec] at hx
  split_ifs at hx with hfresh
  cases hrow : (R.table 0).get? key.kid with
  | none => rfl
  | some row =>
    have hrow : (R.world 0).table.get? key.kid = some row := hrow
    obtain ⟨hkey, -⟩ := Prod.mk.inj (Option.some.inj hx)
    rw [R.world_zero] at hrow
    have hkid := R.isStart.kids _ row hrow
    rw [← R.world_zero] at hkid
    subst hkey
    exact absurd (kids_mono (Nat.le_of_lt h.lt) hkid) hfresh

/-- A row that the run starts with stays retired. -/
lemma retired_stays (h : (R.table 0).get? kid = some row) (hrow : row.status ≠ .active)
    (hk : k ≤ R.len) : ∃ row', (R.table k).get? kid = some row' ∧ row'.status ≠ .active := by
  induction k with
  | zero => exact ⟨row, h, hrow⟩
  | succ k ih =>
    obtain ⟨row', hrow', hstatus⟩ := ih (by omega)
    rcases R.table_step (k := k) (by omega) with hs | ⟨pid, p, ev, hd, hs⟩
    · exact ⟨row', hs ▸ hrow', hstatus⟩
    · have hjust := justified hd
      generalize R.table (k + 1) = m' at hs
      cases hs with
      | same _ _ => exact ⟨row', hrow', hstatus⟩
      | insert rec r _ =>
        obtain ⟨before, key, hpast, rfl⟩ := hjust
        have hmem : (⟨.generate, key⟩ : KeyEvent) ∈ p.past :=
          hpast ▸ List.mem_append_right _ List.mem_cons_self
        obtain ⟨j, -, q, hgenerate, -⟩ := R.did (by omega) hd.proc hmem
        have hne : kid ≠ key.record.kid := by
          rintro rfl
          cases (generated_new hgenerate).symm.trans h
        exact ⟨row', by rw [Map.get?_set, if_neg hne]; exact hrow', hstatus⟩
      | setStatus kid' status t r =>
        obtain ⟨rfl, -⟩ := hjust
        refine ⟨_, by rw [Map.get?_modify, hrow']; rfl, ?_⟩
        split_ifs
        · simp
        · exact hstatus

/-- The active key of a keystore was an active row. -/
lemma active_was_row (hk : k ≤ R.len) (h : (R.store k i).active = some kid) :
    ∃ j ≤ k, ∃ row, (R.table j).get? kid = some row ∧ row.status = .active := by
  induction k generalizing kid with
  | zero =>
    rw [store, R.world_zero, R.isStart.stores] at h
    cases h
  | succ k ih =>
    have hbefore : (R.store k i).active = some kid →
        ∃ j ≤ k + 1, ∃ row, (R.table j).get? kid = some row ∧ row.status = .active := fun h => by
      obtain ⟨j, hj, hrow⟩ := ih (by omega) h
      exact ⟨j, by omega, hrow⟩
    rcases R.store_step (k := k) (by omega) i with hs | ⟨pid, p, ev, hd, hs⟩
    · exact hbefore (hs ▸ h)
    · have hjust := justified hd
      generalize R.store (k + 1) i = s' at hs h
      cases hs with
      | start _ => exact hbefore h
      | settle _ _ => exact hbefore h
      | retireActive => exact hbefore h
      | same _ _ => exact hbefore h
      | adopt rec =>
        obtain rfl := Option.some.inj h
        obtain ⟨hactive, hmem | ⟨listed, hmem, hin⟩, -⟩ := hjust
        · obtain ⟨j, hj, q, hd', -⟩ := R.did (by omega) hd.proc hmem
          exact ⟨j + 1, by omega, rec, inserted_row hd', hactive⟩
        · obtain ⟨j, hj, q, hd', -⟩ := R.did (by omega) hd.proc hmem
          exact ⟨j, by omega, rec, (listed_row hd').mp hin, hactive⟩
      | load records active =>
        obtain ⟨_, listed, stale, -, -, hmem, rfl, rfl, -⟩ := hjust
        obtain ⟨j, hj, q, hd', -⟩ := R.did (by omega) hd.proc hmem
        obtain ⟨r, hr, rfl⟩ := Option.map_eq_some_iff.mp h
        obtain ⟨newest, hnewest, hget⟩ := Option.bind_eq_some_iff.mp hr
        obtain ⟨hin, hactive⟩ := mem_of_newest hnewest
        rw [KeyStore.loadedKeys_keyed _ hget]
        exact ⟨j, by omega, newest, (listed_row hd').mp hin, hactive⟩

/-- **A key that signs was not retired when the run started.** -/
lemma signed_row (hd : R.Does j pid p ⟨.mustActive i, .ok kid⟩)
    (h : (R.table 0).get? kid = some row) : row.status = .active := by
  by_contra hstatus
  obtain ⟨k, hk, row', hrow', hactive⟩ := active_was_row (Nat.le_of_lt hd.lt) (signed_active hd)
  have hlt := hd.lt
  obtain ⟨row'', hrow'', hretired⟩ := retired_stays h hstatus (show k ≤ R.len by omega)
  rw [hrow'] at hrow''
  exact hretired (Option.some.inj hrow'' ▸ hactive)

/-! ## Keystores that know a key -/

variable (R) in
/-- An initialisation of a keystore, which `ensure()` awaits, has resolved. -/
def Initialised (k i : ℕ) : Prop := ∃ n : ℕ, (R.store k i).inits[n]? = some (some (.ok ()))

variable (R) in
/-- A keystore has loaded a key. -/
def Knows (k i : ℕ) (kid : String) : Prop := ∃ r, (R.store k i).keys.get? kid = some r

/-- A keystore whose `ensure()` has resolved is initialised. -/
lemma Initialised.of_ensured (hk : k ≤ R.len) {past : List KeyEvent} {kids : List String}
    (h : R.proc k pid = some ⟨.ensure i, past, .ret kids⟩) : R.Initialised k i :=
  ensured hk (.inl ⟨kids, rfl, h⟩)

/-- A key is known until the next load, and after it when that loads the key. -/
lemma Knows.stays (hkm : k ≤ m) (hm : m ≤ R.len) (h : R.Knows k i kid)
    (hload : ∀ l, k ≤ l → ∀ pid p records active,
      R.Does l pid p ⟨.load i records active, ()⟩ → R.Knows (l + 1) i kid) : R.Knows m i kid := by
  induction m, hkm using Nat.le_induction with
  | base => exact h
  | succ m hkm ih =>
    obtain ⟨r, hr⟩ := ih (by omega)
    have hnext := hload m hkm
    unfold Knows at hnext ⊢
    rcases R.store_step (k := m) (by omega) i with hs | ⟨pid, p, ev, hd, hs⟩
    · exact ⟨r, hs ▸ hr⟩
    · generalize R.store (m + 1) i = s' at hs hnext
      cases hs with
      | start _ => exact ⟨r, hr⟩
      | settle _ _ => exact ⟨r, hr⟩
      | same _ _ => exact ⟨r, hr⟩
      | load records active => exact hnext pid p records active hd
      | retireActive => exact ⟨_, by rw [KeyStore.retireActive, Map.get?_mapVals, hr]; rfl⟩
      | adopt rec =>
        simp only [KeyStore.adopt, Map.get?_set]
        split_ifs
        · exact ⟨rec, rfl⟩
        · exact ⟨r, hr⟩

/-- A keystore whose initialisation has set the active key or has resolved stays so. -/
lemma settles_on (hkm : k ≤ m) (hm : m ≤ R.len) (h : R.Activating k i ∨ R.Initialised k i) :
    R.Activating m i ∨ R.Initialised m i := by
  induction m, hkm using Nat.le_induction with
  | base => exact h
  | succ m _ ih =>
    rcases ih (by omega) with hact | ⟨n, hn⟩
    · exact hact.step (by omega)
    · exact .inr ⟨n, settled_step (by omega) hn⟩

/-- An initialisation that is run begins when there is no promise, and its calls come after that. -/
lemma begun_later {n e : ℕ} {q : Proc keySystem} {ev : KeyEvent} (hm : m ≤ R.len)
    (hp : R.proc m pid = some p) (hrun : InitRuns i n p.past)
    (hnone : (R.store k i).initPromise = none) (hkm : k ≤ m) (hd : R.Does e pid q ev)
    (hev : ∀ i n, ev ≠ ⟨.ensure i, (n, true)⟩) : k ≤ e := by
  obtain ⟨b, hb, q', hensure, hpre⟩ := R.did hm hp hrun.1
  -- it is not run at time `k`, so it begins later
  have hkb : k ≤ b := by
    by_contra hlt
    obtain ⟨c, -, hnext⟩ := hensure.todo
    obtain ⟨p₁, hp₁, -, hpre₁⟩ := R.proc_mono (show b + 1 ≤ k by omega) (by omega) hnext
    obtain ⟨p₂, hp₂, -, hpre₂⟩ := R.proc_mono hkm hm hp₁
    obtain rfl := Option.some.inj (hp₂.symm.trans hp)
    have hrun₁ : InitRuns i n p₁.past :=
      ⟨hpre₁.subset (List.mem_append_right _ List.mem_cons_self),
        fun r hr => hrun.2 r (hpre₂.subset hr)⟩
    have hpromise := (initAlone (by omega) hp₁ hrun₁).promise
    rw [hnone] at hpromise
    cases hpromise
  -- its beginning is the first call of the operation
  have hfirst : q'.past = [] := justified hensure
  rcases Nat.lt_trichotomy e b with hlt | rfl | hlt
  · obtain ⟨c, -, hnext⟩ := hd.todo
    obtain ⟨q'', hq'', -, hpre''⟩ := R.proc_mono hlt (Nat.le_of_lt hensure.lt) hnext
    obtain rfl := Option.some.inj (hq''.symm.trans hensure.proc)
    rw [hfirst] at hpre''
    simp at hpre''
  · obtain ⟨-, -, rfl⟩ := hd.functional hensure
    exact absurd rfl (hev i n)
  · omega

/-- **A keystore that begins to initialise when a key is in the table knows the key**, once it is
initialised.

**Proof sketch.** Whatever it loads from then on it has listed after it began, when the key was a
row, so it loads the key (`load_key`); and it has loaded the table before it is initialised. -/
lemma Initialised.knows (h : R.Initialised m i) (hkm : k ≤ m) (hm : m ≤ R.len)
    (hnone : (R.store k i).initPromise = none) (hrow : ∃ row, (R.table k).get? kid = some row) :
    R.Knows m i kid := by
  have hload : ∀ l, k ≤ l → ∀ pid p records active,
      R.Does l pid p ⟨.load i records active, ()⟩ → R.Knows (l + 1) i kid := by
    intro l hkl pid p records active hd
    obtain ⟨n, _, _, hrun, -⟩ := justified hd
    refine load_key hd fun j q listed _ hlist => row_stays ?_ (Nat.le_of_lt hlist.lt) hrow
    exact begun_later (Nat.le_of_lt hd.lt) hd.proc hrun hnone hkl hlist fun _ _ h => by cases h
  obtain ⟨n, hn⟩ := h
  obtain ⟨j, hj, pid, p, hsettle⟩ := settled_by hm hn
  have hkj : k ≤ j := by
    by_contra hlt
    have hsettled := settled_stays (show j + 1 ≤ k by omega) (by omega) (settles hsettle)
    have hpromise := (initialised (by omega) hsettled).1
    rw [hnone] at hpromise
    cases hpromise
  obtain ⟨hrun, -, -, hloaded⟩ := justified hsettle
  obtain ⟨records, active, hmem⟩ := hloaded rfl
  obtain ⟨l, hl, q, hd, -⟩ := R.did (Nat.le_of_lt hsettle.lt) hsettle.proc hmem
  have hkl : k ≤ l := begun_later (Nat.le_of_lt hsettle.lt) hsettle.proc hrun hnone hkj hd
    fun _ _ h => by cases h
  exact (hload l hkl pid q records active hd).stays (by omega) hm fun l' hl' => hload l' (by omega)

/-! ## Signatures at other keystores -/

variable (R) in
/-- **Signatures can be verified at every initialised keystore** until they expire. -/
def VerifiesEverywhere (lifetime : ℕ) : Prop :=
  ∀ j pid p i kid, R.Does j pid p ⟨.mustActive i, .ok kid⟩ → ∀ m, j ≤ m → m ≤ R.len →
    R.clock m < R.clock j + lifetime → ∀ i', R.Initialised m i' →
    (R.store m i').Publishes kid (R.clock m)

variable (R) in
/-- **A key reaches a keystore** by a time: the keystore knows it and has set its active key, or the
key is in the table at a time when no initialisation of the keystore is under way or has
resolved. -/
inductive Reaches (j i : ℕ) (kid : String) : Prop
  | known (h : R.Knows j i kid) (hset : R.Activating j i ∨ R.Initialised j i)
  | begins (k : ℕ) (hk : k ≤ j) (hnone : (R.store k i).initPromise = none)
      (hrow : ∃ row, (R.table k).get? kid = some row)

variable (R) in
/-- **Keys sign only when they have reached all keystores**, and when the signature expires before
the key may be dropped wherever its retirement has begun. -/
structure SignsReached (lifetime : ℕ) : Prop where
  /-- The key has reached all keystores. -/
  reached : ∀ j pid p i kid, R.Does j pid p ⟨.mustActive i, .ok kid⟩ → ∀ i', R.Reaches j i' kid
  /-- The signature expires within the retention of the key. -/
  fits : ∀ j pid p i kid, R.Does j pid p ⟨.mustActive i, .ok kid⟩ → ∀ m < j, ∀ pid' p' i' t,
    R.Does m pid' p' ⟨.retireActive i', some (kid, t)⟩ →
    R.clock j + lifetime ≤ t + retiredKeyRetentionMs

/-- A keystore that a key has reached knows it when it is initialised. -/
lemma Reaches.knows (h : R.Reaches j i kid) (hjm : j ≤ m) (hm : m ≤ R.len)
    (hinit : R.Initialised m i) : R.Knows m i kid := by
  cases h with
  | known h hset =>
    exact h.stays hjm hm fun l hjl pid p records active hd =>
      absurd hd (no_load (settles_on hjl (Nat.le_of_lt hd.lt) hset))
  | begins k hk hnone hrow => exact hinit.knows (hk.trans hjm) hm hnone hrow

/-- **Signatures can be verified at every initialised keystore**, when keys sign only when they have
reached all of them.

**Proof sketch.** Every keystore that is initialised knows the key (`Reaches.knows`). All
retirements of the key are late enough for the signature: those before it by the condition, those
after it because the clock goes on. So every record of the key is kept (`record_kept`). -/
theorem verifiesEverywhere_of_reached (R : KeyRun) (hforward : R.ClockForward)
    (h0 : OneActive (R.table 0)) {lifetime : ℕ} (hlife : lifetime ≤ retiredKeyRetentionMs)
    (h : R.SignsReached lifetime) : R.VerifiesEverywhere lifetime := by
  intro j pid p i kid hd m hjm hm hbefore i' hinit
  obtain ⟨r, hr⟩ := (h.reached j pid p i kid hd i').knows hjm hm hinit
  have hlate : R.RetiredLate kid (R.clock j + lifetime) := by
    intro l pid' p' i'' t hd'
    rcases Nat.lt_or_ge l j with hlt | hge
    · exact h.fits j pid p i kid hd l hlt pid' p' i'' t hd'
    · have hle := clock_mono hforward hge (Nat.le_of_lt hd'.lt)
      rw [(retired_active hd').2]
      omega
  exact ((R.store m i').publishes_iff hr).mpr
    ((record_kept h0 (fun row hrow => signed_row hd hrow) hlate hm hr).isPublished hbefore)

end KeyRun

namespace Sample

/-! ## A rotation at the keystore that signs -/

/-- A keystore is initialised and knows a key. -/
def knowsKey (c : Conf keySystem) (kid : String) (i : ℕ) : Bool :=
  resolved (c.world.stores i) && ((c.world.stores i).keys.get? kid).isSome

/-- The two keystores know the keys that sign, which are in the table, and no other keystore is
initialised. -/
def signsKnown (s : TraceStep keySystem) : Bool := s.made.all fun m => match m.2.2 with
  | ⟨.mustActive _, .ok kid⟩ =>
    knowsKey s.before kid 0 && knowsKey s.before kid 1 && (s.before.world.table.get? kid).isSome
  | ⟨.ensure i, _⟩ | ⟨.settle i _ _, _⟩ => i < 2
  | _ => true

lemma rotating_known : (keySystem.trace ⟨emptyTable, []⟩ rotatingSteps).any
    (fun t => t.1.all signsKnown) = true := by
  decide +kernel

/-- Every step of the run is tested. -/
lemma rotatingRun_signsKnown {k pid : ℕ} {p : Proc keySystem} {ev : KeyEvent}
    (hd : rotatingRun.Does k pid p ev) : ∃ s q, s.made = some (pid, q, ev) ∧ signsKnown s = true ∧
      s.before.world = rotatingRun.world k := by
  obtain ⟨⟨steps, last⟩, ht, h⟩ := (Option.any_eq_true _ _).mp rotating_known
  have ht : rotatingRun.HasTrace steps last := ht
  obtain ⟨s, hs, hmade⟩ := hd.traced ht
  obtain ⟨s', hs', hbefore⟩ := ht.conf hd.lt
  obtain rfl := Option.some.inj (hs.symm.trans hs')
  exact ⟨s, _, hmade, List.all_eq_true.mp h s (List.mem_of_getElem? hs), by rw [Run.world, hbefore]⟩

/-- The other keystores are never initialised. -/
lemma rotatingRun_others {k i : ℕ} (hk : k ≤ rotatingRun.len) (hi : 2 ≤ i) :
    (rotatingRun.store k i).initPromise = none := by
  induction k with
  | zero =>
    rw [KeyRun.store, Run.world_zero, rotatingRun.isStart.stores]
  | succ k ih =>
    have hbefore := ih (by omega)
    rcases rotatingRun.store_step (k := k) (by omega) i with hs | ⟨pid, p, ev, hd, hs⟩
    · exact hs ▸ hbefore
    · obtain ⟨s, q, hmade, htest, -⟩ := rotatingRun_signsKnown hd
      generalize rotatingRun.store (k + 1) i = s' at hs
      cases hs with
      | start _ =>
        simp only [signsKnown, hmade, Option.all_some, decide_eq_true_eq] at htest
        omega
      | settle n r =>
        simp only [signsKnown, hmade, Option.all_some, decide_eq_true_eq] at htest
        omega
      | _ => exact hbefore

/-- An initialised keystore that knows a key. -/
lemma reaches_of_knowsKey {R : KeyRun} {c : Conf keySystem} {k i : ℕ} {kid : String}
    (hc : c.world = R.world k) (h : knowsKey c kid i = true) : R.Reaches k i kid := by
  obtain ⟨hinit, hknown⟩ := Bool.and_eq_true_iff.mp h
  rw [hc] at hinit hknown
  obtain ⟨r, hr⟩ := Option.isSome_iff_exists.mp hknown
  exact .known ⟨r, hr⟩ (.inr ⟨0, inits_of_resolved hinit⟩)

/-- What the first keystore signs, before its rotation and during it, can be verified at both. -/
theorem rotating_verifiesEverywhere : rotatingRun.VerifiesEverywhere 300000 := by
  have hempty : OneActive (rotatingRun.table 0) := fun _ _ _ _ hrow => by cases hrow
  refine rotatingRun.verifiesEverywhere_of_reached rotatingRun_clock.1 hempty (by decide)
    ⟨fun j pid p i kid hd i' => ?_, fun j pid p i kid hd m hm pid' p' i' t hd' => ?_⟩
  · obtain ⟨s, q, hmade, htest, hworld⟩ := rotatingRun_signsKnown hd
    simp only [signsKnown, hmade, Option.all_some, Bool.and_eq_true] at htest
    obtain ⟨⟨h0, h1⟩, hrow⟩ := htest
    match i' with
    | 0 => exact reaches_of_knowsKey hworld h0
    | 1 => exact reaches_of_knowsKey hworld h1
    | i' + 2 =>
      refine .begins j le_rfl (rotatingRun_others (Nat.le_of_lt hd.lt) (by omega)) ?_
      rw [hworld] at hrow
      exact Option.isSome_iff_exists.mp hrow
  · have hclock := rotatingRun_clock_le (Nat.le_of_lt hd.lt)
    rw [retiredKeyRetentionMs]
    omega

/-! ## A rotation by another instance -/

/-- The first keystore generates its key, and the second one rotates it. -/
def rotatedElsewhere : List (Act keySystem) :=
  [.arrive (.ensure 0), keyStep 0 "", keyStep 0 "", keyStep 0 "", keyStep 0 "first", keyStep 0 "",
    keyStep 0 "", keyStep 0 "", .arrive (.rotateKeys 1), keyStep 1 "", keyStep 1 "", keyStep 1 "",
    keyStep 1 "", keyStep 1 "", keyStep 1 "", keyStep 1 "", keyStep 1 "", keyStep 1 "second",
    keyStep 1 "", keyStep 1 ""]

/-- The second keystore signs with the new key. -/
def unknownKey : List (Act keySystem) := rotatedElsewhere ++ [.arrive (.signJwt 1), keyStep 2 ""]

/-- A day later a third keystore is started, and the first one signs with the old key. -/
def droppedKey : List (Act keySystem) :=
  rotatedElsewhere ++ [.env ⟨retiredKeyRetentionMs⟩, .arrive (.ensure 2), keyStep 2 "",
    keyStep 2 "", keyStep 2 "", keyStep 2 "", keyStep 2 "", keyStep 2 "", .arrive (.signJwt 0),
    keyStep 3 ""]

/-- A request has signed with a key, at the instant that the clock still shows, and a keystore whose
`ensure()` has resolved does not publish the key. -/
def signedUnpublished (boot pid i : ℕ) (kid : String)
    (t : List (TraceStep keySystem) × Conf keySystem) : Bool :=
  ((t.1.map (·.before) ++ [t.2]).map (·.world.clock)).Pairwise (· ≤ ·) &&
  t.1.all (fun s => s.made.all (fun m => m.1 ≠ pid) || s.before.world.clock = t.2.world.clock) &&
  t.2.answers pid (fun _ past _ => past.any fun ev => match ev with
    | ⟨.mustActive _, .ok kid'⟩ => kid' = kid
    | _ => false) &&
  t.2.answers boot (fun req _ _ => match req with
    | .ensure j => j = i
    | _ => false) &&
  ((t.2.world.stores i).keys.get? kid).all (fun r => !r.isPublished t.2.world.clock)

/-- The signature cannot be verified at the keystore. -/
lemma not_verifiesEverywhere {R : KeyRun} {steps : List (TraceStep keySystem)}
    {last : Conf keySystem} (ht : R.HasTrace steps last) {boot pid i : ℕ} {kid : String}
    (h : signedUnpublished boot pid i kid (steps, last) = true) :
    R.ClockForward ∧ ¬R.VerifiesEverywhere 300000 := by
  simp only [signedUnpublished, Bool.and_eq_true, decide_eq_true_eq, List.all_eq_true] at h
  obtain ⟨⟨⟨⟨hclock, hinstant⟩, hsigned⟩, hinit⟩, hout⟩ := h
  refine ⟨fun k hk => ht.consecutive (List.pairwise_map.mp hclock) hk, fun hall => ?_⟩
  have hlast : R.world R.len = last.world := by rw [Run.world, ht.last]
  -- the signature is made at the instant at which the run ends
  obtain ⟨req, past, kids, hp, htest⟩ := ht.answers hsigned
  obtain ⟨ev, hev, hsigns⟩ := List.any_eq_true.mp htest
  obtain ⟨j, rfl⟩ : ∃ j, ev = ⟨.mustActive j, .ok kid⟩ := by
    split at hsigns
    · rename_i j kid'
      obtain rfl := of_decide_eq_true hsigns
      exact ⟨j, rfl⟩
    · cases hsigns
  obtain ⟨k, -, p, hd, -⟩ := R.did le_rfl hp hev
  obtain ⟨s, hs, hmade⟩ := hd.traced ht
  obtain ⟨s', hs', hbefore⟩ := ht.conf hd.lt
  obtain rfl := Option.some.inj (hs.symm.trans hs')
  have hsame : R.clock k = R.clock R.len := by
    have hnow := hinstant s (List.mem_of_getElem? hs)
    rw [hmade] at hnow
    rw [KeyRun.clock, KeyRun.clock, hlast, Run.world, ← hbefore]
    simpa using hnow
  -- the keystore is initialised, and does not publish the key
  have hready : R.Initialised R.len i := by
    obtain ⟨req', past', kids', hboot, hensure⟩ := ht.answers hinit
    split at hensure
    · obtain rfl := of_decide_eq_true hensure
      exact .of_ensured le_rfl hboot
    · cases hensure
  have hpub := hall k pid p j kid hd R.len (Nat.le_of_lt hd.lt) le_rfl (by omega) i hready
  obtain ⟨r, hr, hr'⟩ := KeyStore.publishes_iff_exists _ |>.mp hpub
  rw [KeyRun.store, hlast] at hr
  rw [KeyRun.clock, hlast] at hr'
  rw [hr] at hout
  simp [hr'] at hout

lemma unknownKey_trace :
    (keySystem.trace ⟨emptyTable, []⟩ unknownKey).any (signedUnpublished 0 2 0 "second") =
      true := by
  decide +kernel

lemma droppedKey_trace :
    (keySystem.trace ⟨emptyTable, []⟩ droppedKey).any (signedUnpublished 2 3 2 "first") =
      true := by
  decide +kernel

/-- The run in which a key is signed with that a keystore does not know. -/
def unknownKeyRun : KeyRun :=
  .ofTrace emptyTable unknownKey emptyTable_initial (signedUnpublished 0 2 0 "second")
    unknownKey_trace

/-- The run in which a key is signed with that has been dropped elsewhere. -/
def droppedKeyRun : KeyRun :=
  .ofTrace emptyTable droppedKey emptyTable_initial (signedUnpublished 2 3 2 "first")
    droppedKey_trace

/-- **A keystore that was started before a rotation does not publish the new key**, and goes on to
sign with the old one when others have dropped it. -/
theorem instances_disagree :
    (unknownKeyRun.ClockForward ∧ ¬unknownKeyRun.VerifiesEverywhere 300000) ∧
      (droppedKeyRun.ClockForward ∧ ¬droppedKeyRun.VerifiesEverywhere 300000) := by
  constructor
  · obtain ⟨steps, last, ht, h⟩ : ∃ steps last, unknownKeyRun.HasTrace steps last ∧
      signedUnpublished 0 2 0 "second" (steps, last) = true := Run.hasTrace_ofTrace unknownKey_trace
    exact not_verifiesEverywhere ht h
  · obtain ⟨steps, last, ht, h⟩ : ∃ steps last, droppedKeyRun.HasTrace steps last ∧
      signedUnpublished 2 3 2 "first" (steps, last) = true := Run.hasTrace_ofTrace droppedKey_trace
    exact not_verifiesEverywhere ht h

end Sample

end Fapi2As
