import Fapi2As.Async.Trace
import Fapi2As.Properties.SigningKeys

set_option relaxedAutoImplicit false
set_option autoImplicit false

/-!
# First boots

Keystores that boot at the same time on a table without an active key agree on the key that is
inserted first: the losers of the race adopt it, and a boot fails only by a failure of the table or
of the import of a key.

## Main definitions

* `Fapi2As.KeyRun.NothingRotates` — no request rotates a key.
* `Fapi2As.KeyRun.AgreedOn` — the keystores that were ensured agree on a key.
* `Fapi2As.KeyRun.OneWinner` — they agree on one key for good.

## Main results

* `Fapi2As.KeyRun.active_stays` — the first active row stays the active one.
* `Fapi2As.KeyRun.boots_agree` — first boots agree, and do not fail because of the race.
* `Fapi2As.KeyRun.first_boots_oneWinner` — what they agree on never changes.
-/

namespace Fapi2As

open Js Async

namespace KeyRun

variable {R : KeyRun} {k m pid i : ℕ} {p : Proc keySystem} {kid : String} {row : KeyRow}

variable (R) in
/-- No request rotates a key. -/
def NothingRotates : Prop :=
  ∀ k ≤ R.len, ∀ pid p, R.proc k pid = some p → ∀ i, ¬p.req.Rotates i

/-- The table has no active row at the start. -/
lemma oneActive_of_none (h0 : ∀ kid row, (R.table 0).get? kid = some row → row.status ≠ .active) :
    OneActive (R.table 0) := fun kid _ row _ h _ hrow _ => absurd hrow (h0 kid row h)

/-- No row is retired when nothing is rotated and no two rows are active. -/
lemma no_setStatus (hno : R.NothingRotates) (h0 : OneActive (R.table 0)) {status : KeyStatus}
    {t : Option ℕ} {r : Except KeyFault Unit} : ¬R.Does k pid p ⟨.setStatus kid status t, r⟩ := by
  intro hd
  have hk := Nat.le_of_lt hd.lt
  obtain ⟨-, t, -, ⟨j, hmem⟩ | ⟨listed, hmem, r, hr, -⟩⟩ := justified hd
  · obtain ⟨_, -, q, hq, -⟩ := R.did hk hd.proc hmem
    exact hno _ (Nat.le_of_lt hq.lt) _ _ hq.proc j (justified hq)
  · obtain ⟨_, -, q, hq, -⟩ := R.did hk hd.proc hmem
    rw [not_listedStale h0 hq] at hr
    cases hr

/-- **The active row stays** when nothing is rotated. -/
lemma active_stays (hno : R.NothingRotates) (h0 : OneActive (R.table 0)) (hkm : k ≤ m)
    (hm : m ≤ R.len) (h : (R.table k).get? kid = some row) (hrow : row.status = .active) :
    (R.table m).get? kid = some row := by
  induction m, hkm using Nat.le_induction with
  | base => exact h
  | succ m _ ih =>
    have hbefore := ih (by omega)
    rcases R.table_step (k := m) (by omega) with hs | ⟨pid, p, e, hd, hstep⟩
    · rwa [hs]
    · have hjust := justified hd
      have hnot := fun kid status t r (he : e = ⟨.setStatus kid status t, r⟩) =>
        no_setStatus hno h0 (he ▸ hd)
      generalize R.table (m + 1) = m' at hstep
      cases hstep with
      | same _ _ => exact hbefore
      | setStatus kid status t r => exact absurd rfl (hnot kid status t r)
      | insert rec r hfree =>
        obtain ⟨_, key, -, rfl⟩ := hjust
        exact absurd hrow (hfree rfl kid row hbefore)

/-- **The active key of a keystore is the active row**, when nothing is rotated.

**Proof sketch.** A key becomes active when it was listed as active or was inserted, so it was the
active row before, and that row stays. -/
lemma active_row (hno : R.NothingRotates) (h0 : OneActive (R.table 0)) (hk : k ≤ R.len)
    (h : (R.store k i).active = some kid) : ∃ row, (R.table k).get? kid = some row ∧
      row.status = .active ∧ (R.store k i).keys.get? kid = some row := by
  induction k generalizing kid with
  | zero =>
    rw [store, R.world_zero, R.isStart.stores] at h
    cases h
  | succ k ih =>
    have hkeep : ∀ {j kid row}, j ≤ k + 1 → (R.table j).get? kid = some row → row.status = .active →
        (R.table (k + 1)).get? kid = some row := fun hj h hrow => active_stays hno h0 hj hk h hrow
    have hbefore : (R.store k i).active = some kid → ∃ row, (R.table (k + 1)).get? kid = some row ∧
        row.status = .active ∧ (R.store k i).keys.get? kid = some row := fun h => by
      obtain ⟨row, hrow, hactive, hloaded⟩ := ih (by omega) h
      exact ⟨row, hkeep (Nat.le_succ k) hrow hactive, hactive, hloaded⟩
    rcases R.store_step (k := k) (by omega) i with hs | ⟨pid, p, e, hd, hstep⟩
    · rw [hs] at h ⊢
      exact hbefore h
    · have hjust := justified hd
      generalize R.store (k + 1) i = s' at hstep h
      cases hstep with
      | start _ => exact hbefore h
      | settle _ _ => exact hbefore h
      | same _ _ => exact hbefore h
      | retireActive => exact absurd hjust (hno k (by omega) pid p hd.proc i)
      | adopt rec =>
        obtain rfl := Option.some.inj h
        obtain ⟨hactive, hmem | ⟨listed, hmem, hin⟩, -⟩ := hjust
        · obtain ⟨j, hj, q, hd', -⟩ := R.did (by omega) hd.proc hmem
          exact ⟨rec, hkeep (by omega) (inserted_row hd') hactive, hactive, Map.get?_set_self _ _ _⟩
        · obtain ⟨j, hj, q, hd', -⟩ := R.did (by omega) hd.proc hmem
          exact ⟨rec, hkeep (by omega) ((listed_row hd').mp hin) hactive, hactive,
            Map.get?_set_self _ _ _⟩
      | load records active =>
        obtain ⟨_, listed, stale, -, -, hmem, rfl, rfl, hstale⟩ := hjust
        obtain ⟨j, hj, q, hd', -⟩ := R.did (by omega) hd.proc hmem
        -- nothing that was listed is stale, so the records are loaded as they were listed
        rw [not_listedStale h0 hd'] at hstale
        rw [withRetired_nil hstale] at h ⊢
        obtain ⟨r, hr, rfl⟩ := Option.map_eq_some_iff.mp h
        obtain ⟨newest, hnewest, hget⟩ := Option.bind_eq_some_iff.mp hr
        obtain ⟨hin, hactive⟩ := mem_of_newest hnewest
        have hkid := KeyStore.loadedKeys_keyed _ hget
        have hrow := (listed_row hd').mp hin
        have hrow' := (listed_row hd').mp (KeyStore.mem_of_loadedKeys hget)
        rw [hkid, hrow] at hrow'
        obtain rfl := Option.some.inj hrow'
        exact ⟨newest, hkeep (by omega) hrow hactive, hactive, hget⟩

/-! ## Failed boots -/

/-- An initialisation that has settled was settled by the operation that ran it. -/
lemma settled_by {n : ℕ} {r : Except KeyFault Unit} (hk : k ≤ R.len)
    (h : (R.store k i).inits[n]? = some (some r)) :
    ∃ j < k, ∃ pid p, R.Does j pid p ⟨.settle i n r, ()⟩ := by
  induction k with
  | zero =>
    rw [store, R.world_zero, R.isStart.stores] at h
    cases h
  | succ k ih =>
    have hbefore : (R.store k i).inits[n]? = some (some r) →
        ∃ j < k + 1, ∃ pid p, R.Does j pid p ⟨.settle i n r, ()⟩ := fun h => by
      obtain ⟨j, hj, hd⟩ := ih (by omega) h
      exact ⟨j, by omega, hd⟩
    rcases R.store_step (k := k) (by omega) i with hs | ⟨pid, p, e, hd, hstep⟩
    · exact hbefore (hs ▸ h)
    · generalize R.store (k + 1) i = s' at hstep h
      cases hstep with
      | load _ _ => exact hbefore h
      | retireActive => exact hbefore h
      | adopt _ => exact hbefore h
      | same _ _ => exact hbefore h
      | start hnone =>
        rcases Nat.lt_or_ge n (R.store k i).inits.length with hlt | hge
        · exact hbefore (by simpa [KeyStore.start, List.getElem?_append_left hlt] using h)
        · simp only [KeyStore.start, List.getElem?_append_right hge, List.getElem?_singleton] at h
          split_ifs at h
          cases Option.some.inj h
      | settle n' r' =>
        by_cases hn : n' = n
        · subst hn
          obtain ⟨hlt, heq⟩ := List.getElem?_eq_some_iff.mp h
          simp only [KeyStore.settle, List.getElem_set_self, Option.some.injEq] at heq
          exact ⟨k, by omega, pid, p, heq ▸ hd⟩
        · exact hbefore (by simpa [KeyStore.settle, List.getElem?_set_ne hn] using h)

/-- The race is never the reason of a rejection: after an insertion has lost it, the winner is
listed. -/
lemma not_noWinner (hno : R.NothingRotates) (h0 : OneActive (R.table 0)) (hk : k ≤ R.len)
    (hp : R.proc k pid = some p) : ¬NoWinner p.past := by
  rintro ⟨before, rec, recs, ⟨after, hpast⟩, hnone⟩
  have hsplit : p.past = before ++ ⟨.insert rec, .error .uniqueViolation⟩ ::
      (⟨.list, .ok recs⟩ :: after) := by rw [← hpast]; simp
  have hsplit' : p.past = (before ++ [⟨.insert rec, .error .uniqueViolation⟩]) ++
      ⟨.list, .ok recs⟩ :: after := by rw [← hpast]; simp
  obtain ⟨j, hj, q, hd, -, rfl⟩ := R.did_at hk hp hsplit
  obtain ⟨j', hj', q', hd', -, hq'⟩ := R.did_at hk hp hsplit'
  -- the list comes after the insertion, which met an active row
  have hlt : j < j' := by
    obtain ⟨c, -, hnext⟩ := hd.todo
    by_contra hge
    obtain ⟨q₂, hq₂, -, hpre⟩ := R.proc_mono (Nat.le_of_not_lt hge) (Nat.le_of_lt hd.lt) hd'.proc
    obtain rfl := Option.some.inj (hd.proc.symm.trans hq₂)
    have hlen := hpre.length_le
    rw [hq'] at hlen
    simp at hlen
  obtain ⟨x, -, hx⟩ := hd.exec
  have hactive : (R.world j).hasActive = true := by
    have hx : keyExec (.insert rec) x (R.world j) =
        some (.error .uniqueViolation, R.world (j + 1)) := hx
    simp only [keyExec] at hx
    split_ifs at hx with hc
    · exact hc.2
    · generalize x.outcome = out at hx
      cases out <;> cases hx
  obtain ⟨row, hrow, hstatus⟩ := List.any_eq_true.mp hactive
  obtain ⟨kid, hrow⟩ := Map.mem_values_iff.mp hrow
  have hstatus : row.status = .active := by simpa using hstatus
  have hstays := active_stays hno h0 (Nat.le_of_lt hlt) (Nat.le_of_lt hd'.lt) hrow hstatus
  have hkid := table_keyed (Nat.le_of_lt hd'.lt) hstays
  exact hnone row ((listed_row hd').mpr (hkid ▸ hstays)) hstatus

/-- A call that fails for another reason than a race fails by itself. -/
lemma failure_of_fails {e : KeyFault} {ev : KeyEvent} (hd : R.Does k pid p ev) (h : KeyFails e ev) :
    e = .failure := by
  have hcarry : ∀ {α : Type} {w w₁ w' : KeyWorld} {a : α} {out : KeyOutcome},
      w.carry a w₁ out = (.error e, w') → e = .failure := by
    intro α w w₁ w' a out h
    cases out <;> cases h <;> rfl
  obtain ⟨x, -, hx⟩ := hd.exec
  generalize R.world (k + 1) = w' at hx
  cases h with
  | list => exact hcarry (Option.some.inj hx)
  | setStatus kid status t => exact hcarry (Option.some.inj hx)
  | importPrivate rec => exact hcarry (Option.some.inj hx)
  | insert rec hne =>
    have hx : keyExec (.insert rec) x (R.world k) = some (.error e, w') := hx
    simp only [keyExec] at hx
    split_ifs at hx
    · cases hx
      exact absurd rfl hne
    · exact hcarry (Option.some.inj hx)

/-! ## Agreement -/

variable (R) in
/-- A key is the only active row, and the active key of every keystore that was ensured, which
publishes it at all times. -/
structure AgreedOn (k : ℕ) (kid : String) : Prop where
  /-- It is an active row, and there is no other. -/
  row : ∀ kid', (∃ row, (R.table k).get? kid' = some row ∧ row.status = .active) ↔ kid' = kid
  /-- The keystores that were ensured sign with it, and publish it. -/
  ensured : ∀ pid i past kids, R.proc k pid = some ⟨.ensure i, past, .ret kids⟩ →
    (R.store k i).active = some kid ∧ ∀ t, (R.store k i).Publishes kid t

variable (R) in
/-- A call on the table, or the import of a private key, has failed in the initialisation that an
`ensure()` has waited for. -/
def FailedInit (k i : ℕ) (past : List KeyEvent) : Prop :=
  ∃ (n pid : ℕ) (q : Proc keySystem) (ev : KeyEvent), R.proc k pid = some q ∧
    ⟨.ensure i, (n, true)⟩ ∈ q.past ∧ ev ∈ q.past ∧ KeyFails .failure ev ∧
    (q.past = past ∨ ⟨.join i n, .error .failure⟩ ∈ past)

/-- As soon as one `ensure()` has resolved, the keystores that were ensured agree. -/
lemma agreed_of_ensured (hno : R.NothingRotates) (h0 : OneActive (R.table 0)) (hk : k ≤ R.len)
    {past : List KeyEvent} {kids : List String}
    (h : R.proc k pid = some ⟨.ensure i, past, .ret kids⟩) : ∃ kid, R.AgreedOn k kid := by
  obtain ⟨kid, hactive⟩ := ensured_active (Nat.le_refl k) hk h
  obtain ⟨row, hrow, hstatus, -⟩ := active_row hno h0 hk hactive
  have hunique : ∀ kid' row', (R.table k).get? kid' = some row' → row'.status = .active →
      kid' = kid :=
    fun kid' row' hrow' hstatus' => one_active h0 hk kid' kid row' row hrow' hrow hstatus' hstatus
  refine ⟨kid, fun kid' => ⟨fun ⟨row', h, h'⟩ => hunique kid' row' h h', ?_⟩, ?_⟩
  · rintro rfl
    exact ⟨row, hrow, hstatus⟩
  · intro pid' i' past' kids' h'
    obtain ⟨kid', hactive'⟩ := ensured_active (Nat.le_refl k) hk h'
    obtain ⟨row', hrow', hstatus', hloaded⟩ := active_row hno h0 hk hactive'
    obtain rfl := hunique kid' row' hrow' hstatus'
    exact ⟨hactive', KeyStore.publishes_of_active hloaded hstatus'⟩

/-- An `ensure()` is rejected only after a call has failed in the initialisation that it has waited
for. -/
lemma rejected_failedInit (hno : R.NothingRotates) (h0 : OneActive (R.table 0)) (hk : k ≤ R.len)
    {past : List KeyEvent} {e : KeyFault}
    (h : R.proc k pid = some ⟨.ensure i, past, .throw e⟩) :
    e = .failure ∧ R.FailedInit k i past := by
  obtain ⟨n, hmem⟩ := R.failed keyHandler_spec hk h
  -- the initialisation was rejected by the operation that ran it
  have hran : ∃ j < k, ∃ pid' q, R.Does j pid' q ⟨.settle i n (.error e), ()⟩ ∧
      (pid' = pid ∨ ⟨.join i n, .error e⟩ ∈ past) := by
    rcases hmem with hmem | hmem
    · obtain ⟨j, hj, q, hd, -⟩ := R.did hk h hmem
      exact ⟨j, hj, pid, q, hd, .inl rfl⟩
    · obtain ⟨j, hj, q, hd, -⟩ := R.did hk h hmem
      obtain ⟨j', hj', pid', q', hset⟩ := settled_by (Nat.le_of_lt hd.lt) (joined hd)
      exact ⟨j', by omega, pid', q', hset, .inr hmem⟩
  obtain ⟨j, hj, pid', q, hd, hwaits⟩ := hran
  have hjust := justified hd
  rcases hjust.2.2.1 e rfl with ⟨ev, hev, hfails⟩ | ⟨-, hlost⟩
  · obtain ⟨_, -, q₀, hd₀, -⟩ := R.did (Nat.le_of_lt hd.lt) hd.proc hev
    obtain rfl := failure_of_fails hd₀ hfails
    obtain ⟨q', hq', -, hpre⟩ := R.proc_mono (Nat.le_of_lt hj) hk hd.proc
    refine ⟨rfl, n, pid', q', ev, hq', hpre.subset hjust.1.1, hpre.subset hev, hfails, ?_⟩
    refine hwaits.imp (fun hsame => ?_) id
    subst hsame
    obtain rfl := Option.some.inj (h.symm.trans hq')
    rfl
  · exact absurd hlost (not_noWinner hno h0 (Nat.le_of_lt hd.lt) hd.proc)

/-- **First boots agree.** Any number of keystores are ensured, again and again, in any
interleaving, on a table without an active row, while calls on the table and imports of keys fail in
any way. As soon as one `ensure()` has resolved there is exactly one active row; it is the active
key of every keystore that was ensured, and is published by it. An `ensure()` is never rejected
because of the race, but only after a call on the table, or the import of a private key, has failed.

**Proof sketch.** The first active row stays the only one (`active_stays`), and active keys were
listed or inserted as active (`active_row`). A rejection comes from an initialisation, whose
insertion has lost the race only if there was an active row, which the next list then shows
(`not_noWinner`). -/
theorem boots_agree (hno : R.NothingRotates)
    (h0 : ∀ kid row, (R.table 0).get? kid = some row → row.status ≠ .active) (hk : k ≤ R.len) :
    (∀ pid i past kids, R.proc k pid = some ⟨.ensure i, past, .ret kids⟩ →
      ∃ kid, R.AgreedOn k kid) ∧
    ∀ pid i past e, R.proc k pid = some ⟨.ensure i, past, .throw e⟩ →
      e = .failure ∧ R.FailedInit k i past :=
  ⟨fun _ _ _ _ h => agreed_of_ensured hno (oneActive_of_none h0) hk h,
    fun _ _ _ _ h => rejected_failedInit hno (oneActive_of_none h0) hk h⟩

variable (R) in
/-- **The race for the first key has one winner**: when a first `ensure()` has resolved, the
keystores agree on a key, and on the same one ever after; and no `ensure()` is rejected before a
call of its initialisation has failed. -/
structure OneWinner : Prop where
  /-- The key of the first one that was ensured is the key of all, and stays it. -/
  agreed : ∀ k ≤ R.len, ∀ pid i past kids, R.proc k pid = some ⟨.ensure i, past, .ret kids⟩ →
    ∃ kid, ∀ m, k ≤ m → m ≤ R.len → R.AgreedOn m kid
  /-- No `ensure()` is rejected because of the race. -/
  rejected : ∀ k ≤ R.len, ∀ pid i past e, R.proc k pid = some ⟨.ensure i, past, .throw e⟩ →
    e = .failure ∧ R.FailedInit k i past

/-- **Concurrent first boots agree on one signing key**, for good.

**Proof sketch.** At every time after the first `ensure()` has resolved, the keystores agree on some
key (`agreed_of_ensured`). It is the same key at all these times, since the row that is active when
the first one resolves stays active (`active_stays`) and they agree on the active row. -/
theorem first_boots_oneWinner (R : KeyRun) (hno : R.NothingRotates)
    (h0 : ∀ kid row, (R.table 0).get? kid = some row → row.status ≠ .active) : R.OneWinner := by
  have hone := oneActive_of_none h0
  refine ⟨fun k hk pid i past kids h => ?_,
    fun k hk pid i past e h => rejected_failedInit hno hone hk h⟩
  obtain ⟨kid, hagreed⟩ := agreed_of_ensured hno hone hk h
  obtain ⟨row, hrow, hstatus⟩ := (hagreed.row kid).mpr rfl
  refine ⟨kid, fun m hkm hm => ?_⟩
  have hensured := R.proc_stays hkm hm h fun _ _ hcall => by cases hcall
  obtain ⟨kid', hagreed'⟩ := agreed_of_ensured hno hone hm hensured
  obtain rfl := (hagreed'.row kid).mp ⟨row, active_stays hno hone hkm hm hrow hstatus, hstatus⟩
  exact hagreed'

end KeyRun

namespace Sample

/-- Two keystores list the empty table and generate a key each; the second insertion is too late. A
third keystore cannot reach the table. -/
def racingBoots : List (Act keySystem) :=
  [.arrive (.ensure 0), .arrive (.ensure 1), .arrive (.ensure 2), keyStep 0 "", keyStep 1 "",
    keyStep 2 "", keyStep 0 "", keyStep 1 "", .run 2 { outcome := .refused }, keyStep 2 "",
    keyStep 0 "",
    keyStep 1 "", keyStep 0 "first", keyStep 1 "second", keyStep 0 "", keyStep 1 "", keyStep 1 "",
    keyStep 1 "", keyStep 0 "", keyStep 1 "", keyStep 0 "", keyStep 1 ""]

/-- Nothing rotates, and the first two keystores are ensured in the end. -/
def racedBoots (t : List (TraceStep keySystem) × Conf keySystem) : Bool :=
  (t.1.map (·.before) ++ [t.2]).all (fun c => c.procs.all fun p => match p.req with
    | .ensure _ => true
    | _ => false) &&
  t.2.answers 0 (fun req _ _ => match req with
    | .ensure i => i = 0
    | _ => false) &&
  t.2.answers 1 (fun req _ _ => match req with
    | .ensure i => i = 1
    | _ => false)

lemma racing_trace : (keySystem.trace ⟨emptyTable, []⟩ racingBoots).any racedBoots = true := by
  decide +kernel

/-- The run of the race. -/
def racingRun : KeyRun := .ofTrace emptyTable racingBoots emptyTable_initial racedBoots racing_trace

lemma racingRun_nothingRotates : racingRun.NothingRotates := by
  obtain ⟨steps, last, ht, h⟩ : ∃ steps last, racingRun.HasTrace steps last ∧
    racedBoots (steps, last) = true := Run.hasTrace_ofTrace racing_trace
  simp only [racedBoots, Bool.and_eq_true, List.all_eq_true] at h
  intro k hk pid p hp i
  have hconf := ht.forall_conf (Q := fun c => ∀ p ∈ c.procs, ¬p.req.Rotates i) (fun s hs p hp => ?_)
    (fun p hp => ?_) hk
  · exact hconf p (List.mem_of_getElem? hp)
  · have htest := h.1.1 s.before (List.mem_append_left _ (List.mem_map_of_mem hs)) p hp
    split at htest
    · rename_i hreq
      rw [hreq]
      exact id
    · cases htest
  · have htest := h.1.1 last (List.mem_append_right _ List.mem_cons_self) p hp
    split at htest
    · rename_i hreq
      rw [hreq]
      exact id
    · cases htest

/-- The table of the race is empty at the start. -/
lemma racingRun_free (kid : String) (row : KeyRow)
    (hrow : (racingRun.table 0).get? kid = some row) : row.status ≠ .active := by
  cases hrow

/-- The loser of the race is ensured in the end. -/
lemma racingRun_ensured :
    ∃ past kids, racingRun.proc racingRun.len 1 = some ⟨.ensure 1, past, .ret kids⟩ := by
  obtain ⟨steps, last, ht, h⟩ : ∃ steps last, racingRun.HasTrace steps last ∧
    racedBoots (steps, last) = true := Run.hasTrace_ofTrace racing_trace
  simp only [racedBoots, Bool.and_eq_true] at h
  obtain ⟨req, past, kids, hp, htest⟩ := ht.answers h.2
  cases req with
  | ensure i =>
    obtain rfl : i = 1 := of_decide_eq_true htest
    exact ⟨past, kids, hp⟩
  | rotate i => cases htest
  | signJwt i => cases htest
  | rotateKeys i => cases htest

/-- The loser of the race has adopted the key of the winner. -/
theorem racing_boots_agree : ∃ kid, racingRun.AgreedOn racingRun.len kid := by
  obtain ⟨past, kids, h⟩ := racingRun_ensured
  exact (KeyRun.boots_agree racingRun_nothingRotates racingRun_free
    (Nat.le_refl racingRun.len)).1 1 1 past kids h

/-- The race has one winner, whose key the loser has adopted. -/
theorem racing_oneWinner :
    (∃ past kids, racingRun.proc racingRun.len 1 = some ⟨.ensure 1, past, .ret kids⟩) ∧
      racingRun.OneWinner :=
  ⟨racingRun_ensured, racingRun.first_boots_oneWinner racingRun_nothingRotates racingRun_free⟩

end Sample

end Fapi2As
