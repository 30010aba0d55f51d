import Fapi2As.Async.Trace
import Fapi2As.Keys.Runs

set_option relaxedAutoImplicit false
set_option autoImplicit false

/-!
# The active key

The table admits the insertion of an active row only while there is none. A keystore that was
ensured has an active key from then on, which is persisted.

## Main definitions

* `Fapi2As.OneActive` — at most one active row.

## Main results

* `Fapi2As.KeyRun.active_rows` — no run makes a second row active.
* `Fapi2As.KeyRun.signing_never_fails` — a keystore that was ensured always signs, with a persisted
  key.
-/

namespace Fapi2As

open Js Async

/-- At most one row is active. -/
def OneActive (m : Map String KeyRow) : Prop :=
  ∀ kid kid' row row', m.get? kid = some row → m.get? kid' = some row' → row.status = .active →
    row'.status = .active → kid = kid'

variable {R : KeyRun} {k m pid i : ℕ} {p : Proc keySystem} {kid : String} {row : KeyRow}

/-- An active key is published at all times. -/
lemma KeyStore.publishes_of_active {s : KeyStore} {r : KeyRow} (h : s.keys.get? kid = some r)
    (hr : r.status = .active) (t : ℕ) : s.Publishes kid t :=
  (s.publishes_iff h).mpr (by simp [SigningKeyRecord.isPublished, hr])

/-- A key that is inserted while no row is active is the only active one. -/
lemma oneActive_set {m : Map String KeyRow} {rec : KeyRow}
    (hfree : ∀ kid row, m.get? kid = some row → row.status ≠ .active) :
    OneActive (m.set rec.kid rec) := by
  intro kid kid' row row' h h' hrow hrow'
  rw [Map.get?_set] at h h'
  split_ifs at h h' with hk hk' hk'
  · exact hk.trans hk'.symm
  · exact absurd hrow' (hfree kid' row' h')
  · exact absurd hrow (hfree kid row h)
  · exact absurd hrow (hfree kid row h)

/-- A row that is active after a retirement was active before. -/
lemma active_of_retire {m : Map String KeyRow} {kid₀ : String} {t : Option ℕ}
    (h : (m.modify kid₀ fun row =>
      { row with status := .retired, retiredAt := t }).get? kid = some row)
    (hrow : row.status = .active) : ∃ row, m.get? kid = some row ∧ row.status = .active := by
  rw [Map.get?_modify] at h
  obtain ⟨row', hrow', rfl⟩ := Option.map_eq_some_iff.mp h
  by_cases hkid : kid = kid₀
  · simp [hkid] at hrow
  · exact ⟨row', hrow', by simpa [hkid] using hrow⟩

lemma oneActive_retire {m : Map String KeyRow} {kid₀ : String} {t : Option ℕ} (h : OneActive m) :
    OneActive (m.modify kid₀ fun row => { row with status := .retired, retiredAt := t }) := by
  intro kid kid' row row' hget hget' hrow hrow'
  obtain ⟨row₁, h₁, hrow₁⟩ := active_of_retire hget hrow
  obtain ⟨row₂, h₂, hrow₂⟩ := active_of_retire hget' hrow'
  exact h kid kid' row₁ row₂ h₁ h₂ hrow₁ hrow₂

namespace KeyRun

/-- **At most one row is ever active**, when at most one is at the start. -/
lemma one_active (h0 : OneActive (R.table 0)) (hk : k ≤ R.len) : OneActive (R.table k) := by
  induction k with
  | zero => exact h0
  | succ k ih =>
    have hbefore := ih (by omega)
    rcases R.table_step (k := k) (by omega) with hs | ⟨pid, p, e, hd, hstep⟩
    · rwa [hs]
    · have hjust := justified hd
      generalize R.table (k + 1) = m' at hstep
      cases hstep with
      | same _ _ => exact hbefore
      | insert rec r hfree =>
        obtain ⟨_, key, -, rfl⟩ := hjust
        exact oneActive_set (hfree rfl)
      | setStatus kid₀ status t r =>
        obtain ⟨rfl, -⟩ := hjust
        exact oneActive_retire hbefore

/-- **No run makes a second row active**: there is at most one active row, or all active rows were
active at the start, as a table without the unique index may have them. -/
theorem active_rows (hk : k ≤ R.len) : OneActive (R.table k) ∨
    ∀ kid row, (R.table k).get? kid = some row → row.status = .active →
      ∃ row, (R.table 0).get? kid = some row ∧ row.status = .active := by
  induction k with
  | zero => exact .inr fun kid row h hrow => ⟨row, h, hrow⟩
  | succ k ih =>
    have hbefore := ih (by omega)
    rcases R.table_step (k := k) (by omega) with hs | ⟨pid, p, e, hd, hstep⟩
    · rwa [hs]
    · have hjust := justified hd
      generalize R.table (k + 1) = m' at hstep
      cases hstep with
      | same _ _ => exact hbefore
      | insert rec r hfree =>
        obtain ⟨_, key, -, rfl⟩ := hjust
        exact .inl (oneActive_set (hfree rfl))
      | setStatus kid₀ status t r =>
        obtain ⟨rfl, -⟩ := hjust
        exact hbefore.imp oneActive_retire fun hold kid row h hrow => by
          obtain ⟨row', h', hrow'⟩ := active_of_retire h hrow
          exact hold kid row' h' hrow'

/-- A list of the keys has no stale one. -/
lemma not_listedStale (h0 : OneActive (R.table 0)) {listed : List KeyRow}
    (h : R.Does k pid p ⟨.list, .ok listed⟩) : (activesOf listed).dropLast = [] := by
  -- two active rows would be the same
  rcases List.eq_nil_or_concat (activesOf listed) with hnil | ⟨pre, last, hlast⟩
  · rw [hnil]
    rfl
  · rw [List.concat_eq_append] at hlast
    rw [hlast, List.dropLast_concat]
    refine List.eq_nil_iff_forall_not_mem.mpr fun r hr => ?_
    obtain ⟨hrow₁, hactive₁⟩ := actives_row h (hlast ▸ List.mem_append_left _ hr)
    obtain ⟨hrow₂, hactive₂⟩ := actives_row h (r := last) (by rw [hlast]; simp)
    have hkid :=
      one_active h0 (Nat.le_of_lt h.lt) r.kid last.kid r last hrow₁ hrow₂ hactive₁ hactive₂
    rw [hkid, hrow₂] at hrow₁
    obtain rfl := Option.some.inj hrow₁
    have hnodup := nodup_actives h
    rw [hlast, List.nodup_append] at hnodup
    exact hnodup.2.2 last hr last List.mem_cons_self rfl

/-- **A keystore that was ensured always signs**, whatever else happens and fails, and it signs with
a key that is persisted: it is found by every keystore that lists the table from then on.

**Proof sketch.** Its initialisation has set an active key, and no other one is run (`initialised`);
a rotation keeps the old key until a new one is adopted. Every loaded key was inserted or listed
before (`loaded_row`), and no row is deleted. -/
theorem signing_never_fails {past : List KeyEvent} {kids : List String}
    (h : R.proc k pid = some ⟨.ensure i, past, .ret kids⟩) {m pid' : ℕ} {q : Proc keySystem}
    {r : Except KeyFault String} (hkm : k ≤ m) (hsign : R.Does m pid' q ⟨.mustActive i, r⟩) :
    ∃ kid, r = .ok kid ∧ ∀ j pid'' q' listed, m ≤ j → R.Does j pid'' q' ⟨.list, .ok listed⟩ →
      ∃ row ∈ listed, row.kid = kid := by
  have hm := Nat.le_of_lt hsign.lt
  obtain ⟨kid, hactive⟩ := ensured_active hkm hm h
  obtain ⟨x, -, hx⟩ := hsign.exec
  have hx : keyExec (.mustActive i) x (R.world m) = some (r, R.world (m + 1)) := hx
  have hactive' : ((R.world m).stores i).active = some kid := hactive
  simp only [keyExec, hactive', Option.some.injEq, Prod.mk.injEq] at hx
  refine ⟨kid, hx.1.symm, fun j pid'' q' listed hmj hlist => ?_⟩
  obtain ⟨r₀, hr₀⟩ := (R.store m i).active_loaded kid hactive
  obtain ⟨row, hrow⟩ := row_stays hmj (Nat.le_of_lt hlist.lt) (loaded_row hm hr₀)
  have hkid := table_keyed (Nat.le_of_lt hlist.lt) hrow
  exact ⟨row, (listed_row hlist).mpr (hkid ▸ hrow), hkid⟩

end KeyRun

namespace Sample

/-- A step of an operation. -/
def keyStep (pid : ℕ) (kid : String) : Act keySystem := .run pid { kid := kid }

/-- A keystore boots on an empty table and signs; another one lists the table then. -/
def bootedSteps : List (Act keySystem) :=
  [.arrive (.ensure 0), keyStep 0 "", keyStep 0 "", keyStep 0 "", keyStep 0 "first", keyStep 0 "",
    keyStep 0 "", keyStep 0 "", .arrive (.signJwt 0), keyStep 1 "", .arrive (.ensure 1),
    keyStep 2 "", keyStep 2 ""]

/-- The keystore is ensured before it signs. -/
def booted (t : List (TraceStep keySystem) × Conf keySystem) : Bool :=
  t.1[9]?.any (fun s => s.before.answers 0 fun req _ _ => match req with
    | .ensure i => i = 0
    | _ => false) &&
  (t.1.take 9).all (fun s => s.made.all fun (pid, _, _) => pid ≠ 1) &&
  t.2.answers 1 fun _ past _ => past.any fun ev => match ev with
    | ⟨.mustActive 0, .ok _⟩ => true
    | _ => false

/-- An empty table, and keystores that have not been used. -/
def emptyTable : KeyWorld := {}

lemma booted_trace : (keySystem.trace ⟨emptyTable, []⟩ bootedSteps).any booted = true := by
  decide +kernel

lemma emptyTable_initial : KeyWorld.Initial emptyTable :=
  ⟨rfl, fun _ _ h => (by cases h), fun _ _ h => (by cases h)⟩

/-- The run of the boot. -/
def bootedRun : KeyRun := .ofTrace emptyTable bootedSteps emptyTable_initial booted booted_trace

/-- After the boot one row is active. -/
theorem booted_active_rows : OneActive (bootedRun.table bootedRun.len) := by
  rcases KeyRun.active_rows (Nat.le_refl bootedRun.len) with hone | hold
  · exact hone
  · intro kid kid' row row' h _ hrow
    obtain ⟨_, h0, -⟩ := hold kid row h hrow
    cases h0

/-- The keystore signs with a key that is listed from then on. -/
theorem booted_signs : ∃ m p kid, bootedRun.Does m 1 p ⟨.mustActive 0, .ok kid⟩ ∧
    ∀ j pid p listed, m ≤ j → bootedRun.Does j pid p ⟨.list, .ok listed⟩ →
      ∃ row ∈ listed, row.kid = kid := by
  obtain ⟨steps, last, ht, h⟩ : ∃ steps last, bootedRun.HasTrace steps last ∧
    booted (steps, last) = true := Run.hasTrace_ofTrace booted_trace
  simp only [booted, Bool.and_eq_true, List.all_eq_true] at h
  obtain ⟨s, hs, hanswers⟩ := (Option.any_eq_true _ _).mp h.1.1
  unfold Conf.answers at hanswers
  split at hanswers
  · rename_i req past kids hanswer
    have hp := ht.answered (by decide) hs hanswer
    dsimp only at hanswers
    split at hanswers
    · rename_i i
      obtain ⟨req', past', kids', hp', htest⟩ := ht.answers h.2
      obtain ⟨ev, hev, hsigns⟩ := List.any_eq_true.mp htest
      split at hsigns
      · obtain ⟨m, -, p, hd, -⟩ := bootedRun.did le_rfl hp' hev
        have hm : 9 ≤ m := by
          by_contra hm
          obtain ⟨s', hs', hmade⟩ := hd.traced ht
          have hother := h.1.2 s' (List.mem_iff_getElem?.mpr
            ⟨m, by rw [List.getElem?_take_of_lt (by omega), hs']⟩)
          rw [hmade] at hother
          simp at hother
        obtain rfl := of_decide_eq_true hanswers
        obtain ⟨kid, hkid, hlisted⟩ := KeyRun.signing_never_fails hp hm hd
        exact ⟨m, p, kid, hkid ▸ hd, hlisted⟩
      · cases hsigns
    · cases hanswers
  · cases hanswers

end Sample

end Fapi2As
