import Fapi2As.Properties.KeysInUse

set_option relaxedAutoImplicit false
set_option autoImplicit false

/-!
# Rotations that are finished in time

A keystore publishes the key that it would sign with, and whatever it has signed with until the
signatures expire, as long as its rotations are finished in time. A rotation that fails after it has
retired the key in memory leaves the key in use and on its way out of the published set: a day later
the keystore signs with a key that nobody can look up.

## Main definitions

* `Fapi2As.KeyRun.RotatesInTime` — the rotations of a keystore are finished in time.
* `Fapi2As.KeyRun.InUsePublished` — a keystore publishes the keys that are in use.

## Main results

* `Fapi2As.KeyRun.inUsePublished_of_inTime` — it does, when its rotations are finished in time.
-/

namespace Fapi2As

open Js Async

namespace KeyRun

variable (R : KeyRun)

/-- **The rotations of a keystore are finished in time**, for the signatures that it makes: at no
time has one been unfinished for the retention, and when the keystore signs, the lifetime fits into
what is left of the retention. No initialisation swaps an active key out. -/
structure RotatesInTime (i lifetime : ℕ) : Prop where
  loads : R.LoadsInactive i
  /-- No rotation is left unfinished for the retention. -/
  finished : ∀ k ≤ R.len, ∀ t, R.Unfinished i t k → R.clock k < t + retiredKeyRetentionMs
  /-- What is signed during a rotation expires within the retention. -/
  signing : ∀ k pid p kid, R.Does k pid p ⟨.mustActive i, .ok kid⟩ → ∀ t, R.Unfinished i t k →
    R.clock k + lifetime ≤ t + retiredKeyRetentionMs

/-- **A keystore publishes the keys that are in use.** -/
structure InUsePublished (i lifetime : ℕ) : Prop where
  /-- The key that it would sign with is published. -/
  active : ∀ k ≤ R.len, ∀ kid, (R.store k i).active = some kid →
    (R.store k i).Publishes kid (R.clock k)
  /-- A key that it has signed with is published until the signature expires. -/
  signed : ∀ k pid p kid, R.Does k pid p ⟨.mustActive i, .ok kid⟩ → ∀ m, k ≤ m → m ≤ R.len →
    ∀ t < R.clock k + lifetime, (R.store m i).Publishes kid t

/-- **The keys in use are published**, when rotations are finished in time.

**Proof sketch.** The active key is retired by an unfinished rotation only, so it is kept until now
(`active_kept`) and, when it signs, until the signature expires (`signed_kept`). -/
theorem inUsePublished_of_inTime (R : KeyRun) (hforward : R.ClockForward) {i lifetime : ℕ}
    (hlife : lifetime ≤ retiredKeyRetentionMs) (h : R.RotatesInTime i lifetime) :
    R.InUsePublished i lifetime := by
  refine ⟨fun k hk kid hactive => ?_, fun k pid p kid hd m hkm hm t ht => ?_⟩
  · obtain ⟨r, hr, hkept⟩ := active_kept hk hactive fun t hun => h.finished k hk t hun
    exact ((R.store k i).publishes_iff hr).mpr (hkept.isPublished (Nat.lt_succ_self _))
  · obtain ⟨r, hr, hkept⟩ :=
      signed_kept hforward h.loads hlife hd (h.signing k pid p kid hd) hkm hm
    exact ((R.store m i).publishes_iff hr).mpr (hkept.isPublished ht)

end KeyRun

namespace Sample

/-- The rotations of the first keystore are finished in time. -/
theorem rotating_inUsePublished : rotatingRun.InUsePublished 0 300000 := by
  refine rotatingRun.inUsePublished_of_inTime rotatingRun_clock.1 (by decide)
    ⟨rotatingRun_ensured.loadsInactive, fun k hk t _ => ?_, fun k pid p kid hd t _ => ?_⟩
  · have hclock := rotatingRun_clock_le hk
    rw [retiredKeyRetentionMs]
    omega
  · have hclock := rotatingRun_clock_le (Nat.le_of_lt hd.lt)
    rw [retiredKeyRetentionMs]
    omega

/-! ## A rotation that fails -/

/-- A keystore generates its first key. Its rotation is begun, and fails at the table; a day later
the keystore signs. -/
def failedRotation : List (Act keySystem) :=
  [.arrive (.ensure 0), keyStep 0 "", keyStep 0 "", keyStep 0 "", keyStep 0 "first", keyStep 0 "",
    keyStep 0 "", keyStep 0 "", .arrive (.rotate 0), keyStep 1 "",
    .run 1 { outcome := .refused }, .env ⟨retiredKeyRetentionMs⟩, .arrive (.signJwt 0),
    keyStep 2 ""]

/-- The active key is no longer published, and the keystore has signed with it. -/
def unpublished (t : List (TraceStep keySystem) × Conf keySystem) : Bool :=
  ((t.1.map (·.before) ++ [t.2]).map (·.world.clock)).Pairwise (· ≤ ·) &&
  (t.2.world.stores 0).active = some "first" &&
  ((t.2.world.stores 0).keys.get? "first").any (fun r => !r.isPublished t.2.world.clock) &&
  t.2.answers 2 (fun _ _ kids => kids = ["first"])

lemma failedRotation_trace :
    (keySystem.trace ⟨emptyTable, []⟩ failedRotation).any unpublished = true := by
  decide +kernel

/-- The run of the rotation that fails. -/
def failedRotationRun : KeyRun :=
  .ofTrace emptyTable failedRotation emptyTable_initial unpublished failedRotation_trace

/-- **A failed rotation takes the active key out of the published set**, a day later. -/
theorem failedRotation_unpublished : failedRotationRun.ClockForward ∧
    ¬failedRotationRun.InUsePublished 0 300000 := by
  obtain ⟨steps, last, ht, h⟩ : ∃ steps last, failedRotationRun.HasTrace steps last ∧
    unpublished (steps, last) = true := Run.hasTrace_ofTrace failedRotation_trace
  simp only [unpublished, Bool.and_eq_true, decide_eq_true_eq] at h
  obtain ⟨⟨⟨hclock, hactive⟩, hout⟩, -⟩ := h
  refine ⟨fun k hk => ht.consecutive (List.pairwise_map.mp hclock) hk, fun huse => ?_⟩
  obtain ⟨r, hr, hout⟩ := (Option.any_eq_true _ _).mp hout
  have hpub := huse.active failedRotationRun.len le_rfl "first"
    (by rw [KeyRun.store, Run.world, ht.last]; exact hactive)
  have hloaded : (failedRotationRun.store failedRotationRun.len 0).keys.get? "first" = some r := by
    rw [KeyRun.store, Run.world, ht.last]
    exact hr
  rw [KeyStore.publishes_iff _ hloaded, KeyRun.clock, Run.world, ht.last] at hpub
  simp [hpub] at hout

end Sample

end Fapi2As
