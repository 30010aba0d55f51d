import Fapi2As.Properties.Lineage

set_option relaxedAutoImplicit false
set_option autoImplicit false

/-!
# Records are kept

The tables of pushed requests, grants, codes and tokens are a record of what was authorized. Rows
are added to them under new keys, and a row changes once at most: when it is consumed or revoked.

## Main definitions

* `Fapi2As.Stamped` — a row is as it was, or has got its stamp.
* `Fapi2As.Ages` — a table keeps its rows, and a row changes by a relation only.
* `Fapi2As.RecordsKept` — the tables of the records age.

## Main results

* `Fapi2As.ServerRun.records_kept` — the tables age in every run.
-/

namespace Fapi2As

open Js Async

/-! ## Rows that get one stamp -/

section Stamps

variable {κ ρ : Type} {stamp : ρ → Option ℕ} {set : ρ → ℕ → ρ} {r r' r'' : ρ}

/-- **A row is as it was, or has got its stamp**, which it had not before. -/
def Stamped (stamp : ρ → Option ℕ) (set : ρ → ℕ → ρ) (r r' : ρ) : Prop :=
  r' = r ∨ stamp r = none ∧ ∃ t, r' = set r t

/-- A stamp is not replaced. -/
lemma Stamped.trans (hset : ∀ r t, stamp (set r t) ≠ none) (h : Stamped stamp set r r')
    (h' : Stamped stamp set r' r'') : Stamped stamp set r r'' := by
  rcases h with rfl | ⟨hnone, t, rfl⟩
  · exact h'
  · rcases h' with rfl | ⟨hfree, -⟩
    · exact .inr ⟨hnone, t, rfl⟩
    · exact absurd hfree (hset _ _)

variable [DecidableEq κ] {older : ρ → ρ → Prop} {m m' m'' : Map κ ρ}

/-- **A table ages**: its rows are kept, and they change by a relation only. -/
def Ages (older : ρ → ρ → Prop) (m m' : Map κ ρ) : Prop :=
  ∀ k row, m.get? k = some row → ∃ row', m'.get? k = some row' ∧ older row row'

lemma Ages.refl (hrefl : ∀ r, older r r) (m : Map κ ρ) : Ages older m m :=
  fun _ row h => ⟨row, h, hrefl row⟩

lemma Ages.trans (htrans : ∀ {r r' r''}, older r r' → older r' r'' → older r r'')
    (h : Ages older m m') (h' : Ages older m' m'') : Ages older m m'' := by
  intro k row hrow
  obtain ⟨row', hrow', ho⟩ := h k row hrow
  obtain ⟨row'', hrow'', ho'⟩ := h' k row' hrow'
  exact ⟨row'', hrow'', htrans ho ho'⟩

end Stamps

/-! ## The records -/

/-- A pushed request is as it was, or has been consumed. -/
abbrev ParRow.Older : ParRow → ParRow → Prop :=
  Stamped ParRow.consumedAt fun row t => { row with consumedAt := some t }

/-- A code is as it was, or has been redeemed. -/
abbrev CodeRow.Older : CodeRow → CodeRow → Prop :=
  Stamped CodeRow.consumedAt fun row t => { row with consumedAt := some t }

/-- A grant is as it was, or has been revoked. -/
abbrev GrantRecord.Older : GrantRecord → GrantRecord → Prop :=
  Stamped GrantRecord.revokedAt fun r t => { r with revokedAt := some t }

/-- An access token is as it was, or has been revoked. -/
abbrev AccessTokenRecord.Older : AccessTokenRecord → AccessTokenRecord → Prop :=
  Stamped AccessTokenRecord.revokedAt fun r t => { r with revokedAt := some t }

/-- A refresh token is as it was, or has been revoked. -/
abbrev RefreshTokenRecord.Older : RefreshTokenRecord → RefreshTokenRecord → Prop :=
  Stamped RefreshTokenRecord.revokedAt fun r t => { r with revokedAt := some t }

lemma GrantRecord.older_revoke (r : GrantRecord) (t : ℕ) : r.Older (r.revoke t) := by
  unfold revoke
  split_ifs with h
  · exact .inr ⟨h, t, rfl⟩
  · exact .inl rfl

lemma AccessTokenRecord.older_revoke (r : AccessTokenRecord) (t : ℕ) : r.Older (r.revoke t) := by
  unfold revoke
  split_ifs with h
  · exact .inr ⟨h, t, rfl⟩
  · exact .inl rfl

lemma RefreshTokenRecord.older_revoke (r : RefreshTokenRecord) (t : ℕ) : r.Older (r.revoke t) := by
  unfold revoke
  split_ifs with h
  · exact .inr ⟨h, t, rfl⟩
  · exact .inl rfl

/-- **The records of a store are kept in another**: no row is lost, and a row differs at most by the
instant of its consumption or of its revocation, which was not set before. -/
structure RecordsKept (s s' : Store) : Prop where
  par : Ages ParRow.Older s.par s'.par
  grants : Ages GrantRecord.Older s.grants s'.grants
  codes : Ages CodeRow.Older s.codes s'.codes
  accessTokens : Ages AccessTokenRecord.Older s.accessTokens s'.accessTokens
  refreshTokens : Ages RefreshTokenRecord.Older s.refreshTokens s'.refreshTokens

lemma RecordsKept.refl (s : Store) : RecordsKept s s :=
  ⟨.refl (fun _ => .inl rfl) _, .refl (fun _ => .inl rfl) _, .refl (fun _ => .inl rfl) _,
    .refl (fun _ => .inl rfl) _, .refl (fun _ => .inl rfl) _⟩

lemma RecordsKept.trans {s s' s'' : Store} (h : RecordsKept s s') (h' : RecordsKept s' s'') :
    RecordsKept s s'' where
  par := h.par.trans (.trans fun _ _ => Option.some_ne_none _) h'.par
  grants := h.grants.trans (.trans fun _ _ => Option.some_ne_none _) h'.grants
  codes := h.codes.trans (.trans fun _ _ => Option.some_ne_none _) h'.codes
  accessTokens := h.accessTokens.trans (.trans fun _ _ => Option.some_ne_none _) h'.accessTokens
  refreshTokens := h.refreshTokens.trans (.trans fun _ _ => Option.some_ne_none _) h'.refreshTokens

namespace ServerRun

variable {P : Platform} {config : AppConfig} {backend : Backend} {R : ServerRun P config backend}
  {i : ℕ}

/-! ## The steps of the tables

A call that inserts a row under a key that is in the table would be the second one for the key. -/

lemma par_ages (hi : i < R.len) : Ages ParRow.Older (R.store i).par (R.store (i + 1)).par := by
  intro uri row hrow
  rcases R.par_step hi uri with hs | ⟨rec, hc, hu, -⟩ | ⟨t, row', -, hrow', hfree, hs⟩
  · exact ⟨row, hs.trans hrow, .inl rfl⟩
  · obtain ⟨hu', j, hj, hc'⟩ := R.par_origin hi.le hrow
    exact absurd (par_insert_once hc hc' (hu.trans hu'.symm)) (by omega)
  · obtain rfl := Option.some.inj (hrow.symm.trans hrow')
    exact ⟨_, hs, .inr ⟨hfree, t, rfl⟩⟩

lemma grants_ages (hi : i < R.len) :
    Ages GrantRecord.Older (R.store i).grants (R.store (i + 1)).grants := by
  intro g rec hrec
  rcases R.grants_step hi g with hs | ⟨rec', hc, hu, -⟩ | ⟨t, -, hs⟩
  · exact ⟨rec, hs.trans hrec, .inl rfl⟩
  · obtain ⟨hu', j, hj, hc'⟩ := R.grants_origin hi.le hrec
    exact absurd (grants_insert_once hc hc' (hu.trans hu'.symm)) (by omega)
  · rw [hrec] at hs
    exact ⟨_, hs, rec.older_revoke t⟩

lemma codes_ages (hi : i < R.len) :
    Ages CodeRow.Older (R.store i).codes (R.store (i + 1)).codes := by
  intro codeHash row hrow
  rcases R.codes_step hi codeHash with hs | ⟨rec, hc, hu, -⟩ | ⟨t, row', -, hrow', hfree, hs⟩
  · exact ⟨row, hs.trans hrow, .inl rfl⟩
  · obtain ⟨hu', j, hj, hc'⟩ := R.codes_origin hi.le hrow
    exact absurd (codes_insert_once hc hc' (hu.trans hu'.symm)) (by omega)
  · obtain rfl := Option.some.inj (hrow.symm.trans hrow')
    exact ⟨_, hs, .inr ⟨hfree, t, rfl⟩⟩

lemma accessTokens_ages (hi : i < R.len) :
    Ages AccessTokenRecord.Older (R.store i).accessTokens (R.store (i + 1)).accessTokens := by
  intro jti rec hrec
  rcases R.accessTokens_step hi jti with hs | ⟨rec', hc, hu, -⟩ | ⟨t, rec', -, hrec', hs⟩
  · exact ⟨rec, hs.trans hrec, .inl rfl⟩
  · obtain ⟨hu', j, hj, hc'⟩ := R.accessTokens_origin hi.le hrec
    exact absurd (accessTokens_insert_once hc hc' (hu.trans hu'.symm)) (by omega)
  · obtain rfl := Option.some.inj (hrec.symm.trans hrec')
    exact ⟨_, hs, rec.older_revoke t⟩

lemma refreshTokens_ages (hi : i < R.len) :
    Ages RefreshTokenRecord.Older (R.store i).refreshTokens (R.store (i + 1)).refreshTokens := by
  intro tokenHash rec hrec
  rcases R.refreshTokens_step hi tokenHash with hs | ⟨rec', hc, hu, -⟩ | ⟨t, rec', -, hrec', hs⟩
  · exact ⟨rec, hs.trans hrec, .inl rfl⟩
  · obtain ⟨hu', j, hj, hc'⟩ := R.refreshTokens_origin hi.le hrec
    exact absurd (refreshTokens_insert_once hc hc' (hu.trans hu'.symm)) (by omega)
  · obtain rfl := Option.some.inj (hrec.symm.trans hrec')
    exact ⟨_, hs, rec.older_revoke t⟩

/-- One step keeps the records. -/
lemma records_step (hi : i < R.len) : RecordsKept (R.store i) (R.store (i + 1)) :=
  ⟨par_ages hi, grants_ages hi, codes_ages hi, accessTokens_ages hi, refreshTokens_ages hi⟩

/-- **Records are kept.** Whatever requests a run interleaves, and on either adapter: no pushed
request, grant, code or token is ever removed from its table or replaced, and a row changes once at
most, by getting the instant at which it is consumed or revoked. So what was used up or revoked
stays so, with the instant of the first time.

**Proof sketch.** One step adds a row under a key that no row has, or stamps a row that has no stamp
(`records_step`): a second row for a key would need a second draw of the same random value. -/
theorem records_kept (R : ServerRun P config backend) {i j : ℕ} (hij : i ≤ j) (hj : j ≤ R.len) :
    RecordsKept (R.store i) (R.store j) := by
  induction j, hij using Nat.le_induction with
  | base => exact .refl _
  | succ j hij ih => exact (ih (by omega)).trans (records_step (by omega))

end ServerRun

namespace Sample

/-- The code is in the table when it was issued, and it is used up after the redemption. -/
def codeUsed (t : List (TraceStep system) × Conf system) : Bool :=
  t.1[authorized.length]?.any (fun s =>
    s.before.world.store.codes.get? code = some { record := codeRow, consumedAt := none }) &&
    t.2.world.store.codes.get? code = some { record := codeRow, consumedAt := some 100000 }

set_option maxRecDepth 4000 in
lemma codeUsed_trace : (system.trace ⟨world, []⟩ redemption).any codeUsed = true := by
  decide +kernel

/-- The records are kept while the code is used up. -/
theorem redemption_records_kept :
    (redemptionRun.store authorized.length).codes.get? code = some ⟨codeRow, none⟩ ∧
      (redemptionRun.store redemptionRun.len).codes.get? code = some ⟨codeRow, some 100000⟩ ∧
      RecordsKept (redemptionRun.store authorized.length)
      (redemptionRun.store redemptionRun.len) := by
  obtain ⟨⟨steps, last⟩, ht, h⟩ := (Option.any_eq_true _ _).mp codeUsed_trace
  have ht : redemptionRun.HasTrace steps last := ht
  obtain ⟨hbefore, hafter⟩ := Bool.and_eq_true_iff.mp h
  obtain ⟨step, hstep, hissued⟩ := (Option.any_eq_true _ _).mp hbefore
  have hlt : authorized.length < redemptionRun.len := by decide
  obtain ⟨step', hstep', hconf⟩ := ht.conf hlt
  obtain rfl := Option.some.inj (hstep.symm.trans hstep')
  refine ⟨?_, ?_, ServerRun.records_kept redemptionRun hlt.le le_rfl⟩
  · rw [ServerRun.store, Run.world, ← hconf]
    exact of_decide_eq_true hissued
  · rw [ServerRun.store, Run.world, ht.last]
    exact of_decide_eq_true hafter

end Sample

end Fapi2As
