import Fapi2As.Db.Pg

set_option relaxedAutoImplicit false
set_option autoImplicit false

/-!
# The effects of repository calls

What a repository call can do to the tables, on either adapter: nothing, or the one change of its
kind. What a call answers is what the tables held.

## Main definitions

* `Fapi2As.Effect` — the possible changes, by call.
* `Fapi2As.Carried` — a call that was carried out, with its result.

## Main results

* `Fapi2As.Backend.exec_ok`, `Fapi2As.Backend.exec_error` — a call that resolves was carried out,
  one that rejects had no effect.
* `Fapi2As.Carried.effect` — a call that is carried out has one of its effects.
* `Fapi2As.Effect.par`, `Fapi2As.Effect.grants`, `Fapi2As.Effect.codes`,
  `Fapi2As.Effect.accessTokens`, `Fapi2As.Effect.refreshTokens`, `Fapi2As.Effect.jti`,
  `Fapi2As.Effect.interactions`, `Fapi2As.Effect.clients` — the effects on each table.
-/

namespace Fapi2As

open Js

/-- Rows from which some dead ones were removed. -/
structure Swept {κ ρ : Type} [DecidableEq κ] (dead : ρ → Bool) (rows rows' : Map κ ρ) : Prop where
  /-- No row appears. -/
  sub : ∀ k v, rows'.get? k = some v → rows.get? k = some v
  /-- No living row is lost. -/
  kept : ∀ k v, rows.get? k = some v → dead v = false → rows'.get? k = some v

/-- What a call can do to the tables. -/
inductive Effect (s : Store) : Query → Store → Prop
  | unchanged (q : Query) : Effect s q s
  | parInsert (rec : ParRequestRecord) :
      Effect s (.parInsert rec) { s with par := s.par.set rec.requestUri ⟨rec, none⟩ }
  | parConsume (uri : String) (t : ℕ) (row : ParRow) (hrow : s.par.get? uri = some row)
      (live : Memory.parLive row t = true) :
      Effect s (.parConsume uri t)
        { s with par := s.par.set uri { row with consumedAt := some t } }
  | grantsInsert (rec : GrantRecord) :
      Effect s (.grantsInsert rec) { s with grants := s.grants.set rec.grantId rec }
  | grantsRevoke (grantId : String) (t : ℕ) :
      Effect s (.grantsRevoke grantId t)
        { s with grants := s.grants.modify grantId (GrantRecord.revoke t) }
  | codesInsert (rec : AuthorizationCodeRecord) :
      Effect s (.codesInsert rec) { s with codes := s.codes.set rec.codeHash ⟨rec, none⟩ }
  | codesRedeem (codeHash : String) (t : ℕ) (row : CodeRow)
      (hrow : s.codes.get? codeHash = some row) (fresh : row.consumedAt = none)
      (unexpired : row.record.expiresAt.isPast t = false) :
      Effect s (.codesRedeem codeHash t)
        { s with codes := s.codes.set codeHash { row with consumedAt := some t } }
  | accessTokensInsert (rec : AccessTokenRecord) :
      Effect s (.accessTokensInsert rec) { s with accessTokens := s.accessTokens.set rec.jti rec }
  | accessTokensRevoke (jti : String) (t : ℕ) :
      Effect s (.accessTokensRevoke jti t)
        { s with accessTokens := s.accessTokens.modify jti (AccessTokenRecord.revoke t) }
  | accessTokensRevokeByGrant (grantId : String) (t : ℕ) :
      Effect s (.accessTokensRevokeByGrant grantId t)
        { s with accessTokens := s.accessTokens.mapVals fun _ r =>
            if r.grantId = grantId then r.revoke t else r }
  | refreshTokensInsert (rec : RefreshTokenRecord) :
      Effect s (.refreshTokensInsert rec)
        { s with refreshTokens := s.refreshTokens.set rec.tokenHash rec }
  | refreshTokensRevoke (tokenHash : String) (t : ℕ) :
      Effect s (.refreshTokensRevoke tokenHash t)
        { s with refreshTokens := s.refreshTokens.modify tokenHash (RefreshTokenRecord.revoke t) }
  | refreshTokensRevokeByGrant (grantId : String) (t : ℕ) :
      Effect s (.refreshTokensRevokeByGrant grantId t)
        { s with refreshTokens := s.refreshTokens.mapVals fun _ r =>
            if r.grantId = grantId then r.revoke t else r }
  | jtiRegister (context jti : String) (expiresAt : Date) (t : ℕ)
      (rows : Map (String × String) Date) (sweep : ℕ) (fresh : Bool)
      (hrows : Swept (Date.isPast · t) s.jti rows) :
      Effect s (.jtiRegister context jti expiresAt t)
        { s with
          jti := if fresh then rows.set (context, jti) expiresAt else rows
          jtiLastSweep := sweep }
  | interactionsInsert (rec : InteractionRecord) (rows : Map String InteractionRow)
      (hrows : Swept (fun row => row.record.expiresAt.isPast rec.createdAt) s.interactions rows) :
      Effect s (.interactionsInsert rec)
        { s with interactions := rows.set rec.id ⟨rec, none⟩ }
  | interactionsSetSubject (id subject : String) (authTime : Date) (acr amr : Option Json) :
      Effect s (.interactionsSetSubject id subject authTime acr amr)
        { s with interactions :=
            s.interactions.modify id (Memory.withSubject subject authTime acr amr) }
  | interactionsComplete (id : String) (t : ℕ) (row : InteractionRow)
      (hrow : s.interactions.get? id = some row) (live : Memory.interactionLive row t = true) :
      Effect s (.interactionsComplete id t)
        { s with interactions := s.interactions.set id { row with completedAt := some t } }

/-- A call that was carried out on tables `s`, with its result and the tables after it: the effect
of the in-memory adapter, or of a statement that the database did not refuse. -/
def Carried (s : Store) (q : Query) (r : q.Res) (s' : Store) : Prop :=
  (r, s') = Memory.exec s q ∨ Pg.refuses s q = false ∧ ∃ x, (r, s') = Pg.exec s x q

/-- **A call is carried out or rejected**: a rejected one has no effect. -/
lemma Backend.exec_cases {b : Backend} {s s' : Store} {x : DbChoice} {q : Query}
    {r : Except Fault q.Res} (h : b.exec s x q = (r, s')) :
    (∃ a, Carried s q a s' ∧ r = .ok a) ∨ s' = s ∧ r = .error .rejected := by
  unfold Backend.exec at h
  cases b with
  | memory =>
    obtain ⟨rfl, rfl⟩ := Prod.mk.inj h
    exact .inl ⟨_, .inl rfl, rfl⟩
  | pg =>
    dsimp only at h
    split_ifs at h with hr
    · obtain ⟨rfl, rfl⟩ := Prod.mk.inj h
      exact .inr ⟨rfl, rfl⟩
    · obtain ⟨rfl, rfl⟩ := Prod.mk.inj h
      exact .inl ⟨_, .inr ⟨by simpa using (not_or.mp hr).1, x, rfl⟩, rfl⟩

/-- A call that resolves was carried out. -/
lemma Backend.exec_ok {b : Backend} {s s' : Store} {x : DbChoice} {q : Query} {a : q.Res}
    (h : b.exec s x q = (.ok a, s')) : Carried s q a s' := by
  rcases Backend.exec_cases h with ⟨a', hc, ha⟩ | ⟨-, ha⟩
  · obtain rfl := Except.ok.inj ha
    exact hc
  · cases ha

/-- A call that rejects had no effect. -/
lemma Backend.exec_error {b : Backend} {s s' : Store} {x : DbChoice} {q : Query} {e : Fault}
    (h : b.exec s x q = (.error e, s')) : s' = s := by
  rcases Backend.exec_cases h with ⟨a', -, ha⟩ | ⟨hs, -⟩
  · cases ha
  · exact hs

variable {s s' : Store} {q : Query}

/-- Every call but the two that reap has the effect and the result of the in-memory adapter. -/
lemma Carried.eq_memory {r : q.Res} (h : Carried s q r s') (hq : q.reaps = false) :
    (r, s') = Memory.exec s q := by
  rcases h with h | ⟨-, x, h⟩
  · exact h
  · rw [h, Pg.exec_eq_memory s x hq]

/-! ## Sweeps and the replay guard -/

lemma Swept.refl {κ ρ : Type} [DecidableEq κ] (dead : ρ → Bool) (rows : Map κ ρ) :
    Swept dead rows rows := ⟨fun _ _ h => h, fun _ _ h _ => h⟩

lemma Swept.filter {κ ρ : Type} [DecidableEq κ] {dead : ρ → Bool} (rows : Map κ ρ)
    (p : κ → ρ → Bool) (hp : ∀ k v, dead v = false → p k v = true) :
    Swept dead rows (rows.filter p) where
  sub k v h := by
    rw [Map.get?_filter, Option.filter_eq_some_iff] at h
    exact h.1
  kept k v h hv := by rw [Map.get?_filter, h, Option.filter_some, hp k v hv, if_pos rfl]

/-- A bounded deletion of dead rows is a sweep. -/
lemma Swept.deleteLimit {κ ρ : Type} [DecidableEq κ] {dead : ρ → Bool} (rows : Map κ ρ) (n : ℕ)
    (chosen : List κ) : Swept dead rows (Sql.deleteLimit rows dead n chosen) :=
  .filter rows _ fun k v hv => by simp only [hv, Bool.and_false, Bool.not_false]

/-- A date in the future has not passed. -/
lemma isPast_eq_false_of_isAfter {d : Date} {t : ℕ} (h : d.isAfter t = true) :
    d.isPast t = false := by
  cases d with
  | none => rfl
  | some d =>
    simp only [Date.isAfter, decide_eq_true_eq] at h
    simp only [Date.isPast, decide_eq_false_iff_not]
    omega

/-- A registration: some expired entries go, and a fresh one is set in the place of its key, which
held no date in the future. -/
structure Registered (s s' : Store) (key : String × String) (expiresAt : Date) (t : ℕ)
    (fresh : Bool) (rows : Map (String × String) Date) (sweep : ℕ) : Prop where
  swept : Swept (Date.isPast · t) s.jti rows
  tables : s' = { s with
    jti := if fresh then rows.set key expiresAt else rows
    jtiLastSweep := sweep }
  free : fresh = true → ∀ e, rows.get? key = some e → e.isAfter t = false

/-- The sweep of the in-memory replay guard. -/
lemma Memory.jtiSweep_swept (s : Store) (t : ℕ) :
    Swept (Date.isPast · t) s.jti (Memory.jtiSweep s t).jti ∧
      (Memory.jtiSweep s t).jti.size ≤ s.jti.size := by
  unfold Memory.jtiSweep
  split_ifs
  · exact ⟨.filter s.jti (fun _ exp => !exp.isPast t) fun k v hv => by simpa using hv,
      Map.size_filter_le _ _⟩
  · exact ⟨.refl _ _, le_rfl⟩

lemma Memory.jtiRegister_registered (s : Store) (c i : String) (e : Date) (t : ℕ) :
    ∃ rows sweep, Registered s (Memory.jtiRegister s c i e t).2 (c, i) e t
      (Memory.jtiRegister s c i e t).1 rows sweep := by
  obtain ⟨rows, sweep, h, hs⟩ : ∃ rows sweep,
      Memory.jtiSweep s t = { s with jti := rows, jtiLastSweep := sweep } ∧
        Swept (Date.isPast · t) s.jti rows := by
    refine ⟨_, (Memory.jtiSweep s t).jtiLastSweep, ?_, (Memory.jtiSweep_swept s t).1⟩
    unfold Memory.jtiSweep
    split_ifs <;> rfl
  refine ⟨rows, sweep, ?_⟩
  unfold Memory.jtiRegister
  rw [h]
  dsimp only
  split_ifs
  · exact ⟨hs, rfl, by simp⟩
  · split
    · rename_i existing hexisting
      split_ifs with hafter
      · exact ⟨hs, rfl, by simp⟩
      · refine ⟨hs, rfl, fun _ e he => ?_⟩
        rw [hexisting] at he
        simpa [← Option.some.inj he] using hafter
    · rename_i hnone
      exact ⟨hs, rfl, fun _ e he => by simp [hnone] at he⟩

lemma Pg.jtiRegister_registered (s : Store) (reap : List (String × String)) (c i : String)
    (e : Date) (t : ℕ) :
    ∃ rows sweep, Registered s (Pg.jtiRegister s reap c i e t).2 (c, i) e t
      (Pg.jtiRegister s reap c i e t).1 rows sweep := by
  have hs : Swept (Date.isPast · t) s.jti _ := .deleteLimit s.jti Pg.reapLimit reap
  refine ⟨Sql.deleteLimit s.jti (Date.isPast · t) Pg.reapLimit reap, s.jtiLastSweep, ?_⟩
  unfold Pg.jtiRegister Sql.upsert
  dsimp only
  split
  · rename_i existing hexisting
    split_ifs with hpast
    · refine ⟨hs, rfl, fun _ e he => ?_⟩
      rw [hexisting] at he
      obtain rfl := Option.some.inj he
      by_contra hafter
      exact absurd (isPast_eq_false_of_isAfter (by simpa using hafter)) (by simp [hpast])
    · exact ⟨hs, rfl, by simp⟩
  · rename_i hnone
    refine ⟨hs, rfl, fun _ e he => ?_⟩
    rw [hnone] at he
    cases he

lemma Carried.registered {c i : String} {e : Date} {t : ℕ} {fresh : Bool}
    (h : Carried s (.jtiRegister c i e t) fresh s') :
    ∃ rows sweep, Registered s s' (c, i) e t fresh rows sweep := by
  rcases h with h | ⟨-, x, h⟩
  · obtain ⟨rfl, rfl⟩ := Prod.mk.inj h
    exact Memory.jtiRegister_registered s c i e t
  · obtain ⟨rfl, rfl⟩ := Prod.mk.inj h
    exact Pg.jtiRegister_registered s x.reapJti c i e t

/-- A registration under a key that no entry has is fresh, when there is room. -/
lemma Memory.jtiRegister_fresh {c i : String} {e : Date} {t : ℕ}
    (hunused : s.jti.get? (c, i) = none) (hroom : s.jti.size < Memory.jtiCap) :
    (Memory.jtiRegister s c i e t).1 = true := by
  obtain ⟨hswept, hsize⟩ := Memory.jtiSweep_swept s t
  have hnone : (Memory.jtiSweep s t).jti.get? (c, i) = none := by
    cases hrow : (Memory.jtiSweep s t).jti.get? (c, i) with
    | none => rfl
    | some e' =>
      have hold := hswept.sub _ _ hrow
      rw [hunused] at hold
      cases hold
  unfold Memory.jtiRegister
  dsimp only
  rw [if_neg (not_le.mpr (hsize.trans_lt hroom)), hnone]

/-- A registration on the database is fresh when its key has no entry that has not expired, whatever
is reaped before it. -/
lemma Pg.jtiRegister_eq (reap : List (String × String)) (c i : String) (e : Date) (t : ℕ) :
    (Pg.jtiRegister s reap c i e t).1 = (s.jti.get? (c, i)).all (Date.isPast · t) := by
  unfold Pg.jtiRegister Sql.upsert Sql.deleteLimit
  dsimp only
  rw [Map.get?_filter]
  cases s.jti.get? (c, i) with
  | none => rfl
  | some existing =>
    rw [Option.filter_some]
    by_cases hpast : existing.isPast t = true
    · split_ifs
      · simp [hpast]
      · simp [hpast]
    · rw [if_pos (by simp [hpast])]
      simp [hpast]

@[inherit_doc Memory.jtiRegister_fresh]
lemma Pg.jtiRegister_fresh {reap : List (String × String)} {c i : String} {e : Date} {t : ℕ}
    (hunused : s.jti.get? (c, i) = none) : (Pg.jtiRegister s reap c i e t).1 = true := by
  rw [Pg.jtiRegister_eq, hunused]
  rfl

/-- **The answer of a registration that does not reject is decided by the tables.** -/
lemma Backend.jtiRegister_decided {b : Backend} {s'' : Store} {x x' : DbChoice} {c i : String}
    {e : Date} {t : ℕ} {fresh fresh' : Bool}
    (h : b.exec s x (.jtiRegister c i e t) = (.ok fresh, s'))
    (h' : b.exec s x' (.jtiRegister c i e t) = (.ok fresh', s'')) : fresh = fresh' := by
  cases b with
  | memory =>
    have hfresh := congrArg Prod.fst (h.symm.trans h')
    exact Except.ok.inj hfresh
  | pg =>
    have hanswer : ∀ {x : DbChoice} {r : Bool} {s₁ : Store},
        Backend.pg.exec s x (.jtiRegister c i e t) = (.ok r, s₁) →
        r = (s.jti.get? (c, i)).all (Date.isPast · t) := by
      intro x r s₁ hx
      unfold Backend.exec at hx
      dsimp only at hx
      split_ifs at hx
      · cases (Prod.mk.inj hx).1
      · rw [← Pg.jtiRegister_eq x.reapJti c i e t]
        exact (Except.ok.inj (Prod.mk.inj hx).1).symm
    rw [hanswer h, hanswer h']

/-- **A registration under a key that no entry has is fresh**, when the in-memory guard has room and
the call does not fail. -/
lemma Backend.jtiRegister_fresh {b : Backend} {x : DbChoice} {c i : String} {e : Date} {t : ℕ}
    {r : Except Fault Bool} (h : b.exec s x (.jtiRegister c i e t) = (r, s'))
    (hunused : s.jti.get? (c, i) = none) (hroom : b = .memory → s.jti.size < Memory.jtiCap)
    (hresolves : ∀ fault, r ≠ .error fault) : r = .ok true := by
  cases b with
  | memory =>
    obtain ⟨rfl, -⟩ := Prod.mk.inj h
    exact congrArg Except.ok (Memory.jtiRegister_fresh hunused (hroom rfl))
  | pg =>
    unfold Backend.exec at h
    dsimp only at h
    split_ifs at h with hr
    · obtain ⟨rfl, -⟩ := Prod.mk.inj h
      exact absurd rfl (hresolves _)
    · obtain ⟨rfl, -⟩ := Prod.mk.inj h
      exact congrArg Except.ok (Pg.jtiRegister_fresh hunused)

/-! ## All calls -/

lemma Carried.effect_interactionsInsert {rec : InteractionRecord} {r : Unit}
    (h : Carried s (.interactionsInsert rec) r s') : Effect s (.interactionsInsert rec) s' := by
  rcases h with h | ⟨-, x, h⟩
  · obtain ⟨-, rfl⟩ := Prod.mk.inj h
    refine .interactionsInsert rec _ ?_
    split_ifs
    · exact .filter _ _ fun k v hv => by simpa using hv
    · exact .refl _ _
  · obtain ⟨-, rfl⟩ := Prod.mk.inj h
    exact .interactionsInsert rec _ (.filter _ _ fun k v hv => by
      simp only [hv, Bool.and_false, Bool.not_false])

/-- **Every call that is carried out has one of its effects.** -/
lemma Carried.effect {r : q.Res} (h : Carried s q r s') : Effect s q s' := by
  cases q with
  | jtiRegister c i e t =>
    obtain ⟨rows, sweep, hr⟩ := Carried.registered h
    rw [hr.tables]
    exact .jtiRegister c i e t rows sweep r hr.swept
  | interactionsInsert rec => exact h.effect_interactionsInsert
  | parConsume uri t =>
    have h := h.eq_memory rfl
    simp only [Memory.exec, Memory.parConsume] at h
    split at h
    · obtain ⟨-, rfl⟩ := Prod.mk.inj h
      exact .unchanged _
    · rename_i row hrow
      split_ifs at h with hl
      · obtain ⟨-, rfl⟩ := Prod.mk.inj h
        exact .parConsume uri t row hrow hl
      · obtain ⟨-, rfl⟩ := Prod.mk.inj h
        exact .unchanged _
  | codesRedeem codeHash t =>
    have h := h.eq_memory rfl
    simp only [Memory.exec, Memory.codesRedeem] at h
    split at h
    · obtain ⟨-, rfl⟩ := Prod.mk.inj h
      exact .unchanged _
    · rename_i row hrow
      split_ifs at h with hc hp
      · obtain ⟨-, rfl⟩ := Prod.mk.inj h
        exact .unchanged _
      · obtain ⟨-, rfl⟩ := Prod.mk.inj h
        exact .unchanged _
      · obtain ⟨-, rfl⟩ := Prod.mk.inj h
        exact .codesRedeem codeHash t row hrow (by simpa using hc) (by simpa using hp)
  | interactionsComplete id t =>
    have h := h.eq_memory rfl
    simp only [Memory.exec, Memory.interactionsComplete] at h
    split at h
    · obtain ⟨-, rfl⟩ := Prod.mk.inj h
      exact .unchanged _
    · rename_i row hrow
      split_ifs at h with hl
      · obtain ⟨-, rfl⟩ := Prod.mk.inj h
        exact .interactionsComplete id t row hrow hl
      · obtain ⟨-, rfl⟩ := Prod.mk.inj h
        exact .unchanged _
  | clientsFindById | parPeek | grantsFind | accessTokensFindByJti | refreshTokensFindByHash
  | interactionsFind =>
    obtain ⟨-, rfl⟩ := Prod.mk.inj (h.eq_memory rfl)
    exact .unchanged _
  | _ =>
    obtain ⟨-, rfl⟩ := Prod.mk.inj (h.eq_memory rfl)
    constructor

/-! ## The effects on each table -/

/-- No call registers a client. -/
lemma Effect.clients (h : Effect s q s') : s'.clients = s.clients := by
  cases h <;> rfl

/-- A pushed request stays as it is, is inserted, or is consumed. -/
lemma Effect.par (h : Effect s q s') (uri : String) :
    s'.par.get? uri = s.par.get? uri ∨
      (∃ rec, q = .parInsert rec ∧ rec.requestUri = uri ∧ s'.par.get? uri = some ⟨rec, none⟩) ∨
      ∃ t row, q = .parConsume uri t ∧ s.par.get? uri = some row ∧ row.consumedAt = none ∧
        s'.par.get? uri = some { row with consumedAt := some t } := by
  cases h with
  | parInsert rec =>
    rw [Map.get?_set]
    split_ifs with hk
    · exact .inr (.inl ⟨rec, rfl, hk.symm, rfl⟩)
    · exact .inl rfl
  | parConsume uri' t row hrow live =>
    rw [Map.get?_set]
    split_ifs with hk
    · subst hk
      simp only [Memory.parLive, Bool.and_eq_true, Option.isNone_iff_eq_none] at live
      exact .inr (.inr ⟨t, row, rfl, hrow, live.1, rfl⟩)
    · exact .inl rfl
  | _ => exact .inl rfl

/-- A grant stays as it is, is inserted, or is revoked. -/
lemma Effect.grants (h : Effect s q s') (g : String) :
    s'.grants.get? g = s.grants.get? g ∨
      (∃ rec, q = .grantsInsert rec ∧ rec.grantId = g ∧ s'.grants.get? g = some rec) ∨
      ∃ t, q = .grantsRevoke g t ∧
        s'.grants.get? g = (s.grants.get? g).map (GrantRecord.revoke t) := by
  cases h with
  | grantsInsert rec =>
    rw [Map.get?_set]
    split_ifs with hk
    · exact .inr (.inl ⟨rec, rfl, hk.symm, rfl⟩)
    · exact .inl rfl
  | grantsRevoke g' t =>
    rw [Map.get?_modify]
    split_ifs with hk
    · subst hk
      exact .inr (.inr ⟨t, rfl, rfl⟩)
    · exact .inl (by simp)
  | _ => exact .inl rfl

/-- A code stays as it is, is inserted, or is redeemed. -/
lemma Effect.codes (h : Effect s q s') (codeHash : String) :
    s'.codes.get? codeHash = s.codes.get? codeHash ∨
      (∃ rec, q = .codesInsert rec ∧ rec.codeHash = codeHash ∧
        s'.codes.get? codeHash = some ⟨rec, none⟩) ∨
      ∃ t row, q = .codesRedeem codeHash t ∧ s.codes.get? codeHash = some row ∧
        row.consumedAt = none ∧
        s'.codes.get? codeHash = some { row with consumedAt := some t } := by
  cases h with
  | codesInsert rec =>
    rw [Map.get?_set]
    split_ifs with hk
    · exact .inr (.inl ⟨rec, rfl, hk.symm, rfl⟩)
    · exact .inl rfl
  | codesRedeem codeHash' t row hrow fresh unexpired =>
    rw [Map.get?_set]
    split_ifs with hk
    · subst hk
      exact .inr (.inr ⟨t, row, rfl, hrow, fresh, rfl⟩)
    · exact .inl rfl
  | _ => exact .inl rfl

/-- An access token stays as it is, is inserted, or is revoked, by its jti or with its grant. -/
lemma Effect.accessTokens (h : Effect s q s') (jti : String) :
    s'.accessTokens.get? jti = s.accessTokens.get? jti ∨
      (∃ rec, q = .accessTokensInsert rec ∧ rec.jti = jti ∧ s'.accessTokens.get? jti = some rec) ∨
      ∃ t rec, (q = .accessTokensRevoke jti t ∨ q = .accessTokensRevokeByGrant rec.grantId t) ∧
        s.accessTokens.get? jti = some rec ∧ s'.accessTokens.get? jti = some (rec.revoke t) := by
  cases h with
  | accessTokensInsert rec =>
    rw [Map.get?_set]
    split_ifs with hk
    · exact .inr (.inl ⟨rec, rfl, hk.symm, rfl⟩)
    · exact .inl rfl
  | accessTokensRevoke jti' t =>
    rw [Map.get?_modify]
    cases hr : s.accessTokens.get? jti with
    | none => exact .inl rfl
    | some rec =>
      rw [Option.map_some]
      split_ifs with hk
      · subst hk
        exact .inr (.inr ⟨t, rec, .inl rfl, rfl, rfl⟩)
      · exact .inl rfl
  | accessTokensRevokeByGrant g t =>
    rw [Map.get?_mapVals]
    cases hr : s.accessTokens.get? jti with
    | none => exact .inl rfl
    | some rec =>
      rw [Option.map_some]
      split_ifs with hk
      · exact .inr (.inr ⟨t, rec, .inr (by rw [hk]), rfl, rfl⟩)
      · exact .inl rfl
  | _ => exact .inl rfl

/-- A refresh token stays as it is, is inserted, or is revoked, by its hash or with its grant. -/
lemma Effect.refreshTokens (h : Effect s q s') (tokenHash : String) :
    s'.refreshTokens.get? tokenHash = s.refreshTokens.get? tokenHash ∨
      (∃ rec, q = .refreshTokensInsert rec ∧ rec.tokenHash = tokenHash ∧
        s'.refreshTokens.get? tokenHash = some rec) ∨
      ∃ t rec,
        (q = .refreshTokensRevoke tokenHash t ∨ q = .refreshTokensRevokeByGrant rec.grantId t) ∧
        s.refreshTokens.get? tokenHash = some rec ∧
        s'.refreshTokens.get? tokenHash = some (rec.revoke t) := by
  cases h with
  | refreshTokensInsert rec =>
    rw [Map.get?_set]
    split_ifs with hk
    · exact .inr (.inl ⟨rec, rfl, hk.symm, rfl⟩)
    · exact .inl rfl
  | refreshTokensRevoke tokenHash' t =>
    rw [Map.get?_modify]
    cases hr : s.refreshTokens.get? tokenHash with
    | none => exact .inl rfl
    | some rec =>
      rw [Option.map_some]
      split_ifs with hk
      · subst hk
        exact .inr (.inr ⟨t, rec, .inl rfl, rfl, rfl⟩)
      · exact .inl rfl
  | refreshTokensRevokeByGrant g t =>
    rw [Map.get?_mapVals]
    cases hr : s.refreshTokens.get? tokenHash with
    | none => exact .inl rfl
    | some rec =>
      rw [Option.map_some]
      split_ifs with hk
      · exact .inr (.inr ⟨t, rec, .inr (by rw [hk]), rfl, rfl⟩)
      · exact .inl rfl
  | _ => exact .inl rfl

/-- What a sweep leaves of an entry: the entry, unless it was dead. -/
lemma Swept.get? {κ ρ : Type} [DecidableEq κ] {dead : ρ → Bool} {rows rows' : Map κ ρ}
    (h : Swept dead rows rows') (k : κ) :
    rows'.get? k = rows.get? k ∨ rows'.get? k = none ∧ ∃ v, rows.get? k = some v ∧
      dead v = true := by
  cases hk : rows.get? k with
  | none =>
    left
    cases hk' : rows'.get? k with
    | none => rfl
    | some v => rw [h.sub k v hk'] at hk; cases hk
  | some v =>
    cases hd : dead v with
    | false => exact .inl (h.kept k v hk hd)
    | true =>
      cases hk' : rows'.get? k with
      | none => exact .inr ⟨rfl, v, rfl, hd⟩
      | some v' => exact .inl (by rw [← h.sub k v' hk', hk])

/-- A replay entry stays as it is, is set by its own registration, or is removed by a registration
whose reading it has not survived. -/
lemma Effect.jti (h : Effect s q s') (key : String × String) :
    s'.jti.get? key = s.jti.get? key ∨
      ∃ c i e t, q = .jtiRegister c i e t ∧
        ((key = (c, i) ∧ s'.jti.get? key = some e) ∨
          s'.jti.get? key = none ∧ ∃ d, s.jti.get? key = some d ∧ d.isPast t = true) := by
  cases h with
  | jtiRegister c i e t rows sweep fresh hrows =>
    have hkept : rows.get? key = s.jti.get? key ∨
        ∃ c' i' e' t', Query.jtiRegister c i e t = .jtiRegister c' i' e' t' ∧
          ((key = (c', i') ∧ rows.get? key = some e') ∨
            rows.get? key = none ∧ ∃ d, s.jti.get? key = some d ∧ d.isPast t' = true) :=
      (hrows.get? key).imp_right fun hd => ⟨c, i, e, t, rfl, .inr hd⟩
    cases fresh with
    | false => exact hkept
    | true =>
      simp only [if_true]
      rw [Map.get?_set]
      split_ifs with hk
      · exact .inr ⟨c, i, e, t, rfl, .inl ⟨hk, rfl⟩⟩
      · exact hkept
  | _ => exact .inl rfl

/-- What a call can do to an interaction. -/
inductive InteractionStep (q : Query) (id : String) :
    Option InteractionRow → Option InteractionRow → Prop
  | same (row : Option InteractionRow) : InteractionStep q id row row
  | insert (row : Option InteractionRow) (rec : InteractionRecord)
      (hq : q = .interactionsInsert rec)
      (hid : rec.id = id) : InteractionStep q id row (some ⟨rec, none⟩)
  | swept (row : InteractionRow) (rec : InteractionRecord) (hq : q = .interactionsInsert rec)
      (dead : row.record.expiresAt.isPast rec.createdAt = true) :
      InteractionStep q id (some row) none
  | setSubject (row : InteractionRow) (subject : String) (authTime : Date) (acr amr : Option Json)
      (hq : q = .interactionsSetSubject id subject authTime acr amr) :
      InteractionStep q id (some row) (some (Memory.withSubject subject authTime acr amr row))
  | complete (row : InteractionRow) (t : ℕ) (hq : q = .interactionsComplete id t)
      (open_ : row.completedAt = none) :
      InteractionStep q id (some row) (some { row with completedAt := some t })

/-- An interaction stays as it is, is inserted, swept, bound to a subject, or completed. -/
lemma Effect.interactions (h : Effect s q s') (id : String) :
    InteractionStep q id (s.interactions.get? id) (s'.interactions.get? id) := by
  cases h with
  | interactionsInsert rec rows hrows =>
    rw [Map.get?_set]
    split_ifs with hk
    · exact .insert _ rec rfl hk.symm
    · rcases hrows.get? id with h | ⟨h, row, hrow, hd⟩
      · rw [h]
        exact .same _
      · rw [h, hrow]
        exact .swept row rec rfl hd
  | interactionsSetSubject id' subject authTime acr amr =>
    rw [Map.get?_modify]
    cases hr : s.interactions.get? id with
    | none => exact .same _
    | some row =>
      rw [Option.map_some]
      split_ifs with hk
      · subst hk
        exact .setSubject row subject authTime acr amr rfl
      · exact .same _
  | interactionsComplete id' t row hrow live =>
    rw [Map.get?_set]
    split_ifs with hk
    · subst hk
      simp only [Memory.interactionLive, Bool.and_eq_true, Option.isNone_iff_eq_none] at live
      rw [hrow]
      exact .complete row t rfl live.1
    · exact .same _
  | _ => exact .same _

/-! ## What a call answers -/

/-- A pushed request that is read is live and in the table. -/
lemma Carried.parPeek {uri : String} {t : ℕ} {rec : ParRequestRecord}
    (h : Carried s (.parPeek uri t) (some rec) s') :
    ∃ row, s.par.get? uri = some row ∧ row.record = rec ∧ Memory.parLive row t = true := by
  obtain ⟨h, -⟩ := Prod.mk.inj (h.eq_memory rfl)
  simp only [Memory.parPeek] at h
  split at h
  · cases h
  · rename_i row hrow
    split_ifs at h with hl
    exact ⟨row, hrow, (Option.some.inj h).symm, hl⟩

/-- A pushed request that is consumed was unconsumed in the table, and is consumed now. -/
lemma Carried.parConsume {uri : String} {t : ℕ} {rec : ParRequestRecord}
    (h : Carried s (.parConsume uri t) (some rec) s') :
    ∃ row, s.par.get? uri = some row ∧ row.record = rec ∧ row.consumedAt = none ∧
      s'.par.get? uri = some { row with consumedAt := some t } := by
  have h := h.eq_memory rfl
  simp only [Memory.exec, Memory.parConsume] at h
  split at h
  · cases (Prod.mk.inj h).1
  · rename_i row hrow
    split_ifs at h with hl
    · obtain ⟨h', rfl⟩ := Prod.mk.inj h
      simp only [Memory.parLive, Bool.and_eq_true, Option.isNone_iff_eq_none] at hl
      exact ⟨row, hrow, (Option.some.inj h').symm, hl.1, by simp⟩
    · cases (Prod.mk.inj h).1

/-- A grant that is found is in the table. -/
lemma Carried.grantsFind {grantId : String} {r : Option GrantRecord}
    (h : Carried s (.grantsFind grantId) r s') : s.grants.get? grantId = r :=
  (Prod.mk.inj (h.eq_memory rfl)).1.symm

/-- A client that is found is registered. -/
lemma Carried.clientsFindById {clientId : String} {r : Option ClientRecord}
    (h : Carried s (.clientsFindById clientId) r s') : s.clients.get? clientId = r :=
  (Prod.mk.inj (h.eq_memory rfl)).1.symm

/-- An access token that is found is in the table. -/
lemma Carried.accessTokensFindByJti {jti : String} {r : Option AccessTokenRecord}
    (h : Carried s (.accessTokensFindByJti jti) r s') : s.accessTokens.get? jti = r :=
  (Prod.mk.inj (h.eq_memory rfl)).1.symm

/-- A refresh token that is found is in the table. -/
lemma Carried.refreshTokensFindByHash {tokenHash : String} {r : Option RefreshTokenRecord}
    (h : Carried s (.refreshTokensFindByHash tokenHash) r s') :
    s.refreshTokens.get? tokenHash = r :=
  (Prod.mk.inj (h.eq_memory rfl)).1.symm

/-- A revocation by grant revokes every access token of the grant. -/
lemma Carried.accessTokensRevokeByGrant {g : String} {t : ℕ} {r : Unit}
    (h : Carried s (.accessTokensRevokeByGrant g t) r s') (jti : String) :
    s'.accessTokens.get? jti = (s.accessTokens.get? jti).map fun rec =>
      if rec.grantId = g then rec.revoke t else rec := by
  obtain ⟨-, rfl⟩ := Prod.mk.inj (h.eq_memory rfl)
  exact Map.get?_mapVals _ _ _

/-- A revocation by grant revokes every refresh token of the grant. -/
lemma Carried.refreshTokensRevokeByGrant {g : String} {t : ℕ} {r : Unit}
    (h : Carried s (.refreshTokensRevokeByGrant g t) r s') (tokenHash : String) :
    s'.refreshTokens.get? tokenHash = (s.refreshTokens.get? tokenHash).map fun rec =>
      if rec.grantId = g then rec.revoke t else rec := by
  obtain ⟨-, rfl⟩ := Prod.mk.inj (h.eq_memory rfl)
  exact Map.get?_mapVals _ _ _

/-- A code that is redeemed or reported as used is in the table; a redeemed one was unused, and is
used now. -/
lemma Carried.codesRedeem {codeHash : String} {t : ℕ} {r : CodeRedemption}
    (h : Carried s (.codesRedeem codeHash t) r s') :
    match r with
    | .ok rec => ∃ row, s.codes.get? codeHash = some row ∧ row.record = rec ∧
        row.consumedAt = none ∧ s'.codes.get? codeHash = some { row with consumedAt := some t }
    | .consumed rec => ∃ row, s.codes.get? codeHash = some row ∧ row.record = rec ∧
        row.consumedAt ≠ none ∧ s' = s
    | .invalid => s' = s := by
  have h := h.eq_memory rfl
  simp only [Memory.exec, Memory.codesRedeem] at h
  split at h
  · obtain ⟨rfl, rfl⟩ := Prod.mk.inj h
    rfl
  · rename_i row hrow
    split_ifs at h with hc hp
    · obtain ⟨rfl, rfl⟩ := Prod.mk.inj h
      exact ⟨row, hrow, rfl, by simpa [Option.isSome_iff_ne_none] using hc, rfl⟩
    · obtain ⟨rfl, rfl⟩ := Prod.mk.inj h
      rfl
    · obtain ⟨rfl, rfl⟩ := Prod.mk.inj h
      exact ⟨row, hrow, rfl, by simpa using hc, by simp⟩

/-- An interaction that is found is live and in the table. -/
lemma Carried.interactionsFind {id : String} {t : ℕ} {rec : InteractionRecord}
    (h : Carried s (.interactionsFind id t) (some rec) s') :
    ∃ row, s.interactions.get? id = some row ∧ row.record = rec ∧
      Memory.interactionLive row t = true := by
  obtain ⟨h, -⟩ := Prod.mk.inj (h.eq_memory rfl)
  simp only [Memory.interactionsFind] at h
  split at h
  · cases h
  · rename_i row hrow
    split_ifs at h with hl
    exact ⟨row, hrow, (Option.some.inj h).symm, hl⟩

/-- What a search for an interaction answers. -/
lemma Carried.interactionsFind_eq {id : String} {t : ℕ} {r : Option InteractionRecord}
    (h : Carried s (.interactionsFind id t) r s') : r = Memory.interactionsFind s id t :=
  (Prod.mk.inj (h.eq_memory rfl)).1

/-- What a look at a pushed request answers. -/
lemma Carried.parPeek_eq {uri : String} {t : ℕ} {r : Option ParRequestRecord}
    (h : Carried s (.parPeek uri t) r s') : r = Memory.parPeek s uri t :=
  (Prod.mk.inj (h.eq_memory rfl)).1

/-- What the completion of an interaction answers. -/
lemma Carried.interactionsComplete_eq {id : String} {t : ℕ} {r : Option InteractionRecord}
    (h : Carried s (.interactionsComplete id t) r s') :
    r = (Memory.interactionsComplete s id t).1 :=
  (Prod.mk.inj (h.eq_memory rfl)).1

/-- An interaction that is bound to a subject while it is open has that subject. -/
lemma Carried.interactionsSetSubject {id subject : String} {authTime : Date}
    {acr amr : Option Json} {r : Unit}
    (h : Carried s (.interactionsSetSubject id subject authTime acr amr) r s') :
    s'.interactions.get? id =
      (s.interactions.get? id).map (Memory.withSubject subject authTime acr amr) := by
  obtain ⟨-, rfl⟩ := Prod.mk.inj (h.eq_memory rfl)
  rw [Map.get?_modify]
  simp

/-- An interaction that is completed was uncompleted in the table, and is completed now. -/
lemma Carried.interactionsComplete {id : String} {t : ℕ} {rec : InteractionRecord}
    (h : Carried s (.interactionsComplete id t) (some rec) s') :
    ∃ row, s.interactions.get? id = some row ∧ row.record = rec ∧ row.completedAt = none ∧
      s'.interactions.get? id = some { row with completedAt := some t } := by
  have h := h.eq_memory rfl
  simp only [Memory.exec, Memory.interactionsComplete] at h
  split at h
  · cases (Prod.mk.inj h).1
  · rename_i row hrow
    split_ifs at h with hl
    · obtain ⟨h', rfl⟩ := Prod.mk.inj h
      simp only [Memory.interactionLive, Bool.and_eq_true, Option.isNone_iff_eq_none] at hl
      exact ⟨row, hrow, (Option.some.inj h').symm, hl.1, by simp⟩
    · cases (Prod.mk.inj h).1

end Fapi2As
