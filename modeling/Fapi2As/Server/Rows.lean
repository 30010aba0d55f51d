import Fapi2As.Server.Runs

set_option relaxedAutoImplicit false
set_option autoImplicit false

/-!
# The rows of a run

How each table changes at a step of a run, which call inserted a row that is in a table, and that
no two calls insert the same key.

## Main definitions

* `Fapi2As.GrantRecord.fresh`, `Fapi2As.AccessTokenRecord.fresh`,
  `Fapi2As.RefreshTokenRecord.fresh` — a record without its revocation.

## Main results

* `Fapi2As.ServerRun.par_origin`, `Fapi2As.ServerRun.grants_origin`, … — the call that inserted a
  row.
* `Fapi2As.ServerRun.par_insert_once`, `Fapi2As.ServerRun.grants_insert_once`, … — a key is
  inserted once.
* `Fapi2As.ServerRun.par_same`, `Fapi2As.ServerRun.grants_same`, … — the record of a key never
  changes.
* `Fapi2As.ServerRun.grants_stay` — a grant stays in the table.
* `Fapi2As.ServerRun.loaded_clientId` — a client is loaded under its own identifier.
* `Fapi2As.ServerRun.read_pushed` — a pushed request that is read was pushed by its client.
-/

namespace Fapi2As

open Js Async

/-! ## Records without their revocation -/

/-- A grant as it was inserted. -/
def GrantRecord.fresh (r : GrantRecord) : GrantRecord := { r with revokedAt := none }

/-- An access token as it was inserted. -/
def AccessTokenRecord.fresh (r : AccessTokenRecord) : AccessTokenRecord :=
  { r with revokedAt := none }

/-- A refresh token as it was inserted. -/
def RefreshTokenRecord.fresh (r : RefreshTokenRecord) : RefreshTokenRecord :=
  { r with revokedAt := none }

/-- A parked interaction as it was inserted. -/
def InteractionRecord.fresh (r : InteractionRecord) : InteractionRecord :=
  { r with subject := none, authTime := none, acr := none, amr := none }

/-- Grants that differ in their revocation only are for the same client, subject and scope. -/
lemma GrantRecord.eq_of_fresh {g g' : GrantRecord} (h : g.fresh = g'.fresh) :
    g.clientId = g'.clientId ∧ g.subject = g'.subject ∧ g.scope = g'.scope := by
  simp only [fresh, mk.injEq] at h
  exact ⟨h.2.1, h.2.2.1, h.2.2.2.1⟩

@[simp] lemma GrantRecord.fresh_revoke (r : GrantRecord) (t : ℕ) :
    (r.revoke t).fresh = r.fresh := by
  unfold revoke
  split_ifs <;> rfl

@[simp] lemma AccessTokenRecord.fresh_revoke (r : AccessTokenRecord) (t : ℕ) :
    (r.revoke t).fresh = r.fresh := by
  unfold revoke
  split_ifs <;> rfl

@[simp] lemma RefreshTokenRecord.fresh_revoke (r : RefreshTokenRecord) (t : ℕ) :
    (r.revoke t).fresh = r.fresh := by
  unfold revoke
  split_ifs <;> rfl

@[simp] lemma Memory.fresh_withSubject (subject : String) (authTime : Date) (acr amr : Option Json)
    (row : InteractionRow) :
    (Memory.withSubject subject authTime acr amr row).record.fresh = row.record.fresh := by
  unfold Memory.withSubject
  split_ifs <;> rfl

variable {P : Platform} {config : AppConfig} {backend : Backend}

namespace ServerRun

variable (R : ServerRun P config backend)

/-- **How the tables of the protocol state change at a step**: not at all, or by the effect of a
repository call. -/
lemma query_step {i : ℕ} (hi : i < R.len) {ρ : Type} (get : Store → ρ)
    (hget : ∀ s c, get { s with clients := c } = get s) :
    get (R.store (i + 1)) = get (R.store i) ∨ ∃ pid p q a, R.Does i pid p ⟨.db q, .ok a⟩ ∧
      Effect (R.store i) q (R.store (i + 1)) := by
  cases R.store_step hi with
  | same h => exact .inl (by rw [h])
  | query pid p q r hd he => exact .inr ⟨pid, p, q, r, hd, he⟩
  | register rec _ h => exact .inl (by rw [h, hget])

/-- At step `i` a process makes the repository call `q`, and it resolves. -/
def Calls (i : ℕ) (q : Query) : Prop := ∃ pid p a, R.Does i pid p ⟨.db q, .ok a⟩

variable {R}

/-- A repository call that is made is justified. -/
lemma Calls.justified {i : ℕ} {q : Query} (h : R.Calls i q) :
    ∃ pid p a, R.Does i pid p ⟨.db q, .ok a⟩ ∧ Justified P config p.req p.past (.db q) := by
  obtain ⟨pid, p, a, hd⟩ := h
  exact ⟨pid, p, a, hd, R.justified hd⟩

/-- At one step one repository call is made. -/
lemma Calls.functional {i : ℕ} {q q' : Query} (h : R.Calls i q) (h' : R.Calls i q') : q = q' := by
  obtain ⟨_, _, _, hd⟩ := h
  obtain ⟨_, _, _, hd'⟩ := h'
  have he := (hd.functional hd').2.2
  have ho : Call.db q = Call.db q' := congrArg Async.Event.op he
  exact Call.db.inj ho

/-! ## The steps of each table -/

variable (R)

lemma par_step {i : ℕ} (hi : i < R.len) (uri : String) :
    (R.store (i + 1)).par.get? uri = (R.store i).par.get? uri ∨
      (∃ rec, R.Calls i (.parInsert rec) ∧ rec.requestUri = uri ∧
        (R.store (i + 1)).par.get? uri = some ⟨rec, none⟩) ∨
      ∃ t row, R.Calls i (.parConsume uri t) ∧ (R.store i).par.get? uri = some row ∧
        row.consumedAt = none ∧
        (R.store (i + 1)).par.get? uri = some { row with consumedAt := some t } := by
  rcases R.query_step hi (·.par.get? uri) fun _ _ => rfl with h | ⟨pid, p, q, r, hd, he⟩
  · exact .inl h
  · rcases he.par uri with h | ⟨rec, rfl, h⟩ | ⟨t, row, rfl, h⟩
    · exact .inl h
    · exact .inr (.inl ⟨rec, ⟨pid, p, r, hd⟩, h⟩)
    · exact .inr (.inr ⟨t, row, ⟨pid, p, r, hd⟩, h⟩)

lemma grants_step {i : ℕ} (hi : i < R.len) (g : String) :
    (R.store (i + 1)).grants.get? g = (R.store i).grants.get? g ∨
      (∃ rec, R.Calls i (.grantsInsert rec) ∧ rec.grantId = g ∧
        (R.store (i + 1)).grants.get? g = some rec) ∨
      ∃ t, R.Calls i (.grantsRevoke g t) ∧
        (R.store (i + 1)).grants.get? g =
          ((R.store i).grants.get? g).map (GrantRecord.revoke t) := by
  rcases R.query_step hi (·.grants.get? g) fun _ _ => rfl with h | ⟨pid, p, q, r, hd, he⟩
  · exact .inl h
  · rcases he.grants g with h | ⟨rec, rfl, h⟩ | ⟨t, rfl, h⟩
    · exact .inl h
    · exact .inr (.inl ⟨rec, ⟨pid, p, r, hd⟩, h⟩)
    · exact .inr (.inr ⟨t, ⟨pid, p, r, hd⟩, h⟩)

lemma codes_step {i : ℕ} (hi : i < R.len) (codeHash : String) :
    (R.store (i + 1)).codes.get? codeHash = (R.store i).codes.get? codeHash ∨
      (∃ rec, R.Calls i (.codesInsert rec) ∧ rec.codeHash = codeHash ∧
        (R.store (i + 1)).codes.get? codeHash = some ⟨rec, none⟩) ∨
      ∃ t row, R.Calls i (.codesRedeem codeHash t) ∧ (R.store i).codes.get? codeHash = some row ∧
        row.consumedAt = none ∧
        (R.store (i + 1)).codes.get? codeHash = some { row with consumedAt := some t } := by
  rcases R.query_step hi (·.codes.get? codeHash) fun _ _ => rfl with h | ⟨pid, p, q, r, hd, he⟩
  · exact .inl h
  · rcases he.codes codeHash with h | ⟨rec, rfl, h⟩ | ⟨t, row, rfl, h⟩
    · exact .inl h
    · exact .inr (.inl ⟨rec, ⟨pid, p, r, hd⟩, h⟩)
    · exact .inr (.inr ⟨t, row, ⟨pid, p, r, hd⟩, h⟩)

lemma accessTokens_step {i : ℕ} (hi : i < R.len) (jti : String) :
    (R.store (i + 1)).accessTokens.get? jti = (R.store i).accessTokens.get? jti ∨
      (∃ rec, R.Calls i (.accessTokensInsert rec) ∧ rec.jti = jti ∧
        (R.store (i + 1)).accessTokens.get? jti = some rec) ∨
      ∃ t rec, (R.Calls i (.accessTokensRevoke jti t) ∨
          R.Calls i (.accessTokensRevokeByGrant rec.grantId t)) ∧
        (R.store i).accessTokens.get? jti = some rec ∧
        (R.store (i + 1)).accessTokens.get? jti = some (rec.revoke t) := by
  rcases R.query_step hi (·.accessTokens.get? jti) fun _ _ => rfl with h | ⟨pid, p, q, r, hd, he⟩
  · exact .inl h
  · rcases he.accessTokens jti with h | ⟨rec, rfl, h⟩ | ⟨t, rec, rfl | rfl, h⟩
    · exact .inl h
    · exact .inr (.inl ⟨rec, ⟨pid, p, r, hd⟩, h⟩)
    · exact .inr (.inr ⟨t, rec, .inl ⟨pid, p, r, hd⟩, h⟩)
    · exact .inr (.inr ⟨t, rec, .inr ⟨pid, p, r, hd⟩, h⟩)

lemma refreshTokens_step {i : ℕ} (hi : i < R.len) (tokenHash : String) :
    (R.store (i + 1)).refreshTokens.get? tokenHash = (R.store i).refreshTokens.get? tokenHash ∨
      (∃ rec, R.Calls i (.refreshTokensInsert rec) ∧ rec.tokenHash = tokenHash ∧
        (R.store (i + 1)).refreshTokens.get? tokenHash = some rec) ∨
      ∃ t rec, (R.Calls i (.refreshTokensRevoke tokenHash t) ∨
          R.Calls i (.refreshTokensRevokeByGrant rec.grantId t)) ∧
        (R.store i).refreshTokens.get? tokenHash = some rec ∧
        (R.store (i + 1)).refreshTokens.get? tokenHash = some (rec.revoke t) := by
  rcases R.query_step hi (·.refreshTokens.get? tokenHash) fun _ _ => rfl with
    h | ⟨pid, p, q, r, hd, he⟩
  · exact .inl h
  · rcases he.refreshTokens tokenHash with h | ⟨rec, rfl, h⟩ | ⟨t, rec, rfl | rfl, h⟩
    · exact .inl h
    · exact .inr (.inl ⟨rec, ⟨pid, p, r, hd⟩, h⟩)
    · exact .inr (.inr ⟨t, rec, .inl ⟨pid, p, r, hd⟩, h⟩)
    · exact .inr (.inr ⟨t, rec, .inr ⟨pid, p, r, hd⟩, h⟩)

lemma interactions_step {i : ℕ} (hi : i < R.len) (id : String) :
    (R.store (i + 1)).interactions.get? id = (R.store i).interactions.get? id ∨
      ∃ q, R.Calls i q ∧ InteractionStep q id ((R.store i).interactions.get? id)
        ((R.store (i + 1)).interactions.get? id) := by
  rcases R.query_step hi (·.interactions.get? id) fun _ _ => rfl with h | ⟨pid, p, q, r, hd, he⟩
  · exact .inl h
  · exact .inr ⟨q, ⟨pid, p, r, hd⟩, he.interactions id⟩

/-! ## Where rows come from -/

/-- **A pushed request in the table was inserted** by an earlier call. -/
lemma par_origin {i : ℕ} (hi : i ≤ R.len) {uri : String} {row : ParRow}
    (h : (R.store i).par.get? uri = some row) :
    row.record.requestUri = uri ∧ ∃ j < i, R.Calls j (.parInsert row.record) := by
  have hstep : ∀ j < R.len, ∀ row, (R.store (j + 1)).par.get? uri = some row →
      (∃ row', (R.store j).par.get? uri = some row' ∧ row'.record = row.record) ∨
        row.record.requestUri = uri ∧ R.Calls j (.parInsert row.record) := by
    intro j hj row hrow
    rcases R.par_step hj uri with hs | ⟨rec, hc, hu, hs⟩ | ⟨t, row', hc, hr, _, hs⟩
    · exact .inl ⟨row, hs.symm.trans hrow, rfl⟩
    · obtain rfl := Option.some.inj (hs.symm.trans hrow)
      exact .inr ⟨hu, hc⟩
    · obtain rfl := Option.some.inj (hs.symm.trans hrow)
      exact .inl ⟨row', hr, rfl⟩
  obtain ⟨j, hj, hk, hc⟩ := R.origin (fun w => w.store.par.get? uri) ParRow.record
    (fun j rec => rec.requestUri = uri ∧ R.Calls j (.parInsert rec))
    (congrArg (·.par.get? uri) R.isStart.store) hstep hi h
  exact ⟨hk, j, hj, hc⟩

/-- **A grant in the table was inserted** by an earlier call. -/
lemma grants_origin {i : ℕ} (hi : i ≤ R.len) {g : String} {rec : GrantRecord}
    (h : (R.store i).grants.get? g = some rec) :
    rec.grantId = g ∧ ∃ j < i, R.Calls j (.grantsInsert rec.fresh) := by
  have hstep : ∀ j < R.len, ∀ rec, (R.store (j + 1)).grants.get? g = some rec →
      (∃ rec', (R.store j).grants.get? g = some rec' ∧ rec'.fresh = rec.fresh) ∨
        rec.grantId = g ∧ R.Calls j (.grantsInsert rec.fresh) := by
    intro j hj rec hrec
    rcases R.grants_step hj g with hs | ⟨rec', hc, hg, hs⟩ | ⟨t, hc, hs⟩
    · exact .inl ⟨rec, hs.symm.trans hrec, rfl⟩
    · obtain rfl := Option.some.inj (hs.symm.trans hrec)
      obtain ⟨_, _, _, _, hj⟩ := hc.justified
      obtain ⟨_, _, _, _, _, _, _, _, _, _, rfl⟩ := hj
      exact .inr ⟨hg, hc⟩
    · obtain ⟨rec', hr, rfl⟩ := Option.map_eq_some_iff.mp (hs.symm.trans hrec)
      exact .inl ⟨rec', hr, by simp⟩
  obtain ⟨j, hj, hk, hc⟩ := R.origin (fun w => w.store.grants.get? g) GrantRecord.fresh
    (fun j rec => rec.grantId = g ∧ R.Calls j (.grantsInsert rec))
    (congrArg (·.grants.get? g) R.isStart.store) hstep hi h
  exact ⟨hk, j, hj, hc⟩

/-- **A code in the table was inserted** by an earlier call. -/
lemma codes_origin {i : ℕ} (hi : i ≤ R.len) {codeHash : String} {row : CodeRow}
    (h : (R.store i).codes.get? codeHash = some row) :
    row.record.codeHash = codeHash ∧ ∃ j < i, R.Calls j (.codesInsert row.record) := by
  have hstep : ∀ j < R.len, ∀ row, (R.store (j + 1)).codes.get? codeHash = some row →
      (∃ row', (R.store j).codes.get? codeHash = some row' ∧ row'.record = row.record) ∨
        row.record.codeHash = codeHash ∧ R.Calls j (.codesInsert row.record) := by
    intro j hj row hrow
    rcases R.codes_step hj codeHash with hs | ⟨rec, hc, hu, hs⟩ | ⟨t, row', hc, hr, _, hs⟩
    · exact .inl ⟨row, hs.symm.trans hrow, rfl⟩
    · obtain rfl := Option.some.inj (hs.symm.trans hrow)
      exact .inr ⟨hu, hc⟩
    · obtain rfl := Option.some.inj (hs.symm.trans hrow)
      exact .inl ⟨row', hr, rfl⟩
  obtain ⟨j, hj, hk, hc⟩ := R.origin (fun w => w.store.codes.get? codeHash) CodeRow.record
    (fun j rec => rec.codeHash = codeHash ∧ R.Calls j (.codesInsert rec))
    (congrArg (·.codes.get? codeHash) R.isStart.store) hstep hi h
  exact ⟨hk, j, hj, hc⟩

/-- **An access token in the table was inserted** by an earlier call. -/
lemma accessTokens_origin {i : ℕ} (hi : i ≤ R.len) {jti : String} {rec : AccessTokenRecord}
    (h : (R.store i).accessTokens.get? jti = some rec) :
    rec.jti = jti ∧ ∃ j < i, R.Calls j (.accessTokensInsert rec.fresh) := by
  have hstep : ∀ j < R.len, ∀ rec, (R.store (j + 1)).accessTokens.get? jti = some rec →
      (∃ rec', (R.store j).accessTokens.get? jti = some rec' ∧ rec'.fresh = rec.fresh) ∨
        rec.jti = jti ∧ R.Calls j (.accessTokensInsert rec.fresh) := by
    intro j hj rec hrec
    rcases R.accessTokens_step hj jti with hs | ⟨rec', hc, hg, hs⟩ | ⟨t, rec', hc, hr, hs⟩
    · exact .inl ⟨rec, hs.symm.trans hrec, rfl⟩
    · obtain rfl := Option.some.inj (hs.symm.trans hrec)
      obtain ⟨_, _, _, _, hj⟩ := hc.justified
      obtain ⟨_, _, _, _, _, _, _, rfl⟩ := hj
      exact .inr ⟨hg, hc⟩
    · obtain rfl := Option.some.inj (hs.symm.trans hrec)
      exact .inl ⟨rec', hr, by simp⟩
  obtain ⟨j, hj, hk, hc⟩ :=
    R.origin (fun w => w.store.accessTokens.get? jti) AccessTokenRecord.fresh
    (fun j rec => rec.jti = jti ∧ R.Calls j (.accessTokensInsert rec))
    (congrArg (·.accessTokens.get? jti) R.isStart.store) hstep hi h
  exact ⟨hk, j, hj, hc⟩

/-- **A refresh token in the table was inserted** by an earlier call. -/
lemma refreshTokens_origin {i : ℕ} (hi : i ≤ R.len) {tokenHash : String} {rec : RefreshTokenRecord}
    (h : (R.store i).refreshTokens.get? tokenHash = some rec) :
    rec.tokenHash = tokenHash ∧ ∃ j < i, R.Calls j (.refreshTokensInsert rec.fresh) := by
  have hstep : ∀ j < R.len, ∀ rec, (R.store (j + 1)).refreshTokens.get? tokenHash = some rec →
      (∃ rec', (R.store j).refreshTokens.get? tokenHash = some rec' ∧ rec'.fresh = rec.fresh) ∨
        rec.tokenHash = tokenHash ∧ R.Calls j (.refreshTokensInsert rec.fresh) := by
    intro j hj rec hrec
    rcases R.refreshTokens_step hj tokenHash with hs | ⟨rec', hc, hg, hs⟩ | ⟨t, rec', hc, hr, hs⟩
    · exact .inl ⟨rec, hs.symm.trans hrec, rfl⟩
    · obtain rfl := Option.some.inj (hs.symm.trans hrec)
      obtain ⟨_, _, _, _, hj⟩ := hc.justified
      obtain ⟨_, _, _, _, _, _, _, _, _, rfl⟩ := hj
      exact .inr ⟨hg, hc⟩
    · obtain rfl := Option.some.inj (hs.symm.trans hrec)
      exact .inl ⟨rec', hr, by simp⟩
  obtain ⟨j, hj, hk, hc⟩ :=
    R.origin (fun w => w.store.refreshTokens.get? tokenHash) RefreshTokenRecord.fresh
    (fun j rec => rec.tokenHash = tokenHash ∧ R.Calls j (.refreshTokensInsert rec))
    (congrArg (·.refreshTokens.get? tokenHash) R.isStart.store) hstep hi h
  exact ⟨hk, j, hj, hc⟩

/-- **An interaction in the table was parked** by an earlier call. -/
lemma interactions_origin {i : ℕ} (hi : i ≤ R.len) {id : String} {row : InteractionRow}
    (h : (R.store i).interactions.get? id = some row) :
    row.record.id = id ∧ ∃ j < i, R.Calls j (.interactionsInsert row.record.fresh) := by
  have hstep : ∀ j < R.len, ∀ row, (R.store (j + 1)).interactions.get? id = some row →
      (∃ row', (R.store j).interactions.get? id = some row' ∧
        row'.record.fresh = row.record.fresh) ∨
        row.record.id = id ∧ R.Calls j (.interactionsInsert row.record.fresh) := by
    intro j hj row hrow
    rcases R.interactions_step hj id with hs | ⟨q, hc, hs⟩
    · exact .inl ⟨row, hs.symm.trans hrow, rfl⟩
    · rw [hrow] at hs
      generalize (R.store j).interactions.get? id = before at hs
      cases hs with
      | same => exact .inl ⟨row, rfl, rfl⟩
      | insert _ rec hq hid =>
        subst hq
        obtain ⟨_, _, _, _, hj⟩ := hc.justified
        obtain ⟨_, _, _, _, _, _, _, _, _, _, _, rfl⟩ := hj
        exact .inr ⟨hid, hc⟩
      | setSubject row' subject authTime acr amr hq => exact .inl ⟨row', rfl, by simp⟩
      | complete row' t hq _ => exact .inl ⟨row', rfl, rfl⟩
  obtain ⟨j, hj, hk, hc⟩ :=
    R.origin (fun w => w.store.interactions.get? id) (fun row => row.record.fresh)
    (fun j rec => rec.id = id ∧ R.Calls j (.interactionsInsert rec))
    (congrArg (·.interactions.get? id) R.isStart.store) hstep hi h
  exact ⟨hk, j, hj, hc⟩

/-! ## A key is inserted once -/

variable {R}

/-- **A reference is pushed once.** -/
lemma par_insert_once {i j : ℕ} {rec rec' : ParRequestRecord} (hi : R.Calls i (.parInsert rec))
    (hj : R.Calls j (.parInsert rec')) (h : rec.requestUri = rec'.requestUri) : i = j := by
  obtain ⟨_, _, _, hd, _, _, _, _, _, _, ref, _, _, _, hq, _, _, rfl⟩ := hi.justified
  obtain ⟨_, _, _, hd', _, _, _, _, _, _, ref', _, _, _, hq', _, _, rfl⟩ := hj.justified
  obtain rfl : ref = ref' := by simpa [parRecord] using h
  exact R.once_after_draw hd hd' (.inr ⟨32, hq⟩) (.inr ⟨32, hq'⟩) rfl rfl

/-- **A grant is created once.** -/
lemma grants_insert_once {i j : ℕ} {rec rec' : GrantRecord} (hi : R.Calls i (.grantsInsert rec))
    (hj : R.Calls j (.grantsInsert rec')) (h : rec.grantId = rec'.grantId) : i = j := by
  obtain ⟨_, _, _, hd, _, _, _, _, _, q, t, g, _, hq, rfl⟩ := hi.justified
  obtain ⟨_, _, _, hd', _, _, _, _, _, q', t', g', _, hq', rfl⟩ := hj.justified
  obtain rfl : g = g' := h
  exact R.once_after_draw hd hd' (.inl (hq.trans (List.append_assoc q [⟨.now, t⟩] _).symm))
    (.inl (hq'.trans (List.append_assoc q' [⟨.now, t'⟩] _).symm)) rfl rfl

/-- **A code is created once.** -/
lemma codes_insert_once {i j : ℕ} {rec rec' : AuthorizationCodeRecord}
    (hi : R.Calls i (.codesInsert rec)) (hj : R.Calls j (.codesInsert rec'))
    (h : rec.codeHash = rec'.codeHash) : i = j := by
  obtain ⟨_, p, _, hd, _, _, _, _, _, q, t, g, code, _, hq, rfl⟩ := hi.justified
  obtain ⟨_, p', _, hd', _, _, _, _, _, q', t', g', code', _, hq', rfl⟩ := hj.justified
  have hb := hq.trans (List.append_assoc q [_, _, _] [⟨.randomBytes 32, code⟩]).symm
  have hb' := hq'.trans (List.append_assoc q' [_, _, _] [⟨.randomBytes 32, code'⟩]).symm
  exact R.once_after_draw hd hd' (.inr ⟨32, hb⟩) (.inr ⟨32, hb'⟩) h rfl

/-- **An access token is issued once.** -/
lemma accessTokens_insert_once {i j : ℕ} {rec rec' : AccessTokenRecord}
    (hi : R.Calls i (.accessTokensInsert rec)) (hj : R.Calls j (.accessTokensInsert rec'))
    (h : rec.jti = rec'.jti) : i = j := by
  obtain ⟨_, p, _, hd, input, _, q, jti, t, token, hq, rfl⟩ := hi.justified
  obtain ⟨_, p', _, hd', input', _, q', jti', t', token', hq', rfl⟩ := hj.justified
  obtain rfl : jti = jti' := h
  have hb := hq.trans (List.append_assoc q [⟨.randomUUID, jti⟩] [_])
  have hb' := hq'.trans (List.append_assoc q' [⟨.randomUUID, jti⟩] [_])
  exact R.once_after_draw hd hd' (.inl hb) (.inl hb') rfl rfl

/-- **A refresh token is issued once.** -/
lemma refreshTokens_insert_once {i j : ℕ} {rec rec' : RefreshTokenRecord}
    (hi : R.Calls i (.refreshTokensInsert rec)) (hj : R.Calls j (.refreshTokensInsert rec'))
    (h : rec.tokenHash = rec'.tokenHash) : i = j := by
  obtain ⟨_, p, _, hd, _, _, _, _, _, q, token, t, hq, rfl⟩ := hi.justified
  obtain ⟨_, p', _, hd', _, _, _, _, _, q', token', t', hq', rfl⟩ := hj.justified
  exact R.once_after_draw hd hd' (.inr ⟨32, hq⟩) (.inr ⟨32, hq'⟩) h rfl

/-- **An interaction is parked once.** -/
lemma interactions_insert_once {i j : ℕ} {rec rec' : InteractionRecord}
    (hi : R.Calls i (.interactionsInsert rec)) (hj : R.Calls j (.interactionsInsert rec'))
    (h : rec.id = rec'.id) : i = j := by
  obtain ⟨_, _, _, hd, _, _, _, _, _, q, id, t, _, _, hq, rfl⟩ := hi.justified
  obtain ⟨_, _, _, hd', _, _, _, _, _, q', id', t', _, _, hq', rfl⟩ := hj.justified
  obtain rfl : id = id' := h
  exact R.once_after_draw hd hd' (.inl hq) (.inl hq') rfl rfl

/-! ## The record of a key never changes -/

/-- The pushed request of a reference is the same at all times. -/
lemma par_same {i j : ℕ} (hi : i ≤ R.len) (hj : j ≤ R.len) {uri : String} {row row' : ParRow}
    (h : (R.store i).par.get? uri = some row) (h' : (R.store j).par.get? uri = some row') :
    row.record = row'.record := by
  obtain ⟨hu, m, -, hc⟩ := R.par_origin hi h
  obtain ⟨hu', m', -, hc'⟩ := R.par_origin hj h'
  obtain rfl := par_insert_once hc hc' (hu.trans hu'.symm)
  simpa using hc.functional hc'

/-- The grant of an id is the same at all times, but for its revocation. -/
lemma grants_same {i j : ℕ} (hi : i ≤ R.len) (hj : j ≤ R.len) {g : String} {rec rec' : GrantRecord}
    (h : (R.store i).grants.get? g = some rec) (h' : (R.store j).grants.get? g = some rec') :
    rec.fresh = rec'.fresh := by
  obtain ⟨hu, m, -, hc⟩ := R.grants_origin hi h
  obtain ⟨hu', m', -, hc'⟩ := R.grants_origin hj h'
  obtain rfl := grants_insert_once hc hc' (hu.trans hu'.symm)
  simpa using hc.functional hc'

/-- The access token of an id is the same at all times, but for its revocation. -/
lemma accessTokens_same {i j : ℕ} (hi : i ≤ R.len) (hj : j ≤ R.len) {jti : String}
    {rec rec' : AccessTokenRecord} (h : (R.store i).accessTokens.get? jti = some rec)
    (h' : (R.store j).accessTokens.get? jti = some rec') : rec.fresh = rec'.fresh := by
  obtain ⟨hu, m, -, hc⟩ := R.accessTokens_origin hi h
  obtain ⟨hu', m', -, hc'⟩ := R.accessTokens_origin hj h'
  obtain rfl := accessTokens_insert_once hc hc' (hu.trans hu'.symm)
  simpa using hc.functional hc'

/-- The refresh token of a hash is the same at all times, but for its revocation. -/
lemma refreshTokens_same {i j : ℕ} (hi : i ≤ R.len) (hj : j ≤ R.len) {tokenHash : String}
    {rec rec' : RefreshTokenRecord} (h : (R.store i).refreshTokens.get? tokenHash = some rec)
    (h' : (R.store j).refreshTokens.get? tokenHash = some rec') : rec.fresh = rec'.fresh := by
  obtain ⟨hu, m, -, hc⟩ := R.refreshTokens_origin hi h
  obtain ⟨hu', m', -, hc'⟩ := R.refreshTokens_origin hj h'
  obtain rfl := refreshTokens_insert_once hc hc' (hu.trans hu'.symm)
  simpa using hc.functional hc'

/-- The parked request of an id is the same at all times, but for its subject. -/
lemma interactions_same {i j : ℕ} (hi : i ≤ R.len) (hj : j ≤ R.len) {id : String}
    {row row' : InteractionRow} (h : (R.store i).interactions.get? id = some row)
    (h' : (R.store j).interactions.get? id = some row') :
    row.record.fresh = row'.record.fresh := by
  obtain ⟨hu, m, -, hc⟩ := R.interactions_origin hi h
  obtain ⟨hu', m', -, hc'⟩ := R.interactions_origin hj h'
  obtain rfl := interactions_insert_once hc hc' (hu.trans hu'.symm)
  simpa using hc.functional hc'

variable (R)

/-- A grant stays in the table. -/
lemma grants_stay {i j : ℕ} (hij : i ≤ j) (hj : j ≤ R.len) {g : String} {rec : GrantRecord}
    (h : (R.store i).grants.get? g = some rec) :
    ∃ rec', (R.store j).grants.get? g = some rec' ∧ rec'.fresh = rec.fresh := by
  have hstay : ((R.store j).grants.get? g).isSome = true := by
    refine R.stays (P := fun w => (w.store.grants.get? g).isSome = true) hij
      (Option.isSome_iff_exists.mpr ⟨rec, h⟩) fun k _ hk ih => ?_
    change ((R.store (k + 1)).grants.get? g).isSome = true
    rcases R.grants_step (i := k) (by omega) g with hs | ⟨rec', -, -, hs⟩ | ⟨t, -, hs⟩
    · exact hs ▸ ih
    · rw [hs]
      rfl
    · rw [hs, Option.isSome_map]
      exact ih
  obtain ⟨rec', hrec'⟩ := Option.isSome_iff_exists.mp hstay
  exact ⟨rec', hrec', grants_same hj (by omega) hrec' h⟩

/-- An access token stays in the table. -/
lemma accessTokens_stay {i j : ℕ} (hij : i ≤ j) (hj : j ≤ R.len) {jti : String}
    {rec : AccessTokenRecord} (h : (R.store i).accessTokens.get? jti = some rec) :
    ∃ rec', (R.store j).accessTokens.get? jti = some rec' ∧ rec'.fresh = rec.fresh := by
  have hstay : ((R.store j).accessTokens.get? jti).isSome = true := by
    refine R.stays (P := fun w => (w.store.accessTokens.get? jti).isSome = true) hij
      (Option.isSome_iff_exists.mpr ⟨rec, h⟩) fun k _ hk ih => ?_
    change ((R.store (k + 1)).accessTokens.get? jti).isSome = true
    rcases R.accessTokens_step (i := k) (by omega) jti with
      hs | ⟨rec', -, -, hs⟩ | ⟨t, rec', -, -, hs⟩
    · exact hs ▸ ih
    · rw [hs]
      rfl
    · rw [hs]
      rfl
  obtain ⟨rec', hrec'⟩ := Option.isSome_iff_exists.mp hstay
  exact ⟨rec', hrec', accessTokens_same hj (by omega) hrec' h⟩

/-- A refresh token stays in the table. -/
lemma refreshTokens_stay {i j : ℕ} (hij : i ≤ j) (hj : j ≤ R.len) {tokenHash : String}
    {rec : RefreshTokenRecord} (h : (R.store i).refreshTokens.get? tokenHash = some rec) :
    ∃ rec', (R.store j).refreshTokens.get? tokenHash = some rec' ∧ rec'.fresh = rec.fresh := by
  have hstay : ((R.store j).refreshTokens.get? tokenHash).isSome = true := by
    refine R.stays (P := fun w => (w.store.refreshTokens.get? tokenHash).isSome = true) hij
      (Option.isSome_iff_exists.mpr ⟨rec, h⟩) fun k _ hk ih => ?_
    change ((R.store (k + 1)).refreshTokens.get? tokenHash).isSome = true
    rcases R.refreshTokens_step (i := k) (by omega) tokenHash with
      hs | ⟨rec', -, -, hs⟩ | ⟨t, rec', -, -, hs⟩
    · exact hs ▸ ih
    · rw [hs]
      rfl
    · rw [hs]
      rfl
  obtain ⟨rec', hrec'⟩ := Option.isSome_iff_exists.mp hstay
  exact ⟨rec', hrec', refreshTokens_same hj (by omega) hrec' h⟩

/-- A grant that a process found is in the table from then on. -/
lemma grant_found {i j pid : ℕ} {p : Proc (server P config backend)} (hji : j ≤ i) (hi : i ≤ R.len)
    (hp : R.proc j pid = some p) {id : String} {grant : GrantRecord}
    (h : ⟨.db (.grantsFind id), .ok (some grant)⟩ ∈ p.past) :
    grant.grantId = id ∧ ∃ g, (R.store i).grants.get? id = some g ∧ g.fresh = grant.fresh := by
  obtain ⟨k, hk, q, hd, -⟩ := R.did (by omega) hp h
  have hrow := (R.carried hd).grantsFind
  exact ⟨(R.grants_origin (by omega) hrow).1, R.grants_stay (by omega) hi hrow⟩

/-! ## Clients -/

/-- A client is registered under its own identifier. -/
lemma clients_keyed {i : ℕ} (hi : i ≤ R.len) {id : String} {rec : ClientRecord}
    (h : (R.store i).clients.get? id = some rec) : rec.clientId = id := by
  refine R.stays (P := fun w => ∀ rec, w.store.clients.get? id = some rec → rec.clientId = id)
    (Nat.zero_le i) (fun rec h => ?_) (fun j _ hj hP rec h => ?_) rec h
  · rw [R.world_zero] at h
    exact R.isStart.clients id rec h
  · change (R.store (j + 1)).clients.get? id = some rec at h
    cases R.store_step (i := j) (by omega) with
    | same hs => exact hP rec (by rw [hs] at h; exact h)
    | query _ _ _ _ _ he => exact hP rec (by rw [he.clients] at h; exact h)
    | register rec' _ hs =>
      rw [hs] at h
      change (((R.store j).clients.set rec'.clientId rec').get? id) = some rec at h
      rw [Map.get?_set] at h
      split_ifs at h with hid
      · rw [← Option.some.inj h, hid]
      · exact hP rec h

/-- A client that a process loaded was registered at that time. -/
lemma loaded_registered {i pid : ℕ} {p : Proc (server P config backend)} (hi : i ≤ R.len)
    (hp : R.proc i pid = some p) {id : String} {client : Client} (h : Loaded P id client p.past) :
    ∃ j < i, ∃ rec, (R.store j).clients.get? id = some rec ∧ rec.toClient P = .ok client := by
  obtain ⟨rec, hmem, hrec⟩ := h
  obtain ⟨j, hj, q, hd, -⟩ := R.did hi hp hmem
  exact ⟨j, hj, rec, (R.carried hd).clientsFindById, hrec⟩

/-- **A client is loaded under its own identifier.** -/
lemma loaded_clientId {i pid : ℕ} {p : Proc (server P config backend)} (hi : i ≤ R.len)
    (hp : R.proc i pid = some p) {id : String} {client : Client} (h : Loaded P id client p.past) :
    client.clientId = id := by
  obtain ⟨j, hj, rec, hr, hc⟩ := R.loaded_registered hi hp h
  rw [← R.clients_keyed (by omega) hr, rec.toClient_clientId hc]

/-! ## Pushed requests -/

/-- **A pushed request that a process read was stored by an earlier push** of the client that it
names. -/
lemma read_pushed {i pid : ℕ} {p : Proc (server P config backend)} (hi : i ≤ R.len)
    (hp : R.proc i pid = some p) {uri : String} {pushed : ParRequestRecord} {client : Client}
    {request : ValidatedAuthorizationRequest} (h : RequestRead P p.past uri pushed client request) :
    pushed.requestUri = uri ∧ client.clientId = pushed.clientId ∧
      ∃ j < i, ∃ pid' p', R.Does j pid' p' ⟨.db (.parInsert pushed), .ok ()⟩ ∧
        PushStores P config p'.req p'.past pushed := by
  obtain ⟨t, hmem⟩ := h.peeked
  obtain ⟨j, hj, q, hd, -⟩ := R.did hi hp hmem
  obtain ⟨row, hrow, rfl, -⟩ := (R.carried hd).parPeek
  obtain ⟨hu, k, hk, hc⟩ := R.par_origin (by omega) hrow
  obtain ⟨pid', p', _, hd', hj'⟩ := hc.justified
  exact ⟨hu, R.loaded_clientId hi hp h.loaded, k, by omega, pid', p', hd', hj'⟩

end ServerRun

end Fapi2As
