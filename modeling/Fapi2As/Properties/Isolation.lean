import Fapi2As.Properties.GrantTypes
import Fapi2As.Properties.Lineage

set_option relaxedAutoImplicit false
set_option autoImplicit false

/-!
# What others can change

A request acts for a client: for the one that it authenticates, or for the one whose pushed request
it decides about. It leaves the rows of every other client alone, in all tables, with one exception:
a request that presents a code can change that code and the rows of its grant, before the code is
found to belong to another client.

## Main definitions

* `Fapi2As.Untouched` — the rows of a client are the same, but for those of certain grants.
* `Fapi2As.ServerRun.ActsForOthers` — a request acts for other clients.
* `Fapi2As.ServerRun.PresentsCode`, `Fapi2As.ServerRun.PresentsCodeOf` — a request presents a code,
  a code of a grant.
* `Fapi2As.ServerRun.ReplaysCodeOf` — a request has been told that its code was redeemed before.

## Main results

* `Fapi2As.ServerRun.step_untouched` — what a step of a request leaves alone.
* `Fapi2As.ServerRun.others_untouched` — what any number of requests leave alone.
-/

namespace Fapi2As

open Js Async

/-! ## Revocation -/

@[simp] lemma AccessTokenRecord.clientId_revoke (rec : AccessTokenRecord) (t : ℕ) :
    (rec.revoke t).clientId = rec.clientId := by
  unfold revoke
  split_ifs <;> rfl

@[simp] lemma AccessTokenRecord.grantId_revoke (rec : AccessTokenRecord) (t : ℕ) :
    (rec.revoke t).grantId = rec.grantId := by
  unfold revoke
  split_ifs <;> rfl

@[simp] lemma RefreshTokenRecord.clientId_revoke (rec : RefreshTokenRecord) (t : ℕ) :
    (rec.revoke t).clientId = rec.clientId := by
  unfold revoke
  split_ifs <;> rfl

@[simp] lemma RefreshTokenRecord.grantId_revoke (rec : RefreshTokenRecord) (t : ℕ) :
    (rec.revoke t).grantId = rec.grantId := by
  unfold revoke
  split_ifs <;> rfl

/-! ## Equal rows -/

section

variable {κ ρ : Type} [DecidableEq κ]

/-- The rows of one kind are the same in two tables. -/
def SameRows (S : ρ → Prop) (m m' : Map κ ρ) : Prop :=
  ∀ k r, S r → (m'.get? k = some r ↔ m.get? k = some r)

variable {S S' : ρ → Prop} {m m' m'' : Map κ ρ}

lemma SameRows.refl (S : ρ → Prop) (m : Map κ ρ) : SameRows S m m := fun _ _ _ => Iff.rfl

lemma SameRows.symm (h : SameRows S m m') : SameRows S m' m := fun k r hr => (h k r hr).symm

lemma SameRows.trans (h : SameRows S m m') (h' : SameRows S m' m'') : SameRows S m m'' :=
  fun k r hr => (h' k r hr).trans (h k r hr)

lemma SameRows.mono (h : SameRows S m m') (hS : ∀ r, S' r → S r) : SameRows S' m m' :=
  fun k r hr => h k r (hS r hr)

/-- The rows of one kind are the same when the rows that change are of another kind. -/
lemma SameRows.of_changed (h : ∀ k, m'.get? k = m.get? k ∨
    (∀ r, m.get? k = some r → ¬S r) ∧ ∀ r, m'.get? k = some r → ¬S r) : SameRows S m m' := by
  intro k r hr
  rcases h k with heq | ⟨hold, hnew⟩
  · rw [heq]
  · exact iff_of_false (fun h => hnew r h hr) fun h => hold r h hr

/-- Tables without rows of the kind have the same ones. -/
lemma SameRows.of_forall_not (h : ∀ r ∈ m.values, ¬S r) (h' : ∀ r ∈ m'.values, ¬S r) :
    SameRows S m m' :=
  fun _ _ hr => iff_of_false (fun hk => h' _ (Map.mem_values hk) hr) fun hk =>
    h _ (Map.mem_values hk) hr

/-- The rows of one kind stay the same when all rows are changed alike, and none changes its kind.
-/
lemma SameRows.mapVals {f : κ → ρ → ρ} (h : SameRows S m m') (hf : ∀ k r, S (f k r) ↔ S r) :
    SameRows S (m.mapVals f) (m'.mapVals f) := by
  have hone : ∀ {m m' : Map κ ρ}, SameRows S m m' → ∀ k r, S r →
      (m'.mapVals f).get? k = some r → (m.mapVals f).get? k = some r := by
    intro m m' h k r hr hk
    rw [Map.get?_mapVals] at hk ⊢
    obtain ⟨u, hu, rfl⟩ := Option.map_eq_some_iff.mp hk
    rw [(h k u ((hf k u).mp hr)).mp hu]
    rfl
  exact fun k r hr => ⟨hone h k r hr, hone h.symm k r hr⟩

@[inherit_doc SameRows.mapVals]
lemma SameRows.modify {f : ρ → ρ} (h : SameRows S m m') (k : κ) (hf : ∀ r, S (f r) ↔ S r) :
    SameRows S (m.modify k f) (m'.modify k f) := by
  refine h.mapVals fun k' r => ?_
  split_ifs
  · exact hf r
  · exact Iff.rfl

end

/-- **The rows of a client are the same**, but for those of certain grants. -/
structure Untouched (v : String) (G : String → Prop) (s s' : Store) : Prop where
  par : SameRows (fun row : ParRow => row.record.clientId = v) s.par s'.par
  grants : SameRows (fun rec : GrantRecord => rec.clientId = v ∧ ¬G rec.grantId) s.grants s'.grants
  codes : SameRows (fun row : CodeRow => row.record.clientId = v ∧ ¬G row.record.grantId)
    s.codes s'.codes
  accessTokens : SameRows (fun rec : AccessTokenRecord => rec.clientId = v ∧ ¬G rec.grantId)
    s.accessTokens s'.accessTokens
  refreshTokens : SameRows (fun rec : RefreshTokenRecord => rec.clientId = v ∧ ¬G rec.grantId)
    s.refreshTokens s'.refreshTokens

section

variable {v : String} {G G' : String → Prop} {s s' s'' : Store}

lemma Untouched.refl (s : Store) : Untouched v G s s :=
  ⟨.refl _ _, .refl _ _, .refl _ _, .refl _ _, .refl _ _⟩

lemma Untouched.trans (h : Untouched v G s s') (h' : Untouched v G s' s'') : Untouched v G s s'' :=
  ⟨h.par.trans h'.par, h.grants.trans h'.grants, h.codes.trans h'.codes,
    h.accessTokens.trans h'.accessTokens, h.refreshTokens.trans h'.refreshTokens⟩

lemma Untouched.mono (h : Untouched v G s s') (hG : ∀ g, G g → G' g) : Untouched v G' s s' :=
  ⟨h.par, h.grants.mono fun _ hr => ⟨hr.1, fun hg => hr.2 (hG _ hg)⟩,
    h.codes.mono fun _ hr => ⟨hr.1, fun hg => hr.2 (hG _ hg)⟩,
    h.accessTokens.mono fun _ hr => ⟨hr.1, fun hg => hr.2 (hG _ hg)⟩,
    h.refreshTokens.mono fun _ hr => ⟨hr.1, fun hg => hr.2 (hG _ hg)⟩⟩

end

namespace ServerRun

variable {P : Platform} {config : AppConfig} {backend : Backend} (R : ServerRun P config backend)

/-- **A request acts for other clients** than `v`: it authenticates no request as `v`, and decides
about no pushed request of `v`. -/
structure ActsForOthers (v : String) (p : Proc (server P config backend)) : Prop where
  authenticates : ∀ client, Authenticated P config p.req.body client p.past → client.clientId ≠ v
  decides : ∀ uri client request session ua,
    Authorizes P config p.req p.past uri client request session ua → client.clientId ≠ v

/-- A request presents a code of a grant to the token endpoint. -/
def PresentsCodeOf (p : Proc (server P config backend)) (g : String) : Prop :=
  p.req.route = .token ∧ ∃ code, str (p.req.body.get "code") = some code ∧
    ∃ j ≤ R.len, ∃ row, (R.store j).codes.get? (P.sha256Base64Url code) = some row ∧
      row.record.grantId = g

/-- A request presents a code to the token endpoint, of which this is the hash. -/
def PresentsCode (p : Proc (server P config backend)) (codeHash : String) : Prop :=
  p.req.route = .token ∧ ∃ code, str (p.req.body.get "code") = some code ∧
    P.sha256Base64Url code = codeHash

/-- A request was told that the code it presents, one of the grant, has been redeemed before. -/
def ReplaysCodeOf (p : Proc (server P config backend)) (g : String) : Prop :=
  p.req.route = .token ∧ ∃ code, str (p.req.body.get "code") = some code ∧ ∃ t record,
    ⟨.db (.codesRedeem (P.sha256Base64Url code) t), .ok (.consumed record)⟩ ∈ p.past ∧
      record.grantId = g

variable {R} {i pid : ℕ} {p : Proc (server P config backend)} {ev : Event} {v : String}

/-- The call of a step is made by the request that steps. -/
lemma Calls.of_does (hd : R.Does i pid p ev) {q : Query} (h : R.Calls i q) :
    (∃ a, R.Does i pid p ⟨.db q, .ok a⟩) ∧ Justified P config p.req p.past (.db q) := by
  obtain ⟨pid', p', a, hd'⟩ := h
  obtain ⟨rfl, rfl, rfl⟩ := hd.functional hd'
  exact ⟨⟨a, hd⟩, R.justified hd⟩

/-- A pushed request that is stored or consumed is not of another client. -/
lemma par_untouched (hd : R.Does i pid p ev) (hacts : ActsForOthers v p) :
    SameRows (fun row : ParRow => row.record.clientId = v) (R.store i).par
    (R.store (i + 1)).par := by
  have hi := Nat.le_of_lt hd.lt
  refine .of_changed fun uri => ?_
  rcases R.par_step hd.lt uri with hs | ⟨rec, hc, huri, hs⟩ | ⟨t, row, hc, hrow, -, hs⟩
  · exact .inl hs
  · obtain ⟨-, -, client, _, hauth, -, _, _, _, _, _, -, -, -, hrec⟩ := hc.of_does hd
    refine .inr ⟨fun row hrow _ => ?_, fun row hrow hv => ?_⟩
    · obtain ⟨hu, j, hj, hc'⟩ := R.par_origin hi hrow
      have hji := par_insert_once hc' hc (hu.trans huri.symm)
      omega
    · obtain rfl := Option.some.inj (hs.symm.trans hrow)
      refine hacts.authenticates client hauth ?_
      rw [← hv]
      exact (congrArg ParRequestRecord.clientId hrec).symm
  · obtain ⟨-, client, request, session, ua, hauth⟩ := hc.of_does hd
    obtain ⟨pushed, hread⟩ := hauth.read
    obtain ⟨huri, hname, j, hj, pid', push, hpush, -⟩ := R.read_pushed hi hd.proc hread
    obtain ⟨hu, m, hm, hc'⟩ := R.par_origin hi hrow
    obtain rfl := par_insert_once hc' ⟨pid', push, (), hpush⟩ (hu.trans huri.symm)
    have hsame : row.record = pushed := Query.parInsert.inj (hc'.functional ⟨pid', push, (), hpush⟩)
    have hclient : row.record.clientId ≠ v := by
      rw [hsame, ← hname]
      exact hacts.decides uri client request session ua hauth
    refine .inr ⟨fun row' hrow' => ?_, fun row' hrow' => ?_⟩
    · rwa [← Option.some.inj (hrow.symm.trans hrow')]
    · rwa [← Option.some.inj (hs.symm.trans hrow')]

/-- What creates a grant or a code decides about a pushed request. -/
lemma ActsForOthers.creates {uri : String} {client : Client} {q : List Event}
    {request : ValidatedAuthorizationRequest} {session : LoginSession} {ua : Option Bool}
    (hacts : ActsForOthers v p) (h : CodeAuthorized P config p.req q uri client request session ua)
    (hq : q <+: p.past) : client.clientId ≠ v := by
  obtain ⟨q₁, t, pushed, rfl, hauth, -⟩ := h
  exact hacts.decides _ _ _ _ _ (hauth.mono ((List.prefix_append _ _).trans hq))

/-- A code that a request presents is one of a grant, when it is in the table. -/
lemma PresentsCode.presentsCodeOf {codeHash : String} (h : PresentsCode p codeHash) (hi : i ≤ R.len)
    {row : CodeRow} (hrow : (R.store i).codes.get? codeHash = some row) :
    R.PresentsCodeOf p row.record.grantId := by
  obtain ⟨hroute, code, hcode, rfl⟩ := h
  exact ⟨hroute, code, hcode, i, hi, row, hrow, rfl⟩

/-- A replayed code is a code of its grant. -/
lemma ReplaysCodeOf.presentsCodeOf {g : String} (h : ReplaysCodeOf p g) (hi : i ≤ R.len)
    (hp : R.proc i pid = some p) : R.PresentsCodeOf p g := by
  obtain ⟨hroute, code, hcode, t, record, hmem, rfl⟩ := h
  obtain ⟨j, hj, q, hd, -⟩ := R.did hi hp hmem
  obtain ⟨row, hrow, rfl, -⟩ := (R.carried hd).codesRedeem
  exact ⟨hroute, code, hcode, j, by omega, row, hrow, rfl⟩

/-- A grant that is created or revoked is not of another client, or a code of it is replayed. -/
lemma grants_untouched (hd : R.Does i pid p ev) (hacts : ActsForOthers v p) :
    SameRows (fun rec : GrantRecord => rec.clientId = v ∧ ¬ReplaysCodeOf p rec.grantId)
      (R.store i).grants (R.store (i + 1)).grants := by
  have hi := Nat.le_of_lt hd.lt
  refine .of_changed fun g => ?_
  rcases R.grants_step hd.lt g with hs | ⟨rec, hc, hg, hs⟩ | ⟨t, hc, hs⟩
  · exact .inl hs
  · obtain ⟨-, uri, client, request, session, ua, q₀, t, gid, hauth, hpast, hrec⟩ := hc.of_does hd
    refine .inr ⟨fun rec' hrec' _ => ?_, fun rec' hrec' hv => ?_⟩
    · obtain ⟨hkey, j, hj, hc'⟩ := R.grants_origin hi hrec'
      have hji := grants_insert_once hc' hc (hkey.trans hg.symm)
      omega
    · obtain rfl := Option.some.inj (hs.symm.trans hrec')
      refine hacts.creates hauth (hpast ▸ List.prefix_append _ _) ?_
      rw [← hv.1]
      exact (congrArg GrantRecord.clientId hrec).symm
  · obtain ⟨-, hrevokes⟩ := hc.of_does hd
    have hreplays : ReplaysCodeOf p g := by
      cases hrevokes with
      | replay client jkt code _ h hcode ho =>
        cases ho with
        | grant record now _ hmem => exact ⟨h.route, code, hcode, _, record, hmem, rfl⟩
    refine .inr ⟨fun rec hrec h => ?_, fun rec hrec h => ?_⟩
    · rw [(R.grants_origin hi hrec).1] at h
      exact h.2 hreplays
    · rw [(R.grants_origin hd.lt hrec).1] at h
      exact h.2 hreplays

/-- A code that is created is not of another client, and a code that is redeemed is presented. -/
lemma codes_untouched (hd : R.Does i pid p ev) (hacts : ActsForOthers v p) :
    SameRows (fun row : CodeRow => row.record.clientId = v ∧ ¬PresentsCode p row.record.codeHash)
      (R.store i).codes (R.store (i + 1)).codes := by
  have hi := Nat.le_of_lt hd.lt
  refine .of_changed fun codeHash => ?_
  rcases R.codes_step hd.lt codeHash with hs | ⟨rec, hc, hh, hs⟩ | ⟨t, row, hc, hrow, -, hs⟩
  · exact .inl hs
  · obtain ⟨-, uri, client, request, session, ua, q₀, t, gid, code, hauth, hpast, hrec⟩ :=
      hc.of_does hd
    refine .inr ⟨fun row hrow _ => ?_, fun row hrow hv => ?_⟩
    · obtain ⟨hkey, j, hj, hc'⟩ := R.codes_origin hi hrow
      have hji := codes_insert_once hc' hc (hkey.trans hh.symm)
      omega
    · obtain rfl := Option.some.inj (hs.symm.trans hrow)
      refine hacts.creates hauth (hpast ▸ List.prefix_append _ _) ?_
      rw [← hv.1]
      exact (congrArg AuthorizationCodeRecord.clientId hrec).symm
  · obtain ⟨-, client, jkt, code, h, hcode, rfl⟩ := hc.of_does hd
    have hpresents : PresentsCode p row.record.codeHash :=
      ⟨h.route, code, hcode, ((R.codes_origin hi hrow).1).symm⟩
    refine .inr ⟨fun row' hrow' hv => ?_, fun row' hrow' hv => ?_⟩
    · obtain rfl := Option.some.inj (hrow.symm.trans hrow')
      exact hv.2 hpresents
    · obtain rfl := Option.some.inj (hs.symm.trans hrow')
      exact hv.2 hpresents

/-- A row that was found by an earlier call of the request has the client that it has now. -/
lemma accessToken_found (hi : i ≤ R.len) (hp : R.proc i pid = some p) {token : String}
    {record rec : AccessTokenRecord} (h : AccessTokenFound P config token record p.past)
    (hrec : (R.store i).accessTokens.get? record.jti = some rec) :
    rec.clientId = record.clientId := by
  obtain ⟨_, jti, -, -, hmem⟩ := h
  obtain ⟨j, hj, q, hd, -⟩ := R.did hi hp hmem
  have hrow := (R.carried hd).accessTokensFindByJti
  have hkey := (R.accessTokens_origin (by omega) hrow).1
  have hsame := accessTokens_same (by omega) hi hrow (hkey ▸ hrec)
  exact (congrArg AccessTokenRecord.clientId hsame).symm

/-- A revocation of access tokens by their grant is of a grant of another client, or a code of it is
replayed. -/
lemma cascade_untouched (hthumb : ∀ jwk k, P.calculateJwkThumbprint jwk = some k → k ≠ "")
    (hi : i ≤ R.len) (hp : R.proc i pid = some p) (hacts : ActsForOthers v p)
    {rec : AccessTokenRecord}
    {jti : String} (hrow : (R.store i).accessTokens.get? jti = some rec) {t : ℕ}
    (h : Revokes P config p.req p.past (.db (.accessTokensRevokeByGrant rec.grantId t))) :
    ¬(rec.clientId = v ∧ ¬ReplaysCodeOf p rec.grantId) := by
  rintro ⟨hv, hno⟩
  generalize hg : rec.grantId = g at h
  cases h with
  | replay client jkt code _ h hcode ho =>
    cases ho with
    | accessTokens record now _ hmem _ =>
      exact hno (hg ▸ ⟨h.route, code, hcode, _, record, hmem, rfl⟩)
  | cascade record _ h =>
    -- the refresh token that is revoked and the access token have the client of their grant
    obtain ⟨-, client, token, hauth, -, hresolves, howner⟩ := h
    cases hresolves with
    | refreshToken _ hmem =>
      obtain ⟨j, hj, q, hd, -⟩ := R.did hi hp hmem
      have hfound := (R.carried hd).refreshTokensFindByHash
      obtain ⟨grant, hgrant, hclient, -⟩ := refresh_lineage hthumb (by omega) hfound
      obtain ⟨grant', hgrant', hclient', -⟩ := access_lineage hthumb hi hrow
      rw [hg] at hgrant'
      have hsame := grants_same (by omega) hi hgrant hgrant'
      refine hacts.authenticates client hauth ?_
      rw [← hv, hclient', ← (GrantRecord.eq_of_fresh hsame).1, ← hclient]
      exact howner.symm

/-- An access token that is issued or revoked is not of another client, or a code of its grant is
replayed. -/
lemma accessTokens_untouched (hthumb : ∀ jwk k, P.calculateJwkThumbprint jwk = some k → k ≠ "")
    (hd : R.Does i pid p ev) (hacts : ActsForOthers v p) :
    SameRows (fun rec : AccessTokenRecord => rec.clientId = v ∧ ¬ReplaysCodeOf p rec.grantId)
      (R.store i).accessTokens (R.store (i + 1)).accessTokens := by
  have hi := Nat.le_of_lt hd.lt
  refine .of_changed fun jti => ?_
  rcases R.accessTokens_step hd.lt jti with hs | ⟨rec, hc, hj, hs⟩ | ⟨t, rec, hc, hrow, hs⟩
  · exact .inl hs
  · obtain ⟨-, input, hx, _, _, t, token, -, hrec⟩ := hc.of_does hd
    refine .inr ⟨fun rec' hrec' _ => ?_, fun rec' hrec' hv => ?_⟩
    · obtain ⟨hkey, j, hj', hc'⟩ := R.accessTokens_origin hi hrec'
      have hji := accessTokens_insert_once hc' hc (hkey.trans hj.symm)
      omega
    · obtain rfl := Option.some.inj (hs.symm.trans hrec')
      have hclient : rec.clientId = input.clientId := congrArg AccessTokenRecord.clientId hrec
      rw [hclient] at hv
      cases hx with
      | code client jkt record grant hx => exact hacts.authenticates client hx.1.client hv.1
      | refresh client jkt scope rt grant hx => exact hacts.authenticates client hx.1.client hv.1
  · have hold : ¬(rec.clientId = v ∧ ¬ReplaysCodeOf p rec.grantId) := by
      rcases hc with hc | hc
      · obtain ⟨-, hrevokes⟩ := hc.of_does hd
        have hkey := (R.accessTokens_origin hi hrow).1
        subst hkey
        rintro ⟨hv, -⟩
        generalize hj : rec.jti = jti at hrevokes
        cases hrevokes with
        | replay client jkt code _ h hcode ho => cases ho
        | accessToken record _ h =>
          obtain ⟨-, client, token, hauth, -, hresolves, howner⟩ := h
          cases hresolves with
          | accessToken _ hfound =>
            refine hacts.authenticates client hauth ?_
            rw [← hv, accessToken_found hi hd.proc hfound (hj ▸ hrow)]
            exact howner.symm
      · exact cascade_untouched hthumb hi hd.proc hacts hrow (hc.of_does hd).2
    refine .inr ⟨fun rec' hrec' => ?_, fun rec' hrec' => ?_⟩
    · rwa [← Option.some.inj (hrow.symm.trans hrec')]
    · rw [← Option.some.inj (hs.symm.trans hrec')]
      rwa [rec.clientId_revoke, rec.grantId_revoke]

/-- A refresh token that is issued or revoked is not of another client, or a code of its grant is
replayed. -/
lemma refreshTokens_untouched (hd : R.Does i pid p ev) (hacts : ActsForOthers v p) :
    SameRows (fun rec : RefreshTokenRecord => rec.clientId = v ∧ ¬ReplaysCodeOf p rec.grantId)
      (R.store i).refreshTokens (R.store (i + 1)).refreshTokens := by
  have hi := Nat.le_of_lt hd.lt
  refine .of_changed fun tokenHash => ?_
  rcases R.refreshTokens_step hd.lt tokenHash with hs | ⟨rec, hc, hh, hs⟩ | ⟨t, rec, hc, hrow, hs⟩
  · exact .inl hs
  · obtain ⟨-, client, jkt, record, grant, hx, _, token, t, -, hrec⟩ := hc.of_does hd
    refine .inr ⟨fun rec' hrec' _ => ?_, fun rec' hrec' hv => ?_⟩
    · obtain ⟨hkey, j, hj, hc'⟩ := R.refreshTokens_origin hi hrec'
      have hji := refreshTokens_insert_once hc' hc (hkey.trans hh.symm)
      omega
    · obtain rfl := Option.some.inj (hs.symm.trans hrec')
      refine hacts.authenticates client hx.1.client ?_
      rw [← hv.1]
      exact (congrArg RefreshTokenRecord.clientId hrec).symm
  · have hold : ¬(rec.clientId = v ∧ ¬ReplaysCodeOf p rec.grantId) := by
      rintro ⟨hv, hno⟩
      rcases hc with hc | hc
      · obtain ⟨-, hrevokes⟩ := hc.of_does hd
        generalize hh : tokenHash = th at hrevokes
        cases hrevokes with
        | replay client jkt code _ h hcode ho => cases ho
        | refreshToken record _ h =>
          obtain ⟨-, client, token, hauth, -, hresolves, howner⟩ := h
          cases hresolves with
          | refreshToken _ hmem =>
            obtain ⟨j, hj, q, hd', -⟩ := R.did hi hd.proc hmem
            have hfound := (R.carried hd').refreshTokensFindByHash
            have hkey := (R.refreshTokens_origin (by omega) hfound).1
            have hsame := refreshTokens_same (by omega) hi hfound ((hkey.symm.trans hh.symm) ▸ hrow)
            refine hacts.authenticates client hauth ?_
            have hclient : record.fresh.clientId = rec.fresh.clientId := by rw [hsame]
            rw [← hv]
            exact howner.symm.trans hclient
      · obtain ⟨-, hrevokes⟩ := hc.of_does hd
        generalize hg : rec.grantId = g at hrevokes
        cases hrevokes with
        | replay client jkt code _ h hcode ho =>
          cases ho with
          | refreshTokens record now _ hmem _ _ =>
            exact hno (hg ▸ ⟨h.route, code, hcode, _, record, hmem, rfl⟩)
    refine .inr ⟨fun rec' hrec' => ?_, fun rec' hrec' => ?_⟩
    · rwa [← Option.some.inj (hrow.symm.trans hrec')]
    · rw [← Option.some.inj (hs.symm.trans hrec')]
      rwa [rec.clientId_revoke, rec.grantId_revoke]

/-- **What a step of a request leaves alone**: the rows of the clients that it does not act for, but
for the grants of a code that it presents. -/
lemma step_untouched (hthumb : ∀ jwk k, P.calculateJwkThumbprint jwk = some k → k ≠ "")
    (hd : R.Does i pid p ev) (hacts : ActsForOthers v p) :
    Untouched v (R.PresentsCodeOf p) (R.store i) (R.store (i + 1)) := by
  have hi := Nat.le_of_lt hd.lt
  have hreplays : ∀ g, ¬R.PresentsCodeOf p g → ¬ReplaysCodeOf p g :=
    fun g hno h => hno (h.presentsCodeOf hi hd.proc)
  have hcode : ∀ {k codeHash row}, k ≤ R.len → (R.store k).codes.get? codeHash = some row →
      ¬R.PresentsCodeOf p row.record.grantId → ¬PresentsCode p row.record.codeHash :=
    fun hk hrow hno h => hno (h.presentsCodeOf hk ((R.codes_origin hk hrow).1 ▸ hrow))
  have hcodes := codes_untouched hd hacts
  exact ⟨par_untouched hd hacts,
    (grants_untouched hd hacts).mono fun _ hr => ⟨hr.1, hreplays _ hr.2⟩,
    fun h row hr => ⟨fun hrow => (hcodes h row ⟨hr.1, hcode hd.lt hrow hr.2⟩).mp hrow,
      fun hrow => (hcodes h row ⟨hr.1, hcode hi hrow hr.2⟩).mpr hrow⟩,
    (accessTokens_untouched hthumb hd hacts).mono fun _ hr => ⟨hr.1, hreplays _ hr.2⟩,
    (refreshTokens_untouched hd hacts).mono fun _ hr => ⟨hr.1, hreplays _ hr.2⟩⟩

/-- **Other clients are isolated**: while all requests that take a step act for other clients, the
pushed requests, grants, codes and tokens of a client stay as they are, but for the grants of which
one of these requests presents a code.

**Proof sketch.** A step of a request changes rows of the client that it acts for
(`step_untouched`): what it inserts is its own, what it revokes was found to be its own, and a
cascade stays within a grant, all whose rows have the client of the grant. A step without a request
changes no row. -/
theorem others_untouched (hthumb : ∀ jwk k, P.calculateJwkThumbprint jwk = some k → k ≠ "") {j : ℕ}
    (hij : i ≤ j) (hj : j ≤ R.len)
    (hacts : ∀ m pid p ev, i ≤ m → m < j → R.Does m pid p ev → ActsForOthers v p) :
    Untouched v (fun g => ∃ m pid p ev, i ≤ m ∧ m < j ∧ R.Does m pid p ev ∧ R.PresentsCodeOf p g)
      (R.store i) (R.store j) := by
  induction j, hij using Nat.le_induction with
  | base => exact .refl _
  | succ j hij ih =>
    have hbefore := ih (by omega) fun m pid p ev him hm => hacts m pid p ev him (by omega)
    refine (hbefore.mono ?_).trans ?_
    · rintro g ⟨m, pid, p, ev, him, hm, h⟩
      exact ⟨m, pid, p, ev, him, by omega, h⟩
    · cases R.store_step (i := j) (by omega) with
      | same h =>
        rw [h]
        exact .refl _
      | query pid p q r hd he =>
        refine (step_untouched hthumb hd (hacts j pid p _ hij (by omega) hd)).mono fun g hg => ?_
        exact ⟨j, pid, p, _, hij, by omega, hd, hg⟩
      | register rec _ h =>
        rw [h]
        exact ⟨fun _ _ _ => Iff.rfl, fun _ _ _ => Iff.rfl, fun _ _ _ => Iff.rfl,
          fun _ _ _ => Iff.rfl, fun _ _ _ => Iff.rfl⟩

end ServerRun

namespace Sample

/-! ## A revocation by another client -/

/-- Client `B` asks to revoke the access token of client `A`. -/
def trespass : HttpRequest := form .revoke (authentication "5" ++ [("token", .str "t")]) none

/-- A redemption by client `A`, and the request of client `B`. -/
def trespassing : List (Act system) := redemption ++ .arrive trespass :: calls 3 8

/-- The request of client `B` takes all steps after the redemption and is answered, and the token is
still in the table. -/
def trespassed (t : List (TraceStep system) × Conf system) : Bool :=
  (t.1.drop redemption.length).all (fun s => s.made.all fun m => m.2.1.req = trespass) &&
  (t.1.drop redemption.length).head?.all (fun s =>
    s.before.world.store.accessTokens.get? jti = some accessRow) &&
  t.2.answers 3 (fun req _ reply => req = trespass && reply.status = 200)

set_option maxRecDepth 4000 in
lemma trespass_trace : (system.trace ⟨world, []⟩ trespassing).any trespassed = true := by
  decide +kernel

/-- The run of the two. -/
def trespassRun : ServerRun platform Sample.config .memory :=
  .ofTrace world trespassing world_initial trespassed trespass_trace

/-- The request of client `B` acts for others than client `A`. -/
lemma trespass_acts {p : Proc system} (hp : p.req = trespass) :
    ServerRun.ActsForOthers "A" p where
  authenticates client h := by
    obtain ⟨a, _, _, _, _, ha, -, -, -, hchecked, -⟩ := h
    rw [hp] at ha
    have hB : str (trespass.body.get "client_assertion") = some ".5." := by decide
    obtain rfl := Option.some.inj (hB.symm.trans ha)
    have hsub : (platform.jwtClaims ".5.").get "sub" = some (.str "B") := by decide
    rw [← Json.str.inj (Option.some.inj (hsub.symm.trans hchecked.sub))]
    decide
  decides uri client request session ua h := by
    have hroute : p.req.route = .revoke := by rw [hp]; rfl
    cases h with
    | consent id ctx session t done h => cases hroute.symm.trans h.route
    | silent uri client request session h => cases hroute.symm.trans h.route

/-- The access token of client `A` stays as it is. -/
theorem trespass_untouched :
    (trespassRun.store redemption.length).accessTokens.get? jti = some accessRow ∧
      Untouched "A" (fun g => ∃ m pid p ev, redemption.length ≤ m ∧ m < trespassRun.len ∧
          trespassRun.Does m pid p ev ∧ trespassRun.PresentsCodeOf p g)
        (trespassRun.store redemption.length) (trespassRun.store trespassRun.len) := by
  obtain ⟨⟨steps, last⟩, ht, h⟩ := (Option.any_eq_true _ _).mp trespass_trace
  have ht : trespassRun.HasTrace steps last := ht
  simp only [trespassed, Bool.and_eq_true] at h
  obtain ⟨⟨hmade, hrow⟩, -⟩ := h
  have hlen : redemption.length < trespassRun.len := by decide
  refine ⟨?_, trespassRun.others_untouched thumbprint_ne_empty hlen.le le_rfl ?_⟩
  · obtain ⟨s, hs, hbefore⟩ := ht.conf hlen
    rw [List.head?_drop, hs] at hrow
    rw [ServerRun.store, Run.world, ← hbefore]
    simpa using hrow
  · intro m pid p ev him _ hd
    obtain ⟨s, hs, hm⟩ := hd.traced ht
    refine trespass_acts ?_
    have hmem : s ∈ steps.drop redemption.length := by
      rw [← Nat.sub_add_cancel him, Nat.add_comm, ← List.getElem?_drop] at hs
      exact List.mem_of_getElem? hs
    have hs := List.all_eq_true.mp hmade s hmem
    rw [hm] at hs
    simpa using hs

end Sample

end Fapi2As
