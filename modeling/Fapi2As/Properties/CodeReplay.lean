import Fapi2As.Sample
import Fapi2As.Server.Rows

set_option relaxedAutoImplicit false
set_option autoImplicit false

/-!
# The revocation that a replayed code causes

A code that is presented a second time revokes its grant and the tokens issued from it. The tokens
that are in the tables when the revocations take effect are never accepted again by a request that
looks them up afterwards. A token that another request inserts later is inserted unrevoked.

## Main definitions

* `Fapi2As.ServerRun.ReplayFinished` — a replay has revoked everything and been answered.
* `Fapi2As.ServerRun.ReplayIsFinal` — after a replay no token of the grant is accepted.
* `Fapi2As.ServerRun.NoLateStep` — no token is inserted after the revocations of its table, and
  no reader is still on its way with an unrevoked row.

## Main results

* `Fapi2As.ServerRun.access_revoked_after`, `Fapi2As.ServerRun.refresh_revoked_after` — the rows of
  the grant stay revoked.
* `Fapi2As.ServerRun.replayIsFinal_of_noLateStep` — a replay is final in every run without late
  steps.
-/

namespace Fapi2As

open Js Async

/-- The grant of the token that a lookup found, and when the token was revoked. -/
def tokenFound : Event → Option (String × Option ℕ)
  | ⟨.db (.accessTokensFindByJti _), .ok (some rec)⟩ => some (rec.grantId, rec.revokedAt)
  | ⟨.db (.refreshTokensFindByHash _), .ok (some rec)⟩ => some (rec.grantId, rec.revokedAt)
  | _ => none

/-- The grants of the tokens that the lookups of a request found. -/
def grantsFound (past : List Event) : List String :=
  past.filterMap fun e => (tokenFound e).map Prod.fst

/-- A reply accepts the token of its request: introspection reports it as active, the userinfo
endpoint names its subject, or the refresh-token grant answers with tokens. -/
def AcceptsToken (req : HttpRequest) (reply : Reply) : Prop :=
  (req.route = .introspect ∧ ∃ rest, reply.body = .json (("active", .bool true) :: rest)) ∨
    (req.route = .userinfo ∧ ∃ subject, reply.body = .json [("sub", .str subject)]) ∨
    (req.route = .token ∧ str (req.body.get "grant_type") = some "refresh_token" ∧
      ∃ token rest, reply.body = .json (("access_token", token) :: rest))

namespace ServerRun

section

variable {P : Platform} {config : AppConfig} {backend : Backend} (R : ServerRun P config backend)

/-- A request that presented a used code of the grant has finished its revocations and has been
answered with `invalid_grant`. -/
def ReplayFinished (i : ℕ) (g : String) : Prop :=
  ∃ pid req past reply, R.proc i pid = some ⟨req, past, .ret reply⟩ ∧ req.route = .token ∧
    (∃ codeHash t record, record.grantId = g ∧
      ⟨.db (.codesRedeem codeHash t), .ok (.consumed record)⟩ ∈ past) ∧
    (∃ t, ⟨.db (.grantsRevoke g t), .ok ()⟩ ∈ past) ∧
    (∃ t, ⟨.db (.accessTokensRevokeByGrant g t), .ok ()⟩ ∈ past) ∧
    (∃ t, ⟨.db (.refreshTokensRevokeByGrant g t), .ok ()⟩ ∈ past) ∧
    ∃ rest, reply.body = .json (("error", .str "invalid_grant") :: rest)

/-- The request `pid` is answered at time `j` and accepts its token, which is one of the grant: it
found one, and found none of another grant. -/
def Accepted (j pid : ℕ) (g : String) : Prop :=
  ∃ req past reply, R.proc j pid = some ⟨req, past, .ret reply⟩ ∧ AcceptsToken req reply ∧
    grantsFound past ≠ [] ∧ ∀ g' ∈ grantsFound past, g' = g

/-- **After a replay no token of the grant is accepted**: a request that has not been answered when
a replay is finished is never answered with the acceptance of a token of the grant. -/
def ReplayIsFinal : Prop :=
  ∀ i j pid g, R.ReplayFinished i g → i ≤ j → j ≤ R.len → ¬R.IsAnswered i pid → ¬R.Accepted j pid g

/-- A revocation of all access tokens of a grant by a replayed code takes effect at step `m`. -/
def ReplayRevokesAccess (m : ℕ) (g : String) : Prop :=
  ∃ pid p t, R.Does m pid p ⟨.db (.accessTokensRevokeByGrant g t), .ok ()⟩ ∧ p.req.route = .token

/-- A revocation of all refresh tokens of a grant by a replayed code takes effect at step `m`. -/
def ReplayRevokesRefresh (m : ℕ) (g : String) : Prop :=
  ∃ pid p t, R.Does m pid p ⟨.db (.refreshTokensRevokeByGrant g t), .ok ()⟩ ∧ p.req.route = .token

/-- **No step is late**: no token is inserted after a replay has revoked the tokens of its grant,
and no request that has read a token of a grant as unrevoked goes on after a replay of the grant is
finished. -/
structure NoLateStep : Prop where
  /-- No access token is inserted after the revocation of those of its grant. -/
  access : ∀ k rec, R.Calls k (.accessTokensInsert rec) → ∀ m < k,
    ¬R.ReplayRevokesAccess m rec.grantId
  /-- No refresh token is inserted after the revocation of those of its grant. -/
  refresh : ∀ k rec, R.Calls k (.refreshTokensInsert rec) →
    ∀ m < k, ¬R.ReplayRevokesRefresh m rec.grantId
  /-- No reader of an unrevoked token goes on after the replay. -/
  reader : ∀ k pid p e g, R.Does k pid p e → p.req.route ≠ .revoke →
    (∃ f ∈ p.past, tokenFound f = some (g, none)) → ¬R.ReplayFinished k g

variable {R}

/-- A finished replay stays finished. -/
lemma ReplayFinished.mono {i j : ℕ} {g : String} (h : R.ReplayFinished i g) (hij : i ≤ j)
    (hj : j ≤ R.len) : R.ReplayFinished j g := by
  obtain ⟨pid, req, past, reply, hp, h⟩ := h
  exact ⟨pid, req, past, reply, R.proc_stays hij hj hp nofun, h⟩

/-- A revocation of the access tokens of a grant leaves none unrevoked. -/
lemma ReplayRevokesAccess.revoked {m : ℕ} {g : String} (h : R.ReplayRevokesAccess m g)
    {jti : String} {rec : AccessTokenRecord}
    (hrec : (R.store (m + 1)).accessTokens.get? jti = some rec) (hg : rec.grantId = g) :
    rec.revokedAt ≠ none := by
  obtain ⟨pid, p, t, hd, -⟩ := h
  rw [(R.carried hd).accessTokensRevokeByGrant] at hrec
  obtain ⟨rec', -, rfl⟩ := Option.map_eq_some_iff.mp hrec
  split_ifs at hg ⊢ with hg'
  · exact rec'.revokedAt_revoke t
  · exact absurd hg hg'

/-- A revocation of the refresh tokens of a grant leaves none unrevoked. -/
lemma ReplayRevokesRefresh.revoked {m : ℕ} {g : String} (h : R.ReplayRevokesRefresh m g)
    {tokenHash : String} {rec : RefreshTokenRecord}
    (hrec : (R.store (m + 1)).refreshTokens.get? tokenHash = some rec) (hg : rec.grantId = g) :
    rec.revokedAt ≠ none := by
  obtain ⟨pid, p, t, hd, -⟩ := h
  rw [(R.carried hd).refreshTokensRevokeByGrant] at hrec
  obtain ⟨rec', -, rfl⟩ := Option.map_eq_some_iff.mp hrec
  split_ifs at hg ⊢ with hg'
  · exact rec'.revokedAt_revoke t
  · exact absurd hg hg'

/-- **The access tokens of a replayed grant stay revoked**, when none is inserted late. -/
lemma access_revoked_after {m j : ℕ} {g : String} (hl : R.NoLateStep)
    (h : R.ReplayRevokesAccess m g) (hmj : m < j) (hj : j ≤ R.len) {jti : String}
    {rec : AccessTokenRecord} (hrec : (R.store j).accessTokens.get? jti = some rec)
    (hg : rec.grantId = g) : rec.revokedAt ≠ none := by
  refine R.stays (P := fun w => ∀ rec, w.store.accessTokens.get? jti = some rec →
    rec.grantId = g → rec.revokedAt ≠ none) hmj (fun rec => h.revoked)
    (fun k hk hlt ih rec hr hg => ?_)
    rec hrec hg
  change (R.store (k + 1)).accessTokens.get? jti = some rec at hr
  rcases R.accessTokens_step (i := k) (by omega) jti with
    hs | ⟨rec', hc, -, hs⟩ | ⟨t, rec', -, -, hs⟩
  · exact ih rec (hs.symm.trans hr) hg
  · obtain rfl := Option.some.inj (hs.symm.trans hr)
    exact absurd (hg ▸ h) (hl.access k rec' hc m (by omega))
  · obtain rfl := Option.some.inj (hs.symm.trans hr)
    exact rec'.revokedAt_revoke t

/-- **The refresh tokens of a replayed grant stay revoked**, when none is inserted late. -/
lemma refresh_revoked_after {m j : ℕ} {g : String} (hl : R.NoLateStep)
    (h : R.ReplayRevokesRefresh m g) (hmj : m < j) (hj : j ≤ R.len) {tokenHash : String}
    {rec : RefreshTokenRecord} (hrec : (R.store j).refreshTokens.get? tokenHash = some rec)
    (hg : rec.grantId = g) : rec.revokedAt ≠ none := by
  refine R.stays (P := fun w => ∀ rec, w.store.refreshTokens.get? tokenHash = some rec →
    rec.grantId = g → rec.revokedAt ≠ none) hmj (fun rec => h.revoked)
    (fun k hk hlt ih rec hr hg => ?_)
    rec hrec hg
  change (R.store (k + 1)).refreshTokens.get? tokenHash = some rec at hr
  rcases R.refreshTokens_step (i := k) (by omega) tokenHash with
    hs | ⟨rec', hc, -, hs⟩ | ⟨t, rec', -, -, hs⟩
  · exact ih rec (hs.symm.trans hr) hg
  · obtain rfl := Option.some.inj (hs.symm.trans hr)
    exact absurd (hg ▸ h) (hl.refresh k rec' hc m (by omega))
  · obtain rfl := Option.some.inj (hs.symm.trans hr)
    exact rec'.revokedAt_revoke t

/-- A lookup that finds an unrevoked token of a replayed grant was made before the replay was
finished, when no token is inserted late. -/
lemma lookup_before_replay {m i pid : ℕ} {p : Proc (server P config backend)} {e : Event}
    {g : String} (hl : R.NoLateStep) (hd : R.Does m pid p e) (he : tokenFound e = some (g, none))
    (hi : i ≤ R.len) (hf : R.ReplayFinished i g) : m < i := by
  obtain ⟨rpid, req, past, reply, hp, hr, -, -, ⟨t, ha⟩, ⟨t', hf⟩, -⟩ := hf
  by_contra hmi
  unfold tokenFound at he
  split at he
  · rename_i jti rec
    obtain ⟨hg, hrev⟩ := Prod.mk.inj (Option.some.inj he)
    obtain ⟨k, hk, q, hdk, hq, -⟩ := R.did hi hp ha
    exact access_revoked_after hl ⟨rpid, q, t, hdk, hq ▸ hr⟩ (by omega) (Nat.le_of_lt hd.lt)
      (R.carried hd).accessTokensFindByJti hg hrev
  · rename_i tokenHash rec
    obtain ⟨hg, hrev⟩ := Prod.mk.inj (Option.some.inj he)
    obtain ⟨k, hk, q, hdk, hq, -⟩ := R.did hi hp hf
    exact refresh_revoked_after hl ⟨rpid, q, t', hdk, hq ▸ hr⟩ (by omega) (Nat.le_of_lt hd.lt)
      (R.carried hd).refreshTokensFindByHash hg hrev
  · cases he

/-- A token that a lookup found is one of the found ones. -/
lemma mem_grantsFound {past : List Event} {e : Event} {x : String × Option ℕ} (he : e ∈ past)
    (h : tokenFound e = some x) : x.1 ∈ grantsFound past :=
  List.mem_filterMap.mpr ⟨e, he, by rw [h]; rfl⟩

/-- A request that accepts a token of a grant has found one that was not revoked, and is no
revocation request. -/
lemma Accepted.unrevoked {j pid : ℕ} {g : String} (h : R.Accepted j pid g) (hj : j ≤ R.len) :
    ∃ req past reply, R.proc j pid = some ⟨req, past, .ret reply⟩ ∧ req.route ≠ .revoke ∧
      ∃ e ∈ past, tokenFound e = some (g, none) := by
  obtain ⟨req, past, reply, hp, hacc, -, honly⟩ := h
  have ha := R.reply hj hp
  have hkey : ∀ e ∈ past, ∀ g', tokenFound e = some (g', none) →
      ∃ e ∈ past, tokenFound e = some (g, none) := fun e he g' h =>
    ⟨e, he, honly g' (mem_grantsFound he h) ▸ h⟩
  refine ⟨req, past, reply, hp, ?_, ?_⟩
  · rcases hacc with ⟨h, -⟩ | ⟨h, -⟩ | ⟨h, -⟩ <;> simp [h]
  · rcases hacc with ⟨hr, rest, hb⟩ | ⟨hr, subject, hb⟩ | ⟨hr, hgt, token, rest, hb⟩
    · obtain ⟨resolved, -, ⟨token, -, hres⟩, hrev⟩ := ha.introspect hr rest hb
      cases hres with
      | accessToken record hfound =>
        obtain ⟨keys, jti, -, -, hmem⟩ := hfound
        exact hkey _ hmem record.grantId (congrArg (fun v => some (_, v)) hrev)
      | refreshToken record hmem =>
        exact hkey _ hmem record.grantId (congrArg (fun v => some (_, v)) hrev)
    · obtain ⟨token, record, jkt, hu⟩ := ha.userinfo hr subject hb
      obtain ⟨keys, jti, -, -, hmem⟩ := hu.found
      exact hkey _ hmem record.grantId (congrArg (fun v => some (_, v)) hu.unrevoked)
    · obtain ⟨input, rec, hx, -⟩ := ha.token hr token rest hb
      cases hx with
      | code client jkt record grant h =>
        obtain ⟨-, hgt', -⟩ := h
        rw [hgt] at hgt'
        simp at hgt'
      | refresh client jkt scope rec grant h =>
        obtain ⟨-, -, -, token, -, hmem, hrev, -⟩ := h
        exact hkey _ hmem rec.grantId (congrArg (fun v => some (_, v)) hrev)

/-- **In a run without late steps a replay is final.**

**Proof sketch.** A request that accepts a token of the grant has found an unrevoked one. It cannot
have found it after the revocations, which no insertion follows. So it had found it when the replay
was finished, and then it took no further step. -/
theorem replayIsFinal_of_noLateStep (R : ServerRun P config backend) (hl : R.NoLateStep) :
    R.ReplayIsFinal := by
  intro i j pid g hf hij hj hi hacc
  obtain ⟨req, past, reply, hp, hroute, e, he, hfound⟩ := hacc.unrevoked hj
  obtain ⟨m, hmj, q, hd, hreq, hpre⟩ := R.did hj hp he
  have hmi : m < i := lookup_before_replay hl hd hfound (by omega) hf
  obtain ⟨k', hk', hstate⟩ := hd.todo
  obtain ⟨p', hp', hreq', hpast'⟩ := R.proc_mono (j := i) hmi (by omega) hstate
  obtain ⟨k, p'', e', hik, hkj, hdk, hpast⟩ :=
    R.runs_until_answered hij hj hp' hi ⟨req, past, reply, hp⟩
  have hroute' : p''.req.route ≠ .revoke := by
    obtain ⟨p₁, hp₁, hr₁, -⟩ := R.proc_mono (j := j) (by omega) hj hdk.proc
    obtain rfl := Option.some.inj (hp₁.symm.trans hp)
    exact hr₁ ▸ hroute
  exact hl.reader k pid p'' e' g hdk hroute'
    ⟨e, (hpast'.trans hpast).mem (mem_past_last _ _), hfound⟩ (hf.mono hik (by omega))

end

end ServerRun

/-! ## Two runs of the sample deployment -/

namespace Sample

/-- The calls of the replay. -/
def replayEvents : List Event :=
  [⟨.db (.codesRedeem code 100000), .ok (.consumed codeRow)⟩,
    ⟨.db (.grantsRevoke grantId 100000), .ok ()⟩,
    ⟨.db (.accessTokensRevokeByGrant grantId 100000), .ok ()⟩,
    ⟨.db (.refreshTokensRevokeByGrant grantId 100000), .ok ()⟩]

/-- The error of a JSON reply. -/
def errorShown (reply : Reply) : Option Json :=
  match reply.body with
  | .json ((name, v) :: _) => if name = "error" then some v else none
  | _ => none

/-- The replay has been answered with `invalid_grant`, after its revocations. -/
def replayShown (c : Conf system) : Bool :=
  (c.answer 3).any fun (req, past, reply) => req.route = .token &&
    replayEvents.all (past.contains ·) && errorShown reply = some (.str "invalid_grant")

/-- The redemption and its replay, the revocations of the replay before the insertions of the
redemption, and then a use of the access token. -/
def lateRequests : List (Act system) :=
  authorized ++ redeemed ++ replayed ++ issued ++ .arrive (userinfo "t" "u") :: calls 4 6

/-- The replay has been answered before the tokens are issued, and the access token is accepted
after that. -/
def lateAccepted (t : List (TraceStep system) × Conf system) : Bool :=
  (t.1[45]?).any (fun s => replayShown s.before && (s.before.procs[4]?).isNone) &&
    (t.2.answer 4).any fun (req, past, reply) => req.route = .userinfo &&
      reply.body = .json [("sub", .str "u")] && grantsFound past = [grantId]

set_option maxRecDepth 4000 in
lemma late_trace : (system.trace ⟨world, []⟩ lateRequests).any lateAccepted = true := by
  decide +kernel

/-- The run of the late redemption. -/
def lateRun : ServerRun platform config .memory :=
  .ofTrace world lateRequests world_initial lateAccepted late_trace

/-- A replay that is shown is finished. -/
lemma replayFinished_of_shown {R : ServerRun platform config .memory} {i : ℕ} {c : Conf system}
    (hc : c = R.conf i) (h : replayShown c = true) : R.ReplayFinished i grantId := by
  subst hc
  obtain ⟨⟨req, past, reply⟩, ha, h⟩ := (Option.any_eq_true _ _).mp h
  simp only [Bool.and_eq_true, decide_eq_true_eq, List.all_eq_true, List.contains_iff_mem,
    replayEvents, List.mem_cons, List.not_mem_nil, or_false, forall_eq_or_imp, forall_eq] at h
  obtain ⟨⟨hr, h1, h2, h3, h4⟩, he⟩ := h
  refine ⟨3, req, past, reply, Conf.answer_eq_some.mp ha, hr, ⟨_, _, codeRow, rfl, h1⟩, ⟨_, h2⟩,
    ⟨_, h3⟩, ⟨_, h4⟩, ?_⟩
  unfold errorShown at he
  split at he
  · rename_i name v rest hb
    split_ifs at he with hn
    exact ⟨rest, by rw [hb, hn, Option.some.inj he]⟩
  · cases he

/-- **A token that is inserted after the replay is accepted**: here the redemption is overtaken by
its replay, and the userinfo endpoint then answers with the subject. -/
theorem late_token_accepted : ¬lateRun.ReplayIsFinal := by
  obtain ⟨steps, last, ht, h⟩ : ∃ steps last, lateRun.HasTrace steps last ∧
    lateAccepted (steps, last) = true := Run.hasTrace_ofTrace late_trace
  simp only [lateAccepted, Bool.and_eq_true] at h
  obtain ⟨s, hs, h1⟩ := (Option.any_eq_true _ _).mp h.1
  obtain ⟨hshown, hnone⟩ := Bool.and_eq_true_iff.mp h1
  obtain ⟨⟨req, past, reply⟩, ha, h2⟩ := (Option.any_eq_true _ _).mp h.2
  simp only [Bool.and_eq_true, decide_eq_true_eq] at h2
  obtain ⟨s', hs', hb⟩ := ht.conf (i := 45) (by decide)
  obtain rfl := Option.some.inj (hs.symm.trans hs')
  intro hfinal
  refine hfinal 45 lateRun.len 4 grantId (replayFinished_of_shown hb hshown) (by decide) le_rfl
    ?_ ⟨req, past, reply, ?_, .inr (.inl ⟨h2.1.1, "u", h2.1.2⟩), by simp [h2.2], by simp [h2.2]⟩
  · rintro ⟨_, _, _, hp⟩
    rw [Run.proc, ← hb] at hp
    simp [hp] at hnone
  · rw [Run.proc, ht.last]
    exact Conf.answer_eq_some.mp ha

/-- The redemption with its tokens, its replay, and then an introspection of the access token. -/
def timelyRequests : List (Act system) :=
  authorized ++ redeemed ++ issued ++ replayed ++ .arrive (introspect "4" "t") :: calls 4 8

/-- A step makes a call that passes a test. -/
def stepCalls (test : ℕ → Proc system → Call → Bool) (s : TraceStep system) : Bool :=
  s.made.any fun (pid, p, e) => test pid p e.op

/-- A call inserts a token. -/
def insertsToken : Call → Bool
  | .db (.accessTokensInsert _) | .db (.refreshTokensInsert _) => true
  | _ => false

/-- A call revokes the tokens of a grant. -/
def revokesTokens : Call → Bool
  | .db (.accessTokensRevokeByGrant _ _) | .db (.refreshTokensRevokeByGrant _ _) => true
  | _ => false

/-- The replay is finished before the introspection, tokens are inserted before they are revoked,
and no request reads an unrevoked one. -/
def timely (t : List (TraceStep system) × Conf system) : Bool :=
  (t.1[52]?).any (fun s => replayShown s.before) &&
    (t.1.take 40).all (fun s => !stepCalls (fun _ _ o => revokesTokens o) s) &&
    (t.1.drop 40).all (fun s => !stepCalls (fun _ _ o => insertsToken o) s) &&
    t.1.all fun s => !stepCalls (fun _ p _ => p.past.any fun e => (tokenFound e).any (·.2 = none)) s

set_option maxRecDepth 4000 in
lemma timely_trace : (system.trace ⟨world, []⟩ timelyRequests).any timely = true := by
  decide +kernel

/-- The run of a redemption that is finished before its replay. -/
def timelyRun : ServerRun platform config .memory :=
  .ofTrace world timelyRequests world_initial timely timely_trace

lemma timely_noLateStep : timelyRun.NoLateStep := by
  obtain ⟨steps, last, ht, h⟩ : ∃ steps last, timelyRun.HasTrace steps last ∧
    timely (steps, last) = true := Run.hasTrace_ofTrace timely_trace
  simp only [timely, Bool.and_eq_true, List.all_eq_true, Bool.not_eq_true', stepCalls] at h
  obtain ⟨⟨⟨-, hrevoke⟩, hinsert⟩, hread⟩ := h
  have hinserts : ∀ k q, timelyRun.Calls k q → insertsToken (.db q) = true → k < 40 := by
    rintro k q ⟨pid, p, r, hd⟩ hq
    by_contra hk
    obtain ⟨s, hs, hm⟩ := hd.traced ht
    have hmem : s ∈ steps.drop 40 :=
      List.mem_iff_getElem?.mpr
        ⟨k - 40, by rw [List.getElem?_drop, Nat.add_sub_cancel' (by omega), hs]⟩
    have hno := hinsert s hmem
    rw [hm] at hno
    exact absurd hq (by simpa using hno)
  have hrevokes : ∀ m pid p e, timelyRun.Does m pid p e → revokesTokens e.op = true → 40 ≤ m := by
    intro m pid p e hd he
    by_contra hm
    obtain ⟨s, hs, hmade⟩ := hd.traced ht
    have hmem : s ∈ steps.take 40 :=
      List.mem_iff_getElem?.mpr ⟨m, by rw [List.getElem?_take_of_lt (by omega), hs]⟩
    have hno := hrevoke s hmem
    rw [hmade] at hno
    exact absurd he (by simpa using hno)
  refine ⟨fun k rec hc m hm h => ?_, fun k rec hc m hm h => ?_, fun k pid p e g hd _ hf _ => ?_⟩
  · obtain ⟨pid, p, t, hd, -⟩ := h
    have h1 := hinserts k _ hc rfl
    have h2 := hrevokes m pid p _ hd rfl
    omega
  · obtain ⟨pid, p, t, hd, -⟩ := h
    have h1 := hinserts k _ hc rfl
    have h2 := hrevokes m pid p _ hd rfl
    omega
  · obtain ⟨s, hs, hm⟩ := hd.traced ht
    obtain ⟨f, hfm, hfound⟩ := hf
    have hno := hread s (List.mem_of_getElem? hs)
    rw [hm] at hno
    simp only [Option.any_some, List.any_eq_false] at hno
    exact hno f hfm (by simp [hfound])

/-- Here the redemption is finished before the replay: the introspection that follows finds the
token revoked. -/
theorem timely_replay_final :
    timelyRun.ReplayFinished 52 grantId ∧ timelyRun.ReplayIsFinal := by
  obtain ⟨steps, last, ht, h⟩ : ∃ steps last, timelyRun.HasTrace steps last ∧
    timely (steps, last) = true := Run.hasTrace_ofTrace timely_trace
  simp only [timely, Bool.and_eq_true] at h
  obtain ⟨s, hs, hshown⟩ := (Option.any_eq_true _ _).mp h.1.1.1
  obtain ⟨s', hs', hb⟩ := ht.conf (i := 52) (by decide)
  obtain rfl := Option.some.inj (hs.symm.trans hs')
  exact ⟨replayFinished_of_shown hb hshown,
    ServerRun.replayIsFinal_of_noLateStep timelyRun timely_noLateStep⟩

end Sample

end Fapi2As
