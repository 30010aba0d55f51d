import Fapi2As.Properties.Presentations

set_option relaxedAutoImplicit false
set_option autoImplicit false

/-!
# How long an authorization lasts

A refresh token is never renewed, so what follows from one authorization ends: its code is redeemed
while it lives, the refresh token lives from then on, and the last access token is issued while the
refresh token lives. A request checks an expiry at one reading of the clock and issues at a later
one, so each step adds what a request may take.

## Main definitions

* `Fapi2As.ServerRun.Prompt` — no request takes longer than a given time.
* `Fapi2As.EndsBefore` — a date is past from an instant on.

## Main results

* `Fapi2As.ServerRun.prompt_of_clockForward` — some such time exists when the clock is never set
  back.
* `Fapi2As.ServerRun.authorization_ends` — when the tokens of a grant have all expired.
-/

namespace Fapi2As

open Js Async

variable {P : Platform} {config : AppConfig} {backend : Backend}

/-! ## Dates -/

/-- **A date ends before an instant**: it is past for every clock that shows the instant or a later
time value. -/
def EndsBefore (d : Date) (e : ℕ) : Prop := ∀ t ≤ maxTime, d.isPast t = false → t < e

/-- A date ends before its time value; one out of range would end after every time value. -/
lemma endsBefore_newDate (n : ℕ) : EndsBefore (newDate (n : ℚ)) n := by
  intro t ht hpast
  by_cases hn : n ≤ maxTime
  · rw [newDate_natCast hn] at hpast
    have hle : ¬(n : ℤ) ≤ t := of_decide_eq_false hpast
    omega
  · omega

lemma EndsBefore.mono {d : Date} {e e' : ℕ} (h : EndsBefore d e) (he : e ≤ e') : EndsBefore d e' :=
  fun t ht hpast => (h t ht hpast).trans_le he

/-- A code is redeemed before it expires. -/
lemma Carried.codesRedeem_unexpired {s s' : Store} {codeHash : String} {t : ℕ}
    {record : AuthorizationCodeRecord} (h : Carried s (.codesRedeem codeHash t) (.ok record) s') :
    record.expiresAt.isPast t = false := by
  have h := h.eq_memory rfl
  simp only [Memory.exec, Memory.codesRedeem] at h
  split at h
  · cases h
  · split_ifs at h with hconsumed hpast
    · cases h
    · cases h
    · obtain ⟨hrecord, -⟩ := Prod.mk.inj h
      obtain rfl := CodeRedemption.ok.inj hrecord
      simpa using hpast

namespace ServerRun

variable (R : ServerRun P config backend)

/-! ## Requests that do not take long -/

/-- **No request takes longer than `D` milliseconds**: any two of its readings of the clock are at
most that far apart. -/
def Prompt (D : ℕ) : Prop :=
  ∀ i ≤ R.len, ∀ pid p, R.proc i pid = some p → ∀ t t' : ℕ, (⟨.now, t⟩ : Event) ∈ p.past →
    (⟨.now, t'⟩ : Event) ∈ p.past → t' ≤ t + D

variable {R} {i pid D : ℕ} {p : Proc (server P config backend)}

/-- **Every run has such a time**: no request takes longer than the run, when the clock is never set
back. -/
lemma prompt_of_clockForward (hclock : R.ClockForward) :
    R.Prompt ((R.world R.len).clock - (R.world 0).clock) := by
  intro i hi pid p hp t t' ht ht'
  obtain ⟨j, hj, q, hd, -⟩ := R.did hi hp ht
  obtain ⟨j', hj', q', hd', -⟩ := R.did hi hp ht'
  have hfirst := clock_mono hclock (Nat.zero_le j) hd.lt.le
  have hlast := clock_mono hclock hd'.lt.le le_rfl
  rw [clock_read hd] at hfirst
  rw [clock_read hd'] at hlast
  omega

/-- The clock stays in the range of time values. -/
lemma clock_le_maxTime (hi : i ≤ R.len) : (R.world i).clock ≤ maxTime := by
  refine R.stays (P := fun w => w.clock ≤ maxTime) (Nat.zero_le i) ?_ fun j _ hj hle => ?_
  · rw [R.world_zero]
    exact R.isStart.clock
  · rcases R.world_step (i := j) (by omega) with h | ⟨pid, p, e, h⟩ | ⟨e, -, h⟩
    · rwa [h]
    · obtain ⟨x, -, hx⟩ := h.exec
      rwa [exec_clock hx]
    · cases e with
      | setClock t =>
        simp only [envStep, Option.ite_none_right_eq_some, Option.some.injEq] at h
        rw [← h.2]
        exact h.1
      | upsertClient rec =>
        simp only [envStep, Option.some.injEq] at h
        rwa [← h]

/-- A reading of the clock is a time value. -/
lemma reading_le_maxTime (hi : i ≤ R.len) (hp : R.proc i pid = some p) {t : ℕ}
    (ht : (⟨.now, t⟩ : Event) ∈ p.past) : t ≤ maxTime := by
  obtain ⟨j, -, q, hd, -⟩ := R.did hi hp ht
  rw [← clock_read hd]
  exact clock_le_maxTime hd.lt.le

/-! ## Codes -/

/-- The expiry of a redeemed code is counted from the creation of its grant, as its code was made
then. -/
lemma exchange_expiry (hi : i ≤ R.len) (hp : R.proc i pid = some p) {client : Client} {jkt : String}
    {record : AuthorizationCodeRecord} {grant : GrantRecord}
    (h : CodeExchange P config p.req p.past client jkt record grant) :
    record.expiresAt = newDate ((grant.createdAt + config.authCodeTtlSec * 1000 : ℕ) : ℚ) := by
  obtain ⟨-, -, code, -, ⟨t, hredeem⟩, -, hfind, -⟩ := h
  obtain ⟨a, ha, q, hda, -⟩ := R.did hi hp hredeem
  obtain ⟨row, hrow, rfl, -⟩ := (R.carried hda).codesRedeem
  obtain ⟨-, b, hb, hcalls⟩ := R.codes_origin (by omega) hrow
  obtain ⟨pid', p', _, hdb, hcreated⟩ := hcalls.justified
  obtain ⟨uri, client', request, session, ua, q₀, t', gid, code', -, hpast, hrec⟩ := hcreated
  obtain ⟨k, hk, p'', hdk, -⟩ := code_grant hdb hpast
  have hgrant : grant.fresh = grantRecord gid client' session.user request t' :=
    found_grant ⟨pid', p'', (), hdk⟩ hi hp hfind (by rw [hrec]; rfl)
  have hcreatedAt : grant.createdAt = t' := congrArg GrantRecord.createdAt hgrant
  rw [hrec, hcreatedAt]
  rfl

/-- **A code is redeemed soon after the creation of its grant**: every reading of the exchange is
soon after it. -/
lemma exchange_soon (hprompt : R.Prompt D) (hi : i ≤ R.len) (hp : R.proc i pid = some p)
    {client : Client} {jkt : String} {record : AuthorizationCodeRecord} {grant : GrantRecord}
    (h : CodeExchange P config p.req p.past client jkt record grant) {t : ℕ}
    (ht : (⟨.now, t⟩ : Event) ∈ p.past) :
    t < grant.createdAt + config.authCodeTtlSec * 1000 + D := by
  have hexpiry := exchange_expiry hi hp h
  obtain ⟨-, -, code, -, ⟨t₀, hredeem⟩, -⟩ := h
  obtain ⟨j, hj, q, hd, -, hpre⟩ := R.did hi hp hredeem
  have hread : (⟨.now, t₀⟩ : Event) ∈ p.past := hpre.mem (List.mem_append_left _ (call_read hd))
  have hlive := (R.carried hd).codesRedeem_unexpired
  rw [hexpiry] at hlive
  have hsoon := endsBefore_newDate _ t₀ (reading_le_maxTime hi hp hread) hlive
  have hspan := hprompt i hi pid p hp t₀ t hread ht
  omega

/-! ## Tokens -/

/-- A grant that was found is in the table, with its creation. -/
lemma grant_created {j : ℕ} (hji : j ≤ i) (hi : i ≤ R.len) (hp : R.proc j pid = some p)
    {id : String}
    {grant : GrantRecord} (h : ⟨.db (.grantsFind id), .ok (some grant)⟩ ∈ p.past) :
    ∃ g, (R.store i).grants.get? grant.grantId = some g ∧ g.createdAt = grant.createdAt := by
  obtain ⟨hid, g, hg, hsame⟩ := R.grant_found hji hi hp h
  have hcreated : g.fresh.createdAt = grant.fresh.createdAt := congrArg GrantRecord.createdAt hsame
  exact ⟨g, hid ▸ hg, hcreated⟩

/-- **A refresh token ends**: it was issued soon after the creation of its grant. -/
lemma refreshToken_ends (hprompt : R.Prompt D) (hi : i ≤ R.len) {tokenHash : String}
    {rec : RefreshTokenRecord} (h : (R.store i).refreshTokens.get? tokenHash = some rec) :
    ∃ g, (R.store i).grants.get? rec.grantId = some g ∧ EndsBefore rec.expiresAt
      (g.createdAt + (config.authCodeTtlSec + config.refreshTokenTtlSec) * 1000 + D) := by
  obtain ⟨-, j, hj, hc⟩ := R.refreshTokens_origin hi h
  obtain ⟨pid, p, ⟨⟩, hd, client, jkt, record, grant, hx, _, token, _, -, hrec⟩ := hc.justified
  have hkey : rec.grantId = grant.grantId := congrArg RefreshTokenRecord.grantId hrec
  obtain ⟨t, ht, hexpiry⟩ := call_read hd
  have hexpiry : rec.expiresAt = newDate ((t + config.refreshTokenTtlSec * 1000 : ℕ) : ℚ) := hexpiry
  have hsoon := exchange_soon hprompt (Nat.le_of_lt hd.lt) hd.proc hx ht
  obtain ⟨-, -, _, -, -, -, hfind, -⟩ := hx
  obtain ⟨g, hg, hcreated⟩ := grant_created (by omega) hi hd.proc hfind
  refine ⟨g, hkey ▸ hg, ?_⟩
  rw [hexpiry, hcreated]
  exact (endsBefore_newDate _).mono (by omega)

/-- **A refresh token is used before it ends**: no reading of the request that uses it comes later
than the request may take. -/
lemma refresh_soon (hprompt : R.Prompt D) (hi : i ≤ R.len) (hp : R.proc i pid = some p)
    {client : Client} {jkt scope : String} {rec : RefreshTokenRecord} {grant : GrantRecord}
    (h : RefreshExchange P config p.req p.past client jkt scope rec grant) {t : ℕ}
    (ht : (⟨.now, t⟩ : Event) ∈ p.past) : t < grant.createdAt +
      (config.authCodeTtlSec + config.refreshTokenTtlSec) * 1000 + 2 * D := by
  obtain ⟨-, -, -, token, -, hfound, -, ⟨t₀, hread, hlive⟩, -, hfind, -⟩ := h
  obtain ⟨k, hk, q, hd, -⟩ := R.did hi hp hfound
  obtain ⟨g, hg, hends⟩ :=
    refreshToken_ends hprompt (Nat.le_of_lt hd.lt) (R.carried hd).refreshTokensFindByHash
  have hsoon := hends t₀ (reading_le_maxTime hi hp hread) hlive
  -- the grant that the request found is the one of the refresh token
  obtain ⟨hid, g', hg', hsame⟩ := R.grant_found le_rfl hi hp hfind
  have hfresh : g.fresh = grant.fresh := (grants_same (Nat.le_of_lt hd.lt) hi hg hg').trans hsame
  have hcreated : g.fresh.createdAt = grant.fresh.createdAt := congrArg GrantRecord.createdAt hfresh
  have hcreated : g.createdAt = grant.createdAt := hcreated
  have hspan := hprompt i hi pid p hp t₀ t hread ht
  omega

/-- **An access token ends**: it was issued soon after the creation of its grant, or while the
refresh token of the grant was alive. -/
lemma accessToken_ends (hprompt : R.Prompt D) (hi : i ≤ R.len) {jti : String}
    {rec : AccessTokenRecord}
    (h : (R.store i).accessTokens.get? jti = some rec) :
    ∃ g, (R.store i).grants.get? rec.grantId = some g ∧ EndsBefore rec.expiresAt (g.createdAt +
      (config.authCodeTtlSec + config.refreshTokenTtlSec + config.accessTokenTtlSec) * 1000 +
        2 * D) := by
  obtain ⟨-, j, hj, hc⟩ := R.accessTokens_origin hi h
  obtain ⟨pid, p, ⟨⟩, hd, input, hx, _, _, _, token, -, hrec⟩ := hc.justified
  have hkey : rec.grantId = input.grantId := congrArg AccessTokenRecord.grantId hrec
  obtain ⟨t, ht, hexpiry⟩ := call_read hd
  have hexpiry : rec.expiresAt = newDate ((t + config.accessTokenTtlSec * 1000 : ℕ) : ℚ) := hexpiry
  rw [hexpiry]
  cases hx with
  | code client jkt record grant hx =>
    have hsoon := exchange_soon hprompt (Nat.le_of_lt hd.lt) hd.proc hx ht
    obtain ⟨-, -, _, -, -, -, hfind, -⟩ := hx
    obtain ⟨g, hg, hcreated⟩ := grant_created (by omega) hi hd.proc hfind
    refine ⟨g, hkey ▸ hg, ?_⟩
    rw [hcreated]
    exact (endsBefore_newDate _).mono (by omega)
  | refresh client jkt scope rt grant hx =>
    have hsoon := refresh_soon hprompt (Nat.le_of_lt hd.lt) hd.proc hx ht
    obtain ⟨-, -, -, _, -, -, -, -, -, hfind, -⟩ := hx
    obtain ⟨g, hg, hcreated⟩ := grant_created (by omega) hi hd.proc hfind
    refine ⟨g, hkey ▸ hg, ?_⟩
    rw [hcreated]
    exact (endsBefore_newDate _).mono (by omega)

/-- **An authorization ends.** In every run in which no request takes longer than `D` milliseconds,
a refresh token in the tables has expired when the lifetimes of a code and of a refresh token, and
`D`, have passed since its grant was created; an access token has expired when the lifetimes of a
code, of a refresh token and of an access token, and twice `D`, have passed since then. No use of a
refresh token, however often it is repeated, prolongs this.

**Proof sketch.** A code expires at an instant that is counted from the creation of its grant
(`exchange_expiry`), so all readings of its exchange come soon after (`exchange_soon`). The refresh
token counts from one of them (`refreshToken_ends`), and bounds the readings of every request that
uses it (`refresh_soon`); an access token counts from a reading of one or the other. -/
theorem authorization_ends (R : ServerRun P config backend) {D i : ℕ} (hprompt : R.Prompt D)
    (hi : i ≤ R.len) :
    (∀ tokenHash rec, (R.store i).refreshTokens.get? tokenHash = some rec →
      ∃ g, (R.store i).grants.get? rec.grantId = some g ∧ EndsBefore rec.expiresAt
        (g.createdAt + (config.authCodeTtlSec + config.refreshTokenTtlSec) * 1000 + D)) ∧
    ∀ jti rec, (R.store i).accessTokens.get? jti = some rec →
      ∃ g, (R.store i).grants.get? rec.grantId = some g ∧ EndsBefore rec.expiresAt (g.createdAt +
        (config.authCodeTtlSec + config.refreshTokenTtlSec + config.accessTokenTtlSec) * 1000 +
          2 * D) :=
  ⟨fun _ _ h => refreshToken_ends hprompt hi h, fun _ _ h => accessToken_ends hprompt hi h⟩

end ServerRun

namespace Sample

/-- The clock stands still in the redemption. -/
def stoodStill (t : List (TraceStep system) × Conf system) : Bool :=
  tokenStored t && t.2.world.clock = world.clock

set_option maxRecDepth 4000 in
lemma stoodStill_trace : (system.trace ⟨world, []⟩ redemption).any stoodStill = true := by
  decide +kernel

/-- The tokens of the redemption end, as no request takes any time. -/
theorem redemption_ends : ∃ g,
    (redemptionRun.store redemptionRun.len).grants.get? grantId = some g ∧
      EndsBefore accessRow.expiresAt (g.createdAt + (60 + 86400 + 300) * 1000) := by
  obtain ⟨⟨steps, last⟩, ht, h⟩ := (Option.any_eq_true _ _).mp stoodStill_trace
  have ht : redemptionRun.HasTrace steps last := ht
  obtain ⟨hstored, hclock⟩ := Bool.and_eq_true_iff.mp h
  have hprompt : redemptionRun.Prompt 0 := by
    have h := ServerRun.prompt_of_clockForward redemptionRun_clockForward
    rwa [show (redemptionRun.world redemptionRun.len).clock - (redemptionRun.world 0).clock = 0 by
      rw [Run.world, ht.last, of_decide_eq_true hclock, redemptionRun.world_zero]
      exact Nat.sub_self _] at h
  have hrow : (redemptionRun.store redemptionRun.len).accessTokens.get? jti = some accessRow := by
    rw [ServerRun.store, Run.world, ht.last]
    exact of_decide_eq_true hstored
  exact (ServerRun.authorization_ends redemptionRun hprompt le_rfl).2 jti accessRow hrow

end Sample

end Fapi2As
