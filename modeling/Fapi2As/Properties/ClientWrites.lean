import Fapi2As.Properties.Isolation
import Fapi2As.Properties.Records

set_option relaxedAutoImplicit false
set_option autoImplicit false

/-!
# What the requests of a client write

A request of a client to one of the endpoints that authenticate it, served alone, leaves the rows of
all other clients exactly as they are, with one exception. The token endpoint looks a code up before
it compares its client: it redeems the code that is presented, whoever it was issued to, and when it
had been redeemed before, its grant and the tokens of its grant are revoked.

## Main definitions

* `Fapi2As.ServerRun.ServedAlone` — a request of a client that nothing else overlaps.
* `Fapi2As.ServerRun.WritesIsolated` — the requests of a client write its own rows only.
* `Fapi2As.UntouchedExcept` — the rows of a client are the same, but for certain codes and for the
  rows of certain grants.

## Main results

* `Fapi2As.ServerRun.writes_of_client` — what a request of a client leaves alone.
-/

namespace Fapi2As

open Js Async

/-- **The rows of a client are the same**, but for certain codes, and for the rows of certain
grants. -/
structure UntouchedExcept (v : String) (C G : String → Prop) (s s' : Store) : Prop where
  par : SameRows (fun row : ParRow => row.record.clientId = v) s.par s'.par
  grants : SameRows (fun rec : GrantRecord => rec.clientId = v ∧ ¬G rec.grantId) s.grants s'.grants
  codes : SameRows (fun row : CodeRow => row.record.clientId = v ∧ ¬C row.record.codeHash)
    s.codes s'.codes
  accessTokens : SameRows (fun rec : AccessTokenRecord => rec.clientId = v ∧ ¬G rec.grantId)
    s.accessTokens s'.accessTokens
  refreshTokens : SameRows (fun rec : RefreshTokenRecord => rec.clientId = v ∧ ¬G rec.grantId)
    s.refreshTokens s'.refreshTokens

section

variable {v : String} {C G G' : String → Prop} {s s' s'' : Store}

lemma UntouchedExcept.refl (s : Store) : UntouchedExcept v C G s s :=
  ⟨.refl _ _, .refl _ _, .refl _ _, .refl _ _, .refl _ _⟩

lemma UntouchedExcept.trans (h : UntouchedExcept v C G s s') (h' : UntouchedExcept v C G s' s'') :
    UntouchedExcept v C G s s'' :=
  ⟨h.par.trans h'.par, h.grants.trans h'.grants, h.codes.trans h'.codes,
    h.accessTokens.trans h'.accessTokens, h.refreshTokens.trans h'.refreshTokens⟩

lemma UntouchedExcept.mono (h : UntouchedExcept v C G s s') (hG : ∀ g, G g → G' g) :
    UntouchedExcept v C G' s s' :=
  ⟨h.par, h.grants.mono fun _ hr => ⟨hr.1, fun hg => hr.2 (hG _ hg)⟩, h.codes,
    h.accessTokens.mono fun _ hr => ⟨hr.1, fun hg => hr.2 (hG _ hg)⟩,
    h.refreshTokens.mono fun _ hr => ⟨hr.1, fun hg => hr.2 (hG _ hg)⟩⟩

end

namespace ServerRun

variable {P : Platform} {config : AppConfig} {backend : Backend} (R : ServerRun P config backend)

/-- **A request of a client is served alone** between two times: it is a request to one of the
endpoints that authenticate clients, has been authenticated as the client, and takes all steps in
between that any request takes. -/
structure ServedAlone (i j pid : ℕ) (p : Proc (server P config backend)) (c : String) : Prop where
  proc : R.proc j pid = some p
  route : p.req.route ∈ [Route.par, .token, .revoke, .introspect]
  client : ∃ client, Authenticated P config p.req.body client p.past ∧ client.clientId = c
  alone : ∀ m, i ≤ m → m < j → ∀ pid' q ev, R.Does m pid' q ev → pid' = pid

/-- **The requests of a client write its own rows only**: while one is served, the rows of every
other client stay exactly as they are. -/
def WritesIsolated : Prop :=
  ∀ i j pid p c v, i ≤ j → j ≤ R.len → R.ServedAlone i j pid p c → v ≠ c →
    UntouchedExcept v (fun _ => False) (fun _ => False) (R.store i) (R.store j)

variable {R} {i j pid : ℕ} {p : Proc (server P config backend)} {c v : String}

/-- A request of a client acts for others than every other client, at each of its steps. -/
lemma ServedAlone.actsForOthers (h : R.ServedAlone i j pid p c) (hv : v ≠ c) {m : ℕ}
    (hmj : m < j) (hj : j ≤ R.len) {q : Proc (server P config backend)} {ev : Event}
    (hd : R.Does m pid q ev) : ActsForOthers v q := by
  obtain ⟨p', hp', hreq, -⟩ := R.proc_mono hmj.le hj hd.proc
  obtain rfl := Option.some.inj (hp'.symm.trans h.proc)
  obtain ⟨client, hclient, hc⟩ := h.client
  refine ⟨fun client' hclient' hv' => hv ?_, fun uri client' request session ua hauth => ?_⟩
  · rw [← hreq] at hclient'
    rw [← hv', ← hc]
    exact hclient'.clientId_unique hclient
  · -- what decides about a pushed request authenticates no client
    have hroute := h.route
    rw [hreq] at hroute
    cases hauth with
    | consent id ctx session t done h =>
      rw [h.route] at hroute
      simp at hroute
    | silent uri client request session h =>
      rw [h.route] at hroute
      simp at hroute

/-- A replay that a request has been told of stays in its past. -/
lemma ReplaysCodeOf.mono {q : Proc (server P config backend)} {g : String} (h : ReplaysCodeOf q g)
    (hreq : p.req = q.req) (hpast : q.past <+: p.past) : ReplaysCodeOf p g := by
  obtain ⟨hroute, code, hcode, t, record, hmem, hg⟩ := h
  exact ⟨hreq ▸ hroute, code, hreq ▸ hcode, t, record, hpast.mem hmem, hg⟩

/-- **What a step of a request leaves alone**, with the rows that it may change one by one. -/
lemma step_untouchedExcept (hthumb : ∀ jwk k, P.calculateJwkThumbprint jwk = some k → k ≠ "")
    {ev : Event} (hd : R.Does i pid p ev) (hacts : ActsForOthers v p) :
    UntouchedExcept v (PresentsCode p) (ReplaysCodeOf p) (R.store i) (R.store (i + 1)) :=
  ⟨par_untouched hd hacts, grants_untouched hd hacts, codes_untouched hd hacts,
    accessTokens_untouched hthumb hd hacts, refreshTokens_untouched hd hacts⟩

/-- **What the request of a client leaves alone**: all rows of every other client, but for the code
that it presents to the token endpoint, and when that code had been redeemed before, for its grant
and the tokens of its grant. Whatever a row is changed to, it gets no more than the instant of its
consumption or of its revocation.

**Proof sketch.** Induction on the steps of the request. Each of them leaves alone what the request
may not change (`step_untouchedExcept`), and stamps a row at most (`records_step`); a step without
a request changes no row. -/
theorem writes_of_client (R : ServerRun P config backend)
    (hthumb : ∀ jwk k, P.calculateJwkThumbprint jwk = some k → k ≠ "") {i j pid : ℕ}
    {p : Proc (server P config backend)} {c v : String} (hij : i ≤ j) (hj : j ≤ R.len)
    (h : R.ServedAlone i j pid p c) (hv : v ≠ c) :
    UntouchedExcept v (PresentsCode p) (ReplaysCodeOf p) (R.store i) (R.store j) ∧
      RecordsKept (R.store i) (R.store j) := by
  suffices ∀ m, i ≤ m → m ≤ j →
      UntouchedExcept v (PresentsCode p) (ReplaysCodeOf p) (R.store i) (R.store m) ∧
        RecordsKept (R.store i) (R.store m) from this j hij le_rfl
  intro m him hmj
  induction m, him using Nat.le_induction with
  | base => exact ⟨.refl _, .refl _⟩
  | succ m him ih =>
    obtain ⟨hbefore, hkept⟩ := ih (by omega)
    refine ⟨hbefore.trans ?_, hkept.trans (records_step (by omega))⟩
    cases R.store_step (i := m) (by omega) with
    | same hs =>
      rw [hs]
      exact .refl _
    | register rec _ hs =>
      rw [hs]
      exact ⟨fun _ _ _ => Iff.rfl, fun _ _ _ => Iff.rfl, fun _ _ _ => Iff.rfl,
        fun _ _ _ => Iff.rfl, fun _ _ _ => Iff.rfl⟩
    | query pid' q _ r hd he =>
      obtain rfl := h.alone m him hmj pid' q _ hd
      obtain ⟨p', hp', hreq, hpast⟩ := R.proc_mono (Nat.le_of_succ_le hmj) hj hd.proc
      obtain rfl := Option.some.inj (hp'.symm.trans h.proc)
      have hstep := step_untouchedExcept hthumb hd (h.actsForOthers hv hmj hj hd)
      have hsame : PresentsCode q = PresentsCode p' := by
        funext codeHash
        rw [PresentsCode, PresentsCode, hreq]
      exact hsame ▸ hstep.mono fun g hg => hg.mono hreq hpast

end ServerRun

namespace Sample

/-! ## Client `B` presents the code of client `A` -/

/-- The request of client `B`, which has the number `pid`, takes all steps from `i` on, redeems the
code, and is answered. -/
def strayed (i pid : ℕ) (t : List (TraceStep system) × Conf system) : Bool :=
  (t.1.drop i).all (fun s => s.made.all fun m => m.1 = pid) &&
  t.2.answers pid (fun req past _ => req = redeem "5" "z" &&
    past.any fun e => e.op = .db (.codesRedeem code 100000))

/-- Such a request is one of client `B` that is served alone. -/
lemma servedAlone_of_strayed {R : ServerRun platform Sample.config .memory}
    {steps : List (TraceStep system)} {last : Conf system} (ht : R.HasTrace steps last) {i pid : ℕ}
    (h : strayed i pid (steps, last) = true) : ∃ p, R.ServedAlone i R.len pid p "B" := by
  obtain ⟨hmade, hanswer⟩ := Bool.and_eq_true_iff.mp h
  obtain ⟨req, past, reply, hp, htest⟩ := ht.answers hanswer
  obtain ⟨hreq, hredeem⟩ := Bool.and_eq_true_iff.mp htest
  obtain rfl : req = redeem "5" "z" := of_decide_eq_true hreq
  obtain ⟨⟨op, res⟩, hmem, hop⟩ := List.any_eq_true.mp hredeem
  obtain rfl : op = .db (.codesRedeem code 100000) := of_decide_eq_true hop
  obtain ⟨m, -, q, hd, hreq, hpre⟩ := R.did le_rfl hp hmem
  obtain ⟨client, jkt, _, hrequest, -⟩ := R.justified hd
  have hauth := hrequest.client
  rw [hreq] at hauth
  have hroute : (redeem "5" "z").route ∈ [Route.par, .token, .revoke, .introspect] := by decide
  refine ⟨_, hp, hroute, ⟨client, hauth.mono ((List.prefix_append _ _).trans hpre), ?_⟩, ?_⟩
  · obtain ⟨a, _, _, _, _, ha, -, -, -, hchecked, -⟩ := hauth
    have hB : str ((redeem "5" "z").body.get "client_assertion") = some ".5." := by decide
    obtain rfl := Option.some.inj (hB.symm.trans ha)
    have hsub : (platform.jwtClaims ".5.").get "sub" = some (.str "B") := by decide
    exact Json.str.inj (Option.some.inj (hchecked.sub.symm.trans hsub))
  · intro m him _ pid' q ev hd
    obtain ⟨s, hs, hm⟩ := hd.traced ht
    have hmem : s ∈ steps.drop i := by
      rw [← Nat.sub_add_cancel him, Nat.add_comm, ← List.getElem?_drop] at hs
      exact List.mem_of_getElem? hs
    have hs := List.all_eq_true.mp hmade s hmem
    rw [hm] at hs
    exact of_decide_eq_true hs

/-- Client `B` presents the code before client `A` has redeemed it. -/
def snatching : List (Act system) :=
  authorized ++ .arrive (redeem "5" "z") :: calls 2 6 ++ [loads 2] ++ calls 2 2

/-- The code is used up by the request of client `B`. -/
def snatched (t : List (TraceStep system) × Conf system) : Bool :=
  strayed authorized.length 2 t &&
  t.1[authorized.length]?.any (fun s =>
    s.before.world.store.codes.get? code = some { record := codeRow, consumedAt := none }) &&
  t.2.world.store.codes.get? code = some { record := codeRow, consumedAt := some 100000 }

set_option maxRecDepth 4000 in
lemma snatching_trace : (system.trace ⟨world, []⟩ snatching).any snatched = true := by
  decide +kernel

/-- The run in which client `B` presents the code first. -/
def snatchingRun : ServerRun platform Sample.config .memory :=
  .ofTrace world snatching world_initial snatched snatching_trace

/-- Client `B` presents the code after client `A` has redeemed it. -/
def meddling : List (Act system) := redemption ++ .arrive (redeem "5" "z") :: calls 3 12

/-- The access token of client `A` is revoked by the request of client `B`. -/
def meddled (t : List (TraceStep system) × Conf system) : Bool :=
  strayed redemption.length 3 t &&
  t.1[redemption.length]?.any (fun s =>
    s.before.world.store.accessTokens.get? jti = some accessRow) &&
  t.2.world.store.accessTokens.get? jti = some { accessRow with revokedAt := some 100000 }

set_option maxRecDepth 4000 in
lemma meddling_trace : (system.trace ⟨world, []⟩ meddling).any meddled = true := by
  decide +kernel

/-- The run in which client `B` presents the code again. -/
def meddlingRun : ServerRun platform Sample.config .memory :=
  .ofTrace world meddling world_initial meddled meddling_trace

/-- **The requests of a client write rows of others**: a code is used up by whoever presents it
first, and whoever presents it again revokes the tokens of its client. -/
theorem strangers_write : ¬snatchingRun.WritesIsolated ∧ ¬meddlingRun.WritesIsolated := by
  constructor
  · intro h
    obtain ⟨⟨steps, last⟩, ht, hshown⟩ := (Option.any_eq_true _ _).mp snatching_trace
    have ht : snatchingRun.HasTrace steps last := ht
    simp only [snatched, Bool.and_eq_true, decide_eq_true_eq] at hshown
    obtain ⟨⟨hstrayed, hbefore⟩, hafter⟩ := hshown
    obtain ⟨s, hs, hbefore⟩ := (Option.any_eq_true _ _).mp hbefore
    have hlt : authorized.length < snatchingRun.len := by decide
    obtain ⟨s', hs', hconf⟩ := ht.conf hlt
    obtain rfl := Option.some.inj (hs.symm.trans hs')
    obtain ⟨p, halone⟩ := servedAlone_of_strayed ht hstrayed
    have hsame := (h _ _ _ p "B" "A" hlt.le le_rfl halone (by decide)).codes code ⟨codeRow, none⟩
      ⟨rfl, id⟩
    rw [ServerRun.store, ServerRun.store, Run.world, Run.world, ht.last, ← hconf, hafter] at hsame
    cases hsame.mpr (of_decide_eq_true hbefore)
  · intro h
    obtain ⟨⟨steps, last⟩, ht, hshown⟩ := (Option.any_eq_true _ _).mp meddling_trace
    have ht : meddlingRun.HasTrace steps last := ht
    simp only [meddled, Bool.and_eq_true, decide_eq_true_eq] at hshown
    obtain ⟨⟨hstrayed, hbefore⟩, hafter⟩ := hshown
    obtain ⟨s, hs, hbefore⟩ := (Option.any_eq_true _ _).mp hbefore
    have hlt : redemption.length < meddlingRun.len := by decide
    obtain ⟨s', hs', hconf⟩ := ht.conf hlt
    obtain rfl := Option.some.inj (hs.symm.trans hs')
    obtain ⟨p, halone⟩ := servedAlone_of_strayed ht hstrayed
    have hsame := (h _ _ _ p "B" "A" hlt.le le_rfl halone (by decide)).accessTokens jti accessRow
      ⟨rfl, id⟩
    rw [ServerRun.store, ServerRun.store, Run.world, Run.world, ht.last, ← hconf, hafter] at hsame
    cases hsame.mpr (of_decide_eq_true hbefore)

/-- What the second request of the code leaves alone. -/
theorem meddling_untouchedExcept : ∃ p,
    meddlingRun.ServedAlone redemption.length meddlingRun.len 3 p "B" ∧
      UntouchedExcept "A" (ServerRun.PresentsCode p) (ServerRun.ReplaysCodeOf p)
        (meddlingRun.store redemption.length) (meddlingRun.store meddlingRun.len) ∧
      RecordsKept (meddlingRun.store redemption.length) (meddlingRun.store meddlingRun.len) := by
  obtain ⟨⟨steps, last⟩, ht, hshown⟩ := (Option.any_eq_true _ _).mp meddling_trace
  have ht : meddlingRun.HasTrace steps last := ht
  simp only [meddled, Bool.and_eq_true] at hshown
  obtain ⟨p, halone⟩ := servedAlone_of_strayed ht hshown.1.1
  have hle : redemption.length ≤ meddlingRun.len := by decide
  exact ⟨p, halone,
    meddlingRun.writes_of_client thumbprint_ne_empty hle le_rfl halone (by decide)⟩

end Sample

end Fapi2As
