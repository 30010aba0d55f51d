import Fapi2As.Properties.Presentations
import Fapi2As.Properties.ReplayGuard

set_option relaxedAutoImplicit false
set_option autoImplicit false

/-!
# Assertions and proofs are used once

The replay entry of an assertion is kept up to its exact expiry, while the expiry is compared with
the whole seconds of the clock: an assertion that expires within a second is accepted until the next
one begins, and so it is accepted again when its entry has ended. The replay entry of a proof is
kept for the clock skew longer than the proof may be old, in exact milliseconds, while its age is
measured in whole seconds: without clock skew the entry ends a second too early. In all other cases
an assertion and a proof are used once, unless a request is held up before it registers the entry
until the entry has ended.

## Main definitions

* `Fapi2As.ServerRun.UsedOnce`, `Fapi2As.ServerRun.ProofUsedOnce` — an assertion, a proof is used
  once.
* `Fapi2As.ServerRun.AssertionInTime`, `Fapi2As.ServerRun.ProofInTime` — its replay entry is not
  registered when the entry has ended.

## Main results

* `Fapi2As.ServerRun.used_once_of_inTime` — assertions whose entries are registered in time are used
  once.
* `Fapi2As.ServerRun.proofUsedOnce_of_inTime` — so are proofs, when some clock skew is accepted.
-/

namespace Fapi2As

open Js Async

/-- **The endpoints are apart**: the URLs that proofs are verified for are different URLs. -/
def EndpointsApart (P : Platform) (config : AppConfig) : Prop :=
  ([(endpointUrls P config).par, (endpointUrls P config).token,
    (endpointUrls P config).userinfo].map (normalizeHtu P)).Nodup

variable {P : Platform} {config : AppConfig} {backend : Backend}

namespace ServerRun

variable (R : ServerRun P config backend)

/-! ## Assertions -/

/-- **An assertion is used once**: it authenticates one request at most. -/
def UsedOnce (assertion : String) : Prop :=
  ∀ pid pid', R.AuthenticatedBy pid assertion → R.AuthenticatedBy pid' assertion → pid = pid'

/-- **The entry of an assertion is registered in time**: when a request that presents the assertion
registers its jti, the clock has not come to the expiry of the assertion, in milliseconds. -/
def AssertionInTime (assertion : String) : Prop :=
  ∀ i pid p id d t r, R.Does i pid p ⟨.db (.jtiRegister assertionContext id d t), r⟩ →
    str (p.req.body.get "client_assertion") = some assertion →
    ∀ exp, num ((P.jwtClaims assertion).get "exp") = some exp →
      ∃ e, assertionExpiry exp = some e ∧ ((R.world i).clock : ℤ) < e

variable {R}

/-- Two requests do not register an entry before it has ended. -/
lemma registers_once (hclock : R.ClockForward) {i j pid pid' : ℕ}
    {p p' : Proc (server P config backend)} {c id : String} {e : ℤ} {t t' : ℕ}
    (h : R.Does i pid p ⟨.db (.jtiRegister c id (some e) t), .ok true⟩)
    (h' : R.Does j pid' p' ⟨.db (.jtiRegister c id (some e) t'), .ok true⟩)
    (hlive : ((R.world i).clock : ℤ) < e) (hlive' : ((R.world j).clock : ℤ) < e) : pid = pid' := by
  rcases Nat.lt_trichotomy i j with hij | rfl | hij
  · exact absurd (registered_again hclock h h' hij) (by omega)
  · exact (h.functional h').1
  · exact absurd (registered_again hclock h' h hij) (by omega)

/-- **An assertion is used once**, when its entry is registered in time.

**Proof sketch.** Two requests that it authenticates register the same key with the same expiry
(`AuthenticatedBy.registered`), the later one when the clock has come to it (`registered_again`). -/
theorem used_once_of_inTime (R : ServerRun P config backend) (hclock : R.ClockForward)
    {assertion : String} (hin : R.AssertionInTime assertion) : R.UsedOnce assertion := by
  intro pid pid' h h'
  obtain ⟨clientId, jti, exp, hsub, hjti, hexp, i, p, t, hd, hbody, -⟩ := h.registered
  obtain ⟨clientId', jti', exp', hsub', hjti', hexp', j, p', t', hd', hbody', -⟩ := h'.registered
  obtain rfl : clientId' = clientId := Json.str.inj (Option.some.inj (hsub'.symm.trans hsub))
  obtain rfl : jti' = jti := Option.some.inj (hjti'.symm.trans hjti)
  obtain rfl : exp' = exp := Option.some.inj (hexp'.symm.trans hexp)
  obtain ⟨e, he, hlive⟩ := hin i pid p _ _ t _ hd hbody exp' hexp
  obtain ⟨e', he', hlive'⟩ := hin j pid' p' _ _ t' _ hd' hbody' exp' hexp
  obtain rfl : e' = e := Option.some.inj (he'.symm.trans he)
  rw [he] at hd hd'
  exact registers_once hclock hd hd' hlive hlive'

/-! ## Proofs -/

variable (R) in
/-- **A proof was accepted** for a request, in the context of its endpoint. -/
def ProofVerified (pid : ℕ) (proof : String) : Prop :=
  ∃ i ≤ R.len, ∃ p ctx jkt, R.proc i pid = some p ∧ p.req.dpop = some (.one proof) ∧
    ProofContext P config p.req ctx ∧ ProofAccepted P config p.req.dpop ctx jkt p.past

variable (R) in
/-- A request that presents a proof registers an entry for it. -/
structure RegistersProof (i pid : ℕ) (proof c id : String) (r : Except Fault Bool) : Prop where
  presents : ∃ p d t, R.Does i pid p ⟨.db (.jtiRegister c id d t), r⟩ ∧
    p.req.dpop = some (.one proof)
  context : c ≠ assertionContext

variable (R) in
/-- **A proof is used once**: it is accepted for one request at most, and its entry is live whenever
the proof would pass the check of its age again. -/
structure ProofUsedOnce (proof : String) : Prop where
  /-- It is accepted for one request. -/
  once : ∀ pid pid', R.ProofVerified pid proof → R.ProofVerified pid' proof → pid = pid'
  /-- Its entry is live as long as the proof is not too old. -/
  live : ∀ i pid c id, R.RegistersProof i pid proof c id (.ok true) → ∀ iat,
    num ((P.jwtClaims proof).get "iat") = some iat → ∀ k, i < k → k ≤ R.len →
    (((R.world k).clock / 1000 : ℕ) : ℚ) - iat ≤ config.dpopProofMaxAgeSec →
    ∃ e, (R.store k).jti.get? (c, id) = some (some e) ∧ ((R.world k).clock : ℤ) < e

variable (R) in
/-- **The entry of a proof is registered in time**: when a request that presents the proof registers
its jti, the clock has not come to the instant until which the entry is kept. -/
def ProofInTime (proof : String) : Prop :=
  ∀ i pid c id r, R.RegistersProof i pid proof c id r → ∀ iat,
    num ((P.jwtClaims proof).get "iat") = some iat →
    ∃ e, dpopReplayExpiry config iat = some e ∧ ((R.world i).clock : ℤ) < e

/-- **A proof belongs to one endpoint**: the contexts in which it can be accepted have the same
replay entries. -/
lemma replayKey_eq_of_htu (hapart : EndpointsApart P config) {req req' : HttpRequest}
    {ctx ctx' : DpopContext} (h : ProofContext P config req ctx)
    (h' : ProofContext P config req' ctx') {htu : Option Json}
    (hmatch : htuMatches P htu ctx.htu = true) (hmatch' : htuMatches P htu ctx'.htu = true) :
    ctx.replayKey P = ctx'.replayKey P := by
  have hurl : normalizeHtu P ctx.htu = normalizeHtu P ctx'.htu := by
    unfold htuMatches at hmatch hmatch'
    split at hmatch
    · exact (of_decide_eq_true hmatch).symm.trans (of_decide_eq_true hmatch')
    · cases hmatch
  simp only [EndpointsApart, List.map_cons, List.map_nil, List.nodup_cons, List.mem_cons,
    List.not_mem_nil, or_false, not_or] at hapart
  obtain ⟨⟨hpt, hpu⟩, htu, -⟩ := hapart
  cases h with
  | par _ =>
    cases h' with
    | par _ => rfl
    | token _ => exact absurd hurl hpt
    | userinfo _ _ => exact absurd hurl hpu
  | token _ =>
    cases h' with
    | par _ => exact absurd hurl.symm hpt
    | token _ => rfl
    | userinfo _ _ => exact absurd hurl htu
  | userinfo _ _ =>
    cases h' with
    | par _ => exact absurd hurl.symm hpu
    | token _ => exact absurd hurl.symm htu
    | userinfo _ _ => rfl

/-- An accepted proof was accepted in the context of an endpoint. -/
lemma ProofVerified.provenBy {pid : ℕ} {proof : String} (h : R.ProofVerified pid proof) :
    ∃ req ctx, ProofContext P config req ctx ∧ R.ProvenBy pid ctx proof := by
  obtain ⟨i, hi, p, ctx, jkt, hp, hdpop, hctx, hacc⟩ := h
  exact ⟨p.req, ctx, hctx, i, hi, p, jkt, hp, hdpop, hacc⟩

/-- **A proof is accepted once**, when its entry is registered in time. -/
lemma verified_once (hclock : R.ClockForward) (hapart : EndpointsApart P config) {proof : String}
    (hin : R.ProofInTime proof) {pid pid' : ℕ} (h : R.ProofVerified pid proof)
    (h' : R.ProofVerified pid' proof) : pid = pid' := by
  obtain ⟨req, ctx, hctx, hproven⟩ := h.provenBy
  obtain ⟨req', ctx', hctx', hproven'⟩ := h'.provenBy
  obtain ⟨jkt, jti, iat, hjkt, hjti, hiat, hhtu, i, p, t, hd, hdpop, -⟩ := hproven.registered
  obtain ⟨jkt', jti', iat', hjkt', hjti', hiat', hhtu', j, p', t', hd', hdpop', -⟩ :=
    hproven'.registered
  obtain rfl : jkt' = jkt := Option.some.inj (hjkt'.symm.trans hjkt)
  obtain rfl : jti' = jti := Option.some.inj (hjti'.symm.trans hjti)
  obtain rfl : iat' = iat := Option.some.inj (hiat'.symm.trans hiat)
  obtain ⟨e, he, hlive⟩ := hin i pid _ _ _ ⟨⟨p, _, t, hd, hdpop⟩, hctx.replayKey_ne⟩ iat' hiat
  obtain ⟨e', he', hlive'⟩ :=
    hin j pid' _ _ _ ⟨⟨p', _, t', hd', hdpop'⟩, hctx'.replayKey_ne⟩ iat' hiat
  obtain rfl : e' = e := Option.some.inj (he'.symm.trans he)
  rw [he] at hd hd'
  rw [← replayKey_eq_of_htu hapart hctx hctx' hhtu hhtu'] at hd'
  exact registers_once hclock hd hd' hlive hlive'

/-- An entry that is registered for a proof has the expiry of the proof. -/
lemma RegistersProof.expiry {i pid : ℕ} {proof c id : String} {r : Except Fault Bool}
    (h : R.RegistersProof i pid proof c id r) :
    ∃ p iat t, R.Does i pid p ⟨.db (.jtiRegister c id (dpopReplayExpiry config iat) t), r⟩ ∧
      num ((P.jwtClaims proof).get "iat") = some iat := by
  obtain ⟨p, d, t, hd, hdpop⟩ := h.presents
  rcases R.justified hd with ⟨_, _, _, _, _, -, -, ho⟩ | ⟨ctx, -, _, checked, _, hc, -, ho⟩
  · cases ho
    exact absurd rfl h.context
  · cases ho
    rw [hdpop] at hc
    obtain rfl : checked.proof = proof :=
      (DpopHeader.one.inj (Option.some.inj hc.header_eq)).symm
    exact ⟨p, checked.iat, _, hd, hc.iat⟩

/-- **A proof is used once**, when its entry is registered in time and some clock skew is accepted.

**Proof sketch.** As for assertions, two acceptances would register the same entry
(`verified_once`). The entry stays in the table until it ends (`jti_kept`), which is after the last
instant at which the proof is not too old (`window_before_expiry`). -/
theorem proofUsedOnce_of_inTime (R : ServerRun P config backend) (hclock : R.ClockForward)
    (hapart : EndpointsApart P config) (hskew : 1 ≤ config.clockSkewFutureAcceptSec)
    {proof : String} (hin : R.ProofInTime proof) : R.ProofUsedOnce proof := by
  refine ⟨fun pid pid' h h' => verified_once hclock hapart hin h h', ?_⟩
  intro i pid c id hreg iat hiat k hik hk hage
  obtain ⟨p, iat', t, hd, hiat'⟩ := hreg.expiry
  obtain rfl : iat' = iat := Option.some.inj (hiat'.symm.trans hiat)
  obtain ⟨e, he, -⟩ := hin i pid c id _ hreg iat' hiat
  have hlive := window_before_expiry hskew hage he
  refine ⟨e, jti_kept hclock ?_ hik hk hlive, hlive⟩
  obtain ⟨rows, sweep, hset⟩ := (R.carried hd).registered
  rw [hset.tables, he]
  simp

/-- A run whose trace shows that the clock is never set back. -/
lemma clockForward_of_trace {R : ServerRun P config backend}
    {steps : List (TraceStep (server P config backend))} {last : Conf (server P config backend)}
    (ht : R.HasTrace steps last)
    (h : ((steps.map (·.before) ++ [last]).map (·.world.clock)).Pairwise (· ≤ ·)) :
    R.ClockForward := fun _ hk => ht.consecutive (List.pairwise_map.mp h) hk

end ServerRun

namespace Sample

/-! ## An assertion that expires within a second -/

/-- A call stores a pushed request. -/
def insertsRequest : Call → Bool
  | .db (.parInsert _) => true
  | _ => false

/-- Client `A` pushes a request with an assertion that expires at second 160.5, and pushes it again,
with the same assertion, at second 160.7. -/
def pushedTwice : List (Act system) :=
  .arrive (par "6") :: calls 0 5 ++ [draws 0 reference] ++ calls 0 1 ++
    .env (.setClock 160700) :: .arrive (par "6") :: calls 1 5 ++ [draws 1 code] ++ calls 1 1

/-- Both requests are stored, and the clock goes on. -/
def storedTwice (t : List (TraceStep system) × Conf system) : Bool :=
  ((t.1.map (·.before) ++ [t.2]).map (·.world.clock)).Pairwise (· ≤ ·) &&
  [0, 1].all fun pid => t.2.answers pid fun req past _ =>
    req = par "6" && past.any fun e => insertsRequest e.op

set_option maxRecDepth 4000 in
lemma pushedTwice_trace : (system.trace ⟨world, []⟩ pushedTwice).any storedTwice = true := by
  decide +kernel

/-- The run of the two pushes. -/
def pushedTwiceRun : ServerRun platform Sample.config .memory :=
  .ofTrace world pushedTwice world_initial storedTwice pushedTwice_trace

/-- A push that is stored was authenticated by its assertion. -/
lemma authenticatedBy_of_stored {R : ServerRun platform Sample.config .memory} {pid : ℕ}
    {past : List Event} {reply : Reply} (hp : R.proc R.len pid = some ⟨par "6", past, .ret reply⟩)
    (h : past.any (fun e => insertsRequest e.op) = true) : R.AuthenticatedBy pid ".6." := by
  obtain ⟨⟨op, res⟩, hmem, hop⟩ := List.any_eq_true.mp h
  obtain ⟨m, -, q, hd, hreq, hpre⟩ := R.did le_rfl hp hmem
  obtain ⟨rec, rfl⟩ : ∃ rec, op = .db (.parInsert rec) := by
    cases op with
    | db query => cases query <;> first | exact ⟨_, rfl⟩ | cases hop
    | _ => cases hop
  obtain ⟨-, client, _, hauth, -⟩ := R.justified hd
  rw [hreq] at hauth
  have hbody : str ((par "6").body.get "client_assertion") = some ".6." := by decide
  exact ⟨R.len, le_rfl, _, client, hp, hbody, hauth.mono ((List.prefix_append _ _).trans hpre)⟩

/-- **An assertion that expires within a second is used twice**: once while its entry is live, and
once after the entry has ended in the same second. -/
theorem pushedTwice_not_usedOnce :
    pushedTwiceRun.ClockForward ∧ ¬pushedTwiceRun.UsedOnce ".6." := by
  obtain ⟨steps, last, ht, h⟩ : ∃ steps last, pushedTwiceRun.HasTrace steps last ∧
    storedTwice (steps, last) = true := Run.hasTrace_ofTrace pushedTwice_trace
  obtain ⟨hclock, hall⟩ := Bool.and_eq_true_iff.mp h
  have hauth : ∀ pid ∈ [0, 1], pushedTwiceRun.AuthenticatedBy pid ".6." := by
    intro pid hpid
    obtain ⟨req, past, reply, hp, htest⟩ := ht.answers (List.all_eq_true.mp hall pid hpid)
    obtain ⟨hreq, hstored⟩ := Bool.and_eq_true_iff.mp htest
    obtain rfl : req = par "6" := of_decide_eq_true hreq
    exact authenticatedBy_of_stored hp hstored
  refine ⟨ServerRun.clockForward_of_trace ht (of_decide_eq_true hclock), fun honce => ?_⟩
  cases honce 0 1 (hauth 0 (by simp)) (hauth 1 (by simp))

set_option maxRecDepth 4000 in
lemma redemption_lastClock :
    (system.trace ⟨world, []⟩ redemption).any (fun t => t.2.world.clock = 100000) = true := by
  decide +kernel

/-- The clock stands at second 100 throughout the redemption. -/
lemma redemptionRun_clock_le {i : ℕ} (hi : i ≤ redemptionRun.len) :
    (redemptionRun.world i).clock ≤ 100000 := by
  obtain ⟨⟨steps, last⟩, ht, h⟩ := (Option.any_eq_true _ _).mp redemption_lastClock
  have ht : redemptionRun.HasTrace steps last := ht
  have hlast : (redemptionRun.world redemptionRun.len).clock = 100000 := by
    rw [Run.world, ht.last]
    exact of_decide_eq_true h
  exact (ServerRun.clock_mono redemptionRun_clockForward hi le_rfl).trans hlast.le

/-- The assertion of the redemption is used once. -/
theorem redemption_usedOnce : redemptionRun.AuthenticatedBy 2 ".2." ∧
    redemptionRun.UsedOnce ".2." := by
  obtain ⟨p, client, jkt, hp, hbody, -, hrequest⟩ := redemption_request
  have hassertion : str (p.req.body.get "client_assertion") = some ".2." := by
    rw [hbody]
    decide
  refine ⟨⟨redemptionRun.len, le_rfl, p, client, hp, hassertion, hrequest.client⟩,
    redemptionRun.used_once_of_inTime redemptionRun_clockForward ?_⟩
  intro i pid p id d t r hd _ exp hexp
  have hexp' : num ((platform.jwtClaims ".2.").get "exp") = some ((160 : ℕ) : ℚ) := by decide
  obtain rfl := Option.some.inj (hexp.symm.trans hexp')
  have hclock := redemptionRun_clock_le hd.lt.le
  exact ⟨_, ServerRun.assertionExpiry_natCast (by decide), by omega⟩

/-! ## A server that accepts no clock skew -/

/-- The configuration without clock skew. -/
def unskewedConfig : AppConfig :=
  { Sample.config with
    clockSkewFutureAcceptSec := 0
    clockSkew_le := by decide }

/-- The deployment as a system without clock skew. -/
abbrev unskewedSystem : Sys Ret Exn Reply := server platform unskewedConfig .memory

/-- Client `A` presents a code that does not exist, with a proof that was issued at second 100; and
again, with the same proof, at second 160.5. -/
def provenTwice : List (Act unskewedSystem) :=
  .arrive (redeem "1" "p") :: nextCalls 0 6 ++ [.run 0 { loaded := some [signingKey] }] ++
    nextCalls 0 2 ++ .env (.setClock 160500) :: .arrive (redeem "6" "p") :: nextCalls 1 9

/-- A call redeems a code. -/
def isRedemption : Call → Bool
  | .db (.codesRedeem _ _) => true
  | _ => false

/-- Both requests come to the redemption, and the clock goes on. -/
def redeemedTwice (t : List (TraceStep unskewedSystem) × Conf unskewedSystem) : Bool :=
  ((t.1.map (·.before) ++ [t.2]).map (·.world.clock)).Pairwise (· ≤ ·) &&
  [0, 1].all fun pid => t.2.answers pid fun req past _ =>
    req.dpop = some (.one "p") && past.any fun e => isRedemption e.op

set_option maxRecDepth 4000 in
lemma provenTwice_trace :
    (unskewedSystem.trace ⟨world, []⟩ provenTwice).any redeemedTwice = true := by
  decide +kernel

/-- The run of the two presentations. -/
def provenTwiceRun : ServerRun platform unskewedConfig .memory :=
  .ofTrace world provenTwice world_initial redeemedTwice provenTwice_trace

/-- A redemption of a code has an accepted proof. -/
lemma proofVerified_of_redeems {R : ServerRun platform unskewedConfig .memory} {pid : ℕ}
    {p : Proc unskewedSystem} (hp : R.proc R.len pid = some p)
    (hdpop : p.req.dpop = some (.one "p"))
    (h : p.past.any (fun e => isRedemption e.op) = true) : R.ProofVerified pid "p" := by
  obtain ⟨⟨op, res⟩, hmem, hop⟩ := List.any_eq_true.mp h
  obtain ⟨m, -, q, hd, hreq, hpre⟩ := R.did le_rfl hp hmem
  obtain ⟨codeHash, t, rfl⟩ : ∃ codeHash t, op = .db (.codesRedeem codeHash t) := by
    cases op with
    | db query => cases query <;> first | exact ⟨_, _, rfl⟩ | cases hop
    | _ => cases hop
  obtain ⟨client, jkt, _, hrequest, -⟩ := R.justified hd
  have hproof := hrequest.proof
  rw [hreq] at hproof
  exact ⟨R.len, le_rfl, p, _, jkt, hp, hdpop, .token (hreq ▸ hrequest.route),
    hproof.mono ((List.prefix_append _ _).trans hpre)⟩

/-- **Without clock skew a proof is used twice**: its entry ends when the proof is as old as it may
be, and the proof is accepted for the rest of that second. -/
theorem provenTwice_not_usedOnce : provenTwiceRun.ClockForward ∧
    EndpointsApart platform unskewedConfig ∧ ¬provenTwiceRun.ProofUsedOnce "p" := by
  obtain ⟨steps, last, ht, h⟩ : ∃ steps last, provenTwiceRun.HasTrace steps last ∧
    redeemedTwice (steps, last) = true := Run.hasTrace_ofTrace provenTwice_trace
  obtain ⟨hclock, hall⟩ := Bool.and_eq_true_iff.mp h
  have hverified : ∀ pid ∈ [0, 1], provenTwiceRun.ProofVerified pid "p" := by
    intro pid hpid
    obtain ⟨req, past, reply, hp, htest⟩ := ht.answers (List.all_eq_true.mp hall pid hpid)
    obtain ⟨hdpop, hredeems⟩ := Bool.and_eq_true_iff.mp htest
    exact proofVerified_of_redeems hp (of_decide_eq_true hdpop) hredeems
  have hapart : EndpointsApart platform unskewedConfig := by
    unfold EndpointsApart
    decide
  refine ⟨ServerRun.clockForward_of_trace ht (of_decide_eq_true hclock), hapart, fun honce => ?_⟩
  cases honce.once 0 1 (hverified 0 (by simp)) (hverified 1 (by simp))

/-- The proof of the redemption is used once. -/
theorem redemption_proofUsedOnce : redemptionRun.ProofVerified 2 "p" ∧
    redemptionRun.ProofUsedOnce "p" := by
  obtain ⟨p, client, jkt, hp, -, hdpop, hrequest⟩ := redemption_request
  have hapart : EndpointsApart platform Sample.config := by
    unfold EndpointsApart
    decide
  refine ⟨⟨redemptionRun.len, le_rfl, p, _, jkt, hp, hdpop, .token hrequest.route, hrequest.proof⟩,
    redemptionRun.proofUsedOnce_of_inTime redemptionRun_clockForward hapart (by decide) ?_⟩
  rintro i pid c id r ⟨⟨p, d, t, hd, -⟩, -⟩ iat hiat
  have hiat' : num ((platform.jwtClaims "p").get "iat") = some 100 := by decide
  obtain rfl := Option.some.inj (hiat.symm.trans hiat')
  have hclock := redemptionRun_clock_le hd.lt.le
  exact ⟨_, dpopReplayExpiry_hundred, by omega⟩

end Sample

end Fapi2As
