import Fapi2As.Properties.Lineage
import Fapi2As.Server.Timely
import Fapi2As.Server.TokenReplies

set_option relaxedAutoImplicit false
set_option autoImplicit false

/-!
# Assertions and proofs are accepted once

A request is checked against the reading of the clock that it makes when it arrives, and it
registers the jti with that reading, but the registration may come much later: keys are fetched, and
calls of other requests come between. The entry of an accepted assertion is kept until the clock
comes to the expiry of the assertion, which no request that arrives then passes. So a second
acceptance needs a request that arrived before that instant and registered after it. The same holds
of proofs, as long as some clock skew is accepted: the entry of a proof then outlives its acceptance
window.

## Main definitions

* `Fapi2As.ServerRun.AuthenticatedBy` — a request was authenticated by an assertion.
* `Fapi2As.ServerRun.ProvenBy` — a request was accepted with a proof.
* `Fapi2As.ServerRun.Straddles` — a request arrived before an instant and registered an entry after
  it.

## Main results

* `Fapi2As.ServerRun.registered_again` — a key is registered again only after its expiry.
* `Fapi2As.ServerRun.assertion_once`, `Fapi2As.ServerRun.proof_once` — no assertion authenticates,
  and no proof is accepted for, two requests that do not straddle its expiry.
-/

namespace Fapi2As

open Js Async

variable {P : Platform} {config : AppConfig} {backend : Backend}

/-! ## Entries of the replay guard -/

/-- A registration keeps an entry that has not expired, and is refused for its key. -/
lemma Registered.live {s s' : Store} {key k : String × String} {d : Date} {t : ℕ} {fresh : Bool}
    {rows : Map (String × String) Date} {sweep : ℕ} {e : ℤ}
    (h : Registered s s' k d t fresh rows sweep)
    (hrow : s.jti.get? key = some (some e)) (hlive : (t : ℤ) < e) :
    s'.jti.get? key = some (some e) ∧ (key = k → fresh = false) := by
  have hpast : Date.isPast (some e) t = false := decide_eq_false (not_le.mpr hlive)
  have hkept : rows.get? key = some (some e) := h.swept.kept _ _ hrow hpast
  have hrefused : key = k → fresh = false := by
    rintro rfl
    by_contra hfresh
    have hafter := h.free (by simpa using hfresh) _ hkept
    simp only [Date.isAfter, decide_eq_false_iff_not] at hafter
    exact hafter hlive
  refine ⟨?_, hrefused⟩
  rw [h.tables]
  dsimp only
  split_ifs with hfresh
  · have hk : key ≠ k := fun hk => by simp [hrefused hk] at hfresh
    rw [Map.get?_set, if_neg hk]
    exact hkept
  · exact hkept

namespace ServerRun

variable {R : ServerRun P config backend}

/-- **An entry is kept until the clock comes to its expiry.** -/
lemma jti_kept (hclock : R.ClockForward) {i j : ℕ} {key : String × String} {e : ℤ}
    (h : (R.store i).jti.get? key = some (some e)) (hij : i ≤ j) (hj : j ≤ R.len)
    (hlive : ((R.world j).clock : ℤ) < e) : (R.store j).jti.get? key = some (some e) := by
  induction j, hij using Nat.le_induction with
  | base => exact h
  | succ j hij ih =>
    have hmono := clock_mono hclock (Nat.le_add_right j 1) hj
    have hrow := ih (by omega) (by omega)
    cases R.store_step (i := j) (by omega) with
    | same hs => rwa [hs]
    | register rec _ hs => rwa [hs]
    | query pid p q r hd he =>
      rcases he.jti key with hs | ⟨c, id, d, t, rfl, -⟩
      · rwa [hs]
      · obtain ⟨rows, sweep, hreg⟩ := (R.carried hd).registered
        have hle := registration_le hclock hd
        exact (hreg.live hrow (by omega)).1

/-- **A key is registered again only after its expiry.**

**Proof sketch.** Until then its entry is kept (`jti_kept`), since no registration has a time after
the clock (`registration_le`), and for the same reason the second registration would find it alive.
-/
lemma registered_again (hclock : R.ClockForward) {i j pid pid' : ℕ}
    {p p' : Proc (server P config backend)} {c id : String} {e : ℤ} {e' : Date} {t t' : ℕ}
    (h : R.Does i pid p ⟨.db (.jtiRegister c id (some e) t), .ok true⟩)
    (h' : R.Does j pid' p' ⟨.db (.jtiRegister c id e' t'), .ok true⟩) (hij : i < j) :
    e ≤ ((R.world j).clock : ℤ) := by
  by_contra hlive
  have hset : (R.store (i + 1)).jti.get? (c, id) = some (some e) := by
    obtain ⟨rows, sweep, hreg⟩ := (R.carried h).registered
    rw [hreg.tables]
    simp
  have hrow := jti_kept hclock hset hij h'.lt.le (by omega)
  obtain ⟨rows, sweep, hreg⟩ := (R.carried h').registered
  have hle := registration_le hclock h'
  exact absurd ((hreg.live hrow (by omega)).2 rfl) (by simp)

variable (R)

/-- **A request straddles an instant** with a replay entry: it read the clock before the instant,
and registered the entry with that reading when the clock had come to it. -/
def Straddles (pid : ℕ) (entry : String × String) (e : ℤ) : Prop :=
  ∃ i p d t, R.Does i pid p ⟨.db (.jtiRegister entry.1 entry.2 d t), .ok true⟩ ∧ (t : ℤ) < e ∧
    e ≤ ((R.world i).clock : ℤ)

/-- **A request was authenticated** by an assertion, whatever became of it afterwards. -/
def AuthenticatedBy (pid : ℕ) (assertion : String) : Prop :=
  ∃ i ≤ R.len, ∃ p client, R.proc i pid = some p ∧
    str (p.req.body.get "client_assertion") = some assertion ∧
    Authenticated P config p.req.body client p.past

/-- **A proof was accepted** for a request, in a context. -/
def ProvenBy (pid : ℕ) (ctx : DpopContext) (proof : String) : Prop :=
  ∃ i ≤ R.len, ∃ p jkt, R.proc i pid = some p ∧ p.req.dpop = some (.one proof) ∧
    ProofAccepted P config p.req.dpop ctx jkt p.past

variable {R}

/-- Two requests registered an entry with times before its expiry: one of them straddles the expiry.
-/
lemma straddles_of_registered (hclock : R.ClockForward) {i j pid pid' : ℕ}
    {p p' : Proc (server P config backend)} {c id : String} {e : ℤ} {t t' : ℕ}
    (h : R.Does i pid p ⟨.db (.jtiRegister c id (some e) t), .ok true⟩)
    (h' : R.Does j pid' p' ⟨.db (.jtiRegister c id (some e) t'), .ok true⟩) (hne : pid' ≠ pid)
    (ht : (t : ℤ) < e) (ht' : (t' : ℤ) < e) :
    R.Straddles pid (c, id) e ∨ R.Straddles pid' (c, id) e := by
  rcases Nat.lt_trichotomy i j with hij | rfl | hij
  · exact .inr ⟨j, p', some e, t', h', ht', registered_again hclock h h' hij⟩
  · exact absurd (h'.functional h).1 hne
  · exact .inl ⟨i, p, some e, t, h, ht, registered_again hclock h' h hij⟩

/-! ## Assertions -/

/-- An authentication registered the jti of the assertion, under the client and with the expiry that
the assertion names, and with a reading that had not come to the expiry. -/
lemma AuthenticatedBy.registered {pid : ℕ} {assertion : String}
    (h : R.AuthenticatedBy pid assertion) :
    ∃ clientId jti exp, (P.jwtClaims assertion).get "sub" = some (.str clientId) ∧
      str ((P.jwtClaims assertion).get "jti") = some jti ∧
      num ((P.jwtClaims assertion).get "exp") = some exp ∧
      ∃ i p t, R.Does i pid p ⟨.db (.jtiRegister assertionContext (replayId clientId jti)
          (assertionExpiry exp) t), .ok true⟩ ∧
        str (p.req.body.get "client_assertion") = some assertion ∧ ((t / 1000 : ℕ) : ℚ) < exp := by
  obtain ⟨i, hi, p, client, hp, hbody, a, _, t, exp, jti, ha, -, -, -, hc, hmem⟩ := h
  obtain rfl := Option.some.inj (hbody.symm.trans ha)
  obtain ⟨j, -, q, hd, hreq, -⟩ := R.did hi hp hmem
  exact ⟨client.clientId, jti, exp, hc.sub, hc.jtiClaim, hc.expiry, j, q, t, hd, hreq ▸ hbody,
    hc.notExpired⟩

/-- The entry of an assertion with an expiry in whole seconds lives until that second. -/
lemma assertionExpiry_natCast {n : ℕ} (h : n * 1000 ≤ maxTime) :
    assertionExpiry n = some ((n * 1000 : ℕ) : ℤ) := by
  have hq : (n : ℚ) * 1000 = ((n * 1000 : ℕ) : ℚ) := by push_cast; rfl
  rw [assertionExpiry, hq, newDate_natCast h]

/-- **An assertion authenticates one request.** In every run, when a request was authenticated by an
assertion that expires at a second `n`, another request is authenticated by it only if one of the
two read the clock before that second and registered the jti of the assertion, under the client that
it names, when the clock had come to it.

**Proof sketch.** Both requests register the same key with the same expiry
(`AuthenticatedBy.registered`), and with readings before it, since neither reading had come to the
second `n`. The later one of the two registrations follows the expiry of the earlier one
(`registered_again`). -/
theorem assertion_once (hclock : R.ClockForward) {pid : ℕ} {assertion : String}
    (h : R.AuthenticatedBy pid assertion) {n : ℕ}
    (hexp : num ((P.jwtClaims assertion).get "exp") = some (n : ℚ))
    (hdate : n * 1000 ≤ maxTime) :
    ∃ clientId jti, (P.jwtClaims assertion).get "sub" = some (.str clientId) ∧
      str ((P.jwtClaims assertion).get "jti") = some jti ∧
      ∀ pid' ≠ pid, R.AuthenticatedBy pid' assertion →
        R.Straddles pid (assertionContext, replayId clientId jti) (n * 1000 : ℕ) ∨
          R.Straddles pid' (assertionContext, replayId clientId jti) (n * 1000 : ℕ) := by
  obtain ⟨clientId, jti, exp, hsub, hjti, hexp₁, i, p, t, hd, -, ht⟩ := h.registered
  refine ⟨clientId, jti, hsub, hjti, fun pid' hne h' => ?_⟩
  obtain ⟨clientId', jti', exp', hsub', hjti', hexp', j, p', t', hd', -, ht'⟩ := h'.registered
  -- The claims decide the key and the expiry.
  obtain rfl : clientId' = clientId := Json.str.inj (Option.some.inj (hsub'.symm.trans hsub))
  obtain rfl : jti' = jti := Option.some.inj (hjti'.symm.trans hjti)
  obtain rfl : exp = n := Option.some.inj (hexp₁.symm.trans hexp)
  obtain rfl : exp' = n := Option.some.inj (hexp'.symm.trans hexp)
  rw [assertionExpiry_natCast hdate] at hd hd'
  have hearly : ∀ {t : ℕ}, ((t / 1000 : ℕ) : ℚ) < n → (t : ℤ) < ((n * 1000 : ℕ) : ℤ) := by
    intro t ht
    have ht : t / 1000 < n := by exact_mod_cast ht
    omega
  exact straddles_of_registered hclock hd hd' hne (hearly ht) (hearly ht')

/-! ## Proofs -/

/-- An accepted proof registered its jti, under the key and for the time of issuance that it names,
and with a reading in its acceptance window. -/
lemma ProvenBy.registered {pid : ℕ} {ctx : DpopContext} {proof : String}
    (h : R.ProvenBy pid ctx proof) :
    ∃ jkt jti iat,
      ((P.decodeProtectedHeader proof).bind headerJwk).bind P.calculateJwkThumbprint = some jkt ∧
      str ((P.jwtClaims proof).get "jti") = some jti ∧
      num ((P.jwtClaims proof).get "iat") = some iat ∧
      htuMatches P ((P.jwtClaims proof).get "htu") ctx.htu = true ∧
      ∃ i p t, R.Does i pid p ⟨.db (.jtiRegister (ctx.replayKey P) (dpopReplayId jkt jti)
          (dpopReplayExpiry config iat) t), .ok true⟩ ∧ p.req.dpop = some (.one proof) ∧
        ((t / 1000 : ℕ) : ℚ) - iat ≤ config.dpopProofMaxAgeSec := by
  obtain ⟨i, hi, p, jkt, hp, hdpop, t, c, -, hc, hjkt, hmem⟩ := h
  rw [hdpop] at hc
  obtain rfl : c.proof = proof := (DpopHeader.one.inj (Option.some.inj hc.header_eq)).symm
  obtain ⟨j, -, q, hd, hreq, -⟩ := R.did hi hp hmem
  exact ⟨jkt, c.jti, c.iat, by rw [hc.jwk, Option.bind_some, hjkt], hc.jti, hc.iat, hc.htu, j, q, t,
    hd, hreq ▸ hdpop, hc.notExpired⟩

/-- **The entry of a proof outlives its acceptance window**, when some clock skew is accepted. -/
lemma window_before_expiry {iat : ℚ} {t : ℕ} {e : ℤ} (hskew : 1 ≤ config.clockSkewFutureAcceptSec)
    (hwindow : ((t / 1000 : ℕ) : ℚ) - iat ≤ config.dpopProofMaxAgeSec)
    (hdate : dpopReplayExpiry config iat = some e) : (t : ℤ) < e := by
  have hskew : (1 : ℚ) ≤ config.clockSkewFutureAcceptSec := by exact_mod_cast hskew
  -- The second after the reading is still in the lifetime of the entry.
  have hnext : (((t / 1000 + 1) * 1000 : ℕ) : ℚ) ≤
      (iat + config.dpopProofMaxAgeSec + config.clockSkewFutureAcceptSec) * 1000 := by
    push_cast
    linarith
  have hle : (((t / 1000 + 1) * 1000 : ℕ) : ℤ) ≤ e := le_newDate (by exact_mod_cast hnext) hdate
  omega

/-- **A proof is accepted for one request.** In every run of a server that accepts some clock skew,
when a proof was accepted for a request, it is accepted for another one in the same replay context
only if one of the two read the clock before the expiry of its entry and registered the jti of the
proof, under its key, when the clock had come to it.

**Proof sketch.** As for assertions: the claims and the header of the proof decide the key and the
expiry of the entry, and the readings of both requests are before it (`window_before_expiry`). -/
theorem proof_once (hclock : R.ClockForward) (hskew : 1 ≤ config.clockSkewFutureAcceptSec) {pid : ℕ}
    {ctx : DpopContext} {proof : String} (h : R.ProvenBy pid ctx proof) {iat : ℚ} {e : ℤ}
    (hiat : num ((P.jwtClaims proof).get "iat") = some iat)
    (hdate : dpopReplayExpiry config iat = some e) :
    ∃ jkt jti,
      ((P.decodeProtectedHeader proof).bind headerJwk).bind P.calculateJwkThumbprint = some jkt ∧
      str ((P.jwtClaims proof).get "jti") = some jti ∧
      ∀ pid' ≠ pid, ∀ ctx' : DpopContext, ctx'.replayKey P = ctx.replayKey P →
        R.ProvenBy pid' ctx' proof →
          R.Straddles pid (ctx.replayKey P, dpopReplayId jkt jti) e ∨
            R.Straddles pid' (ctx.replayKey P, dpopReplayId jkt jti) e := by
  obtain ⟨jkt, jti, iat₁, hjkt, hjti, hiat₁, -, i, p, t, hd, -, ht⟩ := h.registered
  refine ⟨jkt, jti, hjkt, hjti, fun pid' hne ctx' hctx h' => ?_⟩
  obtain ⟨jkt', jti', iat', hjkt', hjti', hiat', -, j, p', t', hd', -, ht'⟩ := h'.registered
  obtain rfl : jkt' = jkt := Option.some.inj (hjkt'.symm.trans hjkt)
  obtain rfl : jti' = jti := Option.some.inj (hjti'.symm.trans hjti)
  obtain rfl : iat₁ = iat := Option.some.inj (hiat₁.symm.trans hiat)
  obtain rfl : iat' = iat₁ := Option.some.inj (hiat'.symm.trans hiat)
  rw [hdate] at hd
  rw [hctx, hdate] at hd'
  exact straddles_of_registered hclock hd hd' hne (window_before_expiry hskew ht hdate)
    (window_before_expiry hskew ht' hdate)

end ServerRun

namespace Sample

/-! ## A redemption -/

/-- The clock is set by no step of a redemption. -/
lemma redemptionRun_clockForward : redemptionRun.ClockForward := by
  refine ServerRun.clockForward_of_moves fun i t h => ?_
  have hnone : .env (.setClock t) ∉ redemption := by
    simp [redemption, authorized, redeemed, issued, calls, draws, allowed, loads, signs]
  exact absurd (List.mem_of_getElem? h) hnone

/-- The redemption is answered with tokens. -/
def tokensGranted (t : List (TraceStep system) × Conf system) : Bool :=
  t.2.answers 2 fun req _ reply =>
    req.route = .token && req.body = (redeem "2" "p").body && req.dpop = some (.one "p") &&
    reply.isGrant

set_option maxRecDepth 4000 in
lemma tokensGranted_trace : (system.trace ⟨world, []⟩ redemption).any tokensGranted = true := by
  decide +kernel

/-- The redemption is an authenticated token request with an accepted proof. -/
lemma redemption_request : ∃ p client jkt, redemptionRun.proc redemptionRun.len 2 = some p ∧
    p.req.body = (redeem "2" "p").body ∧ p.req.dpop = some (.one "p") ∧
    TokenRequest platform Sample.config p.req p.past client jkt := by
  obtain ⟨⟨steps, last⟩, ht, h⟩ := (Option.any_eq_true _ _).mp tokensGranted_trace
  have ht : redemptionRun.HasTrace steps last := ht
  obtain ⟨req, past, reply, hp, htest⟩ := ht.answers h
  simp only [Bool.and_eq_true, decide_eq_true_eq] at htest
  obtain ⟨⟨⟨hroute, hbody⟩, hdpop⟩, hgrant⟩ := htest
  cases redemptionRun.tokenReplied le_rfl hp hroute hgrant with
  | code client jkt _ _ _ hexchange => exact ⟨_, client, jkt, hp, hbody, hdpop, hexchange.1⟩
  | refresh client jkt _ _ _ _ _ hexchange => exact ⟨_, client, jkt, hp, hbody, hdpop, hexchange.1⟩

/-- The assertion of the redemption authenticates no other request of the run, unless one of the two
straddles second 160 with the entry of client `A` and jti `2`. -/
theorem redemption_assertion_once : redemptionRun.AuthenticatedBy 2 ".2." ∧
    ∀ pid' ≠ 2, redemptionRun.AuthenticatedBy pid' ".2." →
      redemptionRun.Straddles 2 (assertionContext, replayId "A" "2") (160 * 1000 : ℕ) ∨
        redemptionRun.Straddles pid' (assertionContext, replayId "A" "2") (160 * 1000 : ℕ) := by
  obtain ⟨p, client, jkt, hp, hbody, -, hrequest⟩ := redemption_request
  have hassertion : str (p.req.body.get "client_assertion") = some ".2." := by
    rw [hbody]
    decide
  have hauth : redemptionRun.AuthenticatedBy 2 ".2." :=
    ⟨redemptionRun.len, le_rfl, p, client, hp, hassertion, hrequest.client⟩
  have hsub : (platform.jwtClaims ".2.").get "sub" = some (.str "A") := by decide
  have hjti : str ((platform.jwtClaims ".2.").get "jti") = some "2" := by decide
  obtain ⟨clientId, jti, hclient, hid, honce⟩ :=
    ServerRun.assertion_once redemptionRun_clockForward hauth (n := 160) (by decide) (by decide)
  obtain rfl : clientId = "A" := Json.str.inj (Option.some.inj (hclient.symm.trans hsub))
  obtain rfl : jti = "2" := Option.some.inj (hid.symm.trans hjti)
  exact ⟨hauth, honce⟩

/-- The entry of a proof that was issued at second 100 lives until second 170. -/
lemma dpopReplayExpiry_hundred : dpopReplayExpiry Sample.config 100 = some 170000 := by
  have hq : ((100 : ℚ) + (60 : ℕ) + (10 : ℕ)) * 1000 = ((170000 : ℕ) : ℚ) := by norm_num
  rw [dpopReplayExpiry]
  exact hq ▸ newDate_natCast (by decide)

/-- The proof of the redemption is accepted for no other token request, unless one of the two
straddles second 170 with the entry of its key and its jti. -/
theorem redemption_proof_once :
    redemptionRun.ProvenBy 2 (tokenDpopContext platform Sample.config) "p" ∧
    ∀ pid' ≠ 2, ∀ ctx' : DpopContext,
      ctx'.replayKey platform = (tokenDpopContext platform Sample.config).replayKey platform →
      redemptionRun.ProvenBy pid' ctx' "p" →
        redemptionRun.Straddles 2 ((tokenDpopContext platform Sample.config).replayKey platform,
          dpopReplayId "k" "p") 170000 ∨
        redemptionRun.Straddles pid' ((tokenDpopContext platform Sample.config).replayKey platform,
          dpopReplayId "k" "p") 170000 := by
  obtain ⟨p, client, jkt, hp, -, hdpop, hrequest⟩ := redemption_request
  have hiat : num ((platform.jwtClaims "p").get "iat") = some 100 := by decide
  have hproven : redemptionRun.ProvenBy 2 (tokenDpopContext platform Sample.config) "p" :=
    ⟨redemptionRun.len, le_rfl, p, jkt, hp, hdpop, hrequest.proof⟩
  have hkey : ((platform.decodeProtectedHeader "p").bind headerJwk).bind
      platform.calculateJwkThumbprint = some "k" := by decide
  have hid : str ((platform.jwtClaims "p").get "jti") = some "p" := by decide
  obtain ⟨jkt, jti, hjkt, hjti, honce⟩ :=
    ServerRun.proof_once redemptionRun_clockForward (by decide) hproven hiat
      dpopReplayExpiry_hundred
  obtain rfl : jkt = "k" := Option.some.inj (hjkt.symm.trans hkey)
  obtain rfl : jti = "p" := Option.some.inj (hjti.symm.trans hid)
  exact ⟨hproven, honce⟩

end Sample

end Fapi2As
