import Fapi2As.Properties.RoundTrip
import Fapi2As.Server.Rows

set_option relaxedAutoImplicit false
set_option autoImplicit false

/-!
# What a push stores

The record of a push holds the parameters of its body: a parameter that is not passed through is
stored as it was given, and one that was not given is not stored.

## Main definitions

* `Fapi2As.StoredPush` — a record with the validated parameters of a body.

## Main results

* `Fapi2As.StoredPush.state`, `Fapi2As.StoredPush.nonce` — the stored state and nonce are those of
  the body.
* `Fapi2As.ServerRun.storedPush` — the records that pushes insert are such records.
-/

namespace Fapi2As

open Js Async

variable {P : Platform} {config : AppConfig}

/-- A record with the validated parameters of a body. -/
def StoredPush (config : AppConfig) (body : Params) (rec : ParRequestRecord) : Prop :=
  ∃ client proof validated dpopJkt reference t,
    checkPush body client proof = .ok (validated, dpopJkt) ∧
    rec = parRecord config reference client validated dpopJkt t

/-! ## The calls of a push -/

/-- A call that inserts a pushed request inserts one with the parameters of a body. -/
def InsertsPush (config : AppConfig) (body : Params) (o : Call) : Prop :=
  ∀ rec, o = .db (.parInsert rec) → StoredPush config body rec

/-- The calls of an authentication insert no pushed request. -/
lemma insertsPush_of_authenticates {body : Params} {o : Call} (h : o.authenticates = true) :
    InsertsPush config body o := by
  intro rec ho
  rw [ho] at h
  cases h

/-- **A push inserts the parameters of its body.** -/
lemma pushAuthorizationRequest_onlyCalls (body : Params) (client : Client) (proof : Option String) :
    (pushAuthorizationRequest config body client proof).OnlyCalls (InsertsPush config body) := by
  refine .bind (fun t => ?_) (Prog.onlyCalls_perform (fun _ ho => by cases ho))
  cases hcheck : checkPush body client proof with
  | error e => trivial
  | ok x =>
    obtain ⟨validated, dpopJkt⟩ := x
    show Prog.OnlyCalls _ (randomBytes 32 >>= _)
    refine .bind (fun reference => ?_) (Prog.onlyCalls_perform (fun _ ho => by cases ho))
    refine .bind (fun _ => by trivial) (onlyCalls_db fun rec ho => ?_)
    obtain rfl : _ = rec := Query.parInsert.inj (Call.db.inj ho)
    exact ⟨client, proof, validated, dpopJkt, _, t, hcheck, rfl⟩

/-- The verification of a proof inserts no pushed request. -/
lemma verifyDpopProof_onlyCalls (header : Option DpopHeader) (ctx : DpopContext) :
    (verifyDpopProof P config header ctx).OnlyCalls fun o => o.authenticates = true := by
  refine .bind (fun t => ?_) (Prog.onlyCalls_perform rfl)
  refine .bind (fun p => ?_) (Prog.onlyCalls_settle _ _)
  cases P.calculateJwkThumbprint p.jwk with
  | none => trivial
  | some jkt =>
    show Prog.OnlyCalls _ (throwIf _ _ >>= _)
    refine .bind (fun _ => ?_) (Prog.onlyCalls_throwIf _ _)
    refine .bind (fun fresh => ?_) (onlyCalls_db rfl)
    exact .bind (fun _ => by trivial) (Prog.onlyCalls_throwIf _ _)

/-- The PAR endpoint inserts the parameters of its body. -/
lemma handlePar_onlyCalls (req : HttpRequest) :
    (handlePar P config req).OnlyCalls (InsertsPush config req.body) := by
  have hproof : (parDpopJkt P config req).OnlyCalls (InsertsPush config req.body) := by
    unfold parDpopJkt
    cases req.dpop with
    | none => trivial
    | some header =>
      exact .bind (fun _ => by trivial)
        ((verifyDpopProof_onlyCalls _ _).mono fun _ => insertsPush_of_authenticates)
  refine .bind (fun ok => ?_) (Prog.onlyCalls_perform (fun _ ho => by cases ho))
  split_ifs
  · refine .bind (fun _ => ?_) (Prog.onlyCalls_throwIf _ _)
    refine .bind (fun client => ?_)
      ((authenticateClient_onlyCalls _ _).mono fun _ => insertsPush_of_authenticates)
    refine .bind (fun proof => ?_) hproof
    exact .bind (fun _ => by trivial) (pushAuthorizationRequest_onlyCalls _ _ _)
  · trivial

/-- **Every pushed request that a handler inserts has the parameters of its body.** -/
lemma wp_insertsPush (req : HttpRequest) :
    Prog.wp (fun _ => InsertsPush config req.body) (fun _ _ => True) [] (handler P config req) := by
  by_cases hroute : req.route = .par
  · have hdispatch : (dispatch P config req).OnlyCalls (InsertsPush config req.body) := by
      unfold dispatch
      rw [hroute]
      dsimp only
      split_ifs
      · exact handlePar_onlyCalls req
      · trivial
      · trivial
    exact (Prog.OnlyCalls.bind (fun _ => by trivial)
      (Prog.OnlyCalls.tryCatch (fun _ => by trivial) hdispatch)).wp
  · refine Prog.wp_mono_pre (fun q o ho rec he => ?_)
      (Prog.wp_mono (fun _ _ _ => trivial) (handler_spec P config req))
    rw [he] at ho
    exact absurd ho.1 hroute

/-- **The records that pushes insert have the parameters of their bodies.** -/
lemma ServerRun.storedPush {backend : Backend} (R : ServerRun P config backend) {i pid : ℕ}
    {p : Proc (server P config backend)} {rec : ParRequestRecord} {r : Except Fault Unit}
    (h : R.Does i pid p ⟨.db (.parInsert rec), r⟩) : StoredPush config p.req.body rec :=
  h.meets wp_insertsPush rec rfl

/-! ## The stored state and nonce -/

/-- What a validated request has of the parameters that it stores beside those passed through. -/
lemma validated_state {body : Params} {client : Client} {v : ValidatedAuthorizationRequest}
    (h : validateAuthorizationRequest body client = .ok v) :
    v.state = str (body.get "state") ∧ v.nonce = str (body.get "nonce") ∧
      ∀ name, name ∉ passthroughParams → assoc name v.passthrough = none := by
  simp only [validateAuthorizationRequest, bind_eq_ok, reject_eq_ok, checked_eq_ok] at h
  obtain ⟨_, -, _, -, _, -, _, -, _, -, _, -, _, -, _, -, _, -, _, -, _, -, _, -, _, -, _, -, _, -,
      st, hst, _, -, nonce, hnonce, _, -, _, -, _, -, _, -, _, -, rest, hrest, _, -, _, -, h⟩ := h
  simp only [Except.ok.injEq] at h
  subst h
  exact ⟨param_eq_ok hst, param_eq_ok hnonce, (readPassthrough_eq_ok (by decide) hrest).2⟩

namespace StoredPush

variable {body : Params} {rec : ParRequestRecord}

/-- The stored state is the one of the body. -/
lemma state (h : StoredPush config body rec) :
    assoc "state" rec.params = str (body.get "state") := by
  obtain ⟨client, proof, v, k, _, _, hcheck, rfl⟩ := h
  simp only [checkPush, bind_eq_ok, reject_eq_ok, Except.ok.injEq, Prod.mk.injEq] at hcheck
  obtain ⟨_, -, v', hv, _, -, rfl, rfl⟩ := hcheck
  obtain ⟨hstate, -, hrest⟩ := validated_state hv
  show assoc "state" (parParams v' _) = _
  rw [assoc_parParams (by decide), ← hstate]
  simp [toStoredParams, assoc_append, assoc_member, assoc, hrest "state" (by decide)]

/-- The stored nonce is the one of the body. -/
lemma nonce (h : StoredPush config body rec) :
    assoc "nonce" rec.params = str (body.get "nonce") := by
  obtain ⟨client, proof, v, k, _, _, hcheck, rfl⟩ := h
  simp only [checkPush, bind_eq_ok, reject_eq_ok, Except.ok.injEq, Prod.mk.injEq] at hcheck
  obtain ⟨_, -, v', hv, _, -, rfl, rfl⟩ := hcheck
  obtain ⟨-, hnonce, hrest⟩ := validated_state hv
  show assoc "nonce" (parParams v' _) = _
  rw [assoc_parParams (by decide), ← hnonce]
  simp [toStoredParams, assoc_append, assoc_member, assoc, hrest "nonce" (by decide)]

end StoredPush

end Fapi2As
