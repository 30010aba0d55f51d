import Fapi2As.Async.LostAnswers
import Fapi2As.Server.Runs

set_option relaxedAutoImplicit false
set_option autoImplicit false

/-!
# Lost answers of the database

A connection can break after a statement was committed and before its answer has arrived; the
promise rejects although the statement took its effect. No request makes another call after a
rejected repository promise, so the tables are then as if the request had not been run again: every
run with lost answers has the tables of a run without.

## Main definitions

* `Fapi2As.lostAnswer` — the answer that a request is given for a lost one.
* `Fapi2As.Halts`, `Fapi2As.Throws` — a program that makes no call after a rejected repository
  promise, or throws then.
* `Fapi2As.LossyRun` — the runs over the database in which answers get lost.

## Main results

* `Fapi2As.handler_halts` — no handler makes a call after a rejected repository promise.
* `Fapi2As.LossyRun.exists_delivered` — a run with lost answers is explained by one without.
* `Fapi2As.LossyRun.transfer` — what holds in every run holds when answers get lost.
-/

namespace Fapi2As

open Js Async

/-- The answer that a request is given when the answer to its statement is lost. -/
def lostAnswer : (o : Call) → Option (Ret o)
  | .db _ => some (.error .rejected)
  | _ => none

/-- A program makes no call after a rejected repository promise, and a value that it returns then
meets `post`. -/
abbrev Halts {ε α : Type} (post : α → Prop) (p : Prog Ret ε α) : Prop :=
  p.Stops (fun o r => lostAnswer o = some r) post

/-- **A program throws** when a repository promise rejects. -/
abbrev Throws {ε α : Type} (p : Prog Ret ε α) : Prop := Halts (fun _ => False) p

variable {P : Platform} {config : AppConfig} {req : HttpRequest} {α β : Type} {post : β → Prop}

/-! ## Calls -/

lemma Throws.then {ε : Type} {p : Prog Ret ε α} {f : α → Prog Ret ε β} (hp : Throws p)
    (hf : ∀ a, Halts post (f a)) : Halts post (p >>= f) :=
  Prog.Stops.bind (fun _ h => h.elim) hf hp

lemma throws_perform {o : Call} {f : Ret o → Handler β} (h : lostAnswer o = none)
    (hf : ∀ r, Halts post (f r)) : Halts post (Prog.perform o >>= f) := by
  refine Throws.then (Prog.stops_perform fun r hr => ?_) hf
  rw [h] at hr
  cases hr

lemma throws_now {f : ℕ → Handler β} (hf : ∀ t, Halts post (f t)) : Halts post (now >>= f) :=
  throws_perform rfl hf

lemma throws_settle {φ : Type} {wrap : φ → Exn} {x : Except φ α} :
    Throws (Prog.settle wrap x : Handler α) := Prog.stops_settle

lemma throws_awaited {x : Except Fault α} : Throws (awaited x) := Prog.stops_settle

lemma throws_throwIf {ε : Type} {c : Prop} [Decidable c] {e : ε} {f : Unit → Prog Ret ε β}
    (hf : ∀ r, Halts post (f r)) : Halts post (Prog.throwIf c e >>= f) :=
  Throws.then Prog.stops_throwIf hf

/-- A repository call that is made last. -/
lemma throws_query {q : Query} : Throws (db q) := by
  refine fun r => ⟨fun hr => ?_, Prog.stops_settle⟩
  obtain rfl := Option.some.inj hr
  trivial

lemma throws_db {q : Query} {f : q.Res → Handler β} (hf : ∀ r, Halts post (f r)) :
    Halts post (db q >>= f) := throws_query.then hf

/-- What follows a program whose exception is kept as a value makes no call after an exception. -/
lemma throws_attempt {p : Handler α} {f : Except Exn α → Handler β} (h : Throws p)
    (hend : ∀ e, (f (.error e)).EndsIn post) (hf : ∀ x, Halts post (f x)) :
    Halts post (attempt p >>= f) := by
  have hattempt : Halts (fun x => ∃ e, x = .error e) (attempt p) := by
    refine Prog.Stops.tryCatch (fun e => ?_) (h.then fun a => ?_)
    · exact Exists.intro e rfl
    · trivial
  refine Prog.Stops.bind ?_ hf hattempt
  rintro _ ⟨e, rfl⟩
  exact hend e

lemma throws_whenSome {c : Bool} {p : Handler α} (h : Throws p) : Throws (whenSome c p) := by
  unfold whenSome
  split_ifs
  · refine h.then fun _ => ?_
    trivial
  · trivial

/-! ## Authentications and proofs -/

lemma throws_loadClient {clientId : String} : Throws (loadClient P clientId) := by
  unfold loadClient
  split_ifs
  · trivial
  · refine throws_db fun rec => ?_
    cases rec with
    | none => trivial
    | some rec => exact throws_settle.then fun _ => trivial

lemma throws_locateClient {assertion : String} : Throws (locateClient P assertion) := by
  unfold locateClient
  refine Throws.then (Prog.Stops.tryCatch ?_ ?_) fun found => ?_
  · exact fun _ => trivial
  · split
    · exact throws_loadClient
    · trivial
  · cases found <;> trivial

lemma throws_verifyAssertion {assertion : String} {client : Client} :
    Throws (verifyAssertion P config assertion client) := by
  unfold verifyAssertion
  refine Prog.Stops.tryCatch ?_ (throws_settle.then fun resolver => ?_)
  · exact fun _ => trivial
  unfold verifyJws
  split
  · trivial
  · refine throws_throwIf fun _ => ?_
    refine Throws.then ?_ fun keys => ?_
    · cases resolver with
      | localSet keys => trivial
      | remoteSet uri => exact throws_perform rfl fun _ => trivial
    · split <;> trivial

/-- **An authentication** makes no call after a rejected promise. -/
lemma throws_authenticateClient {body : Params} {authorization : Option String} :
    Throws (authenticateClient P config body authorization) := by
  unfold authenticateClient
  refine throws_now fun t => throws_settle.then fun assertion => ?_
  refine throws_locateClient.then fun client => throws_verifyAssertion.then fun claims => ?_
  refine throws_settle.then fun x => ?_
  obtain ⟨exp, jti⟩ := x
  exact throws_db fun fresh => throws_throwIf fun _ => trivial

/-- **The verification of a proof** makes no call after a rejected promise. -/
lemma throws_verifyDpopProof {header : Option DpopHeader} {ctx : DpopContext} :
    Throws (verifyDpopProof P config header ctx) := by
  unfold verifyDpopProof
  refine throws_now fun t => throws_settle.then fun p => ?_
  cases P.calculateJwkThumbprint p.jwk with
  | none => trivial
  | some jkt => exact throws_throwIf fun _ => throws_db fun _ => throws_throwIf fun _ => trivial

/-! ## The back channel -/

lemma throws_validGrant {grantId : String} : Throws (validGrant grantId) := by
  unfold validGrant
  refine throws_db fun found => ?_
  cases found with
  | none => trivial
  | some grant => exact throws_throwIf fun _ => trivial

lemma throws_issueTokenSet {input : TokenIssuanceInput} {openid withRefreshToken : Bool} :
    Throws (issueTokenSet P config input openid withRefreshToken) := by
  unfold issueTokenSet issueAccessToken issueIdToken issueRefreshToken
  refine Throws.then ?_ fun _ => Throws.then (throws_whenSome ?_) fun _ =>
    Throws.then (throws_whenSome ?_) fun _ => trivial
  · refine throws_now fun t => throws_perform rfl fun _ => throws_perform rfl fun _ => ?_
    exact throws_awaited.then fun _ => throws_db fun _ => trivial
  · exact throws_now fun _ => throws_perform rfl fun _ => throws_awaited
  · exact throws_now fun t => throws_perform rfl fun _ => throws_db fun _ => trivial

lemma throws_handleGrant {client : Client} {jkt : String} :
    Throws (handleGrant P config req client jkt) := by
  unfold handleGrant
  split
  · trivial
  · split_ifs
    · unfold handleAuthorizationCode
      split
      · trivial
      · refine Throws.then ?_ fun r => throws_issueTokenSet
        unfold redeemAuthorizationCode
        refine throws_now fun _ => throws_db fun result => ?_
        cases result with
        | invalid => trivial
        | consumed record =>
          exact throws_db fun _ => throws_db fun _ => throws_db fun _ => trivial
        | ok record => exact throws_settle.then fun _ => throws_validGrant.then fun _ => trivial
    · unfold handleRefreshToken
      split
      · trivial
      · refine Throws.then ?_ fun r => throws_settle.then fun scope =>
          throws_issueTokenSet.then fun _ => trivial
        unfold loadRefreshGrant
        refine throws_now fun _ => throws_db fun found => ?_
        cases found with
        | none => trivial
        | some rec =>
          exact throws_throwIf fun _ => throws_throwIf fun _ =>
            throws_validGrant.then fun _ => trivial
    · trivial

lemma throws_findAccessToken {token : String} : Throws (findAccessToken P config token) := by
  unfold findAccessToken
  refine throws_perform rfl fun _ => throws_awaited.then fun _ => throws_perform rfl fun _ => ?_
  split
  · exact throws_query
  · trivial

lemma throws_resolveToken {token : String} {hint : Option String} :
    Throws (resolveToken P config token hint) := by
  unfold resolveToken findRefreshToken
  split_ifs
  · refine throws_db fun found => ?_
    cases found with
    | some record => trivial
    | none => exact throws_findAccessToken.then fun _ => trivial
  · refine throws_findAccessToken.then fun found => ?_
    cases found with
    | some record => trivial
    | none => exact throws_db fun _ => trivial

lemma halts_rateLimited {post : Reply → Prop} {ip : String} {p : Handler Reply}
    (h : Halts post p) : Halts post (rateLimited ip p) := by
  unfold rateLimited
  refine throws_perform rfl fun ok => ?_
  split_ifs
  · exact h
  · trivial

/-- A form request of a client that is authenticated. -/
lemma throws_authenticated {s : String} {f : Client → Handler Reply}
    (hf : ∀ client, Throws (f client)) :
    Throws (rateLimited req.ip do
      requireForm req s
      let client ← authenticateClient P config req.body req.authorization
      f client) :=
  halts_rateLimited (throws_throwIf fun _ => throws_authenticateClient.then hf)

lemma throws_handlePar : Throws (handlePar P config req) := by
  refine throws_authenticated fun client => Throws.then ?_ fun jkt => ?_
  · unfold parDpopJkt
    split
    · trivial
    · exact throws_verifyDpopProof.then fun _ => trivial
  · unfold pushAuthorizationRequest
    refine Throws.then ?_ fun _ => trivial
    exact throws_now fun _ => throws_settle.then fun x => throws_perform rfl fun _ =>
      throws_db fun _ => trivial

lemma throws_handleToken : Throws (handleToken P config req) := by
  unfold handleToken
  refine halts_rateLimited (throws_throwIf fun _ => throws_throwIf fun _ => ?_)
  refine throws_authenticateClient.then fun client => throws_throwIf fun _ => ?_
  refine throws_verifyDpopProof.then fun jkt => throws_perform rfl fun _ => ?_
  exact throws_awaited.then fun _ => throws_handleGrant.then fun _ => trivial

lemma throws_handleRevoke : Throws (handleRevoke P config req) := by
  refine throws_authenticated fun client => ?_
  split
  · trivial
  · refine throws_resolveToken.then fun resolved => throws_now fun _ => ?_
    refine Throws.then ?_ fun _ => trivial
    unfold revokeResolved
    split
    · trivial
    · split_ifs
      · trivial
      · split
        · exact throws_db fun _ => throws_query
        · exact throws_query

lemma throws_handleIntrospect : Throws (handleIntrospect P config req) := by
  refine throws_authenticated fun client => ?_
  split
  · trivial
  · refine throws_resolveToken.then fun resolved => ?_
    cases resolved with
    | none => trivial
    | some resolved =>
      dsimp only
      split_ifs
      · trivial
      · exact throws_now fun _ => trivial

/-- The userinfo endpoint catches what the verification of a proof throws, and answers at once. -/
lemma halts_handleUserinfo : Halts (fun _ => True) (handleUserinfo P config req) := by
  unfold handleUserinfo
  split
  · trivial
  · split_ifs
    · trivial
    · refine throws_findAccessToken.then fun found => ?_
      cases found with
      | none => trivial
      | some record =>
        dsimp only
        unfold userinfoOf
        split_ifs
        · trivial
        · refine throws_now fun _ => ?_
          split_ifs
          · trivial
          · split
            · trivial
            · refine throws_attempt throws_verifyDpopProof (fun e => trivial) fun proof => ?_
              cases proof with
              | error e => trivial
              | ok jkt =>
                dsimp only
                split_ifs <;> trivial

/-! ## The front channel -/

lemma throws_redirectError {uri iss : String} {error : AuthorizeErrorCode}
    {description state : Option String} :
    Throws (redirectError P uri error description state iss) := by
  unfold redirectError
  split <;> trivial

lemma throws_redirectCode {uri code iss : String} {state : Option String} :
    Throws (redirectCode P uri code state iss) := by
  unfold redirectCode
  split <;> trivial

/-- A decision makes no repository call, so it may be followed by calls when it fails. -/
lemma throws_attempt_decideAuthorization {user : AuthenticatedUser} {client : Client}
    {request : ValidatedAuthorizationRequest} {approved : Option Bool} :
    Throws (attempt (decideAuthorization user client request approved)) := by
  unfold decideAuthorization
  split_ifs
  · trivial
  · refine fun decision => ⟨fun hr => ?_, ?_⟩
    · cases hr
    · cases decision <;> trivial

lemma throws_decideAndIssue {uri description : String} {client : Client}
    {request : ValidatedAuthorizationRequest} {user : AuthenticatedUser} {approved : Option Bool}
    {refusal : AuthorizeErrorCode} :
    Throws (decideAndIssue P config uri client request user approved refusal description) := by
  have hissue : Throws (issueAuthorizationCode P config client user request) := by
    unfold issueAuthorizationCode
    exact throws_now fun _ => throws_perform rfl fun _ => throws_db fun _ =>
      throws_perform rfl fun _ => throws_db fun _ => trivial
  unfold decideAndIssue
  refine throws_attempt_decideAuthorization.then fun decision => ?_
  split
  · unfold issueCodeForInteraction
    refine throws_now fun _ => throws_db fun consumed => ?_
    cases consumed with
    | none => exact throws_redirectError
    | some pushed => exact hissue.then fun _ => throws_redirectCode
  · exact throws_now fun _ => throws_db fun _ => throws_redirectError

lemma throws_authorizePushed {uri : String} {client : Client}
    {request : ValidatedAuthorizationRequest} :
    Throws (authorizePushed P config req uri client request) := by
  unfold authorizePushed
  refine throws_now fun _ => ?_
  dsimp only
  split_ifs
  · unfold authorizeSilently
    split
    · exact throws_redirectError
    · exact throws_decideAndIssue
  · exact throws_perform rfl fun _ => throws_db fun _ => trivial

/-- The load of a client is caught, and what is caught is thrown again or answered at once. -/
lemma halts_authorizeFor {uri clientId : String} {pushed : ParRequestRecord} :
    Halts (fun _ => True) (authorizeFor P config req uri pushed clientId) := by
  unfold authorizeFor
  refine throws_attempt throws_loadClient (fun e => ?_) fun loaded => ?_
  · cases e <;> trivial
  · split
    · trivial
    · trivial
    · trivial
    · split
      · unfold invalidPushedRequest
        dsimp only
        split
        · trivial
        · exact throws_redirectError.mono fun _ h => h.elim
      · exact throws_authorizePushed.mono fun _ h => h.elim

lemma halts_handleAuthorize {params : Params} :
    Halts (fun _ => True) (handleAuthorize P config req params) := by
  unfold handleAuthorize
  split_ifs
  · trivial
  · split
    · trivial
    · trivial
    · refine throws_now fun _ => throws_db fun pushed => ?_
      cases pushed with
      | none => trivial
      | some pushed =>
        dsimp only
        split_ifs
        · trivial
        · exact halts_authorizeFor

/-- The context of an interaction is `none` after a rejected promise that is caught. -/
lemma halts_loadInteractionContext {id : String} {t : ℕ} :
    Halts (· = none) (loadInteractionContext P id t) := by
  unfold loadInteractionContext
  refine throws_db fun interaction => ?_
  cases interaction with
  | none => trivial
  | some interaction =>
    refine throws_db fun pushed => ?_
    cases pushed with
    | none => trivial
    | some pushed =>
      dsimp only
      split_ifs
      · trivial
      · refine throws_attempt throws_loadClient (fun e => rfl) fun loaded => ?_
        split
        · split <;> trivial
        · trivial

/-- What follows a context makes no call when there is none. -/
lemma halts_context {id : String} {t : ℕ} {f : Option InteractionContext → Handler Reply}
    (hend : (f none).EndsIn fun _ => True) (hf : ∀ ctx, Halts (fun _ => True) (f ctx)) :
    Halts (fun _ => True) (loadInteractionContext P id t >>= f) := by
  refine Prog.Stops.bind ?_ hf halts_loadInteractionContext
  rintro _ rfl
  exact hend

lemma throws_sessionFrom : Throws (sessionFrom P config req) := throws_now fun _ => trivial

lemma halts_handleInteraction : Halts (fun _ => True) (handleInteraction P config req) := by
  unfold handleInteraction
  split
  · trivial
  · refine throws_now fun _ => halts_context trivial fun ctx => ?_
    cases ctx with
    | none => trivial
    | some ctx =>
      refine throws_sessionFrom.then fun found => throws_now fun _ => ?_
      split
      · trivial
      · unfold showConsent
        refine throws_db fun _ => ?_
        unfold consentPage
        split <;> trivial

lemma halts_handleLogin : Halts (fun _ => True) (handleLogin P config req) := by
  unfold handleLogin
  split
  · trivial
  · split_ifs
    · trivial
    · refine throws_now fun _ => halts_context trivial fun ctx => ?_
      cases ctx with
      | none => trivial
      | some ctx =>
        refine Throws.then ?_ fun user => ?_
        · unfold devLogin
          split
          · trivial
          · split_ifs
            · trivial
            · exact throws_now fun _ => trivial
        · cases user with
          | none => trivial
          | some user => exact throws_perform rfl fun _ => throws_now fun _ => trivial

lemma halts_handleConsent : Halts (fun _ => True) (handleConsent P config req) := by
  unfold handleConsent
  split
  · trivial
  · refine throws_sessionFrom.then fun found => ?_
    cases found with
    | none => trivial
    | some session =>
      dsimp only
      split_ifs
      · trivial
      · refine throws_now fun _ => halts_context trivial fun ctx => ?_
        cases ctx with
        | none => trivial
        | some ctx =>
          dsimp only
          split_ifs
          · trivial
          · unfold completeAndDecide
            refine throws_now fun _ => throws_db fun done => ?_
            cases done with
            | none => trivial
            | some _ => exact throws_decideAndIssue.mono fun _ h => h.elim

/-! ## All handlers -/

/-- **No handler makes a call after a rejected repository promise.** -/
theorem handler_halts (req : HttpRequest) : Halts (fun _ => True) (handler P config req) := by
  have hdispatch : Halts (fun _ => True) (dispatch P config req) := by
    unfold dispatch
    split
    · split_ifs
      · exact throws_handlePar.mono fun _ h => h.elim
      · trivial
      · trivial
    · split_ifs
      · exact halts_handleAuthorize
      · trivial
    · split_ifs
      · exact halts_handleInteraction
      · trivial
    · split_ifs
      · exact halts_handleLogin
      · trivial
    · split_ifs
      · exact halts_handleConsent
      · trivial
    · split_ifs
      · exact throws_handleToken.mono fun _ h => h.elim
      · trivial
    · split_ifs
      · exact throws_handleRevoke.mono fun _ h => h.elim
      · trivial
    · split_ifs
      · exact throws_handleIntrospect.mono fun _ h => h.elim
      · trivial
    · split_ifs
      · exact halts_handleUserinfo
      · trivial
    · split_ifs
      · unfold handleJwks
        exact throws_perform rfl fun _ => throws_awaited.then fun _ =>
          throws_perform rfl fun _ => trivial
      · trivial
  unfold handler respond
  refine Prog.Stops.bind ?_ ?_ (Prog.Stops.tryCatch ?_ hdispatch)
  · exact fun _ _ => trivial
  · exact fun _ => trivial
  · exact fun _ => trivial

/-! ## Runs with lost answers -/

/-- A run over the database in which answers get lost. -/
abbrev LossyRun (P : Platform) (config : AppConfig) : Type :=
  Run ((server P config .pg).losing lostAnswer)

namespace LossyRun

/-- **A run with lost answers is explained by one without**: at every time they have the same tables
and the same clock, and a request is in the same state in both unless its last answer was lost. -/
theorem exists_delivered (R : LossyRun P config) :
    ∃ R' : ServerRun P config .pg, R'.len = R.len ∧ ∀ i, R'.world i = R.world i ∧
      ∀ pid p, R.proc i pid = some p → ∃ q, R'.proc i pid = some q ∧ p.ExplainedBy q :=
  ⟨R.delivered handler_halts, R.delivered_len _, fun i =>
    ⟨R.delivered_world _ i, fun _ _ => R.delivered_proc _⟩⟩

/-- **What holds in every run holds when answers get lost**, if it is said of the tables and of the
answers that have arrived. -/
theorem transfer {I : World → Prop} {J : World → HttpRequest → Event → Prop}
    (h : ∀ (R : ServerRun P config .pg) (i : ℕ), i ≤ R.len → I (R.world i) ∧
      ∀ pid p, R.proc i pid = some p → ∀ e ∈ p.past, J (R.world i) p.req e)
    (R : LossyRun P config) {i : ℕ} (hi : i ≤ R.len) : I (R.world i) ∧
      ∀ pid p, R.proc i pid = some p → ∀ e ∈ p.past, lostAnswer e.op ≠ some e.res →
        J (R.world i) p.req e := by
  obtain ⟨R', hlen, hexplained⟩ := R.exists_delivered
  obtain ⟨hworld, hproc⟩ := hexplained i
  obtain ⟨hI, hJ⟩ := h R' i (hlen ▸ hi)
  rw [hworld] at hI hJ
  refine ⟨hI, fun pid p hp e he harrived => ?_⟩
  obtain ⟨q, hq, hpq⟩ := hproc pid p hp
  rw [← hpq.req_eq]
  exact hJ pid q hq e (hpq.mem he harrived)

end LossyRun

end Fapi2As
