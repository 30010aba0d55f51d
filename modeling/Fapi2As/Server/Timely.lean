import Fapi2As.Async.RelyGuarantee
import Fapi2As.Server.Clock

set_option relaxedAutoImplicit false
set_option autoImplicit false

/-!
# The times of calls

A request registers the jti of an assertion or of a proof with a reading of the clock that it has
made itself, redeems codes at such a reading, and counts the expiries of tokens from one. So these
times are never after the clock, and they are before the clock as long as the request took to come
to the call.

## Main definitions

* `Fapi2As.Timely` — a program whose calls are made at times of a set, when its readings are of the
  set.

## Main results

* `Fapi2As.timely_handler` — every handler makes its calls at its own readings.
* `Fapi2As.ServerRun.registration_le` — no registration has a time after the clock.
-/

namespace Fapi2As

open Js Async

/-- **The time of a call is of `T`**: of a registration, of a redemption, and the one that the
expiry of a token is counted from. -/
def TimedCall (config : AppConfig) (T : ℕ → Prop) : Call → Prop
  | .db (.jtiRegister _ _ _ t) | .db (.codesRedeem _ t) => T t
  | .db (.accessTokensInsert rec) => ∃ t, T t ∧ rec.expiresAt = accessTokenExpiry config t
  | .db (.refreshTokensInsert rec) =>
    ∃ t, T t ∧ rec.expiresAt = newDate ((t + config.refreshTokenTtlSec * 1000 : ℕ) : ℚ)
  | _ => True

/-- A reading of the clock is of `T`. -/
def TimedAnswer (T : ℕ → Prop) : (o : Call) → Ret o → Prop
  | .now, t => T t
  | _, _ => True

/-- **A timely program** makes its calls at times of `T`, while its readings of the clock are of
`T`. -/
abbrev Timely (config : AppConfig) (T : ℕ → Prop) {ε α : Type} (p : Prog Ret ε α) : Prop :=
  p.Keeps (TimedCall config T) (TimedAnswer T) fun _ => True

variable {T : ℕ → Prop} {P : Platform} {config : AppConfig} {req : HttpRequest} {α β : Type}

/-! ## Calls -/

lemma Timely.then {ε : Type} {p : Prog Ret ε α} {f : α → Prog Ret ε β} (hp : Timely config T p)
    (hf : ∀ a, Timely config T (f a)) : Timely config T (p >>= f) := hp.bind fun a _ => hf a

lemma timely_perform {o : Call} {f : Ret o → Handler β} (h : TimedCall config T o)
    (hf : ∀ r, Timely config T (f r)) : Timely config T (Prog.perform o >>= f) :=
  Prog.Keeps.bind (Prog.keeps_perform h fun _ _ => trivial : Timely config T (Prog.perform o))
    fun r _ => hf r

lemma timely_now {f : ℕ → Handler β} (hf : ∀ t, T t → Timely config T (f t)) :
    Timely config T (now >>= f) :=
  Prog.Keeps.bind (Prog.keeps_perform trivial fun _ h => h : Prog.Keeps _ (TimedAnswer T) T now) hf

lemma timely_settle {φ : Type} {wrap : φ → Exn} {x : Except φ α} :
    Timely config T (Prog.settle wrap x : Handler α) := Prog.keeps_settle fun _ _ => trivial

lemma timely_awaited {x : Except Fault α} : Timely config T (awaited x) :=
  Prog.keeps_settle fun _ _ => trivial

lemma timely_throwIf {ε : Type} {c : Prop} [Decidable c] {e : ε} {f : Unit → Prog Ret ε β}
    (hf : ∀ r, Timely config T (f r)) : Timely config T (Prog.throwIf c e >>= f) :=
  Prog.Keeps.bind (Prog.keeps_throwIf fun _ => trivial : Timely config T (Prog.throwIf c e))
    fun r _ => hf r

/-- A repository call that is made last. -/
lemma timely_query {q : Query} (h : TimedCall config T (.db q)) : Timely config T (db q) :=
  timely_perform h fun _ => Prog.keeps_settle fun _ _ => trivial

lemma timely_db {q : Query} {f : q.Res → Handler β} (h : TimedCall config T (.db q))
    (hf : ∀ r, Timely config T (f r)) : Timely config T (db q >>= f) := (timely_query h).then hf

lemma timely_attempt {p : Handler α} (h : Timely config T p) : Timely config T (attempt p) := by
  refine Prog.Keeps.tryCatch (fun _ => ?_) (h.then fun _ => ?_) <;> trivial

lemma timely_whenSome {c : Bool} {p : Handler α} (h : Timely config T p) :
    Timely config T (whenSome c p) := by
  unfold whenSome
  split_ifs
  · refine h.then fun _ => ?_
    trivial
  · trivial

/-! ## Authentications and proofs -/

lemma timely_loadClient {clientId : String} : Timely config T (loadClient P clientId) := by
  unfold loadClient
  split_ifs
  · trivial
  · refine timely_db trivial fun rec => ?_
    cases rec with
    | none => trivial
    | some rec => exact timely_settle.then fun _ => trivial

lemma timely_locateClient {assertion : String} : Timely config T (locateClient P assertion) := by
  unfold locateClient
  refine Timely.then (Prog.Keeps.tryCatch ?_ ?_) fun found => ?_
  · exact fun _ => trivial
  · split
    · exact timely_loadClient
    · trivial
  · cases found <;> trivial

lemma timely_verifyAssertion {assertion : String} {client : Client} :
    Timely config T (verifyAssertion P config assertion client) := by
  unfold verifyAssertion
  refine Prog.Keeps.tryCatch ?_ (timely_settle.then fun resolver => ?_)
  · exact fun _ => trivial
  unfold verifyJws
  split
  · trivial
  · refine timely_throwIf fun _ => ?_
    refine Timely.then ?_ fun keys => ?_
    · cases resolver with
      | localSet keys => trivial
      | remoteSet uri => exact ⟨trivial, fun _ _ => trivial⟩
    · split <;> trivial

/-- **An authentication** registers with its own reading. -/
lemma timely_authenticateClient {body : Params} {authorization : Option String} :
    Timely config T (authenticateClient P config body authorization) := by
  unfold authenticateClient
  refine timely_now fun t ht => timely_settle.then fun assertion => ?_
  refine timely_locateClient.then fun client => timely_verifyAssertion.then fun claims => ?_
  refine timely_settle.then fun x => ?_
  obtain ⟨exp, jti⟩ := x
  exact timely_db ht fun fresh => timely_throwIf fun _ => trivial

/-- **The verification of a proof** registers with its own reading. -/
lemma timely_verifyDpopProof {header : Option DpopHeader} {ctx : DpopContext} :
    Timely config T (verifyDpopProof P config header ctx) := by
  unfold verifyDpopProof
  refine timely_now fun t ht => timely_settle.then fun p => ?_
  cases P.calculateJwkThumbprint p.jwk with
  | none => trivial
  | some jkt =>
    exact timely_throwIf fun _ => timely_db ht fun _ => timely_throwIf fun _ => trivial

/-! ## The back channel -/

lemma timely_validGrant {grantId : String} : Timely config T (validGrant grantId) := by
  unfold validGrant
  refine timely_db trivial fun found => ?_
  cases found with
  | none => trivial
  | some grant => exact timely_throwIf fun _ => trivial

lemma timely_issueTokenSet {input : TokenIssuanceInput} {openid withRefreshToken : Bool} :
    Timely config T (issueTokenSet P config input openid withRefreshToken) := by
  unfold issueTokenSet issueAccessToken issueIdToken issueRefreshToken
  refine Timely.then ?_ fun _ => Timely.then (timely_whenSome ?_) fun _ =>
    Timely.then (timely_whenSome ?_) fun _ => trivial
  · refine timely_now fun t ht => timely_perform trivial fun _ => timely_perform trivial fun _ => ?_
    exact timely_awaited.then fun _ => timely_db ⟨t, ht, rfl⟩ fun _ => trivial
  · exact timely_now fun _ _ => timely_perform trivial fun _ => timely_awaited
  · refine timely_now fun t ht => timely_perform trivial fun _ => ?_
    exact timely_db ⟨t, ht, rfl⟩ fun _ => trivial

lemma timely_handleGrant {client : Client} {jkt : String} :
    Timely config T (handleGrant P config req client jkt) := by
  unfold handleGrant
  split
  · trivial
  · split_ifs
    · unfold handleAuthorizationCode
      split
      · trivial
      · refine Timely.then ?_ fun r => timely_issueTokenSet
        unfold redeemAuthorizationCode
        refine timely_now fun _ ht => timely_db ht fun result => ?_
        cases result with
        | invalid => trivial
        | consumed record =>
          exact timely_db trivial fun _ => timely_db trivial fun _ =>
            timely_db trivial fun _ => trivial
        | ok record => exact timely_settle.then fun _ => timely_validGrant.then fun _ => trivial
    · unfold handleRefreshToken
      split
      · trivial
      · refine Timely.then ?_ fun r => timely_settle.then fun scope =>
          timely_issueTokenSet.then fun _ => trivial
        unfold loadRefreshGrant
        refine timely_now fun _ _ => timely_db trivial fun found => ?_
        cases found with
        | none => trivial
        | some rec =>
          exact timely_throwIf fun _ => timely_throwIf fun _ =>
            timely_validGrant.then fun _ => trivial
    · trivial

lemma timely_findAccessToken {token : String} :
    Timely config T (findAccessToken P config token) := by
  unfold findAccessToken
  refine timely_perform trivial fun _ => timely_awaited.then fun _ =>
    timely_perform trivial fun _ => ?_
  split
  · exact timely_query trivial
  · trivial

lemma timely_resolveToken {token : String} {hint : Option String} :
    Timely config T (resolveToken P config token hint) := by
  unfold resolveToken findRefreshToken
  split_ifs
  · refine timely_db trivial fun found => ?_
    cases found with
    | some record => trivial
    | none => exact timely_findAccessToken.then fun _ => trivial
  · refine timely_findAccessToken.then fun found => ?_
    cases found with
    | some record => trivial
    | none => exact timely_db trivial fun _ => trivial

lemma timely_rateLimited {ip : String} {p : Handler Reply} (h : Timely config T p) :
    Timely config T (rateLimited ip p) := by
  unfold rateLimited
  refine timely_perform trivial fun ok => ?_
  split_ifs
  · exact h
  · trivial

/-- A form request of a client that is authenticated. -/
lemma timely_authenticated {s : String} {f : Client → Handler Reply}
    (hf : ∀ client, Timely config T (f client)) :
    Timely config T (rateLimited req.ip do
      requireForm req s
      let client ← authenticateClient P config req.body req.authorization
      f client) :=
  timely_rateLimited (timely_throwIf fun _ => timely_authenticateClient.then hf)

lemma timely_handlePar : Timely config T (handlePar P config req) := by
  refine timely_authenticated fun client => Timely.then ?_ fun jkt => ?_
  · unfold parDpopJkt
    split
    · trivial
    · exact timely_verifyDpopProof.then fun _ => trivial
  · unfold pushAuthorizationRequest
    refine Timely.then ?_ fun _ => trivial
    exact timely_now fun _ _ => timely_settle.then fun x => timely_perform trivial fun _ =>
      timely_db trivial fun _ => trivial

lemma timely_handleToken : Timely config T (handleToken P config req) := by
  unfold handleToken
  refine timely_rateLimited (timely_throwIf fun _ => timely_throwIf fun _ => ?_)
  refine timely_authenticateClient.then fun client => timely_throwIf fun _ => ?_
  refine timely_verifyDpopProof.then fun jkt => timely_perform trivial fun _ => ?_
  exact timely_awaited.then fun _ => timely_handleGrant.then fun _ => trivial

lemma timely_handleRevoke : Timely config T (handleRevoke P config req) := by
  refine timely_authenticated fun client => ?_
  split
  · trivial
  · refine timely_resolveToken.then fun resolved => timely_now fun _ _ => ?_
    refine Timely.then ?_ fun _ => trivial
    unfold revokeResolved
    split
    · trivial
    · split_ifs
      · trivial
      · split
        · exact timely_db trivial fun _ => timely_query trivial
        · exact timely_query trivial

lemma timely_handleIntrospect : Timely config T (handleIntrospect P config req) := by
  refine timely_authenticated fun client => ?_
  split
  · trivial
  · refine timely_resolveToken.then fun resolved => ?_
    cases resolved with
    | none => trivial
    | some resolved =>
      dsimp only
      split_ifs
      · trivial
      · exact timely_now fun _ _ => trivial

lemma timely_handleUserinfo : Timely config T (handleUserinfo P config req) := by
  unfold handleUserinfo
  split
  · trivial
  · split_ifs
    · trivial
    · refine timely_findAccessToken.then fun found => ?_
      cases found with
      | none => trivial
      | some record =>
        dsimp only
        unfold userinfoOf
        split_ifs
        · trivial
        · refine timely_now fun _ _ => ?_
          split_ifs
          · trivial
          · split
            · trivial
            · refine (timely_attempt timely_verifyDpopProof).then fun proof => ?_
              cases proof with
              | error e => trivial
              | ok jkt =>
                dsimp only
                split_ifs <;> trivial

/-! ## The front channel -/

lemma timely_redirectError {uri iss : String} {error : AuthorizeErrorCode}
    {description state : Option String} :
    Timely config T (redirectError P uri error description state iss) := by
  unfold redirectError
  split <;> trivial

lemma timely_redirectCode {uri code iss : String} {state : Option String} :
    Timely config T (redirectCode P uri code state iss) := by
  unfold redirectCode
  split <;> trivial

lemma timely_decideAndIssue {uri description : String} {client : Client}
    {request : ValidatedAuthorizationRequest} {user : AuthenticatedUser} {approved : Option Bool}
    {refusal : AuthorizeErrorCode} :
    Timely config T
    (decideAndIssue P config uri client request user approved refusal description) := by
  have hdecide : Timely config T (decideAuthorization user client request approved) := by
    unfold decideAuthorization
    split_ifs
    · trivial
    · exact timely_perform trivial fun _ => timely_awaited
  have hissue : Timely config T (issueAuthorizationCode P config client user request) := by
    unfold issueAuthorizationCode
    exact timely_now fun _ _ => timely_perform trivial fun _ => timely_db trivial fun _ =>
      timely_perform trivial fun _ =>
      timely_db trivial fun _ => trivial
  unfold decideAndIssue
  refine (timely_attempt hdecide).then fun decision => ?_
  split
  · unfold issueCodeForInteraction
    refine timely_now fun _ _ => timely_db trivial fun consumed => ?_
    cases consumed with
    | none => exact timely_redirectError
    | some pushed => exact hissue.then fun _ => timely_redirectCode
  · exact timely_now fun _ _ => timely_db trivial fun _ => timely_redirectError

lemma timely_handleAuthorize {params : Params} :
    Timely config T (handleAuthorize P config req params) := by
  unfold handleAuthorize
  split_ifs
  · trivial
  · split
    · trivial
    · trivial
    · refine timely_now fun _ _ => timely_db trivial fun pushed => ?_
      cases pushed with
      | none => trivial
      | some pushed =>
        dsimp only
        split_ifs
        · trivial
        · unfold authorizeFor
          refine (timely_attempt timely_loadClient).then fun loaded => ?_
          split
          · trivial
          · trivial
          · trivial
          · split
            · unfold invalidPushedRequest
              dsimp only
              split
              · trivial
              · exact timely_redirectError
            · unfold authorizePushed
              refine timely_now fun _ _ => ?_
              dsimp only
              split_ifs
              · unfold authorizeSilently
                split
                · exact timely_redirectError
                · exact timely_decideAndIssue
              · exact timely_perform trivial fun _ => timely_db trivial fun _ => trivial

lemma timely_loadInteractionContext {id : String} {t : ℕ} :
    Timely config T (loadInteractionContext P id t) := by
  unfold loadInteractionContext
  refine timely_db trivial fun interaction => ?_
  cases interaction with
  | none => trivial
  | some interaction =>
    refine timely_db trivial fun pushed => ?_
    cases pushed with
    | none => trivial
    | some pushed =>
      dsimp only
      split_ifs
      · trivial
      · refine (timely_attempt timely_loadClient).then fun loaded => ?_
        split
        · split <;> trivial
        · trivial

lemma timely_sessionFrom : Timely config T (sessionFrom P config req) :=
  timely_now fun _ _ => trivial

lemma timely_handleInteraction : Timely config T (handleInteraction P config req) := by
  unfold handleInteraction
  split
  · trivial
  · refine timely_now fun _ _ => timely_loadInteractionContext.then fun ctx => ?_
    cases ctx with
    | none => trivial
    | some ctx =>
      refine timely_sessionFrom.then fun found => timely_now fun _ _ => ?_
      split
      · trivial
      · unfold showConsent
        refine timely_db trivial fun _ => ?_
        unfold consentPage
        split <;> trivial

lemma timely_handleLogin : Timely config T (handleLogin P config req) := by
  unfold handleLogin
  split
  · trivial
  · split_ifs
    · trivial
    · refine timely_now fun _ _ => timely_loadInteractionContext.then fun ctx => ?_
      cases ctx with
      | none => trivial
      | some ctx =>
        refine Timely.then ?_ fun user => ?_
        · unfold devLogin
          split
          · trivial
          · split_ifs
            · trivial
            · exact timely_now fun _ _ => trivial
        · cases user with
          | none => trivial
          | some user => exact timely_perform trivial fun _ => timely_now fun _ _ => trivial

lemma timely_handleConsent : Timely config T (handleConsent P config req) := by
  unfold handleConsent
  split
  · trivial
  · refine timely_sessionFrom.then fun found => ?_
    cases found with
    | none => trivial
    | some session =>
      dsimp only
      split_ifs
      · trivial
      · refine timely_now fun _ _ => timely_loadInteractionContext.then fun ctx => ?_
        cases ctx with
        | none => trivial
        | some ctx =>
          dsimp only
          split_ifs
          · trivial
          · unfold completeAndDecide
            refine timely_now fun _ _ => timely_db trivial fun done => ?_
            cases done with
            | none => trivial
            | some _ => exact timely_decideAndIssue

/-! ## All handlers -/

/-- **Every handler registers with its own readings of the clock.** -/
theorem timely_handler (req : HttpRequest) : Timely config T (handler P config req) := by
  have hdispatch : Timely config T (dispatch P config req) := by
    unfold dispatch
    split
    · split_ifs
      · exact timely_handlePar
      · trivial
      · trivial
    · split_ifs
      · exact timely_handleAuthorize
      · trivial
    · split_ifs
      · exact timely_handleInteraction
      · trivial
    · split_ifs
      · exact timely_handleLogin
      · trivial
    · split_ifs
      · exact timely_handleConsent
      · trivial
    · split_ifs
      · exact timely_handleToken
      · trivial
    · split_ifs
      · exact timely_handleRevoke
      · trivial
    · split_ifs
      · exact timely_handleIntrospect
      · trivial
    · split_ifs
      · exact timely_handleUserinfo
      · trivial
    · split_ifs
      · unfold handleJwks
        exact timely_perform trivial fun _ => timely_awaited.then fun _ =>
          timely_perform trivial fun _ => trivial
      · trivial
  unfold handler respond
  refine Prog.Keeps.bind (Prog.Keeps.tryCatch ?_ hdispatch) fun _ _ => trivial
  exact fun _ => trivial

namespace ServerRun

variable {backend : Backend} {R : ServerRun P config backend} {i pid : ℕ}
  {p : Proc (server P config backend)} {c id : String} {e : Date} {t : ℕ}

/-- **A request has read the time of its call.** -/
lemma call_read {o : Call} {r : Ret o} (h : R.Does i pid p ⟨o, r⟩) :
    TimedCall config (fun t => (⟨.now, t⟩ : Event) ∈ p.past) o := by
  obtain ⟨k, hk, -⟩ := h.todo
  have hkeeps : Timely config (fun t => (⟨.now, t⟩ : Event) ∈ p.past) p.todo := by
    refine (timely_handler p.req).along (R.path h.lt.le h.proc) fun f hf => ?_
    obtain ⟨o, a⟩ := f
    cases o with
    | now => exact hf
    | _ => trivial
  rw [hk] at hkeeps
  exact hkeeps.1

variable {r : Ret (.db (.jtiRegister c id e t))}

/-- A request has read the time of its registration. -/
lemma registration_read (h : R.Does i pid p ⟨.db (.jtiRegister c id e t), r⟩) :
    ⟨.now, t⟩ ∈ p.past := call_read h

/-- **No registration has a time after the clock.** -/
lemma registration_le (hclock : R.ClockForward)
    (h : R.Does i pid p ⟨.db (.jtiRegister c id e t), r⟩) : t ≤ (R.world i).clock := by
  obtain ⟨j, hj, q, hd, -⟩ := R.did h.lt.le h.proc (registration_read h)
  rw [← clock_read hd]
  exact clock_mono hclock hj.le h.lt.le

end ServerRun

end Fapi2As
