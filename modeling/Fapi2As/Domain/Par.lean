import Fapi2As.Domain.AuthzRequest
import Fapi2As.Domain.ClientAuth

set_option relaxedAutoImplicit false
set_option autoImplicit false

/-!
# Pushed authorization requests

## Main definitions

* `Fapi2As.boundDpopJkt` — the key a pushed request is bound to.
* `Fapi2As.pushAuthorizationRequest` — validate and store a pushed request.
* `Fapi2As.Pushed` — what a stored request has passed.

## Main results

* `Fapi2As.wp_pushAuthorizationRequest` — the calls of a push.
* `Fapi2As.Validated.of_stored` — a stored request is read back as it was validated.
-/

namespace Fapi2As

open Js Async

variable (config : AppConfig)

/-- `REQUEST_URI_PREFIX`. -/
def requestUriPrefix : String := "urn:ietf:params:oauth:request_uri:"

/-- The key of a pushed request: the pushed thumbprint and the key of an accompanying proof must
not differ, and either one binds. -/
def boundDpopJkt (pushed header : Option String) : Except OAuthError (Option String) :=
  match header.filter (· ≠ "") with
  | none => .ok pushed
  | some jkt => do
    reject (∃ k ∈ pushed, k ≠ "" ∧ k ≠ jkt)
      (invalidDpopProof "dpop_jkt does not match the DPoP proof key [RFC9449 §10.1]")
    .ok (some jkt)

/-- The stored string map of a request bound to a key. -/
def parParams (validated : ValidatedAuthorizationRequest) (dpopJkt : Option String) :
    List (String × String) :=
  match dpopJkt.filter (· ≠ "") with
  | some jkt => assocSet "dpop_jkt" jkt (toStoredParams validated)
  | none => toStoredParams validated

/-- What the PAR endpoint answers. -/
structure ParResult where
  requestUri : String
  expiresIn : ℕ

/-- The checks of a push: the validated request and the key it is bound to. -/
def checkPush (body : Params) (client : Client) (dpopHeaderJkt : Option String) :
    Except OAuthError (ValidatedAuthorizationRequest × Option String) := do
  reject (isPresent (body.get "request_uri") = true)
    (invalidRequest "request_uri must not be provided to the PAR endpoint [RFC9126 §2.1]")
  let validated ← validateAuthorizationRequest body client
  let dpopJkt ← boundDpopJkt validated.dpopJkt dpopHeaderJkt
  .ok (validated, dpopJkt)

/-- The record of a push. -/
def parRecord (requestUri : String) (client : Client) (validated : ValidatedAuthorizationRequest)
    (dpopJkt : Option String) (now : ℕ) : ParRequestRecord :=
  { requestUri := requestUri
    clientId := client.clientId
    params := parParams validated dpopJkt
    dpopJkt := dpopJkt
    expiresAt := newDate ((now + config.parTtlSec * 1000 : ℕ) : ℚ) }

/-- `pushAuthorizationRequest`. -/
def pushAuthorizationRequest (body : Params) (client : Client) (dpopHeaderJkt : Option String) :
    Handler ParResult := do
  let now ← now
  let (validated, dpopJkt) ← Prog.settle Exn.oauth (checkPush body client dpopHeaderJkt)
  let reference ← randomBytes 32
  let requestUri := requestUriPrefix ++ reference
  db (.parInsert (parRecord config requestUri client validated dpopJkt now))
  pure { requestUri, expiresIn := config.parTtlSec }

/-! ## What a stored request has passed -/

/-- A record that a push of a client stores right after the calls `q`: the reference has just been
drawn, the request of the body validates, and the record holds its parameters, bound to the pushed
thumbprint or the key of the accompanying proof. -/
def Pushed (config : AppConfig) (body : Params) (client : Client) (dpopHeaderJkt : Option String)
    (rec : ParRequestRecord) (q : List Event) : Prop :=
  ∃ q₀ reference validated dpopJkt now, q = q₀ ++ [⟨.randomBytes 32, reference⟩] ∧
    Validated body client validated ∧ boundDpopJkt validated.dpopJkt dpopHeaderJkt = .ok dpopJkt ∧
    rec = parRecord config (requestUriPrefix ++ reference) client validated dpopJkt now

/-! ## The stored parameters -/

/-- The stored value of a name, as it is read back. -/
lemma get_storedBody (params : List (String × String)) (name : String) :
    (storedBody params).get name = (assoc name params).map .str := by
  unfold Params.get storedBody
  induction params with
  | nil => rfl
  | cons e params ih =>
    simp only [List.map_cons, assoc]
    split_ifs
    · rfl
    · exact ih

/-- A stored value other than the key is the one of the validated request. -/
lemma assoc_parParams {validated : ValidatedAuthorizationRequest} {dpopJkt : Option String}
    {name : String} (h : name ≠ "dpop_jkt") :
    assoc name (parParams validated dpopJkt) = assoc name (toStoredParams validated) := by
  unfold parParams
  split
  · rw [assoc_assocSet, if_neg h]
  · rfl

/-- **A stored request is read back as it was validated**: with its redirect URI, its challenge, and
the key that it is bound to. -/
lemma Validated.of_stored {client : Client} {v request : ValidatedAuthorizationRequest}
    {dpopJkt : Option String} (h : Validated (storedBody (parParams v dpopJkt)) client request) :
    request.redirectUri = v.redirectUri ∧ request.codeChallenge = v.codeChallenge ∧
      ∀ jkt ∈ dpopJkt, jkt ≠ "" → request.dpopJkt = some jkt := by
  have hredirect : (storedBody (parParams v dpopJkt)).get "redirect_uri" =
      some (.str v.redirectUri) := by
    rw [get_storedBody, assoc_parParams (by decide)]
    rfl
  have hchallenge : (storedBody (parParams v dpopJkt)).get "code_challenge" =
      some (.str v.codeChallenge) := by
    rw [get_storedBody, assoc_parParams (by decide)]
    rfl
  refine ⟨(str_eq_some (hredirect ▸ h.redirect_eq)).symm,
    (str_eq_some (hchallenge ▸ h.challenge_eq)).symm, fun jkt hjkt hne => ?_⟩
  obtain rfl := Option.mem_def.mp hjkt
  rw [h.dpopJkt_eq, get_storedBody, parParams, Option.filter_some, if_pos (by simpa using hne)]
  dsimp only
  rw [assoc_assocSet, if_pos rfl]
  simp [str, hne]

variable {config}

/-- **The calls of a push**: it stores one validated request under a fresh reference. -/
lemma wp_pushAuthorizationRequest {pre : List Event → Call → Prop}
    {post : List Event → Except Exn ParResult → Prop} {past : List Event} {body : Params}
    {client : Client} {dpopHeaderJkt : Option String} (hq : Quiet pre)
    (hins : ∀ q rec, past <+: q → Pushed config body client dpopHeaderJkt rec q →
      pre q (.db (.parInsert rec)))
    (hpost : ∀ q x, past <+: q → post q x) :
    Prog.wp pre post past (pushAuthorizationRequest config body client dpopHeaderJkt) := by
  unfold pushAuthorizationRequest
  rw [Prog.wp_bind, wp_now]
  refine ⟨hq _ _ rfl, fun t => ?_⟩
  have h1 : past <+: past ++ [⟨.now, t⟩] := List.prefix_append _ _
  simp only [Prog.Next]
  rw [Prog.wp_bind, Prog.wp_settle]
  refine ⟨fun x hx => ?_, fun e _ => hpost _ _ h1⟩
  obtain ⟨validated, dpopJkt⟩ := x
  simp only [checkPush, bind_eq_ok, reject_eq_ok, Except.ok.injEq, Prod.mk.injEq] at hx
  obtain ⟨_, -, v, hv, k, hk, rfl, rfl⟩ := hx
  simp only [Prog.Next]
  rw [Prog.wp_bind, wp_randomBytes]
  refine ⟨hq _ _ rfl, fun reference => ?_⟩
  simp only [Prog.Next]
  rw [Prog.wp_bind]
  have h2 : past <+: past ++ [⟨.now, t⟩] ++ [⟨.randomBytes 32, reference⟩] :=
    h1.trans (List.prefix_append _ _)
  have h3 : ∀ r, past <+: past ++ [⟨.now, t⟩] ++ [⟨.randomBytes 32, reference⟩] ++ [r] :=
    fun r => h2.trans (List.prefix_append _ _)
  exact wp_db.mpr
    ⟨hins _ _ h2 ⟨_, reference, v, k, t, rfl, Validated.of_eq_ok hv, hk, rfl⟩,
      fun _ => hpost _ _ (h3 _), fun e => hpost _ _ (h3 _)⟩

end Fapi2As
