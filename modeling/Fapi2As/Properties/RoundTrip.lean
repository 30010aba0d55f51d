import Fapi2As.Domain.Par
import Fapi2As.Sample

set_option relaxedAutoImplicit false
set_option autoImplicit false

/-!
# What is pushed is what is authorized

A pushed request is flattened into a map of strings, and every later step validates that map again.
Validation applies defaults and treats empty, blank and absent values alike, so it has to be shown
that reading back what was written gives the request that was validated at the push.

## Main definitions

* `Fapi2As.readBack` — the request that is read back: the pushed one, bound to the proved key.

## Main results

* `Fapi2As.validate_stored` — the stored parameters validate to the request that is read back.
* `Fapi2As.wp_push_round_trip` — every record that a push stores is read back as it was validated.
-/

namespace Fapi2As

open Js Async

/-! ## Reading a stored parameter -/

/-- A parameter that is read is not empty. -/
lemma param_ne_empty {body : Params} {name s : String} (h : param body name = .ok (some s)) :
    s ≠ "" := str_ne_empty (param_eq_ok h).symm

/-- A required parameter is not empty. -/
lemma requiredParam_ne_empty {body : Params} {name s : String} {e : OAuthError}
    (h : requiredParam body name e = .ok s) : s ≠ "" := by
  obtain ⟨v, hv, h⟩ := bind_eq_ok.mp h
  split at h
  · rw [← Except.ok.inj h]
    exact param_ne_empty hv
  · simp at h

/-- A stored parameter is read as it was written, an empty one as absent. -/
lemma param_storedBody (params : List (String × String)) (name : String) :
    param (storedBody params) name = .ok ((assoc name params).filter (· ≠ "")) := by
  unfold param
  rw [get_storedBody]
  cases assoc name params with
  | none => rfl
  | some s =>
    by_cases hs : s = ""
    · simp [str, hs, Option.filter]
    · simp [str, hs, Option.filter]

lemma assoc_member (k name : String) (v : Option String) :
    assoc k (member name v) = if name = k then v else none := by
  cases v with
  | none => simp [member, assoc]
  | some v => simp [member, assoc]

/-! ## The parameters that are passed through -/

/-- The parameters that are kept are those of the body. -/
lemma readPassthrough_eq_ok {body : Params} {names : List String} {rest : List (String × String)}
    (hn : names.Nodup) (h : readPassthrough body names = .ok rest) :
    (∀ name ∈ names, param body name = .ok (assoc name rest)) ∧
      ∀ name, name ∉ names → assoc name rest = none := by
  induction names generalizing rest with
  | nil =>
    simp only [readPassthrough, Except.ok.injEq] at h
    subst h
    simp [assoc]
  | cons name names ih =>
    simp only [readPassthrough, bind_eq_ok, checked_eq_ok, Except.ok.injEq] at h
    obtain ⟨v, hv, _, -, rest', hrest, rfl⟩ := h
    rw [List.nodup_cons] at hn
    obtain ⟨hin, hout⟩ := ih hn.2 hrest
    have hhead : ∀ k, assoc k ((v.map fun v => (name, v)).toList ++ rest') =
        (if name = k then v else none).or (assoc k rest') := by
      intro k
      rw [assoc_append]
      exact congrArg (Option.or · _) (assoc_member k name v)
    constructor
    · intro k hk
      rw [hhead]
      split_ifs with hnk
      · subst hnk
        rw [hv, hout name hn.1]
        simp
      · have hk' : k ∈ names := by
          rcases List.mem_cons.mp hk with rfl | hk
          · exact absurd rfl hnk
          · exact hk
        simpa using hin k hk'
    · intro k hk
      rw [List.mem_cons, not_or] at hk
      rw [hhead, if_neg (Ne.symm hk.1), hout k hk.2]
      rfl

/-- Bodies with the same values of the parameters that are kept keep the same. -/
lemma readPassthrough_congr {body body' : Params} {names : List String}
    (h : ∀ name ∈ names, param body' name = param body name) :
    readPassthrough body' names = readPassthrough body names := by
  induction names with
  | nil => rfl
  | cons name names ih =>
    have hhead := h name (by simp)
    have htail := ih fun k hk => h k (by simp [hk])
    simp only [readPassthrough, hhead, htail]

/-! ## Reading a stored request -/

/-- The request that is read back: the one that was validated, bound to the key that was proved at
the push, if one was. -/
def readBack (validated : ValidatedAuthorizationRequest) (proved : Option String) :
    ValidatedAuthorizationRequest :=
  { validated with dpopJkt := proved.or validated.dpopJkt }

/-- A value that is not empty is not dropped. -/
lemma filter_ne_empty {v : Option String} (h : ∀ s, v = some s → s ≠ "") :
    v.filter (· ≠ "") = v := by
  cases v with
  | none => rfl
  | some s => simp [Option.filter, h s rfl]

/-- The key that a push binds to is read back. -/
lemma param_dpopJkt {body : Params} {v : ValidatedAuthorizationRequest}
    {proof bound : Option String} (hproof : ∀ k ∈ proof, isJkt k = true)
    (hjkt : param body "dpop_jkt" = .ok v.dpopJkt)
    (hbound : boundDpopJkt v.dpopJkt proof = .ok bound)
    (hrest : assoc "dpop_jkt" v.passthrough = none) :
    param (storedBody (parParams v bound)) "dpop_jkt" = .ok (proof.or v.dpopJkt) := by
  have hne : ∀ k, v.dpopJkt = some k → k ≠ "" := fun k hk => param_ne_empty (hk ▸ hjkt)
  have hplain : assoc "dpop_jkt" (toStoredParams v) = v.dpopJkt := by
    simp [toStoredParams, assoc_append, assoc_member, assoc, hrest]
  rw [param_storedBody]
  cases proof with
  | none =>
    have hb : bound = v.dpopJkt := (Except.ok.inj hbound).symm
    subst hb
    unfold parParams
    rw [filter_ne_empty hne]
    cases hj : v.dpopJkt with
    | none =>
      dsimp only
      rw [hplain, hj]
      rfl
    | some k =>
      dsimp only
      rw [assoc_assocSet, if_pos rfl]
      simp [Option.filter, hne k hj]
  | some k =>
    have hk : k ≠ "" := by
      intro h
      have hform := hproof k rfl
      simp [h, isJkt] at hform
    have hb : bound = some k := by
      simp only [boundDpopJkt, Option.filter, hk, ne_eq, not_false_eq_true, decide_true, if_true,
        bind_eq_ok, reject_eq_ok, Except.ok.injEq] at hbound
      obtain ⟨_, -, h⟩ := hbound
      exact h.symm
    subst hb
    simp [parParams, Option.filter, hk, assoc_assocSet]

/-- A stored parameter other than the key is read as it was validated. -/
lemma param_stored {v : ValidatedAuthorizationRequest} {bound : Option String} {name : String}
    (h : name ≠ "dpop_jkt") :
    param (storedBody (parParams v bound)) name =
      .ok ((assoc name (toStoredParams v)).filter (· ≠ "")) := by
  rw [param_storedBody, assoc_parParams h]

/-- A required parameter that is stored and not empty is read. -/
lemma requiredParam_stored {v : ValidatedAuthorizationRequest} {bound : Option String}
    {name s : String} {e : OAuthError} (h : name ≠ "dpop_jkt")
    (hs : assoc name (toStoredParams v) = some s) (hne : s ≠ "") :
    requiredParam (storedBody (parParams v bound)) name e = .ok s := by
  have hread : param (storedBody (parParams v bound)) name = .ok (some s) := by
    rw [param_stored h, hs]
    simp [Option.filter, hne]
  simp only [requiredParam, bind_eq_ok]
  exact ⟨some s, hread, rfl⟩

/-- The scope that was asked for is asked for again: a blank or empty one is the registered
default. -/
lemma effectiveScope_again (raw : Option String) (client : Client) :
    effectiveScope ((some (effectiveScope raw client)).filter (· ≠ "")) client =
      effectiveScope raw client := by
  have hdefault : effectiveScope ((some client.metadata.scope).filter (· ≠ "")) client =
      client.metadata.scope := by
    by_cases hs : client.metadata.scope = ""
    · simp [hs, Option.filter, effectiveScope]
    · by_cases hb : isBlank client.metadata.scope = true
      · simp [hs, hb, Option.filter, effectiveScope]
      · simp [hs, hb, Option.filter, effectiveScope]
  cases raw with
  | none => exact hdefault
  | some s =>
    by_cases hb : isBlank s = true
    · have hs : effectiveScope (some s) client = client.metadata.scope := by
        simp [effectiveScope, hb]
      rw [hs]
      exact hdefault
    · have hs : effectiveScope (some s) client = s := by simp [effectiveScope, hb]
      have hne : s ≠ "" := by
        intro h
        exact hb (by simp [h, isBlank])
      rw [hs]
      simp [Option.filter, hne, effectiveScope, hb]

/-- **The stored parameters validate to the request that was pushed.**

**Proof sketch.** Every member of the map is read as it was written: the members that validation
requires are not empty, an optional one is written only when it is there, and the members that are
kept have names of their own. A scope that is read as absent was the registered default, which is
put in its place again. -/
lemma validate_stored {body : Params} {client : Client} {proof bound : Option String}
    {v : ValidatedAuthorizationRequest} (hproof : ∀ k ∈ proof, isJkt k = true)
    (h : validateAuthorizationRequest body client = .ok v)
    (hbound : boundDpopJkt v.dpopJkt proof = .ok bound) :
    validateAuthorizationRequest (storedBody (parParams v bound)) client =
      .ok (readBack v proof) := by
  simp only [validateAuthorizationRequest, bind_eq_ok, reject_eq_ok, checked_eq_ok] at h
  obtain ⟨request, hrequest, _, hnorequest, cid, hcid, _, hcid', rt, hrt, _, hrt', redir, hredir, _,
    hreg, raw, hraw, _, hprint, _, hscope, ch, hch, m, hm, _, hm', _, hch', state, hstate, _,
    hstate',
    nonce, hnonce, _, hnonce', jkt, hjkt, _, hjkt', prompt, hprompt, _, hprompt', rest, hrest, age,
    hage, _, hage', h⟩ := h
  simp only [Except.ok.injEq] at h
  subst h
  obtain ⟨hkept, hother⟩ := readPassthrough_eq_ok (by decide) hrest
  set v : ValidatedAuthorizationRequest :=
    { clientId := client.clientId, redirectUri := redir, scope := effectiveScope raw client
      codeChallenge := ch, state := state, nonce := nonce, dpopJkt := jkt, prompt := prompt
      maxAge := age.map digitsToNat, passthrough := rest } with hv
  -- What is written under each name.
  have hstored : ∀ name, assoc name (toStoredParams v) =
      (assoc name [("client_id", client.clientId), ("response_type", "code"),
        ("redirect_uri", redir), ("scope", effectiveScope raw client), ("code_challenge", ch),
        ("code_challenge_method", "S256")]).or
      ((if "state" = name then state else none).or ((if "nonce" = name then nonce else none).or
        ((if "dpop_jkt" = name then jkt else none).or
          ((if "prompt" = name then prompt else none).or (assoc name rest))))) := by
    intro name
    simp only [toStoredParams, assoc_append, assoc_member, Option.or_assoc, hv]
  have hne : ∀ {name : String} {o : Option String}, param body name = .ok o →
      o.filter (· ≠ "") = o := fun h => filter_ne_empty fun s hs => param_ne_empty (hs ▸ h)
  have hreadRequest : param (storedBody (parParams v bound)) "request" = .ok none := by
    rw [param_stored (by decide), hstored, hother _ (by decide)]
    simp [assoc]
  have hreadClient : param (storedBody (parParams v bound)) "client_id" =
      .ok ((some client.clientId).filter (· ≠ "")) := by
    rw [param_stored (by decide), hstored]
    simp [assoc]
  have hreadScope : param (storedBody (parParams v bound)) "scope" =
      .ok ((some (effectiveScope raw client)).filter (· ≠ "")) := by
    rw [param_stored (by decide), hstored]
    simp [assoc]
  have hreadMethod : param (storedBody (parParams v bound)) "code_challenge_method" =
      .ok (some "S256") := by
    rw [param_stored (by decide), hstored]
    simp [assoc, Option.filter]
  have hreadState : param (storedBody (parParams v bound)) "state" = .ok state := by
    rw [param_stored (by decide), hstored, hother _ (by decide), ← hne hstate]
    simp [assoc]
  have hreadNonce : param (storedBody (parParams v bound)) "nonce" = .ok nonce := by
    rw [param_stored (by decide), hstored, hother _ (by decide), ← hne hnonce]
    simp [assoc]
  have hreadPrompt : param (storedBody (parParams v bound)) "prompt" = .ok prompt := by
    rw [param_stored (by decide), hstored, hother _ (by decide), ← hne hprompt]
    simp [assoc]
  have hreadJkt : param (storedBody (parParams v bound)) "dpop_jkt" = .ok (proof.or jkt) :=
    param_dpopJkt hproof hjkt hbound (hother _ (by decide))
  have hreadKept : ∀ name ∈ passthroughParams,
      param (storedBody (parParams v bound)) name = param body name := by
    intro name hname
    have hown : name ≠ "client_id" ∧ name ≠ "response_type" ∧ name ≠ "redirect_uri" ∧
        name ≠ "scope" ∧ name ≠ "code_challenge" ∧ name ≠ "code_challenge_method" ∧
        name ≠ "state" ∧ name ≠ "nonce" ∧ name ≠ "dpop_jkt" ∧ name ≠ "prompt" := by
      revert name
      decide
    obtain ⟨h1, h2, h3, h4, h5, h6, h7, h8, h9, h10⟩ := hown
    have hbody := hkept name hname
    rw [param_stored h9, hstored, hbody, ← hne hbody]
    simp [assoc, Ne.symm h1, Ne.symm h2, Ne.symm h3, Ne.symm h4, Ne.symm h5, Ne.symm h6,
      Ne.symm h7, Ne.symm h8, Ne.symm h9, Ne.symm h10]
  have hreadAge : param (storedBody (parParams v bound)) "max_age" = .ok age :=
    (hreadKept "max_age" (by decide)).trans hage
  simp only [validateAuthorizationRequest, bind_eq_ok, reject_eq_ok, checked_eq_ok]
  refine ⟨none, hreadRequest, (), by simp, _, hreadClient, (), ?_, "code",
    requiredParam_stored (by decide) (by rw [hstored]; simp [assoc]) (by decide), (), by simp,
    redir, requiredParam_stored (by decide) (by rw [hstored]; simp [assoc])
      (requiredParam_ne_empty hredir), (), hreg, _, hreadScope, (), ?_, (), ?_, ch,
    requiredParam_stored (by decide) (by rw [hstored]; simp [assoc]) (requiredParam_ne_empty hch),
    some "S256", hreadMethod, (), by simp, (), hch', state, hreadState, (), hstate', nonce,
    hreadNonce, (), hnonce', proof.or jkt, hreadJkt, (), ?_, prompt, hreadPrompt, (), hprompt',
    rest, (readPassthrough_congr hreadKept).trans hrest, age, hreadAge, (), hage', ?_⟩
  · intro c hc
    obtain ⟨hc, -⟩ := Option.filter_eq_some_iff.mp hc
    simp [← Option.some.inj hc]
  · rw [effectiveScope_again]
    exact hprint
  · rw [effectiveScope_again]
    exact hscope
  · intro k hk
    cases proof with
    | none => exact hjkt' k (by simpa using hk)
    | some k' =>
      have hkk : k' = k := by simpa using hk
      exact hkk ▸ hproof k' rfl
  · rw [effectiveScope_again]
    rfl

/-! ## Pushes -/

/-- A record that holds what a client pushed: the body validates, and the stored parameters validate
again, for the same registration, to the same request, bound to the proved key. -/
def ReadsBack (body : Params) (client : Client) (proof : Option String) (rec : ParRequestRecord) :
    Prop :=
  ∃ v, validateAuthorizationRequest body client = .ok v ∧ rec.clientId = client.clientId ∧
    validateAuthorizationRequest (storedBody rec.params) client = .ok (readBack v proof)

/-- **Every record that a push stores is read back as it was validated**, and a push that is
accepted has stored one under the reference that it returns. -/
theorem wp_push_round_trip {config : AppConfig} {body : Params} {client : Client}
    {proof : Option String} (hproof : ∀ k ∈ proof, isJkt k = true) (past : List Event) :
    Prog.wp (fun _ o => ∀ rec, o = .db (.parInsert rec) → ReadsBack body client proof rec)
      (fun q x => ∀ result, x = .ok result → ∃ rec, rec.requestUri = result.requestUri ∧
        ⟨.db (.parInsert rec), .ok ()⟩ ∈ q ∧ ReadsBack body client proof rec)
      past (pushAuthorizationRequest config body client proof) := by
  unfold pushAuthorizationRequest
  rw [Prog.wp_bind, wp_now]
  refine ⟨by simp, fun t => ?_⟩
  simp only [Prog.Next]
  rw [Prog.wp_bind, Prog.wp_settle]
  refine ⟨fun x hx => ?_, fun e _ => by simp [Prog.Next]⟩
  obtain ⟨validated, bound⟩ := x
  simp only [checkPush, bind_eq_ok, reject_eq_ok, Except.ok.injEq, Prod.mk.injEq] at hx
  obtain ⟨_, -, v, hv, k, hk, rfl, rfl⟩ := hx
  simp only [Prog.Next]
  rw [Prog.wp_bind, wp_randomBytes]
  refine ⟨by simp, fun reference => ?_⟩
  simp only [Prog.Next]
  rw [Prog.wp_bind]
  have hback : ReadsBack body client proof
      (parRecord config (requestUriPrefix ++ reference) client v k t) :=
    ⟨v, hv, rfl, validate_stored hproof hv hk⟩
  refine (wp_db
    (q := .parInsert (parRecord config (requestUriPrefix ++ reference) client v k t))).mpr
    ⟨?_, fun _ => ?_, fun e => ?_⟩
  · intro rec hrec
    have hrec : parRecord config (requestUriPrefix ++ reference) client v k t = rec := by
      simpa using hrec
    exact hrec ▸ hback
  · intro result hresult
    have hresult : result.requestUri = requestUriPrefix ++ reference := by
      rw [← Except.ok.inj hresult]
    exact ⟨_, hresult.symm, mem_past_last _ _, hback⟩
  · intro result hresult
    simp at hresult

namespace Sample

/-- Client `A`, as it is loaded. -/
def clientA : Client where
  clientId := "A"
  clientName := none
  metadata :=
    { redirectUris := ["https://c"]
      jwks := some [.obj (publicKey "A")]
      jwksUri := none
      grantTypes := [.authorizationCode, .refreshToken]
      scope := "r"
      dpopBoundAccessTokens := true }

/-- The sample push with a proof, whose thumbprint has the form of one, is accepted and read back.
-/
theorem push_read_back :
    (checkPush (par "1").body clientA (some challenge)).toOption.isSome = true ∧
    Prog.wp (fun _ o => ∀ rec, o = .db (.parInsert rec) →
        ReadsBack (par "1").body clientA (some challenge) rec)
      (fun q x => ∀ result, x = .ok result → ∃ rec, rec.requestUri = result.requestUri ∧
        ⟨.db (.parInsert rec), .ok ()⟩ ∈ q ∧ ReadsBack (par "1").body clientA (some challenge) rec)
      [] (pushAuthorizationRequest config (par "1").body clientA (some challenge)) :=
  ⟨by decide +kernel, wp_push_round_trip (by decide) []⟩

end Sample

end Fapi2As
