import Fapi2As.Properties.Lineage

set_option relaxedAutoImplicit false
set_option autoImplicit false

/-!
# From a login to the userinfo endpoint

The userinfo endpoint names a subject to whoever presents a token with a proof by the key of the
token. That key was proven by the token request that stored the token, under whichever grant type,
and the subject is the one whose session authorized the grant of the token.

## Main definitions

* `Fapi2As.ServerRun.ProvenAtIssuance` — the token request that stored an access token.
* `Fapi2As.ServerRun.AuthorizedBySubject` — the authorization that created a grant.
* `Fapi2As.ServerRun.SenderConstrained` — what a subject that was named rests on.

## Main results

* `Fapi2As.ServerRun.accessTokens_bound` — every access token is bound to a proven key.
* `Fapi2As.ServerRun.userinfo_sender_constrained` — whatever the userinfo endpoint names is sender
  constrained.
-/

namespace Fapi2As

open Js Async

namespace ServerRun

variable {P : Platform} {config : AppConfig} {backend : Backend} (R : ServerRun P config backend)

/-- **The token request that an access token came from**: it stored the row before time `i`,
authenticated as the client of the row, with an accepted proof for the key. -/
def ProvenAtIssuance (i : ℕ) (rec : AccessTokenRecord) (jkt : String) : Prop :=
  ∃ k < i, ∃ pid p client, R.Does k pid p ⟨.db (.accessTokensInsert rec.fresh), .ok ()⟩ ∧
    TokenRequest P config p.req p.past client jkt ∧ client.clientId = rec.clientId

/-- **The authorization that a grant came from**: before time `i`, the process that created the
grant had authorized a pushed request of its client, for a session of the subject that had not
denied it. -/
def AuthorizedBySubject (i : ℕ) (g : GrantRecord) : Prop :=
  ∃ k < i, ∃ pid p uri client request session ua,
    R.Does k pid p ⟨.db (.grantsInsert g.fresh), .ok ()⟩ ∧
    Authorizes P config p.req p.past uri client request session ua ∧ ua ≠ some false ∧
    client.clientId = g.clientId ∧ session.sub = g.subject

/-- **What a subject that was named rests on**: an accepted token that is bound to the key of the
proof, the token request that proved the same key, and a grant for the same client that the subject
authorized. -/
def SenderConstrained (i : ℕ) (req : HttpRequest) (past : List Event) (subject : String) : Prop :=
  ∃ token rec jkt g, UserinfoAccepted P config req past token subject rec jkt ∧
    R.ProvenAtIssuance i rec jkt ∧ (R.store i).grants.get? rec.grantId = some g ∧
    g.clientId = rec.clientId ∧ g.subject = subject ∧ R.AuthorizedBySubject i g

variable {R} {i : ℕ}

/-- **Every access token is bound to a key** that the token request which stored it has proven. -/
lemma accessTokens_bound (hi : i ≤ R.len) {jti : String} {rec : AccessTokenRecord}
    (h : (R.store i).accessTokens.get? jti = some rec) :
    ∃ jkt, rec.cnfJkt = some jkt ∧ R.ProvenAtIssuance i rec jkt := by
  obtain ⟨-, k, hk, hc⟩ := R.accessTokens_origin hi h
  obtain ⟨pid, p, ⟨⟩, hd, input, hx, _, _, t, token, -, hrec⟩ := hc.justified
  have hclient : rec.clientId = input.clientId := congrArg AccessTokenRecord.clientId hrec
  have hkey : rec.cnfJkt = some input.cnfJkt := congrArg AccessTokenRecord.cnfJkt hrec
  cases hx with
  | code client jkt record grant hx =>
    exact ⟨jkt, hkey, k, hk, pid, p, client, hd, hx.1, hclient.symm⟩
  | refresh client jkt scope rt grant hx =>
    exact ⟨jkt, hkey, k, hk, pid, p, client, hd, hx.1, hclient.symm⟩

/-- Every grant was authorized by its subject. -/
lemma grants_authorized (hi : i ≤ R.len) {id : String} {g : GrantRecord}
    (h : (R.store i).grants.get? id = some g) : R.AuthorizedBySubject i g := by
  obtain ⟨-, k, hk, hc⟩ := R.grants_origin hi h
  obtain ⟨pid, p, ⟨⟩, hd, uri, client, request, session, ua, q, t, gid, hauth, hpast, hrec⟩ :=
    hc.justified
  obtain ⟨q₁, t₁, pushed, rfl, hauthorizes, hua, -⟩ := hauth
  refine ⟨k, hk, pid, p, uri, client, request, session, ua, hd, hauthorizes.mono ?_, hua, ?_, ?_⟩
  · rw [hpast, List.append_assoc]
    exact List.prefix_append _ _
  · exact (congrArg GrantRecord.clientId hrec).symm
  · exact (congrArg GrantRecord.subject hrec).symm

/-- **Whatever the userinfo endpoint names is sender constrained**, when thumbprints are not empty:
in every run, whenever it answers with a subject, the proof of the request is by the key that was
proven at the token request which stored the token, and the subject is the one who authorized the
grant.

**Proof sketch.** The row that the request found was in the table, where every row is bound to the
key of its token request (`accessTokens_bound`) and belongs to a grant of its client and subject
(`access_lineage`), which was authorized by a session of that subject (`grants_authorized`). The
endpoint compared the key of the row with the one of the proof. -/
theorem userinfo_sender_constrained (R : ServerRun P config backend)
    (hthumb : ∀ jwk k, P.calculateJwkThumbprint jwk = some k → k ≠ "") (hi : i ≤ R.len) {pid : ℕ}
    {req : HttpRequest} {past : List Event} {reply : Reply}
    (hp : R.proc i pid = some ⟨req, past, .ret reply⟩) (hroute : req.route = .userinfo)
    {subject : String} (hbody : reply.body = .json [("sub", .str subject)]) :
    R.SenderConstrained i req past subject := by
  obtain ⟨token, rec, jkt, haccepted⟩ := (R.reply hi hp).userinfo hroute subject hbody
  obtain ⟨_, jti, -, -, hfind⟩ := haccepted.found
  obtain ⟨m, hm, q, hd, -⟩ := R.did hi hp hfind
  have hrow := (R.carried hd).accessTokensFindByJti
  obtain ⟨jkt', hkey, k, hk, hissued⟩ := accessTokens_bound hd.lt.le hrow
  obtain rfl : jkt' = jkt := Option.some.inj (hkey.symm.trans haccepted.bound)
  obtain ⟨g₀, hg₀, hclient, hsubject, -⟩ := access_lineage hthumb hd.lt.le hrow
  obtain ⟨g, hg, hfresh⟩ := R.grants_stay hm.le hi hg₀
  obtain ⟨hgclient, hgsubject, -⟩ := GrantRecord.eq_of_fresh hfresh
  exact ⟨token, rec, jkt', g, haccepted, ⟨k, by omega, hissued⟩, hg, hgclient.trans hclient.symm,
    hgsubject.trans (hsubject.symm.trans haccepted.subject_eq.symm), grants_authorized hi hg⟩

end ServerRun

namespace Sample

/-! ## A userinfo request after a redemption -/

/-- The access token of a redemption is presented. -/
def presenting : List (Act system) := redemption ++ .arrive (userinfo "t" "u") :: calls 3 6

/-- The subject is named. -/
def named (t : List (TraceStep system) × Conf system) : Bool :=
  t.2.answers 3 fun req _ reply => req.route = .userinfo && reply.body = .json [("sub", .str "u")]

set_option maxRecDepth 4000 in
lemma presenting_trace : (system.trace ⟨world, []⟩ presenting).any named = true := by
  decide +kernel

/-- The run of the two. -/
def presentingRun : ServerRun platform Sample.config .memory :=
  .ofTrace world presenting world_initial named presenting_trace

/-- The subject that is named is the one who authorized the request of client `A`. -/
theorem presenting_sender_constrained : ∃ req past,
    presentingRun.SenderConstrained presentingRun.len req past "u" := by
  obtain ⟨⟨steps, last⟩, ht, h⟩ := (Option.any_eq_true _ _).mp presenting_trace
  have ht : presentingRun.HasTrace steps last := ht
  obtain ⟨req, past, reply, hp, htest⟩ := ht.answers h
  simp only [Bool.and_eq_true, decide_eq_true_eq] at htest
  exact ⟨req, past, presentingRun.userinfo_sender_constrained thumbprint_ne_empty le_rfl hp htest.1
    htest.2⟩

end Sample

end Fapi2As
