import Fapi2As.Server.Rows

set_option relaxedAutoImplicit false
set_option autoImplicit false

/-!
# One authorization for each pushed request

Two one-time tokens stand between a pushed request and a code: the interaction, which is completed
before the decision, and the reference of the pushed request, which is consumed after it. Several
interactions may be parked on one reference, and approvals, denials and silent decisions may race.
Whatever the order of their steps, at most one of them consumes the reference, and only that one
may issue a code.

## Main definitions

* `Fapi2As.ServerRun.DecidesOn` — the pushed request that a front-channel request is about.
* `Fapi2As.ServerRun.OneTimeAuthorization` — one authorization for each pushed request.

## Main results

* `Fapi2As.ServerRun.par_consume_once`, `Fapi2As.ServerRun.interaction_complete_once` — one-time
  tokens are used once.
* `Fapi2As.ServerRun.oneTimeAuthorization` — every run authorizes a pushed request at most once.
-/

namespace Fapi2As

open Js Async

/-- No decision has allowed: the user denied, so that none was asked for, or the policy decision
point refused or failed. -/
def NoApproval (past : List Event) : Prop := ∀ e, ⟨.evaluate e, .ok true⟩ ∉ past

namespace ServerRun

variable {P : Platform} {config : AppConfig} {backend : Backend} (R : ServerRun P config backend)

/-! ## One-time tokens -/

variable {R}

/-- **A pushed request is consumed once**: two calls that consume a reference and are given its
record are the same call. -/
lemma par_consume_once {i j pid pid' : ℕ} {p p' : Proc (server P config backend)} {uri : String}
    {t t' : ℕ} {rec rec' : ParRequestRecord}
    (hi : R.Does i pid p ⟨.db (.parConsume uri t), .ok (some rec)⟩)
    (hj : R.Does j pid' p' ⟨.db (.parConsume uri t'), .ok (some rec')⟩) : i = j := by
  have key : ∀ {i j pid pid' : ℕ} {p p' : Proc (server P config backend)} {t t' : ℕ}
      {rec rec' : ParRequestRecord}, R.Does i pid p ⟨.db (.parConsume uri t), .ok (some rec)⟩ →
      R.Does j pid' p' ⟨.db (.parConsume uri t'), .ok (some rec')⟩ → ¬i < j := by
    intro i j pid pid' p p' t t' rec rec' hi hj hij
    obtain ⟨row, hrow, -, -, hset⟩ := (R.carried hi).parConsume
    obtain ⟨row', hrow', -, hfree, -⟩ := (R.carried hj).parConsume
    obtain ⟨hu, m, hmi, hm⟩ := R.par_origin (Nat.le_of_lt hi.lt) hrow
    refine R.stays (P := fun w => ∀ row, w.store.par.get? uri = some row → row.consumedAt ≠ none)
      hij (fun row h => ?_) (fun k hk hkj ih row h => ?_) row' hrow' hfree
    · change (R.store (i + 1)).par.get? uri = some row at h
      rw [← Option.some.inj (hset.symm.trans h)]
      simp
    · change (R.store (k + 1)).par.get? uri = some row at h
      rcases R.par_step (i := k) (hkj.trans hj.lt) uri with
        hs | ⟨rec, hc, hu', -⟩ | ⟨t'', row'', -, -, -, hs⟩
      · exact ih row (hs.symm.trans h)
      · have hmk := par_insert_once hm hc (hu.trans hu'.symm)
        omega
      · rw [← Option.some.inj (hs.symm.trans h)]
        simp
  have h1 := key hi hj
  have h2 := key hj hi
  omega

/-- **An interaction is completed once.** -/
lemma interaction_complete_once {i j pid pid' : ℕ} {p p' : Proc (server P config backend)}
    {id : String} {t t' : ℕ} {rec rec' : InteractionRecord}
    (hi : R.Does i pid p ⟨.db (.interactionsComplete id t), .ok (some rec)⟩)
    (hj : R.Does j pid' p' ⟨.db (.interactionsComplete id t'), .ok (some rec')⟩) : i = j := by
  have key : ∀ {i j pid pid' : ℕ} {p p' : Proc (server P config backend)} {t t' : ℕ}
      {rec rec' : InteractionRecord},
      R.Does i pid p ⟨.db (.interactionsComplete id t), .ok (some rec)⟩ →
      R.Does j pid' p' ⟨.db (.interactionsComplete id t'), .ok (some rec')⟩ → ¬i < j := by
    intro i j pid pid' p p' t t' rec rec' hi hj hij
    obtain ⟨row, hrow, -, -, hset⟩ := (R.carried hi).interactionsComplete
    obtain ⟨row', hrow', -, hfree, -⟩ := (R.carried hj).interactionsComplete
    obtain ⟨hid, m, hmi, hm⟩ := R.interactions_origin (Nat.le_of_lt hi.lt) hrow
    refine R.stays
      (P := fun w => ∀ row, w.store.interactions.get? id = some row → row.completedAt ≠ none)
      hij (fun row h => ?_) (fun k hk hkj ih row h => ?_) row' hrow' hfree
    · change (R.store (i + 1)).interactions.get? id = some row at h
      rw [← Option.some.inj (hset.symm.trans h)]
      simp
    · change (R.store (k + 1)).interactions.get? id = some row at h
      rcases R.interactions_step (i := k) (hkj.trans hj.lt) id with hs | ⟨q, hc, hs⟩
      · exact ih row (hs.symm.trans h)
      · change ∀ row, (R.store k).interactions.get? id = some row → row.completedAt ≠ none at ih
        rw [h] at hs
        generalize (R.store k).interactions.get? id = before at hs ih
        cases hs with
        | same => exact ih row rfl
        | insert _ rec hq hid' =>
          subst hq
          have hmk := interactions_insert_once hm hc (hid.trans hid'.symm)
          omega
        | setSubject row'' subject authTime acr amr hq =>
          have hdone := ih row'' rfl
          unfold Memory.withSubject
          split_ifs with ho
          · exact absurd (Option.isNone_iff_eq_none.mp ho) hdone
          · exact hdone
        | complete row'' t'' hq ho => simp
  have h1 := key hi hj
  have h2 := key hj hi
  omega

/-! ## The pushed request of a decision -/

variable (R)

/-- The pushed request that a front-channel request is about: the one that an authorization request
names, or the one on which the interaction that a consent submission names was parked. -/
inductive DecidesOn (req : HttpRequest) : String → Prop
  | authorize (uri : String) (hr : req.route = .authorize)
      (h : str ((authorizeParams req).get "request_uri") = some uri) : DecidesOn req uri
  | consent (id : String) (j : ℕ) (rec : InteractionRecord) (hr : req.route = .interactionConsent)
      (h : str (req.body.get "interaction_id") = some id)
      (parked : R.Calls j (.interactionsInsert rec)) (hid : rec.id = id) :
      DecidesOn req rec.requestUri

variable {R}

/-- A request is about one pushed request. -/
lemma DecidesOn.unique {req : HttpRequest} {uri uri' : String} (h : R.DecidesOn req uri)
    (h' : R.DecidesOn req uri') : uri = uri' := by
  cases h with
  | authorize _ hr hu => cases h' with
    | authorize _ _ hu' => exact Option.some.inj (hu.symm.trans hu')
    | consent _ _ _ hr' => simp [hr] at hr'
  | consent id j rec hr hid hc hrec => cases h' with
    | authorize _ hr' => simp [hr] at hr'
    | consent id' j' rec' _ hid' hc' hrec' =>
      obtain rfl := Option.some.inj (hid.symm.trans hid')
      obtain rfl := interactions_insert_once hc hc' (hrec.trans hrec'.symm)
      simpa using congrArg (fun q => match q with
        | .interactionsInsert rec => rec.requestUri
        | _ => "") (hc.functional hc')

/-- A request decides about the pushed request that it is about. -/
lemma decidesOn_of_authorizes {i pid : ℕ} {p : Proc (server P config backend)} (hi : i ≤ R.len)
    (hp : R.proc i pid = some p) {q : List Event} (hq : q <+: p.past) {uri : String}
    {client : Client} {request : ValidatedAuthorizationRequest} {session : LoginSession}
    {ua : Option Bool} (h : Authorizes P config p.req q uri client request session ua) :
    R.DecidesOn p.req uri := by
  cases h with
  | consent id ctx session t done h hdone =>
    obtain ⟨t', interaction, pushed, hfind, -, huri, -⟩ := h.context
    obtain ⟨j, hj, q', hd, -⟩ := R.did hi hp (hq.mem hfind)
    obtain ⟨row, hrow, rfl, -⟩ := (R.carried hd).interactionsFind
    obtain ⟨hid, k, -, hk⟩ := R.interactions_origin (by omega) hrow
    rw [huri]
    exact .consent id k row.record.fresh h.route h.interaction hk hid
  | silent _ _ _ _ h => exact .authorize _ h.route h.requested

variable (R)

/-- At step `i` a code is issued from the pushed request `uri`. -/
def IssuesCode (i : ℕ) (uri : String) : Prop :=
  ∃ pid p rec r, R.Does i pid p ⟨.db (.codesInsert rec), r⟩ ∧ R.DecidesOn p.req uri

/-- **One authorization for each pushed request.** -/
structure OneTimeAuthorization : Prop where
  /-- At most one code is issued from a pushed request. -/
  once : ∀ i j uri, R.IssuesCode i uri → R.IssuesCode j uri → i = j
  /-- A code is issued only by a process whose own consumption returned the pushed request. -/
  own : ∀ i pid p rec r, R.Does i pid p ⟨.db (.codesInsert rec), r⟩ →
    ∃ uri t pushed, R.DecidesOn p.req uri ∧ ⟨.db (.parConsume uri t), .ok (some pushed)⟩ ∈ p.past
  /-- No code is issued from a pushed request that was consumed by a denial. -/
  denied : ∀ k pid p uri t pushed, R.Does k pid p ⟨.db (.parConsume uri t), .ok (some pushed)⟩ →
    NoApproval p.past → ∀ i, ¬R.IssuesCode i uri
  /-- An interaction is completed at most once. -/
  completed : ∀ i j pid pid' p p' id t t' rec rec',
    R.Does i pid p ⟨.db (.interactionsComplete id t), .ok (some rec)⟩ →
    R.Does j pid' p' ⟨.db (.interactionsComplete id t'), .ok (some rec')⟩ → i = j
  /-- A pushed request becomes consumed only through a request that may decide about it: a consent
  submission that passed its checks and completed its interaction, or a silent authorization. -/
  consumed : ∀ i uri row row', i < R.len → (R.store i).par.get? uri = some row →
    row.consumedAt = none → (R.store (i + 1)).par.get? uri = some row' → row'.consumedAt ≠ none →
    ∃ pid p t r client request session ua, R.Does i pid p ⟨.db (.parConsume uri t), r⟩ ∧
      Authorizes P config p.req p.past uri client request session ua

variable {R}

/-- The consumption that precedes the issuing of a code: made by the same process, with an allowing
decision before it, four calls earlier. -/
lemma code_consumption {i pid : ℕ} {p : Proc (server P config backend)}
    {rec : AuthorizationCodeRecord} {r : Except Fault Unit}
    (hd : R.Does i pid p ⟨.db (.codesInsert rec), r⟩) :
    ∃ uri t pushed k q, R.Does k pid q ⟨.db (.parConsume uri t), .ok (some pushed)⟩ ∧
      R.DecidesOn p.req uri ∧ ¬NoApproval q.past ∧
      ⟨.db (.parConsume uri t), .ok (some pushed)⟩ ∈ p.past ∧
      p.past.length = q.past.length + 5 := by
  obtain ⟨uri, client, request, session, ua, q₀, t, g, code, hauth, hq, -⟩ := R.justified hd
  obtain ⟨q₁, t', pushed, rfl, happr⟩ := hauth
  have hpast := hq.trans (List.append_assoc q₁ [_] _)
  obtain ⟨k, hk, q, hdk, hreq, rfl⟩ := R.did_at (Nat.le_of_lt hd.lt) hd.proc hpast
  refine ⟨uri, t', pushed, k, q, hdk, ?_, fun h => h _ happr.2.2, by simp [hpast], by simp [hq]⟩
  exact decidesOn_of_authorizes (Nat.le_of_lt hd.lt) hd.proc
    (hpast ▸ List.prefix_append _ _) happr.1

/-- **Every run authorizes a pushed request at most once.**

**Proof sketch.** Each code is preceded by a consumption that returned the pushed request, made by
the same process. A reference is consumed once, so two codes from one pushed request are preceded by
the same consumption, and they stand at the same place after it. -/
theorem oneTimeAuthorization (R : ServerRun P config backend) : R.OneTimeAuthorization where
  once i j uri hi hj := by
    obtain ⟨pid, p, rec, r, hd, hu⟩ := hi
    obtain ⟨pid', p', rec', r', hd', hu'⟩ := hj
    obtain ⟨uri₁, _, _, k, q, hk, hu₁, -, -, hlen⟩ := code_consumption hd
    obtain ⟨uri₂, _, _, k', q', hk', hu₂, -, -, hlen'⟩ := code_consumption hd'
    obtain rfl := hu.unique hu₁
    obtain rfl := hu'.unique hu₂
    obtain rfl := par_consume_once hk hk'
    obtain ⟨rfl, rfl, -⟩ := hk.functional hk'
    exact hd.unique hd' (hlen.trans hlen'.symm)
  own i pid p rec r hd := by
    obtain ⟨uri, t, pushed, _, _, -, hu, -, hmem, -⟩ := code_consumption hd
    exact ⟨uri, t, pushed, hu, hmem⟩
  denied k pid p uri t pushed hk hdeny i hi := by
    obtain ⟨pid', p', rec, r, hd, hu⟩ := hi
    obtain ⟨uri', _, _, k', q, hk', hu', hyes, -, -⟩ := code_consumption hd
    obtain rfl := hu.unique hu'
    obtain rfl := par_consume_once hk hk'
    obtain ⟨rfl, rfl, -⟩ := hk.functional hk'
    exact hyes hdeny
  completed i j pid pid' p p' id t t' rec rec' := interaction_complete_once
  consumed i uri row row' hi hrow hfree hrow' hused := by
    rcases R.par_step hi uri with hs | ⟨rec, hc, hu, -⟩ | ⟨t, row'', hc, -⟩
    · rw [hs, hrow] at hrow'
      exact absurd hfree (Option.some.inj hrow' ▸ hused)
    · obtain ⟨hu', m, hmi, hm⟩ := R.par_origin (Nat.le_of_lt hi) hrow
      have := par_insert_once hm hc (hu'.trans hu.symm)
      omega
    · obtain ⟨pid, p, r, hd, client, request, session, ua, h⟩ := hc.justified
      exact ⟨pid, p, t, .ok r, client, request, session, ua, hd, h⟩

end ServerRun

end Fapi2As
