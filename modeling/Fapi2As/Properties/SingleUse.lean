import Fapi2As.Sample
import Fapi2As.Server.Rows
import Fapi2As.Server.Statements

set_option relaxedAutoImplicit false
set_option autoImplicit false

/-!
# Authorization codes are used once

However many requests present a code at the same time, one of them redeems it and all that come
later are told that it has been used. This holds at the level of the statements of the storage
adapters; the proofs are made where a redemption is one step, and every run of the statements is
explained by such a run.

## Main definitions

* `Fapi2As.StatementRun` — the runs of the server over the statements of an adapter.
* `Fapi2As.StatementRun.SingleUse` — a code is used once, and leads to one refresh token.

## Main results

* `Fapi2As.ServerRun.redeem_once`, `Fapi2As.ServerRun.redeem_after` — a code is redeemed once, and
  reported as used afterwards.
* `Fapi2As.ServerRun.refresh_once` — a grant has one refresh token.
* `Fapi2As.StatementRun.singleUse` — the same over the statements.
-/

namespace Fapi2As

open Js Async

/-! ## The refresh token is stored last -/

/-- The calls that store a refresh token. -/
def Call.storesRefreshToken : Call → Bool
  | .db (.refreshTokensInsert _) => true
  | _ => false

/-- No refresh token has been stored. -/
def NoneStored (q : List Event) : Prop := ∀ e ∈ q, e.op.storesRefreshToken = false

section

variable {P : Platform} {config : AppConfig} {req : HttpRequest} {α β : Type} {past : List Event}

/-- A condition on calls that every call but the storing of a refresh token meets. -/
abbrev StoresNone : List Event → Call → Prop := fun _ o => o.storesRefreshToken = false

lemma storesNone_quiet : Quiet StoresNone := by
  intro q o ho
  cases o with
  | db s => cases s <;> first | rfl | cases ho
  | _ => rfl

/-- A program that stores no refresh token, and then one that stores one last. -/
lemma wp_then_last {p : Handler α} {f : α → Handler β} (hpast : NoneStored past)
    (hp : Prog.wp StoresNone (fun _ _ => True) past p)
    (hf : ∀ q a, NoneStored q → Prog.wp (fun q _ => NoneStored q) (fun _ _ => True) q (f a)) :
    Prog.wp (fun q _ => NoneStored q) (fun _ _ => True) past (p >>= f) := by
  rw [Prog.wp_bind]
  have hinv : ∀ q o (r : Ret o), NoneStored q → StoresNone q o → NoneStored (q ++ [⟨o, r⟩]) := by
    intro q o r hq ho e he
    rcases List.mem_append.mp he with he | he
    · exact hq e he
    · rw [List.mem_singleton.mp he]
      exact ho
  refine Prog.wp_mono (fun q x hx => ?_)
    (Prog.wp_mono_pre (fun q o h => h.1) (Prog.wp_invariant hinv hpast hp))
  cases x with
  | ok a => exact hf q a hx.1
  | error e => trivial

/-- A program that stores no refresh token. -/
lemma wp_none_last {p : Handler α} (hpast : NoneStored past)
    (hp : Prog.wp StoresNone (fun _ _ => True) past p) :
    Prog.wp (fun q _ => NoneStored q) (fun _ _ => True) past p := by
  have h := wp_then_last (f := fun a => (pure a : Handler α)) hpast hp fun q a _ => trivial
  rw [Prog.wp_bind] at h
  exact Prog.wp_mono (fun q x _ => trivial) h

/-- **The refresh token of a token set is stored last.** -/
lemma wp_issueTokenSet_last {input : TokenIssuanceInput} {openid withRefreshToken : Bool}
    (hpast : NoneStored past) :
    Prog.wp (fun q _ => NoneStored q) (fun _ _ => True) past
      (issueTokenSet P config input openid withRefreshToken) := by
  have hq := storesNone_quiet
  have hsign : ∀ q o, TokenSigned config input q o → StoresNone q o := by
    intro q o ho
    cases ho <;> rfl
  unfold issueTokenSet
  refine wp_then_last hpast ?_ fun q accessToken h1 => ?_
  · exact wp_issueAccessToken hq (fun _ _ _ => hsign _ _) (fun _ _ _ _ => rfl)
      (fun _ _ _ _ _ _ => trivial) (fun _ _ _ => trivial)
  refine wp_then_last h1 ?_ fun q idToken h2 => ?_
  · rw [wp_whenSome]
    exact ⟨fun _ => wp_issueIdToken hq (fun _ _ _ => hsign _ _) (fun _ _ _ => trivial),
      fun _ => trivial⟩
  rw [Prog.wp_bind, wp_whenSome]
  refine ⟨fun _ => Prog.wp_mono (fun q x _ => ?_)
    (?_ : Prog.wp _ (fun _ _ => True) q (issueRefreshToken P config input)), fun _ => trivial⟩
  · cases x <;> trivial
  unfold issueRefreshToken
  refine wp_then_last h2 (wp_now.mpr ⟨rfl, fun _ => trivial⟩) fun q t h3 => ?_
  refine wp_then_last h3 (wp_randomBytes.mpr ⟨rfl, fun _ => trivial⟩) fun q token h4 => ?_
  rw [Prog.wp_bind]
  exact (wp_db (q := .refreshTokensInsert (refreshTokenRecord P config token input t))).mpr
    ⟨h4, fun _ => trivial, fun _ => trivial⟩

/-- **The refresh token of a code exchange is stored by the last call of its request.** -/
lemma wp_handleToken_last (hg : str (req.body.get "grant_type") = some "authorization_code") :
    Prog.wp (fun q _ => NoneStored q) (fun _ _ => True) [] (handleToken P config req) := by
  have hq := storesNone_quiet
  have hcheck : ∀ {c : Prop} [Decidable c] {e : OAuthError} q,
      Prog.wp StoresNone (fun _ _ => True) q (throwIf c e) := fun q => by simp
  unfold handleToken rateLimited
  refine wp_then_last (by simp [NoneStored]) ⟨rfl, fun _ => trivial⟩ fun q ok h0 => ?_
  split_ifs
  · refine wp_then_last h0 (hcheck _) fun q _ h1 => ?_
    refine wp_then_last h1 (hcheck _) fun q _ h2 => ?_
    refine wp_then_last h2 ?_ fun q client h3 => ?_
    · refine wp_authenticateClient hq (fun q o _ ho => ?_) (fun _ _ _ _ => trivial)
        (fun _ _ _ => trivial)
      obtain ⟨_, _, _, _, _, _, _, rfl⟩ := ho
      rfl
    refine wp_then_last h3 (hcheck _) fun q _ h4 => ?_
    refine wp_then_last h4 ?_ fun q jkt h5 => ?_
    · refine wp_verifyDpopProof hq (fun q o _ ho => ?_) (fun _ _ _ _ => trivial)
        (fun _ _ _ => trivial)
      obtain ⟨_, _, _, _, _, rfl⟩ := ho
      rfl
    refine wp_then_last h5 ⟨rfl, fun _ => trivial⟩ fun q ready h6 => ?_
    refine wp_then_last h6 (wp_awaited.mpr ⟨fun _ _ => trivial, fun _ _ => trivial⟩)
      fun q _ h7 => ?_
    rw [Prog.wp_bind]
    refine Prog.wp_mono
      (fun q x _ => ?_) (?_ : Prog.wp _ (fun _ _ => True) q (handleGrant P config req client jkt))
    · cases x <;> trivial
    unfold handleGrant
    simp only [hg, if_true]
    unfold handleAuthorizationCode
    split
    · trivial
    · refine wp_then_last h7 ?_ fun q redeemed h8 => wp_issueTokenSet_last h8
      refine wp_redeemAuthorizationCode hq (fun _ _ _ => rfl) (fun q o _ ho => ?_)
        (fun _ _ _ _ _ => trivial) (fun _ _ _ => trivial)
      cases ho <;> rfl
  · trivial

/-- **A refresh token is stored by the last call of its request.** -/
lemma handler_stores_last (req : HttpRequest) :
    Prog.wp (fun q _ => NoneStored q) (fun _ _ => True) [] (handler P config req) := by
  by_cases hx : req.route = .token ∧ str (req.body.get "grant_type") = some "authorization_code"
  · obtain ⟨hr, hg⟩ := hx
    refine wp_respond (Prog.wp_mono (fun q x _ => ?_)
      (?_ : Prog.wp _ (fun _ _ => True) [] (dispatch P config req)))
    · cases x <;> trivial
    · simp only [dispatch, hr]
      split_ifs
      · exact wp_handleToken_last hg
      · trivial
  · refine wp_none_last (by simp [NoneStored]) (Prog.wp_mono (fun q x _ => trivial)
      (Prog.wp_mono_pre (fun q o ho => ?_) (handler_spec P config req)))
    by_contra hs
    obtain ⟨rec, rfl⟩ : ∃ rec, o = .db (.refreshTokensInsert rec) := by
      cases o with
      | db s => cases s <;> first | exact ⟨_, rfl⟩ | exact absurd rfl hs
      | _ => exact absurd rfl hs
    obtain ⟨_, _, _, _, ⟨ht, hg, -⟩, -⟩ := ho
    exact hx ⟨ht.route, hg⟩

end

/-! ## Where a redemption is one step -/

namespace ServerRun

variable {P : Platform} {config : AppConfig} {backend : Backend} (R : ServerRun P config backend)

/-- A used code stays as it is. -/
lemma used_code_stays {i j : ℕ} (hij : i ≤ j) (hj : j ≤ R.len) {codeHash : String} {row : CodeRow}
    (h : (R.store i).codes.get? codeHash = some row) (hu : row.consumedAt ≠ none) :
    (R.store j).codes.get? codeHash = some row := by
  obtain ⟨hid, m, hmi, hm⟩ := R.codes_origin (hij.trans hj) h
  refine R.stays (P := fun w => w.store.codes.get? codeHash = some row) hij h fun k hk hkj ih => ?_
  change (R.store (k + 1)).codes.get? codeHash = some row
  rcases R.codes_step (i := k) (by omega) codeHash with
    hs | ⟨rec, hc, hid', -⟩ | ⟨t, row', -, hrow', hfree, -⟩
  · exact hs.trans ih
  · have hmk := codes_insert_once hm hc (hid.trans hid'.symm)
    omega
  · exact absurd hfree (Option.some.inj (hrow'.symm.trans ih) ▸ hu)

variable {R} {i j pid pid' : ℕ} {p p' : Proc (server P config backend)} {codeHash : String}
  {t t' : ℕ} {rec rec' : AuthorizationCodeRecord}

/-- A redeemed code had not expired, and is used afterwards. -/
lemma redeemed_row (h : R.Does i pid p ⟨.db (.codesRedeem codeHash t), .ok (.ok rec)⟩) :
    rec.expiresAt.isPast t = false ∧
      (R.store (i + 1)).codes.get? codeHash = some ⟨rec, some t⟩ := by
  have hc := (R.carried h).eq_memory rfl
  simp only [Memory.exec, Memory.codesRedeem] at hc
  split at hc
  · cases (Prod.mk.inj hc).1
  · rename_i row hrow
    split_ifs at hc with hused hpast
    · cases (Prod.mk.inj hc).1
    · cases (Prod.mk.inj hc).1
    · obtain ⟨hr, hs⟩ := Prod.mk.inj hc
      obtain rfl : rec = row.record := by simpa using hr
      exact ⟨by simpa using hpast, by simp [hs]⟩

/-- **A code that has been redeemed is reported as used**, with its own record. -/
lemma redeem_after (hi : R.Does i pid p ⟨.db (.codesRedeem codeHash t), .ok (.ok rec)⟩)
    {result : CodeRedemption}
    (hj : R.Does j pid' p' ⟨.db (.codesRedeem codeHash t'), .ok result⟩) (hij : i < j) :
    result = .consumed rec := by
  have hrow := R.used_code_stays hij hj.lt.le (redeemed_row hi).2 (by simp)
  have hc := (R.carried hj).eq_memory rfl
  simp only [Memory.exec, Memory.codesRedeem, hrow, Option.isSome_some, if_true] at hc
  exact (Prod.mk.inj hc).1

/-- **A code is redeemed once.** -/
lemma redeem_once (hi : R.Does i pid p ⟨.db (.codesRedeem codeHash t), .ok (.ok rec)⟩)
    (hj : R.Does j pid' p' ⟨.db (.codesRedeem codeHash t'), .ok (.ok rec')⟩) : i = j := by
  rcases Nat.lt_trichotomy i j with h | h | h
  · cases redeem_after hi hj h
  · exact h
  · cases redeem_after hj hi h

/-- **A grant has one code.** -/
lemma codes_grant_once (hi : R.Calls i (.codesInsert rec)) (hj : R.Calls j (.codesInsert rec'))
    (h : rec.grantId = rec'.grantId) : rec = rec' := by
  obtain ⟨_, p, _, hd, _, _, _, _, _, q, t, g, code, _, hq, rfl⟩ := id hi.justified
  obtain ⟨_, p', _, hd', _, _, _, _, _, q', t', g', code', _, hq', rfl⟩ := id hj.justified
  obtain rfl : g = g' := h
  have hb := hq.trans (List.append_assoc q [⟨.now, t⟩] _).symm
  have hb' := hq'.trans (List.append_assoc q' [⟨.now, t'⟩] _).symm
  obtain rfl := R.once_after_draw hd hd' (.inl hb) (.inl hb') rfl rfl
  simpa using hi.functional hj

/-- The redemption that precedes the storing of a refresh token, by the same process: of the code
of its grant. -/
lemma refresh_redemption {r : RefreshTokenRecord} {a : Except Fault Unit}
    (h : R.Does i pid p ⟨.db (.refreshTokensInsert r), a⟩) :
    ∃ codeHash t rec k q m, R.Does k pid q ⟨.db (.codesRedeem codeHash t), .ok (.ok rec)⟩ ∧
      q.past ++ [⟨.db (.codesRedeem codeHash t), .ok (.ok rec)⟩] <+: p.past ∧
      r.grantId = rec.grantId ∧ rec.codeHash = codeHash ∧ R.Calls m (.codesInsert rec) := by
  obtain ⟨client, jkt, record, grant, hx, hs⟩ := R.justified h
  obtain ⟨-, -, code, -, ⟨t, ht⟩, -, hg, -⟩ := hx
  obtain ⟨_, _, _, -, rfl⟩ := hs
  obtain ⟨k, hk, q, hd, -, hpre⟩ := R.did h.lt.le h.proc ht
  obtain ⟨row, hrow, rfl, -⟩ := (R.carried hd).codesRedeem
  obtain ⟨hid, m, -, hm⟩ := R.codes_origin hd.lt.le hrow
  have hgrant := (R.grant_found (Nat.le_refl i) h.lt.le h.proc hg).1
  exact ⟨_, t, row.record, k, q, m, hd, hpre, hgrant, hid, hm⟩

/-- **A grant has one refresh token**: two calls that store refresh tokens of one grant are the
same.

**Proof sketch.** Each is preceded by the redemption of the code of its grant, made by the same
process. There is one such redemption, so it is the same process; and that makes no call after it
has stored a refresh token. -/
lemma refresh_once {r r' : RefreshTokenRecord} {a a' : Except Fault Unit}
    (hi : R.Does i pid p ⟨.db (.refreshTokensInsert r), a⟩)
    (hj : R.Does j pid' p' ⟨.db (.refreshTokensInsert r'), a'⟩) (h : r.grantId = r'.grantId) :
    i = j := by
  obtain ⟨c, t, rec, k, q, m, hd, -, hg, rfl, hm⟩ := refresh_redemption hi
  obtain ⟨c', t', rec', k', q', m', hd', -, hg', rfl, hm'⟩ := refresh_redemption hj
  obtain rfl := codes_grant_once hm hm' (hg.symm.trans (h.trans hg'))
  obtain rfl := redeem_once hd hd'
  obtain ⟨rfl, -, -⟩ := hd.functional hd'
  -- Neither call comes after the other in the same process.
  have key : ∀ {i j : ℕ} {p p' : Proc (server P config backend)} {r r' : RefreshTokenRecord}
      {a a' : Except Fault Unit}, R.Does i pid p ⟨.db (.refreshTokensInsert r), a⟩ →
      R.Does j pid p' ⟨.db (.refreshTokensInsert r'), a'⟩ → ¬i < j := by
    intro i j p p' r r' a a' hi hj hlt
    obtain ⟨k, -, hk⟩ := hi.todo
    obtain ⟨p'', hp'', -, hpre⟩ := R.proc_mono hlt hj.lt.le hk
    obtain rfl := Option.some.inj (hp''.symm.trans hj.proc)
    have hnone := hj.meets fun req => handler_stores_last req
    exact absurd (hnone _ (hpre.mem (mem_past_last _ _))) (by simp [Call.storesRefreshToken])
  rcases Nat.lt_trichotomy i j with hij | hij | hij
  · exact absurd hij (key hi hj)
  · exact hij
  · exact absurd hij (key hj hi)

end ServerRun

/-! ## Over the statements -/

/-- The runs of the server over the statements of an adapter. -/
abbrev StatementRun (P : Platform) (config : AppConfig) (backend : Backend) : Type :=
  Run (statementServer P config backend)

variable {P : Platform} {config : AppConfig} {backend : Backend}

/-- The statement of a redemption that finds an unused code. -/
def redeemingStatement (backend : Backend) (codeHash : String) (t : ℕ)
    (rec : AuthorizationCodeRecord) : Async.Event Statement.Res :=
  match backend with
  | .memory => ⟨.call (.db (.codesRedeem codeHash t)), .ok (.ok rec)⟩
  | .pg => ⟨.redeemUpdate codeHash t, .ok (some rec)⟩

/-- A redemption that finds an unused code takes one statement. -/
lemma path_redeemed {codeHash : String} {t : ℕ} {rec : AuthorizationCodeRecord}
    {bs : List (Async.Event Statement.Res)}
    (h : Prog.Path (statements backend (.db (.codesRedeem codeHash t))) bs (.ret (.ok (.ok rec)))) :
    bs = [redeemingStatement backend codeHash t rec] := by
  cases backend with
  | memory =>
    cases h with
    | step _ _ r _ _ h =>
      cases h
      rfl
  | pg =>
    cases h with
    | step _ _ r _ _ h =>
      rcases r with e | _ | record
      · cases h
      · cases h with
        | step _ _ r _ _ h =>
          rcases r with e | _ | record
          · cases h
          · cases h
          · cases h
      · cases h
        rfl

/-- The first statements of a program that reads the clock and redeems a code. -/
lemma lin_redeemed {p p' : Handler (AuthorizationCodeRecord × GrantRecord)} {codeHash : String}
    {t t' : ℕ} {rec : AuthorizationCodeRecord} {es' : List (Async.Event Statement.Res)}
    {es : List Event}
    (h : Lin (statements backend) p es'
      (⟨.now, t⟩ :: ⟨.db (.codesRedeem codeHash t'), .ok (.ok rec)⟩ :: es) p') :
    ∃ e xs, es' = e :: redeemingStatement backend codeHash t' rec :: xs := by
  obtain ⟨fs, gs, q, rfl, hfs, h⟩ := h.cons_inv
  obtain ⟨xs, ys, q', rfl, hxs, -⟩ := h.cons_inv
  rw [path_redeemed hxs]
  cases hfs with
  | step _ _ r _ _ hfs =>
    cases hfs
    exact ⟨_, ys, rfl⟩

/-- **A successful redemption reads the clock and then finds an unused code.** -/
lemma wp_redeem_success {code clientId dpopJkt : String}
    {redirectUri codeVerifier : Option String} :
    Prog.wp (fun _ _ => True) (fun q x => ∀ v, x = .ok v → ∃ t rec,
        [⟨.now, t⟩, ⟨.db (.codesRedeem (P.sha256Base64Url code) t), .ok (.ok rec)⟩] <+: q)
      [] (redeemAuthorizationCode P code clientId redirectUri codeVerifier dpopJkt) := by
  unfold redeemAuthorizationCode
  rw [Prog.wp_bind, wp_now]
  refine ⟨trivial, fun t => ?_⟩
  simp only [Prog.Next]
  rw [Prog.wp_bind, wp_db]
  refine ⟨trivial, fun result => ?_, fun e => by simp [Prog.Next]⟩
  cases result with
  | invalid => simp [Prog.Next]
  | consumed record =>
    simp only [Prog.Next]
    rw [Prog.wp_bind]
    refine (wp_db (q := .grantsRevoke record.grantId t)).mpr ⟨trivial, fun _ => ?_, fun e => ?_⟩
    · simp only [Prog.Next]
      rw [Prog.wp_bind]
      refine (wp_db (q := .accessTokensRevokeByGrant record.grantId t)).mpr
        ⟨trivial, fun _ => ?_, fun e => ?_⟩
      · simp only [Prog.Next]
        rw [Prog.wp_bind]
        refine (wp_db (q := .refreshTokensRevokeByGrant record.grantId t)).mpr
          ⟨trivial, fun _ => ?_, fun e => ?_⟩
        · simp [Prog.Next]
        · simp [Prog.Next]
      · simp [Prog.Next]
    · simp [Prog.Next]
  | ok record =>
    refine Prog.wp_mono (fun q x hx v _ => ⟨t, record, hx.1⟩)
      (Prog.wp_extends (Prog.wp_of_forall (fun _ _ => trivial) (fun _ _ => trivial) :
        Prog.wp (fun _ _ => True) (fun _ _ => True) _ _))

namespace StatementRun

variable (R : StatementRun P config backend)

/-- After the statements `before`, the process `pid` has made those of a `redeemAuthorizationCode`
for a code of the hash, and it succeeded. -/
def Redeems (pid : ℕ) (before : List (Async.Event Statement.Res)) (codeHash : String) : Prop :=
  ∃ i p es after code clientId redirectUri codeVerifier dpopJkt v, i ≤ R.len ∧
    R.proc i pid = some p ∧ p.past = before ++ es ++ after ∧ P.sha256Base64Url code = codeHash ∧
    Prog.Path ((redeemAuthorizationCode P code clientId redirectUri codeVerifier dpopJkt).expand
      (statements backend)) es (.ret v)

/-- **A code is used once.** -/
structure SingleUse : Prop where
  /-- At most one redemption of a code returns `ok`. -/
  once : ∀ codeHash i j pid t rec i' j' pid' t' rec',
    R.Performs i j pid (.db (.codesRedeem codeHash t)) (.ok (.ok rec)) →
    R.Performs i' j' pid' (.db (.codesRedeem codeHash t')) (.ok (.ok rec')) →
    i = i' ∧ j = j' ∧ pid = pid'
  /-- At most one `redeemAuthorizationCode` for a code succeeds. -/
  succeeds : ∀ codeHash pid before pid' before', R.Redeems pid before codeHash →
    R.Redeems pid' before' codeHash → pid = pid' ∧ before.length = before'.length
  /-- At most one refresh token is ever stored for a grant. -/
  stored : ∀ i j tokenHash tokenHash' rec rec', i ≤ R.len → j ≤ R.len →
    (R.world i).store.refreshTokens.get? tokenHash = some rec →
    (R.world j).store.refreshTokens.get? tokenHash' = some rec' → rec.grantId = rec'.grantId →
    tokenHash = tokenHash'
  /-- A redemption that starts after one has returned `ok` reports the code as used, with its
  record, whatever the clock says; only a failing statement rejects it. -/
  replayed : ∀ codeHash i j pid t rec i' j' pid' t' result,
    R.Performs i j pid (.db (.codesRedeem codeHash t)) (.ok (.ok rec)) → j < i' →
    R.Performs i' j' pid' (.db (.codesRedeem codeHash t')) result →
    result = .ok (.consumed rec) ∨ backend = .pg ∧ result = .error .rejected
  /-- A redemption whose clock reading is at or past the expiry of the code does not return `ok`. -/
  unexpired : ∀ codeHash i j pid t rec,
    R.Performs i j pid (.db (.codesRedeem codeHash t)) (.ok (.ok rec)) →
    rec.expiresAt.isPast t = false

variable {R} {i j pid i' j' pid' : ℕ} {codeHash : String} {t t' : ℕ}
  {rec rec' : AuthorizationCodeRecord}

/-- A redemption that returns `ok` is made at one step. -/
lemma redeemed_single (h : R.Performs i j pid (.db (.codesRedeem codeHash t)) (.ok (.ok rec))) :
    i = j := by
  obtain ⟨req, as, bs, es, k, h⟩ := h
  exact h.single (by simp [path_redeemed h.path])

/-- At most one redemption returns `ok`. -/
lemma redeem_once (h : R.Performs i j pid (.db (.codesRedeem codeHash t)) (.ok (.ok rec)))
    (h' : R.Performs i' j' pid' (.db (.codesRedeem codeHash t')) (.ok (.ok rec'))) :
    i = i' ∧ j = j' ∧ pid = pid' := by
  obtain rfl := redeemed_single h
  obtain rfl := redeemed_single h'
  obtain ⟨R', f, hl⟩ := redeemLinearization.exists_run R
  obtain ⟨m, p, hm, hm', hd⟩ := h.takes_effect hl
  obtain ⟨n, q, hn, hn', hd'⟩ := h'.takes_effect hl
  obtain rfl := ServerRun.redeem_once hd hd'
  obtain ⟨rfl, -⟩ := hd.functional hd'
  have hlen : i < R.len ∧ i' < R.len := by
    obtain ⟨_, _, _, _, _, h⟩ := h
    obtain ⟨_, _, _, _, _, h'⟩ := h'
    exact ⟨h.starts.choose_spec.lt, h'.starts.choose_spec.lt⟩
  -- The point at which it takes effect lies in one step only.
  rcases Nat.lt_trichotomy i i' with hlt | heq | hlt
  · have := hl.mono (i + 1) i' hlt hlen.2.le
    omega
  · exact ⟨heq, heq, rfl⟩
  · have := hl.mono (i' + 1) i hlt hlen.1.le
    omega

/-- The statement that finds an unused code is a redemption that returns `ok`. -/
lemma performs_of_statement {p : Proc (statementServer P config backend)}
    (h : R.Does i pid p (redeemingStatement backend codeHash t rec)) :
    R.Performs i i pid (.db (.codesRedeem codeHash t)) (.ok (.ok rec)) := by
  obtain ⟨as, bs, es, o, k, l, hpast, hlin, hm⟩ := h.within redeemLinearization
  cases backend with
  | memory =>
    rcases statements_cases .memory o with hs | ⟨_, _, hb, -⟩
    · rw [hs] at hm
      obtain ⟨rfl, hcall⟩ := path_single (fun r => ⟨r, rfl⟩) hm
      cases hcall
      rw [List.append_nil] at hpast
      subst hpast
      exact h.performs hlin (.step _ _ _ [] _ (.done _))
    · cases hb
  | pg =>
    rcases statements_cases .pg o with hs | ⟨codeHash', t', -, rfl⟩
    · rw [hs] at hm
      obtain ⟨-, hcall⟩ := path_single (fun r => ⟨r, rfl⟩) hm
      cases hcall
    · rcases path_redeem hm with ⟨rfl, hcall⟩ | hcall
      · cases hcall
        rw [List.append_nil] at hpast
        subst hpast
        exact h.performs hlin (.step _ _ _ [] _ (.done _))
      · cases hcall

/-- A `redeemAuthorizationCode` that succeeds redeems its code with its second statement. -/
lemma Redeems.redeemed {before : List (Async.Event Statement.Res)}
    (h : R.Redeems pid before codeHash) :
    ∃ i p t rec, R.Does i pid p (redeemingStatement backend codeHash t rec) ∧
      p.past.length = before.length + 1 := by
  obtain ⟨i, p, es', after, code, _, _, _, _, v, hi, hp, hpast, rfl, hpath⟩ := h
  obtain ⟨es, hlin⟩ := Lin.of_path hpath
  have hpost : Prog.wp _ _ ([] ++ es) _ := hlin.path.wp wp_redeem_success
  obtain ⟨t, rec, ⟨rest, rfl⟩⟩ := hpost v rfl
  obtain ⟨e, xs, rfl⟩ := lin_redeemed hlin
  have hsplit : p.past = (before ++ [e]) ++
      redeemingStatement backend (P.sha256Base64Url code) t rec :: (xs ++ after) := by
    rw [hpast]
    simp
  obtain ⟨j, -, q, hd, -, hq⟩ := R.did_at hi hp hsplit
  exact ⟨j, q, t, rec, hd, by simp [hq]⟩

/-- **A code is used once**, on either adapter and in any order of the statements.

**Proof sketch.** Every redemption takes effect at one point between its first and its last
statement. The points of two redemptions are steps of a run in which each is one step; there only
one returns `ok`, and those after it report the code as used. -/
theorem singleUse (R : StatementRun P config backend) : R.SingleUse where
  once codeHash i j pid t rec i' j' pid' t' rec' := redeem_once
  succeeds codeHash pid before pid' before' h h' := by
    obtain ⟨i, p, t, rec, hd, hlen⟩ := h.redeemed
    obtain ⟨i', p', t', rec', hd', hlen'⟩ := h'.redeemed
    obtain ⟨rfl, -, rfl⟩ := redeem_once (performs_of_statement hd) (performs_of_statement hd')
    obtain ⟨-, rfl, -⟩ := hd.functional hd'
    exact ⟨rfl, by omega⟩
  stored i j tokenHash tokenHash' rec rec' hi hj h h' hg := by
    obtain ⟨R', f, hl⟩ := redeemLinearization.exists_run R
    rw [← hl.world_eq hi] at h
    rw [← hl.world_eq hj] at h'
    obtain ⟨hk, m, -, hm⟩ := ServerRun.refreshTokens_origin R' (hl.le_len i hi) h
    obtain ⟨hk', m', -, hm'⟩ := ServerRun.refreshTokens_origin R' (hl.le_len j hj) h'
    obtain ⟨_, _, _, hd⟩ := id hm
    obtain ⟨_, _, _, hd'⟩ := id hm'
    obtain rfl := ServerRun.refresh_once hd hd' hg
    have hfresh : rec.fresh = rec'.fresh := by simpa using hm.functional hm'
    have hsame : rec.fresh.tokenHash = rec'.fresh.tokenHash := by rw [hfresh]
    rw [← hk, ← hk']
    exact hsame
  replayed codeHash i j pid t rec i' j' pid' t' result h hlt h' := by
    obtain ⟨R', f, hl⟩ := redeemLinearization.exists_run R
    obtain ⟨m, p, -, hm', hd⟩ := h.takes_effect hl
    obtain ⟨n, q, hn, -, hd'⟩ := h'.takes_effect hl
    have hmn : m < n := by
      have hi' : i' ≤ R.len := by
        obtain ⟨_, _, _, _, _, h'⟩ := h'
        exact h'.starts.choose_spec.lt.le
      have := hl.mono (j + 1) i' hlt hi'
      omega
    cases result with
    | ok result => exact .inl (congrArg Except.ok (ServerRun.redeem_after hd hd' hmn))
    | error e =>
      cases backend with
      | memory =>
        obtain ⟨x, -, hx⟩ := hd'.exec
        simp [exec, Backend.exec] at hx
      | pg => exact .inr ⟨rfl, by cases e; rfl⟩
  unexpired codeHash i j pid t rec h := by
    obtain ⟨R', f, hl⟩ := redeemLinearization.exists_run R
    obtain ⟨m, p, -, -, hd⟩ := h.takes_effect hl
    exact (ServerRun.redeemed_row hd).1

end StatementRun

end Fapi2As
