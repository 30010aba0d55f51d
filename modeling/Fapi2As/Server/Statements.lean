import Fapi2As.Async.Linearize
import Fapi2As.Server.Runs

set_option relaxedAutoImplicit false
set_option autoImplicit false

/-!
# The statements of a redemption

On the PostgreSQL adapter `codes.redeem` is not one statement but two: an `UPDATE … RETURNING` that
redeems an unused, unexpired code, and, when it hits no row, a `SELECT` that looks for a used one.
The statements of other requests may run in between. The system of this module takes the two apart;
it is linearizable, so it behaves as the one in which a redemption is one step.

A redemption that reports a code as invalid may have to take effect at its `UPDATE`: the code may
be stored between the two statements.

## Main definitions

* `Fapi2As.Pg.redeem` — the program of the two statements.
* `Fapi2As.statementServer` — the server over the statements of an adapter.

## Main results

* `Fapi2As.redeemLinearization` — where a redemption takes effect.
-/

namespace Fapi2As

open Js Async

/-- The calls of the server, with the redemption of the PostgreSQL adapter taken apart. -/
inductive Statement
  | call (o : Call)
  /-- `update authorization_codes … where code_hash = $1 and consumed_at is null and
  expires_at > $2 returning *`. -/
  | redeemUpdate (codeHash : String) (now : ℕ)
  /-- `select * from authorization_codes where code_hash = $1 and consumed_at is not null`. -/
  | redeemSelect (codeHash : String)

/-- The answers of the statements: the row that was hit, if there was one. -/
@[reducible] def Statement.Res : Statement → Type
  | call o => Ret o
  | redeemUpdate _ _ | redeemSelect _ => Except Fault (Option AuthorizationCodeRecord)

namespace Pg

/-- The `SELECT` of `PgAuthorizationCodes.redeem` and what it reports. -/
def reportUsed (codeHash : String) : Prog Statement.Res Exn (Except Fault CodeRedemption) :=
  .call (.redeemSelect codeHash) fun found => .ret <| found.map fun row =>
    match row with
    | some record => .consumed record
    | none => .invalid

/-- `PgAuthorizationCodes.redeem`. -/
def redeem (codeHash : String) (now : ℕ) :
    Prog Statement.Res Exn (Except Fault CodeRedemption) :=
  .call (.redeemUpdate codeHash now) fun updated =>
    match updated with
    | .ok (some record) => .ret (.ok (.ok record))
    | .ok none => reportUsed codeHash
    | .error e => .ret (.error e)

end Pg

/-- The statements of a call on an adapter. -/
def statements (backend : Backend) : (o : Call) → Prog Statement.Res Exn (Ret o)
  | .db (.codesRedeem codeHash now) =>
    match backend with
    | .memory => Prog.perform (Statement.call (.db (.codesRedeem codeHash now)))
    | .pg => Pg.redeem codeHash now
  | o => Prog.perform (Statement.call o)

variable (P : Platform) (config : AppConfig) (backend : Backend)

/-- The effect of a statement. A statement whose text parameter has the character U+0000 is
refused. -/
def execStatement : (o : Statement) → Oracle → World → Option (Statement.Res o × World)
  | .call o, x, w => exec P config backend o x w
  | .redeemUpdate codeHash now, x, w =>
    if Pg.refuses w.store (.codesRedeem codeHash now) ∨ x.db.fails then
      some (.error .rejected, w)
    else
      let (row, s) := Pg.redeemUpdate w.store codeHash now
      some (.ok row, { w with store := s })
  | .redeemSelect codeHash, x, w =>
    if codeHash.toList.contains '\x00' ∨ x.db.fails then some (.error .rejected, w)
    else some (.ok (Pg.redeemSelect w.store codeHash), w)

/-- The server over the statements of an adapter. -/
@[reducible] def statementServer : Sys Statement.Res Exn Reply :=
  (server P config backend).expanded (statements backend) (execStatement P config backend)

/-! ## The statements are those of one redemption -/

/-- The code of a hash is unused, or there is none. -/
def Unused (s : Store) (codeHash : String) : Prop :=
  ∀ row, s.codes.get? codeHash = some row → row.consumedAt = none

variable {P config backend}

/-- A redemption whose `UPDATE` is carried out, when it hits a row. -/
lemma Pg.redeemUpdate_some {s s' : Store} {codeHash : String} {now : ℕ}
    {record : AuthorizationCodeRecord}
    (h : Pg.redeemUpdate s codeHash now = (some record, s')) :
    Memory.codesRedeem s codeHash now = (.ok record, s') := by
  cases hrow : s.codes.get? codeHash with
  | none => simp [Pg.redeemUpdate_eq, hrow] at h
  | some row =>
    simp only [Pg.redeemUpdate_eq, hrow] at h
    split_ifs at h with hc
    · obtain ⟨h1, rfl⟩ := Prod.mk.inj h
      obtain rfl := Option.some.inj h1
      have hc1 : row.consumedAt = none := by simpa using hc.1
      simp [Memory.codesRedeem, hrow, hc1, hc.2]
    · cases (Prod.mk.inj h).1

/-- A redemption whose `UPDATE` hits no row reports an unused code as invalid. -/
lemma Pg.redeemUpdate_none {s s' : Store} {codeHash : String} {now : ℕ}
    (h : Pg.redeemUpdate s codeHash now = (none, s')) :
    s' = s ∧ (Unused s codeHash → Memory.codesRedeem s codeHash now = (.invalid, s)) := by
  cases hrow : s.codes.get? codeHash with
  | none =>
    simp only [Pg.redeemUpdate_eq, hrow] at h
    obtain ⟨-, rfl⟩ := Prod.mk.inj h
    exact ⟨rfl, fun _ => by simp [Memory.codesRedeem, hrow]⟩
  | some row =>
    simp only [Pg.redeemUpdate_eq, hrow] at h
    split_ifs at h with hc
    · simp at h
    · obtain ⟨-, rfl⟩ := Prod.mk.inj h
      refine ⟨rfl, fun hu => ?_⟩
      have hnone : row.consumedAt = none := hu row hrow
      have hpast : row.record.expiresAt.isPast now = true := by simpa [hnone] using hc
      simp [Memory.codesRedeem, hrow, hnone, hpast]

/-- The `SELECT` hits a used code. -/
lemma Pg.redeemSelect_some {s : Store} {codeHash : String} {record : AuthorizationCodeRecord}
    (h : Pg.redeemSelect s codeHash = some record) (now : ℕ) :
    Memory.codesRedeem s codeHash now = (.consumed record, s) := by
  cases hrow : s.codes.get? codeHash with
  | none => simp [Pg.redeemSelect_eq, hrow] at h
  | some row =>
    simp only [Pg.redeemSelect_eq, hrow] at h
    split_ifs at h with hc
    obtain rfl := Option.some.inj h
    simp [Memory.codesRedeem, hrow, hc]

/-- The `SELECT` hits no unused code. -/
lemma Pg.redeemSelect_none {s : Store} {codeHash : String}
    (h : Pg.redeemSelect s codeHash = none) : Unused s codeHash := by
  intro row hrow
  simp only [Pg.redeemSelect_eq, hrow] at h
  split_ifs at h with hc
  simpa using hc

/-- A redemption is refused for its text parameter only. -/
lemma Pg.refuses_codesRedeem (s : Store) (codeHash : String) (now : ℕ) :
    Pg.refuses s (.codesRedeem codeHash now) = codeHash.toList.contains '\x00' := by
  simp [Pg.refuses, Pg.texts, Pg.uuids, Pg.dates, Pg.referenced, Pg.duplicate]

/-- A redemption of the PostgreSQL adapter as one step. -/
lemma exec_redeem {w : World} {x : Oracle} {codeHash : String} {now : ℕ} :
    exec P config .pg (.db (.codesRedeem codeHash now)) x w =
      if codeHash.toList.contains '\x00' ∨ x.db.fails then some (.error .rejected, w)
      else some (.ok (Memory.codesRedeem w.store codeHash now).1,
        { w with store := (Memory.codesRedeem w.store codeHash now).2 }) := by
  have hq : (Query.codesRedeem codeHash now).reaps = false := rfl
  simp only [exec, Backend.exec, Pg.refuses_codesRedeem, Pg.exec_eq_memory w.store x.db hq]
  split_ifs with h
  · rfl
  · rfl

/-- A code that is unused after a call was unused before it, unless the call inserts it anew. -/
lemma Effect.unused_before {s s' : Store} {q : Query} (h : Effect s q s') {codeHash : String}
    (hq : ∀ rec, q = .codesInsert rec → rec.codeHash = codeHash → s.codes.get? codeHash = none)
    (hu : Unused s' codeHash) : Unused s codeHash := by
  intro row hrow
  rcases h.codes codeHash with hs | ⟨rec, hins, hid, -⟩ | ⟨t, row', -, hrow', hfree, -⟩
  · exact hu row (hs.trans hrow)
  · rw [hq rec hins hid] at hrow
    cases hrow
  · rw [Option.some.inj (hrow.symm.trans hrow')]
    exact hfree

/-- On the PostgreSQL adapter a code that is unused after a statement was unused before it: a code
that exists is not inserted again. -/
lemma unused_before_statement {o : Statement} {x : Oracle} {w w' : World} {r : o.Res}
    (h : execStatement P config .pg o x w = some (r, w')) {codeHash : String}
    (hu : Unused w'.store codeHash) : Unused w.store codeHash := by
  cases o with
  | call o =>
    have h : exec P config .pg o x w = some (r, w') := h
    by_cases ho : ∃ q, o = .db q
    · obtain ⟨q, rfl⟩ := ho
      have hb := exec_db h
      rcases Backend.exec_cases hb with ⟨a, hc, ha⟩ | ⟨hs, -⟩
      · refine hc.effect.unused_before (fun rec hins hid => ?_) hu
        by_contra hsome
        subst hins
        have hdup : Pg.duplicate w.store (.codesInsert rec) = true := by
          simpa [Pg.duplicate, hid, Option.isSome_iff_ne_none] using hsome
        simp [Backend.exec, Pg.refuses, hdup, ha] at hb
      · rwa [hs] at hu
    · rwa [exec_store h fun q hq => ho ⟨q, hq⟩] at hu
  | redeemUpdate codeHash' now =>
    simp only [execStatement] at h
    split_ifs at h with hrefused
    · obtain ⟨-, rfl⟩ := Prod.mk.inj (Option.some.inj h)
      exact hu
    · rcases hup : Pg.redeemUpdate w.store codeHash' now with ⟨row, s⟩
      rw [hup] at h
      obtain ⟨-, rfl⟩ := Prod.mk.inj (Option.some.inj h)
      cases row with
      | none => rwa [(Pg.redeemUpdate_none hup).1] at hu
      | some record =>
        have hc : Carried w.store (.codesRedeem codeHash' now) (.ok record) s :=
          .inl (Pg.redeemUpdate_some hup).symm
        exact hc.effect.unused_before (by simp) hu
  | redeemSelect codeHash' =>
    simp only [execStatement] at h
    split_ifs at h
    all_goals
      obtain ⟨-, rfl⟩ := Prod.mk.inj (Option.some.inj h)
      exact hu

/-! ## Where a redemption takes effect -/

/-- A redemption may have taken effect at its `UPDATE`, as that of an invalid code, while its
`SELECT` is pending and the code is unused. -/
def RedeemedEarly (backend : Backend) (w : World) :
    (o : Call) → Prog Statement.Res Exn (Ret o) → Ret o → Prop
  | .db (.codesRedeem codeHash _), m, r =>
    backend = .pg ∧ m = Pg.reportUsed codeHash ∧ r = .ok .invalid ∧ Unused w.store codeHash
  | _, _, _ => False

variable (backend) in
/-- Every call is one statement, but for a redemption of the PostgreSQL adapter. -/
lemma statements_cases (o : Call) :
    statements backend o = .call (.call o) .ret ∨
      ∃ codeHash t, backend = .pg ∧ o = .db (.codesRedeem codeHash t) := by
  cases o with
  | db q =>
    cases q with
    | codesRedeem codeHash t =>
      cases backend with
      | memory => exact .inl rfl
      | pg => exact .inr ⟨codeHash, t, rfl, rfl⟩
    | _ => exact .inl rfl
  | _ => exact .inl rfl

/-- Only a redemption takes effect early. -/
lemma RedeemedEarly.cases_redeem {w : World} {o : Call} {m : Prog Statement.Res Exn (Ret o)}
    {r : Ret o} (h : RedeemedEarly backend w o m r) :
    ∃ codeHash t, o = .db (.codesRedeem codeHash t) := by
  cases o with
  | db q =>
    cases q with
    | codesRedeem codeHash t => exact ⟨codeHash, t, rfl⟩
    | _ => cases h
  | _ => cases h

/-- What takes effect early depends on the codes only. -/
lemma RedeemedEarly.of_unused {w w' : World} {o : Call} {m : Prog Statement.Res Exn (Ret o)}
    {r : Ret o} (h : RedeemedEarly backend w' o m r)
    (hu : ∀ codeHash, backend = .pg → Unused w'.store codeHash → Unused w.store codeHash) :
    RedeemedEarly backend w o m r := by
  obtain ⟨codeHash, t, rfl⟩ := h.cases_redeem
  obtain ⟨hb, hm, hr, hu'⟩ := h
  exact ⟨hb, hm, hr, hu codeHash hb hu'⟩

/-- The calls of a program that makes one call. -/
lemma path_single {o : Statement} {β : Type} {k : o.Res → Prog Statement.Res Exn β}
    (hk : ∀ r, ∃ b, k r = .ret b) {es : List (Async.Event Statement.Res)} {o' : Statement}
    {k' : o'.Res → Prog Statement.Res Exn β}
    (h : Prog.Path (.call o k) es (.call o' k')) : es = [] ∧ Prog.call o' k' = .call o k := by
  cases h with
  | done => exact ⟨rfl, rfl⟩
  | step _ _ r _ _ h =>
    obtain ⟨b, hb⟩ := hk r
    rw [hb] at h
    cases h

/-- The pending statement of a redemption is its `UPDATE` or its `SELECT`. -/
lemma path_redeem {codeHash : String} {now : ℕ} {es : List (Async.Event Statement.Res)}
    {o' : Statement} {k' : o'.Res → Prog Statement.Res Exn (Except Fault CodeRedemption)}
    (h : Prog.Path (Pg.redeem codeHash now) es (.call o' k')) :
    (es = [] ∧ Prog.call o' k' = Pg.redeem codeHash now) ∨
      Prog.call o' k' = Pg.reportUsed codeHash := by
  cases h with
  | done => exact .inl ⟨rfl, rfl⟩
  | step _ _ r _ _ h =>
    rcases r with e | _ | record
    · cases h
    · exact .inr (path_single (fun r => ⟨_, rfl⟩) h).2
    · cases h

/-- The last statement of a redemption has its effect, unless it took effect early. -/
lemma redeem_finish {codeHash : String} {now : ℕ} {es : List (Async.Event Statement.Res)}
    {o' : Statement} {k' : o'.Res → Prog Statement.Res Exn (Except Fault CodeRedemption)}
    {r' : o'.Res} {r : Except Fault CodeRedemption} {x : Oracle} {w w' : World}
    (h : Prog.Path (Pg.redeem codeHash now) es (.call o' k'))
    (hx : execStatement P config .pg o' x w = some (r', w')) (hr : k' r' = .ret r) :
    (∃ y, exec P config .pg (.db (.codesRedeem codeHash now)) y w = some (r, w')) ∨
      w' = w ∧ RedeemedEarly .pg w (.db (.codesRedeem codeHash now)) (.call o' k') r := by
  rcases path_redeem h with ⟨-, hcall⟩ | hcall
  · cases hcall
    left
    refine ⟨x, ?_⟩
    rw [exec_redeem]
    simp only [execStatement, Pg.refuses_codesRedeem] at hx
    split_ifs at hx with hrefused
    · obtain ⟨rfl, rfl⟩ := Prod.mk.inj (Option.some.inj hx)
      rw [if_pos hrefused]
      obtain rfl := Prog.ret.inj hr
      rfl
    · rw [if_neg hrefused]
      rcases hup : Pg.redeemUpdate w.store codeHash now with ⟨row, s⟩
      rw [hup] at hx
      obtain ⟨rfl, rfl⟩ := Prod.mk.inj (Option.some.inj hx)
      cases row with
      | none => cases hr
      | some record =>
        obtain rfl := Prog.ret.inj hr
        rw [Pg.redeemUpdate_some hup]
  · cases hcall
    simp only [execStatement] at hx
    split_ifs at hx with hrefused
    · obtain ⟨rfl, rfl⟩ := Prod.mk.inj (Option.some.inj hx)
      obtain rfl := Prog.ret.inj hr
      exact .inl ⟨x, by rw [exec_redeem, if_pos hrefused]; rfl⟩
    · obtain ⟨rfl, rfl⟩ := Prod.mk.inj (Option.some.inj hx)
      cases hsel : Pg.redeemSelect w.store codeHash with
      | none =>
        rw [hsel] at hr
        obtain rfl := Prog.ret.inj hr
        exact .inr ⟨rfl, rfl, rfl, rfl, Pg.redeemSelect_none hsel⟩
      | some record =>
        rw [hsel] at hr
        obtain rfl := Prog.ret.inj hr
        refine .inl ⟨x, ?_⟩
        rw [exec_redeem, if_neg hrefused, Pg.redeemSelect_some hsel]
        rfl

/-- An `UPDATE` that hits no row has no effect, and the redemption of an unused code may take effect
at it. -/
lemma redeem_inside {codeHash : String} {now : ℕ} {es : List (Async.Event Statement.Res)}
    {o' : Statement} {k' : o'.Res → Prog Statement.Res Exn (Except Fault CodeRedemption)}
    {r' : o'.Res} {x : Oracle} {w w' : World}
    (h : Prog.Path (Pg.redeem codeHash now) es (.call o' k'))
    (hx : execStatement P config .pg o' x w = some (r', w')) (hr : ∀ r, k' r' ≠ .ret r) :
    w' = w ∧ ∀ r, RedeemedEarly .pg w (.db (.codesRedeem codeHash now)) (k' r') r →
      RedeemedEarly .pg w (.db (.codesRedeem codeHash now)) (.call o' k') r ∨
        ∃ y, exec P config .pg (.db (.codesRedeem codeHash now)) y w = some (r, w) := by
  rcases path_redeem h with ⟨-, hcall⟩ | hcall
  · cases hcall
    simp only [execStatement, Pg.refuses_codesRedeem] at hx
    split_ifs at hx with hrefused
    · obtain ⟨rfl, -⟩ := Prod.mk.inj (Option.some.inj hx)
      exact absurd rfl (hr _)
    · rcases hup : Pg.redeemUpdate w.store codeHash now with ⟨row, s⟩
      rw [hup] at hx
      obtain ⟨rfl, rfl⟩ := Prod.mk.inj (Option.some.inj hx)
      cases row with
      | some record => exact absurd rfl (hr _)
      | none =>
        obtain ⟨rfl, hinvalid⟩ := Pg.redeemUpdate_none hup
        refine ⟨rfl, fun r he => .inr ⟨x, ?_⟩⟩
        obtain ⟨-, -, rfl, hu⟩ := he
        rw [exec_redeem, if_neg hrefused, hinvalid hu]
  · cases hcall
    exact absurd rfl (hr _)

/-- **The redemption of an adapter is linearizable**: on the PostgreSQL adapter it takes effect at
its `SELECT`, or at its `UPDATE` when that hits a row or the code is unused until the `SELECT`. -/
def redeemLinearization : Linearization (server P config backend) (statements backend)
    (execStatement P config backend) where
  Early := RedeemedEarly backend
  start o r := by
    rcases statements_cases backend o with h | ⟨codeHash, t, rfl, rfl⟩
    · rw [h]
      simp
    · simp [statements, Pg.redeem]
  not_early w o r h := by
    obtain ⟨codeHash, t, rfl⟩ := h.cases_redeem
    obtain ⟨rfl, hm, -⟩ := h
    simp [statements, Pg.redeem, Pg.reportUsed] at hm
  env e w w' h o m r he := by
    refine he.of_unused fun codeHash _ hu => ?_
    cases e with
    | setClock t =>
      simp only [envStep, Option.ite_none_right_eq_some, Option.some.injEq] at h
      rwa [← h.2] at hu
    | upsertClient rec =>
      simp only [envStep, Option.some.injEq] at h
      rwa [← h] at hu
  call o' x w r' w' h o m r he := by
    refine he.of_unused fun codeHash hb hu => ?_
    subst hb
    exact unused_before_statement h hu
  finish o es o' k' r' r x w w' hp hx hr := by
    rcases statements_cases backend o with h | ⟨codeHash, t, rfl, rfl⟩
    · rw [h] at hp
      cases (path_single (fun r => ⟨r, rfl⟩) hp).2
      obtain rfl := Prog.ret.inj hr
      exact .inl ⟨x, hx⟩
    · exact redeem_finish hp hx hr
  inside o es o' k' r' x w w' hp hx hr := by
    rcases statements_cases backend o with h | ⟨codeHash, t, rfl, rfl⟩
    · rw [h] at hp
      cases (path_single (fun r => ⟨r, rfl⟩) hp).2
      exact absurd rfl (hr r')
    · exact redeem_inside hp hx hr

end Fapi2As
