import Fapi2As.Properties.SingleUse

set_option relaxedAutoImplicit false
set_option autoImplicit false

/-!
# The statements behind the calls cannot be seen

On the PostgreSQL adapter a redemption is made of two statements, and the statements of other
requests run in between. The properties of the server are stated over runs in which every repository
call is one step. They hold of the statements as well: whatever clients and tables show of a run of
statements, some run of whole calls shows too, with the same requests arriving and being answered in
the same order.

## Main definitions

* `Fapi2As.Arrived`, `Fapi2As.Replied` — what a client sees of a run: its request, and the reply.

## Main results

* `Fapi2As.StatementRun.explained` — a run of statements looks like a run of whole calls.
* `Fapi2As.StatementRun.transfer` — what holds of all replies of the one holds of those of the
  other.
-/

namespace Fapi2As

open Js Async

/-! ## What a client sees -/

section

variable {Op : Type} {Res : Op → Type} {ε α : Type} {S : Sys Res ε α}

/-- A request has arrived. -/
def Arrived (R : Run S) (i pid : ℕ) (req : S.Req) : Prop := ∃ p, R.proc i pid = some p ∧ p.req = req

/-- A request has been answered. -/
def Replied (R : Run S) (i pid : ℕ) (req : S.Req) (a : α) : Prop :=
  ∃ past, R.proc i pid = some ⟨req, past, .ret a⟩

end

variable {P : Platform} {config : AppConfig} {backend : Backend}

namespace StatementRun

/-- **A run of statements is explained** by a run of whole calls. -/
structure Explains (R' : StatementRun P config backend) (R : ServerRun P config backend)
    (f : ℕ → ℕ) :
    Prop where
  /-- Its steps are in the same order. -/
  mono : ∀ i j, i ≤ j → j ≤ R'.len → f i ≤ f j
  le_len : ∀ i ≤ R'.len, f i ≤ R.len
  /-- The tables are the same. -/
  world : ∀ i ≤ R'.len, R.world (f i) = R'.world i
  /-- The same requests have arrived. -/
  arrived : ∀ i ≤ R'.len, ∀ pid req, Arrived R (f i) pid req ↔ Arrived R' i pid req
  /-- Every reply is the same. -/
  answers : ∀ i ≤ R'.len, ∀ pid req reply, Replied R' i pid req reply →
    Replied R (f i) pid req reply

variable {R' : StatementRun P config backend} {R : ServerRun P config backend} {f : ℕ → ℕ}
    {i pid : ℕ}

/-- The processes of the two runs are related one by one. -/
lemma proc_rel (h : Linearizes redeemLinearization R' R f) (hi : i ≤ R'.len)
    {p' : Proc (statementServer P config backend)} (hp : R'.proc i pid = some p') :
    ∃ p, R.proc (f i) pid = some p ∧ redeemLinearization.ProcRel (R.world (f i)) p' p := by
  have hr := h.rel i hi
  have hlt : pid < (R.conf (f i)).procs.length := by
    rw [← hr.length]
    exact (List.getElem?_eq_some_iff.mp hp).1
  have hget := List.getElem?_eq_getElem hlt
  exact ⟨_, hget, hr.procs pid _ _ hp hget⟩

/-- A process of the run of whole calls is one of the run of statements. -/
lemma proc_rel_of (h : Linearizes redeemLinearization R' R f) (hi : i ≤ R'.len)
    {p : Proc (server P config backend)} (hp : R.proc (f i) pid = some p) :
    ∃ p', R'.proc i pid = some p' ∧ redeemLinearization.ProcRel (R.world (f i)) p' p := by
  have hr := h.rel i hi
  have hlt : pid < (R'.conf i).procs.length := by
    rw [hr.length]
    exact (List.getElem?_eq_some_iff.mp hp).1
  have hget := List.getElem?_eq_getElem hlt
  exact ⟨_, hget, hr.procs pid _ _ hget hp⟩

/-- Related processes serve the same request. -/
lemma procRel_req {w : World} {p' : Proc (statementServer P config backend)}
    {p : Proc (server P config backend)} (h : redeemLinearization.ProcRel w p' p) :
    p.req = p'.req := by
  cases h with
  | before => rfl
  | early => rfl

/-- A sequence that has returned has come to the end of its first part. -/
lemma eq_ret_of_bind_eq_ret {α β : Type} {m : Prog Statement.Res Exn α}
    {g : α → Prog Statement.Res Exn β} {b : β} (h : m.bind g = .ret b) : ∃ a, m = .ret a := by
  cases m with
  | ret a => exact ⟨a, rfl⟩
  | throw e => cases h
  | call o k => cases h

/-- **A process that has answered** is related to one that has answered alike: it has no call open.
-/
lemma procRel_answered {w : World} {p' : Proc (statementServer P config backend)}
    {p : Proc (server P config backend)} (h : redeemLinearization.ProcRel w p' p) {reply : Reply}
    (hreply : p'.todo = .ret reply) : p.todo = .ret reply := by
  cases h with
  | before req as bs es q todo hlin hw =>
    cases hw with
    | ret a =>
      obtain rfl : a = reply := Prog.ret.inj hreply
      rfl
    | throw => cases hreply
    | call o k _ m hm open_ =>
      obtain ⟨r, hr⟩ := eq_ret_of_bind_eq_ret hreply
      exact absurd hr (open_ r)
  | early req as bs es o k m r hlin hm open_ he =>
    obtain ⟨r, hr⟩ := eq_ret_of_bind_eq_ret hreply
    exact absurd hr (open_ r)

/-- **The statements behind the calls cannot be seen.** Every run of statements, on either adapter
and however the two statements of a redemption are interleaved with those of other requests, is
explained by a run of whole calls: the tables are the same at all times, the same requests arrive,
and every reply is the same. The order of steps is kept, so a request that arrives after another one
was answered does so in both.

**Proof sketch.** A redemption takes effect at one of its statements (`redeemLinearization`), so
some run of whole calls is related to the run of statements at all times
(`Async.Linearization.exists_run`). Related processes serve the same request (`procRel_req`), and
one that has answered has no call open (`procRel_answered`). -/
theorem explained (R' : StatementRun P config backend) : ∃ R f, Explains R' R f := by
  obtain ⟨R, f, hl⟩ := redeemLinearization.exists_run R'
  refine ⟨R, f, hl.mono, hl.le_len, fun i hi => hl.world_eq hi, fun i hi pid req => ⟨?_, ?_⟩, ?_⟩
  · rintro ⟨p, hp, rfl⟩
    obtain ⟨p', hp', hrel⟩ := proc_rel_of hl hi hp
    exact ⟨p', hp', (procRel_req hrel).symm⟩
  · rintro ⟨p', hp', rfl⟩
    obtain ⟨p, hp, hrel⟩ := proc_rel hl hi hp'
    exact ⟨p, hp, procRel_req hrel⟩
  · rintro i hi pid req reply ⟨past, hp'⟩
    obtain ⟨p, hp, hrel⟩ := proc_rel hl hi hp'
    obtain ⟨req', past', todo⟩ := p
    obtain rfl : req' = req := procRel_req hrel
    obtain rfl : todo = .ret reply := procRel_answered hrel rfl
    exact ⟨past', hp⟩

/-- **What holds of all replies of whole calls holds of those of statements**, whatever it says of
the tables at the time of the reply. -/
theorem transfer {Q : World → HttpRequest → Reply → Prop}
    (h : ∀ R : ServerRun P config backend, ∀ i ≤ R.len, ∀ pid req reply, Replied R i pid req reply →
      Q (R.world i) req reply)
    (R' : StatementRun P config backend) {i pid : ℕ} {req : HttpRequest} {reply : Reply}
    (hi : i ≤ R'.len)
    (hreply : Replied R' i pid req reply) : Q (R'.world i) req reply := by
  obtain ⟨R, f, hex⟩ := explained R'
  rw [← hex.world i hi]
  exact h R (f i) (hex.le_len i hi) pid req reply (hex.answers i hi pid req reply hreply)

end StatementRun

end Fapi2As
