import Fapi2As.Async.Prog
import Fapi2As.Db.Pg
import Fapi2As.Domain.Errors
import Fapi2As.Platform

set_option relaxedAutoImplicit false
set_option autoImplicit false

/-!
# The calls of the server

Everything a request handler awaits or reads from outside its own variables: the clock, the
random source, the rate limiter, the signing keys, the policy decision point, remote key sets and
the repositories. A handler is a program over these calls that throws exceptions of the error
model.

## Main definitions

* `Fapi2As.Call`, `Fapi2As.Ret` — the calls and the types of their answers.
* `Fapi2As.Handler` — programs over them.
* `Fapi2As.Call.isQuiet` — the calls that write no row of the protocol state.

## Main results

* `Fapi2As.wp_db` — a repository call resolves or rejects.
-/

namespace Fapi2As

open Js Async

/-- An evaluation request to the policy decision point, in the shape the server sends. -/
structure EvaluationRequest where
  subjectType : String
  subjectId : String
  actionName : String
  resourceType : String
  resourceId : String
  scope : String
  redirectUri : String
  acr : Option Json
  userApproved : Option Bool
  deriving DecidableEq

/-- The calls of a handler. -/
inductive Call
  /-- `new Date()` or `Date.now()`. -/
  | now
  /-- `randomUUID()`. -/
  | randomUUID
  /-- `randomBytes(size).toString("base64url")`. -/
  | randomBytes (size : ℕ)
  /-- `rateLimiter.allow(key)`. -/
  | allow (key : String)
  /-- `keystore.ensure()`. -/
  | ensure
  /-- `keystore.publicJwks()`. -/
  | publicJwks
  /-- `keystore.signJwt(payload, { typ })`. -/
  | signJwt (payload : Params) (typ : Option String)
  /-- `pdp.evaluate(req)`. -/
  | evaluate (req : EvaluationRequest)
  /-- The fetch of a remote key set. -/
  | fetchJwks (uri : String)
  /-- A repository call. -/
  | db (q : Query)
  deriving DecidableEq

/-- The answers of the calls. -/
@[reducible] def Ret : Call → Type
  | .now => ℕ
  | .randomUUID | .randomBytes _ => String
  | .allow _ => Bool
  | .ensure => Except Fault Unit
  | .publicJwks => List Json
  | .signJwt _ _ => Except Fault String
  | .evaluate _ => Except Fault Bool
  | .fetchJwks _ => Except JoseError (List Json)
  | .db q => Except Fault q.Res

/-- Outcomes can be compared. -/
instance exceptDecidableEq {φ α : Type} [DecidableEq φ] [DecidableEq α] : DecidableEq (Except φ α)
  | .ok a, .ok b => decidable_of_iff (a = b) (by simp)
  | .error a, .error b => decidable_of_iff (a = b) (by simp)
  | .ok _, .error _ => isFalse (by simp)
  | .error _, .ok _ => isFalse (by simp)

/-- The answers of a call can be compared. -/
instance retDecidableEq (o : Call) : DecidableEq (Ret o) := by
  cases o <;> exact inferInstance

/-- A program of the server. -/
abbrev Handler (α : Type) := Prog Ret Exn α

/-- A call that a handler made, with its answer. -/
abbrev Event := Async.Event Ret

/-- `new Date()`. -/
def now : Handler ℕ := Prog.perform Call.now

/-- `randomUUID()`. -/
def randomUUID : Handler String := Prog.perform Call.randomUUID

/-- `randomBytes(size).toString("base64url")`. -/
def randomBytes (size : ℕ) : Handler String := Prog.perform (Call.randomBytes size)

/-- Await a promise whose rejection is passed on. -/
def awaited {α : Type} (x : Except Fault α) : Handler α := Prog.settle (fun _ => Exn.other) x

/-- Await a repository call. -/
def db (q : Query) : Handler q.Res := do
  let r ← Prog.perform (Call.db q)
  awaited r

/-- Throw an OAuth error when `c` holds. -/
def throwIf (c : Prop) [Decidable c] (e : OAuthError) : Handler Unit := Prog.throwIf c (.oauth e)

/-- Throw an OAuth error. -/
def throwOAuth {α : Type} (e : OAuthError) : Handler α := throw (.oauth e)

/-- The repository calls that write no row of the protocol state. -/
def Query.isRead : Query → Bool
  | .clientsFindById _ | .parPeek _ _ | .grantsFind _ | .accessTokensFindByJti _
  | .refreshTokensFindByHash _ | .interactionsFind _ _ => true
  | _ => false

/-- The calls that write no row of the protocol state and sign nothing. -/
def Call.isQuiet : Call → Bool
  | .db q => q.isRead
  | .signJwt _ _ => false
  | _ => true

/-! ## What is known after a call -/

/-- A condition on calls that lets every quiet call pass. -/
abbrev Quiet (pre : List Event → Call → Prop) : Prop := ∀ q o, o.isQuiet = true → pre q o

variable {α : Type} {pre : List Event → Call → Prop} {past : List Event}

lemma wp_now {post : List Event → Except Exn ℕ → Prop} :
    Prog.wp pre post past now ↔ pre past .now ∧ ∀ t : ℕ, post (past ++ [⟨.now, t⟩]) (.ok t) :=
  Iff.rfl

lemma wp_randomUUID {post : List Event → Except Exn String → Prop} :
    Prog.wp pre post past randomUUID ↔
      pre past .randomUUID ∧ ∀ s : String, post (past ++ [⟨.randomUUID, s⟩]) (.ok s) :=
  Iff.rfl

lemma wp_randomBytes {n : ℕ} {post : List Event → Except Exn String → Prop} :
    Prog.wp pre post past (randomBytes n) ↔
      pre past (.randomBytes n) ∧ ∀ s : String, post (past ++ [⟨.randomBytes n, s⟩]) (.ok s) :=
  Iff.rfl

lemma wp_awaited {x : Except Fault α} {post : List Event → Except Exn α → Prop} :
    Prog.wp pre post past (awaited x) ↔
      (∀ a, x = .ok a → post past (.ok a)) ∧ ∀ e, x = .error e → post past (.error .other) :=
  Prog.wp_settle _ _

/-- **Repository calls**: the promise resolves to a result, or rejects. -/
lemma wp_db {q : Query} {post : List Event → Except Exn q.Res → Prop} :
    Prog.wp pre post past (db q) ↔
      pre past (.db q) ∧ (∀ r, post (past ++ [⟨.db q, .ok r⟩]) (.ok r)) ∧
        ∀ e, post (past ++ [⟨.db q, .error e⟩]) (.error .other) := by
  unfold db
  rw [Prog.wp_bind, Prog.wp_perform]
  refine and_congr Iff.rfl ⟨fun h => ⟨fun r => ?_, fun e => ?_⟩, fun h r => ?_⟩
  · exact (wp_awaited.mp (h (.ok r))).1 r rfl
  · exact (wp_awaited.mp (h (.error e))).2 e rfl
  · exact wp_awaited.mpr ⟨fun a ha => ha ▸ h.1 a, fun e he => he ▸ h.2 e⟩

@[simp] lemma wp_throwIf {c : Prop} [Decidable c] {e : OAuthError}
    {post : List Event → Except Exn Unit → Prop} :
    Prog.wp pre post past (throwIf c e) ↔
      (c → post past (.error (.oauth e))) ∧ (¬c → post past (.ok ())) := Prog.wp_throwIf _ _

@[simp] lemma wp_throwOAuth {e : OAuthError} {post : List Event → Except Exn α → Prop} :
    Prog.wp pre post past (throwOAuth e) ↔ post past (.error (.oauth e)) := Iff.rfl

lemma onlyCalls_db {C : Call → Prop} {q : Query} (h : C (.db q)) : (db q).OnlyCalls C :=
  .bind (fun _ => Prog.onlyCalls_settle _ _) (Prog.onlyCalls_perform h)

lemma throwIf_pos {c : Prop} [Decidable c] (e : OAuthError) (h : c) :
    throwIf c e = .throw (.oauth e) := if_pos h

lemma throwIf_neg {c : Prop} [Decidable c] (e : OAuthError) (h : ¬c) : throwIf c e = .ret () :=
  if_neg h

/-- The last call is in the past that follows it. -/
lemma mem_past_last (q : List Event) (e : Event) : e ∈ q ++ [e] := by simp

end Fapi2As
