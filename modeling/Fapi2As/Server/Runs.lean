import Fapi2As.Db.Effects
import Fapi2As.Server.Frontchannel
import Fapi2As.Server.System

set_option relaxedAutoImplicit false
set_option autoImplicit false

/-!
# Runs of the server

What every run of the server has in common, whatever its requests and their interleaving: each
call is justified by its own request, each table changes by the effects of repository calls only,
and a random value is drawn once.

## Main definitions

* `Fapi2As.ServerRun` — the runs of the server; `Fapi2As.ServerRun.store` — the tables after `i`
  steps.
* `Fapi2As.CallEffect` — what a call changes.
* `Fapi2As.ServerRun.Draws` — a random value is drawn at a step.

## Main results

* `Fapi2As.ServerRun.justified`, `Fapi2As.ServerRun.reply` — the guarantees of the handlers.
* `Fapi2As.ServerRun.store_step` — how the tables change.
* `Fapi2As.ServerRun.draw_once` — random values are fresh.
-/

namespace Fapi2As

open Js Async

/-- The runs of the server. -/
abbrev ServerRun (P : Platform) (config : AppConfig) (backend : Backend) : Type :=
  Run (server P config backend)

variable {P : Platform} {config : AppConfig} {backend : Backend}

/-! ## The effect of a step on the world -/

/-- **What a call changes**: nothing, or the tables, by a repository call; the limiter, by asking
it; the random values, by drawing one; or the signing keys, by loading them. -/
inductive CallEffect (w : World) : Call → World → Prop
  | none (o : Call) : CallEffect w o w
  | db (q : Query) (s : Store) : CallEffect w (.db q) { w with store := s }
  | allow (key : String) (limiter : RateLimiter) :
      CallEffect w (.allow key) { w with limiter := limiter }
  | draw (o : Call) (ho : ∀ q, o ≠ .db q) (ho' : ∀ key, o ≠ .allow key) (s : String) :
      CallEffect w o { w with drawn := s :: w.drawn }
  | load (hnone : w.keys = none) (keys : List SigningKeyRecord) :
      CallEffect w .ensure { w with keys := some keys }

/-- A draw adds a random value. -/
lemma draw_effect {o : Call} (ho : ∀ q, o ≠ .db q) (ho' : ∀ key, o ≠ .allow key) {w w' : World}
    {s r : String} {length : ℕ} (h : draw P w s length = some (r, w')) : CallEffect w o w' := by
  simp only [draw, Option.ite_none_right_eq_some, Option.some.injEq, Prod.mk.injEq] at h
  obtain ⟨-, -, rfl⟩ := h
  exact .draw o ho ho' s

/-- **Every call changes the world in one of these ways.** -/
lemma exec_effect {o : Call} {x : Oracle} {w w' : World} {r : Ret o}
    (h : exec P config backend o x w = some (r, w')) : CallEffect w o w' := by
  cases o with
  | db q =>
    simp only [exec, Option.some.injEq, Prod.mk.injEq] at h
    obtain ⟨-, rfl⟩ := h
    exact .db q _
  | now => cases h; exact .none _
  | randomUUID => exact draw_effect (by simp) (by simp) h
  | randomBytes size => exact draw_effect (by simp) (by simp) h
  | allow key => cases h; exact .allow key _
  | ensure =>
    simp only [exec] at h
    split at h
    · cases h; exact .none _
    · rename_i hnone
      split at h
      · cases h; exact .load hnone _
      · cases h; exact .none _
  | publicJwks => cases h; exact .none _
  | signJwt payload typ =>
    simp only [exec] at h
    split at h
    · split_ifs at h
      cases h
      exact .none _
    · cases h; exact .none _
  | evaluate req => cases h; exact .none _
  | fetchJwks uri => cases h; exact .none _

section

variable {o : Call} {x : Oracle} {w w' : World} {r : Ret o}
  (h : exec P config backend o x w = some (r, w'))

include h

/-- A call that is no repository call leaves the tables alone. -/
lemma exec_store (ho : ∀ q, o ≠ .db q) : w'.store = w.store := by
  cases exec_effect h with
  | db q s => exact absurd rfl (ho q)
  | _ => rfl

/-- A call that asks nothing keeps the limiter. -/
lemma exec_limiter (ho : ∀ key, o ≠ .allow key) : w'.limiter = w.limiter := by
  cases exec_effect h with
  | allow key limiter => exact absurd rfl (ho key)
  | _ => rfl

/-- A call keeps the random values that were drawn. -/
lemma exec_drawn {s : String} (hs : s ∈ w.drawn) : s ∈ w'.drawn := by
  cases exec_effect h with
  | draw => exact List.mem_cons_of_mem _ hs
  | _ => exact hs

/-- A call keeps the signing keys once they are loaded. -/
lemma exec_keys {ks : List SigningKeyRecord} (hks : w.keys = some ks) : w'.keys = some ks := by
  cases exec_effect h with
  | load hnone keys => cases hks.symm.trans hnone
  | _ => exact hks

/-- No call sets the clock. -/
lemma exec_clock : w'.clock = w.clock := by
  cases exec_effect h <;> rfl

end

/-- A repository call is executed on the tables. -/
lemma exec_db {q : Query} {x : Oracle} {w w' : World} {r : Except Fault q.Res}
    (h : exec P config backend (.db q) x w = some (r, w')) :
    backend.exec w.store x.db q = (r, w'.store) := by
  simp only [exec, Option.some.injEq, Prod.mk.injEq] at h
  obtain ⟨rfl, rfl⟩ := h
  rfl

namespace ServerRun

variable (R : ServerRun P config backend)

/-- The tables after `i` steps. -/
def store (i : ℕ) : Store := (R.world i).store

/-! ## The guarantees of the handlers -/

/-- **Every call is justified** by the request that makes it and the calls it made before. -/
lemma justified {i pid : ℕ} {p : Proc (server P config backend)} {o : Call} {r : Ret o}
    (h : R.Does i pid p ⟨o, r⟩) : Justified P config p.req p.past o :=
  h.meets (handler_spec P config)

/-- **Every reply is accounted for.** -/
lemma reply {i pid : ℕ} {req : HttpRequest} {past : List Event} {r : Reply} (hi : i ≤ R.len)
    (h : R.proc i pid = some ⟨req, past, .ret r⟩) : Answered P config req past r := by
  obtain ⟨r', hr, ha⟩ := R.answered (handler_spec P config) hi h
  obtain rfl := Except.ok.inj hr
  exact ha

/-! ## The tables over time -/

/-- A repository call that resolves was carried out. -/
lemma carried {i pid : ℕ} {p : Proc (server P config backend)} {q : Query} {a : q.Res}
    (h : R.Does i pid p ⟨.db q, .ok a⟩) : Carried (R.store i) q a (R.store (i + 1)) := by
  obtain ⟨x, -, hx⟩ := h.exec
  have hx : exec P config backend (.db q) x (R.world i) = some (.ok a, R.world (i + 1)) := hx
  exact Backend.exec_ok (exec_db hx)

/-- A repository call that rejects had no effect. -/
lemma rejected {i pid : ℕ} {p : Proc (server P config backend)} {q : Query} {e : Fault}
    (h : R.Does i pid p ⟨.db q, .error e⟩) : R.store (i + 1) = R.store i := by
  obtain ⟨x, -, hx⟩ := h.exec
  have hx : exec P config backend (.db q) x (R.world i) = some (.error e, R.world (i + 1)) := hx
  exact Backend.exec_error (exec_db hx)

/-- **How the tables change at a step**: not at all, by a repository call that is carried out, or by
the registration of a client. -/
inductive StoreStep (i : ℕ) : Prop
  | same (h : R.store (i + 1) = R.store i)
  | query (pid : ℕ) (p : Proc (server P config backend)) (q : Query) (a : q.Res)
      (does : R.Does i pid p ⟨.db q, .ok a⟩) (effect : Effect (R.store i) q (R.store (i + 1)))
  | register (rec : ClientRecord) (act : R.acts[i]? = some (.env (.upsertClient rec)))
      (h : R.store (i + 1) =
        { R.store i with clients := (R.store i).clients.set rec.clientId rec })

lemma store_step {i : ℕ} (hi : i < R.len) : R.StoreStep i := by
  rcases R.world_step hi with h | ⟨pid, p, ⟨o, r⟩, h⟩ | ⟨e, ha, h⟩
  · exact .same (congrArg World.store h)
  · by_cases ho : ∃ q, o = .db q
    · obtain ⟨q, rfl⟩ := ho
      cases r with
      | ok a => exact .query pid p q a h (R.carried h).effect
      | error e => exact .same (R.rejected h)
    · obtain ⟨x, -, hx⟩ := h.exec
      exact .same (exec_store hx fun q hq => ho ⟨q, hq⟩)
  · cases e with
    | setClock t =>
      simp only [envStep, Option.ite_none_right_eq_some, Option.some.injEq] at h
      exact .same (by simp only [store, ← h.2])
    | upsertClient rec =>
      simp only [envStep, Option.some.injEq] at h
      exact .register rec ha (by simp only [store, ← h])

/-- The tables of a run start empty, but for the registered clients. -/
lemma store_zero : R.store 0 = { clients := (R.store 0).clients } := by
  have h := R.isStart.store
  rw [store, R.world_zero]
  exact h

/-! ## Signatures -/

/-- Loaded keys stay loaded. -/
lemma keys_stay {i j : ℕ} (hij : i ≤ j) (hj : j ≤ R.len) {ks : List SigningKeyRecord}
    (h : (R.world i).keys = some ks) : (R.world j).keys = some ks := by
  refine R.stays (P := fun w => w.keys = some ks) hij h fun k _ hk hs => ?_
  rcases R.world_step (i := k) (by omega) with h | ⟨pid, p, e, h⟩ | ⟨e, -, h⟩
  · rw [h]; exact hs
  · obtain ⟨x, -, hx⟩ := h.exec
    exact exec_keys hx hs
  · cases e with
    | setClock t =>
      simp only [envStep, Option.ite_none_right_eq_some, Option.some.injEq] at h
      rw [← h.2]; exact hs
    | upsertClient rec =>
      simp only [envStep, Option.some.injEq] at h
      rw [← h]; exact hs

/-- A token that was signed is a signature under the keys of the state. -/
lemma signature {R : ServerRun P config backend} {i pid : ℕ} {p : Proc (server P config backend)}
    {payload : Params} {typ : Option String} {token : String}
    (h : R.Does i pid p ⟨.signJwt payload typ, .ok token⟩) :
    isSignature P ((R.world i).keys.getD []) token payload typ = true := by
  obtain ⟨x, -, hx⟩ := h.exec
  have hx : exec P config backend (.signJwt payload typ) x (R.world i) =
    some (.ok token, R.world (i + 1)) := hx
  cases htoken : x.token with
  | error e => simp [exec, htoken] at hx
  | ok token' =>
    simp only [exec, htoken, Option.ite_none_right_eq_some, Option.some.injEq, Prod.mk.injEq] at hx
    obtain ⟨hsigned, heq, -⟩ := hx
    exact Except.ok.inj heq ▸ hsigned

/-- **A token that was signed** has the claims that it was signed with, and the keys are loaded. -/
lemma signed {R : ServerRun P config backend} {i pid : ℕ} {p : Proc (server P config backend)}
    {payload : Params} {typ : Option String} {token : String}
    (h : R.Does i pid p ⟨.signJwt payload typ, .ok token⟩) :
    P.jwtClaims token = payload ∧ ∃ ks, (R.world i).keys = some ks := by
  have hsigned := signature h
  simp only [isSignature, decide_eq_true_eq] at hsigned
  refine ⟨hsigned.1, ?_⟩
  cases hkeys : (R.world i).keys with
  | some ks => exact ⟨ks, rfl⟩
  | none =>
    rw [hkeys] at hsigned
    cases hsigned.2

/-! ## Random values -/

/-- A random value is drawn at a step. -/
inductive Draws (i pid : ℕ) (p : Proc (server P config backend)) (s : String) : Prop
  | uuid (h : R.Does i pid p ⟨.randomUUID, s⟩)
  | bytes (n : ℕ) (h : R.Does i pid p ⟨.randomBytes n, s⟩)

/-- A drawn value stays drawn. -/
lemma drawn_mono {i j : ℕ} (hij : i ≤ j) (hj : j ≤ R.len) {s : String}
    (h : s ∈ (R.world i).drawn) : s ∈ (R.world j).drawn := by
  refine R.stays (P := fun w => s ∈ w.drawn) hij h fun k _ hk hs => ?_
  rcases R.world_step (i := k) (by omega) with h | ⟨pid, p, e, h⟩ | ⟨e, -, h⟩
  · rw [h]; exact hs
  · obtain ⟨x, -, hx⟩ := h.exec
    exact exec_drawn hx hs
  · cases e with
    | setClock t =>
      simp only [envStep, Option.ite_none_right_eq_some, Option.some.injEq] at h
      rw [← h.2]; exact hs
    | upsertClient rec =>
      simp only [envStep, Option.some.injEq] at h
      rw [← h]; exact hs

/-- A drawn value has a fresh hash, and is drawn from then on. -/
lemma Draws.fresh {R : ServerRun P config backend} {i pid : ℕ}
    {p : Proc (server P config backend)} {s : String} (h : R.Draws i pid p s) :
    (∀ d ∈ (R.world i).drawn, P.sha256Base64Url d ≠ P.sha256Base64Url s) ∧
      s ∈ (R.world (i + 1)).drawn := by
  have key : ∀ {x : Oracle} {n : ℕ},
      draw P (R.world i) x.random n = some (s, R.world (i + 1)) →
      (∀ d ∈ (R.world i).drawn, P.sha256Base64Url d ≠ P.sha256Base64Url s) ∧
        s ∈ (R.world (i + 1)).drawn := by
    intro x n hx
    simp only [draw, Option.ite_none_right_eq_some, Option.some.injEq, Prod.mk.injEq] at hx
    obtain ⟨⟨-, hd⟩, hs, hw⟩ := hx
    rw [hs] at hd hw
    exact ⟨hd, by rw [← hw]; exact List.mem_cons_self⟩
  cases h with
  | uuid h =>
    obtain ⟨x, -, hx⟩ := h.exec
    exact key hx
  | bytes n h =>
    obtain ⟨x, -, hx⟩ := h.exec
    exact key hx

/-- A drawn value is a text in base64url or hexadecimal characters. -/
lemma Draws.text {R : ServerRun P config backend} {i pid : ℕ} {p : Proc (server P config backend)}
    {s : String} (h : R.Draws i pid p s) : ∀ c ∈ s.toList, isBase64urlChar c = true := by
  have key : ∀ {x : Oracle} {n : ℕ},
      draw P (R.world i) x.random n = some (s, R.world (i + 1)) →
      ∀ c ∈ s.toList, isBase64urlChar c = true := by
    intro x n hx
    simp only [draw, Option.ite_none_right_eq_some, Option.some.injEq, Prod.mk.injEq] at hx
    obtain ⟨⟨htext, -⟩, rfl, -⟩ := hx
    simp only [isRandomText, Bool.and_eq_true, List.all_eq_true] at htext
    exact htext.1
  cases h with
  | uuid h =>
    obtain ⟨x, -, hx⟩ := h.exec
    exact key hx
  | bytes n h =>
    obtain ⟨x, -, hx⟩ := h.exec
    exact key hx

lemma Draws.lt {R : ServerRun P config backend} {i pid : ℕ} {p : Proc (server P config backend)}
    {s : String} (h : R.Draws i pid p s) : i < R.len := by
  cases h with
  | uuid h => exact h.lt
  | bytes n h => exact h.lt

/-- **Random values are fresh**: two drawn values with the same hash are drawn at the same step. -/
lemma draw_once {i j pid pid' : ℕ} {p p' : Proc (server P config backend)} {s s' : String}
    (hi : R.Draws i pid p s) (hj : R.Draws j pid' p' s')
    (h : P.sha256Base64Url s = P.sha256Base64Url s') : i = j := by
  have key : ∀ {i j pid pid' : ℕ} {p p' : Proc (server P config backend)} {s s' : String},
      R.Draws i pid p s → R.Draws j pid' p' s' →
      P.sha256Base64Url s = P.sha256Base64Url s' → ¬i < j := by
    intro i j pid pid' p p' s s' hi hj h hlt
    exact hj.fresh.1 s (R.drawn_mono hlt (Nat.le_of_lt hj.lt) hi.fresh.2) h
  have h1 := key hi hj h
  have h2 := key hj hi h.symm
  omega

/-- A random value that a process has drawn was drawn by it at an earlier step. -/
lemma drew {i pid : ℕ} {p : Proc (server P config backend)} {before after : List Event}
    {s : String} (hi : i ≤ R.len) (hp : R.proc i pid = some p)
    (h : p.past = before ++ ⟨.randomUUID, s⟩ :: after ∨
      ∃ n, p.past = before ++ ⟨.randomBytes n, s⟩ :: after) :
    ∃ j < i, ∃ q, R.Draws j pid q s ∧ q.past = before := by
  rcases h with h | ⟨n, h⟩
  · obtain ⟨j, hj, q, hq, -, hb⟩ := R.did_at hi hp h
    exact ⟨j, hj, q, .uuid hq, hb⟩
  · obtain ⟨j, hj, q, hq, -, hb⟩ := R.did_at hi hp h
    exact ⟨j, hj, q, .bytes n hq, hb⟩

/-- **A call right after a draw is made once**: two calls whose processes have drawn values with
the same hash, and have made equally many calls since, are the same. -/
lemma once_after_draw {i j pid pid' : ℕ} {p p' : Proc (server P config backend)} {e e' : Event}
    {b a b' a' : List Event} {s s' : String} (hi : R.Does i pid p e) (hj : R.Does j pid' p' e')
    (hp : p.past = b ++ ⟨.randomUUID, s⟩ :: a ∨ ∃ n, p.past = b ++ ⟨.randomBytes n, s⟩ :: a)
    (hp' : p'.past = b' ++ ⟨.randomUUID, s'⟩ :: a' ∨
      ∃ n, p'.past = b' ++ ⟨.randomBytes n, s'⟩ :: a')
    (hs : P.sha256Base64Url s = P.sha256Base64Url s') (ha : a.length = a'.length) : i = j := by
  obtain ⟨k, -, q, hq, hqb⟩ := R.drew (Nat.le_of_lt hi.lt) hi.proc hp
  obtain ⟨k', -, q', hq', hqb'⟩ := R.drew (Nat.le_of_lt hj.lt) hj.proc hp'
  obtain rfl := R.draw_once hq hq' hs
  have hsame : pid = pid' ∧ q = q' := by
    have key : ∀ {e e' : Event}, R.Does k pid q e → R.Does k pid' q' e' → pid = pid' ∧ q = q' :=
      fun h h' => ⟨(h.functional h').1, (h.functional h').2.1⟩
    cases hq with
    | uuid h => cases hq' with
      | uuid h' => exact key h h'
      | bytes n' h' => exact key h h'
    | bytes n h => cases hq' with
      | uuid h' => exact key h h'
      | bytes n' h' => exact key h h'
  obtain ⟨rfl, rfl⟩ := hsame
  have hlen : ∀ {p : Proc (server P config backend)} {b a : List Event} {s : String},
      (p.past = b ++ ⟨.randomUUID, s⟩ :: a ∨ ∃ n, p.past = b ++ ⟨.randomBytes n, s⟩ :: a) →
      p.past.length = b.length + 1 + a.length := by
    rintro p b a s (h | ⟨n, h⟩) <;> rw [h] <;> simp <;> omega
  refine hi.unique hj ?_
  rw [hlen hp, hlen hp', ← hqb, ← hqb', ha]

end ServerRun

end Fapi2As
