import Fapi2As.Db.Effects
import Fapi2As.Db.JtiReplay
import Fapi2As.Js.Utf16
import Fapi2As.Replay.Guard
import Fapi2As.Sample
import Fapi2As.Server.Justified

set_option relaxedAutoImplicit false
set_option autoImplicit false

/-!
# The replay guard over sequences of calls

Both adapters are replay guards in the sense of `Replay.History`: they differ in when they remove
expired entries, and the in-memory one refuses everything while it holds 8192 entries. The ids that
the server registers join encoded parts with a dot, which no encoded part holds, so entries are
shared only by registrations for the same client or key with the same jti.

## Main definitions

* `Fapi2As.GuardCall`, `Fapi2As.Backend.registered`, `Fapi2As.Backend.registration` — sequences of
  calls on an adapter, the tables before each, and its answer.
* `Fapi2As.ReplayCaller` — the registrations of the server.
* `Fapi2As.replayIdUnits`, `Fapi2As.dpopReplayIdUnits` — the ids of any strings.

## Main results

* `Fapi2As.guardHistory` — a sequence of calls on either adapter is the history of a replay guard.
* `Fapi2As.jtiRegister_size` — the in-memory adapter holds at most 8192 entries.
* `Fapi2As.ReplayCaller.entry_inj` — what registrations with the same entry have in common.
* `Fapi2As.replay_guard_sound` — live entries are never re-admitted, and nothing else is refused.
* `Fapi2As.Sample.surrogates_confused` — two strings with unpaired surrogates share an entry.
-/

namespace Fapi2As

open Js

/-! ## Sequences of calls -/

/-- A call of the replay guard, with what the database decides in it. -/
structure GuardCall where
  context : String
  id : String
  expiresAt : Date
  now : ℕ
  choice : DbChoice := {}

/-- The entry of a call. -/
def GuardCall.key (c : GuardCall) : String × String := (c.context, c.id)

/-- A call as one of a replay guard. -/
def GuardCall.toRegistration (c : GuardCall) : Replay.Registration (String × String) Date ℕ :=
  ⟨c.key, c.expiresAt, c.now⟩

/-- One call on an adapter. -/
def Backend.register (b : Backend) (s : Store) (c : GuardCall) : Except Fault Bool × Store :=
  b.exec s c.choice (.jtiRegister c.context c.id c.expiresAt c.now)

/-- The tables after a sequence of calls. -/
def Backend.registered (b : Backend) (calls : List GuardCall) : Store :=
  calls.foldl (fun s c => (b.register s c).2) {}

/-- The answer of a call of a sequence; `none` when it rejects. -/
def Backend.registration (b : Backend) (calls : List GuardCall) (i : ℕ) : Option Bool :=
  (calls[i]?).bind fun c => (b.register (b.registered (calls.take i)) c).1.toOption

lemma Backend.registered_succ (b : Backend) {calls : List GuardCall} {i : ℕ} {c : GuardCall}
    (hc : calls[i]? = some c) :
    b.registered (calls.take (i + 1)) = (b.register (b.registered (calls.take i)) c).2 := by
  obtain ⟨hi, rfl⟩ := List.getElem?_eq_some_iff.mp hc
  rw [List.take_succ_eq_append_getElem hi]
  simp only [Backend.registered, List.foldl_append, List.foldl_cons, List.foldl_nil]

/-! ## One call of an adapter -/

/-- An entry is alive at an instant. -/
def Alive (e : Date) (now : ℕ) : Prop := e.isAfter now = true

lemma Alive.mono (e : Date) (t t' : ℕ) (ht : t ≤ t') (h : Alive e t') : Alive e t := by
  cases e with
  | none => cases h
  | some d =>
    simp only [Alive, Date.isAfter, decide_eq_true_eq] at h ⊢
    omega

lemma not_alive_of_isPast {e : Date} {t : ℕ} (h : e.isPast t = true) : ¬Alive e t := by
  cases e with
  | none => cases h
  | some d =>
    simp only [Alive, Date.isAfter, Date.isPast, decide_eq_true_eq] at h ⊢
    omega

lemma alive_of_not_isPast {e : Date} {t : ℕ} (he : e ≠ none) (h : e.isPast t = false) :
    Alive e t := by
  cases e with
  | none => exact absurd rfl he
  | some d =>
    simp only [Alive, Date.isAfter, Date.isPast, decide_eq_true_eq, decide_eq_false_iff_not] at h ⊢
    omega

/-- A sweep of expired entries removes none that is alive. -/
lemma Swept.sweptAt {rows rows' : Map (String × String) Date} {now : ℕ}
    (h : Swept (Date.isPast · now) rows rows') : Replay.SweptAt Alive now rows.get? rows'.get? := by
  intro k
  rcases h.get? k with hk | ⟨hk, e, he, hpast⟩
  · exact .inl hk
  · refine .inr ⟨hk, fun e' he' => ?_⟩
    obtain rfl : e = e' := Option.some.inj (he.symm.trans he')
    exact not_alive_of_isPast hpast

section Refusals

variable {s : Store} {c i : String} {e : Date} {t : ℕ}

/-- The in-memory adapter refuses an entry that is alive, or when it is full. -/
lemma Memory.jtiRegister_refused (h : (Memory.jtiRegister s c i e t).1 = false) :
    (∃ e' ∈ s.jti.get? (c, i), Alive e' t) ∨ Memory.jtiCap ≤ s.jti.size := by
  obtain ⟨hswept, hsize⟩ := Memory.jtiSweep_swept s t
  unfold Memory.jtiRegister at h
  dsimp only at h
  by_cases hfull : Memory.jtiCap ≤ (Memory.jtiSweep s t).jti.size
  · exact .inr (hfull.trans hsize)
  · rw [if_neg hfull] at h
    left
    cases hrow : (Memory.jtiSweep s t).jti.get? (c, i) with
    | none =>
      rw [hrow] at h
      cases h
    | some existing =>
      rw [hrow] at h
      by_cases hafter : existing.isAfter t = true
      · exact ⟨existing, hswept.sub _ _ hrow, hafter⟩
      · dsimp only at h
        rw [if_neg hafter] at h
        cases h

/-- The PostgreSQL adapter refuses an entry that has not expired. -/
lemma Pg.jtiRegister_refused {reap : List (String × String)}
    (h : (Pg.jtiRegister s reap c i e t).1 = false) :
    ∃ e' ∈ s.jti.get? (c, i), e'.isPast t = false := by
  rw [Pg.jtiRegister_eq] at h
  cases hrow : s.jti.get? (c, i) with
  | none =>
    rw [hrow] at h
    cases h
  | some existing =>
    rw [hrow] at h
    exact ⟨existing, rfl, by simpa using h⟩

/-- The in-memory adapter holds at most 8192 entries. -/
lemma Memory.jtiRegister_size (h : s.jti.size ≤ Memory.jtiCap) :
    (Memory.jtiRegister s c i e t).2.jti.size ≤ Memory.jtiCap := by
  have hsize := (Memory.jtiSweep_swept s t).2
  have hset : ¬Memory.jtiCap ≤ (Memory.jtiSweep s t).jti.size →
      ((Memory.jtiSweep s t).jti.set (c, i) e).size ≤ Memory.jtiCap := by
    intro hroom
    have hone := Map.size_set_le (Memory.jtiSweep s t).jti (c, i) e
    omega
  unfold Memory.jtiRegister
  dsimp only
  by_cases hfull : Memory.jtiCap ≤ (Memory.jtiSweep s t).jti.size
  · rw [if_pos hfull]
    exact hsize.trans h
  · rw [if_neg hfull]
    cases (Memory.jtiSweep s t).jti.get? (c, i) with
    | none => exact hset hfull
    | some existing =>
      dsimp only
      split_ifs
      · exact hsize.trans h
      · exact hset hfull

end Refusals

/-- The entries of an adapter have dates that the database can hold. -/
def Backend.Dated (b : Backend) (s : Store) : Prop := b = .pg → ∀ k, s.jti.get? k ≠ some none

section Calls

variable {b : Backend} {s : Store} {c : GuardCall}

/-- A call that is carried out on the database has a valid date. -/
lemma Pg.expiresAt_ne_none
    (h : Pg.refuses s (.jtiRegister c.context c.id c.expiresAt c.now) = false) :
    c.expiresAt ≠ none := by
  intro hnone
  simp [Pg.refuses, Pg.dates, Pg.isTimestamptz, hnone] at h

/-- An adapter's entries stay dated. -/
lemma Backend.Dated.register (h : b.Dated s) : b.Dated (b.register s c).2 := by
  intro hb k
  subst hb
  unfold Backend.register Backend.exec
  dsimp only
  by_cases hr : Pg.refuses s (.jtiRegister c.context c.id c.expiresAt c.now) ∨ c.choice.fails
  · rw [if_pos hr]
    exact h rfl k
  · rw [if_neg hr]
    have hdate := Pg.expiresAt_ne_none (by simpa using (not_or.mp hr).1)
    obtain ⟨rows, sweep, hreg⟩ := Pg.jtiRegister_registered s c.choice.reapJti c.context c.id
      c.expiresAt c.now
    have hrows : ∀ k, rows.get? k ≠ some none := fun k hk => h rfl k (hreg.swept.sub _ _ hk)
    change (Pg.jtiRegister s c.choice.reapJti c.context c.id c.expiresAt c.now).2.jti.get? k ≠ _
    rw [hreg.tables]
    dsimp only
    split_ifs
    · rw [Map.get?_set]
      split_ifs
      · exact fun he => hdate (Option.some.inj he)
      · exact hrows k
    · exact hrows k

/-- **One call on an adapter is one call of a replay guard**, which is full when the in-memory
adapter holds 8192 entries. -/
lemma Backend.register_answers (h : b.Dated s) :
    Replay.Answers Alive (b = .memory ∧ Memory.jtiCap ≤ s.jti.size) s.jti.get? c.toRegistration
      (b.register s c).1.toOption (b.register s c).2.jti.get? := by
  have hadmits : ∀ {s' : Store} {fresh : Bool} {rows : Map (String × String) Date} {sweep : ℕ},
      Registered s s' (c.context, c.id) c.expiresAt c.now fresh rows sweep →
      (fresh = false → (∃ e ∈ s.jti.get? c.key, Alive e c.now) ∨
        b = .memory ∧ Memory.jtiCap ≤ s.jti.size) →
      Replay.Answers Alive (b = .memory ∧ Memory.jtiCap ≤ s.jti.size) s.jti.get? c.toRegistration
        (some fresh) s'.jti.get? := by
    intro s' fresh rows sweep hreg hwhy
    rw [hreg.tables]
    cases fresh with
    | false => exact .refuses rows.get? hreg.swept.sweptAt (hwhy rfl)
    | true =>
      have hset : (rows.set (c.context, c.id) c.expiresAt).get? =
          Function.update rows.get? c.toRegistration.key (some c.toRegistration.expiry) := by
        funext k
        rw [Map.get?_set, Function.update_apply]
        rfl
      show Replay.Answers _ _ _ _ _ (rows.set (c.context, c.id) c.expiresAt).get?
      rw [hset]
      refine .admits rows.get? hreg.swept.sweptAt fun e he halive => ?_
      have hkept := hreg.swept.kept _ e he (isPast_eq_false_of_isAfter halive)
      have hfree : e.isAfter c.now = false := hreg.free rfl e hkept
      have hafter : e.isAfter c.now = true := halive
      rw [hfree] at hafter
      cases hafter
  cases b with
  | memory =>
    obtain ⟨rows, sweep, hreg⟩ := Memory.jtiRegister_registered s c.context c.id c.expiresAt c.now
    refine hadmits hreg fun hrefused => ?_
    rcases Memory.jtiRegister_refused hrefused with hlive | hfull
    · exact .inl hlive
    · exact .inr ⟨rfl, hfull⟩
  | pg =>
    unfold Backend.register Backend.exec
    dsimp only
    by_cases hr : Pg.refuses s (.jtiRegister c.context c.id c.expiresAt c.now) ∨ c.choice.fails
    · rw [if_pos hr]
      exact .fails _ fun k => .inl rfl
    · rw [if_neg hr]
      obtain ⟨rows, sweep, hreg⟩ := Pg.jtiRegister_registered s c.choice.reapJti c.context c.id
        c.expiresAt c.now
      refine hadmits hreg fun hrefused => ?_
      obtain ⟨e, he, hpast⟩ := Pg.jtiRegister_refused hrefused
      exact .inl ⟨e, he, alive_of_not_isPast (fun hnone => h rfl _ (hnone ▸ he)) hpast⟩

/-- The in-memory adapter holds at most 8192 entries after a call. -/
lemma Backend.register_size (h : b = .memory → s.jti.size ≤ Memory.jtiCap) :
    b = .memory → (b.register s c).2.jti.size ≤ Memory.jtiCap := by
  intro hb
  subst hb
  exact Memory.jtiRegister_size (h rfl)

end Calls

/-! ## Sequences of calls -/

/-- What one call preserves, a sequence of calls on empty tables establishes. -/
lemma Backend.registered_of_step {b : Backend} {p : Store → Prop} (h : p {})
    (hstep : ∀ s c, p s → p (b.register s c).2) (calls : List GuardCall) :
    p (b.registered calls) := by
  unfold Backend.registered
  have hfold : ∀ s, p s → p (calls.foldl (fun s c => (b.register s c).2) s) := by
    induction calls with
    | nil => exact fun s hs => hs
    | cons c calls ih => exact fun s hs => ih _ (hstep s c hs)
  exact hfold _ h

lemma Backend.dated (b : Backend) (calls : List GuardCall) : b.Dated (b.registered calls) := by
  refine b.registered_of_step (fun _ k => ?_) (fun s c h => h.register) calls
  show (Map.empty : Map (String × String) Date).get? k ≠ _
  simp

/-- **The in-memory adapter never holds more than 8192 entries.** -/
lemma jtiRegister_size (calls : List GuardCall) :
    (Backend.memory.registered calls).jti.size ≤ Memory.jtiCap := by
  refine Backend.memory.registered_of_step (p := fun s => Backend.memory = .memory →
    s.jti.size ≤ Memory.jtiCap) (fun _ => ?_) (fun s c h => Backend.register_size h) calls rfl
  exact Nat.zero_le _

/-- **A sequence of calls on either adapter is the history of a replay guard.** -/
def guardHistory (b : Backend) (calls : List GuardCall) :
    Replay.History Alive (calls.map GuardCall.toRegistration) where
  rows i := (b.registered (calls.take i)).jti.get?
  full i := b = .memory ∧ Memory.jtiCap ≤ (b.registered (calls.take i)).jti.size
  answer i := b.registration calls i
  start := by
    funext k
    rfl
  step i c hc := by
    rw [List.getElem?_map, Option.map_eq_some_iff] at hc
    obtain ⟨call, hcall, rfl⟩ := hc
    have hanswer : b.registration calls i =
        (b.register (b.registered (calls.take i)) call).1.toOption := by
      rw [Backend.registration, hcall]
      rfl
    rw [hanswer, b.registered_succ hcall]
    exact Backend.register_answers (b.dated _)

/-! ## The class of the in-memory adapter -/

/-- One call on the class. -/
def MemoryJtiReplay.call (g : MemoryJtiReplay) (c : GuardCall) : Bool × MemoryJtiReplay :=
  g.register c.context c.id c.expiresAt c.now

/-- The class after a sequence of calls. -/
def MemoryJtiReplay.registered (calls : List GuardCall) : MemoryJtiReplay :=
  calls.foldl (fun g c => (g.call c).2) {}

/-- The answer of a call of a sequence on the class. -/
def MemoryJtiReplay.registration (calls : List GuardCall) (i : ℕ) : Option Bool :=
  (calls[i]?).map fun c => ((MemoryJtiReplay.registered (calls.take i)).call c).1

/-- **The class holds the entries of the adapter** after every sequence of calls whose texts are
free of U+0000. -/
lemma joinedKeys_registered {calls : List GuardCall} (hnul : ∀ c ∈ calls, NulFreeKey c.key) :
    JoinedKeys (Backend.memory.registered calls) (MemoryJtiReplay.registered calls) := by
  have hfold : ∀ s g, JoinedKeys s g → JoinedKeys
      (calls.foldl (fun s c => (Backend.memory.register s c).2) s)
      (calls.foldl (fun g c => (g.call c).2) g) := by
    induction calls with
    | nil => exact fun s g h => h
    | cons c calls ih =>
      intro s g h
      have hc := hnul c List.mem_cons_self
      exact ih (fun d hd => hnul d (List.mem_cons_of_mem _ hd)) _ _
        (h.register hc.1 hc.2 c.expiresAt c.now).2
  exact hfold _ _ ⟨⟨rfl, fun e he => by cases he⟩, rfl⟩

/-- **The class answers every call as the adapter does.** -/
lemma joinedKeys_registration {calls : List GuardCall} (hnul : ∀ c ∈ calls, NulFreeKey c.key)
    (i : ℕ) : MemoryJtiReplay.registration calls i = Backend.memory.registration calls i := by
  unfold MemoryJtiReplay.registration Backend.registration
  cases hc : calls[i]? with
  | none => rfl
  | some c =>
    have hkey := hnul c (List.mem_of_getElem? hc)
    have hjoined : JoinedKeys (Backend.memory.registered (calls.take i))
        (MemoryJtiReplay.registered (calls.take i)) :=
      joinedKeys_registered fun d hd => hnul d (List.mem_of_mem_take hd)
    exact congrArg some (hjoined.register hkey.1 hkey.2 c.expiresAt c.now).1

/-! ## The registrations of the server -/

/-- A registration of the server: the jti of the assertion of a client, or the jti of a proof by the
key with a thumbprint, at an endpoint. -/
inductive ReplayCaller
  | assertion (clientId jti : String)
  | proof (ctx : DpopContext) (jkt jti : String)

section Callers

variable (P : Platform) (config : AppConfig)

/-- The context and the id that a caller registers. -/
def ReplayCaller.entry : ReplayCaller → String × String
  | .assertion clientId jti => (assertionContext, replayId clientId jti)
  | .proof ctx jkt jti => (ctx.replayKey P, dpopReplayId jkt jti)

/-- The context of a caller. -/
def ReplayCaller.context (r : ReplayCaller) : String := (r.entry P).1

/-- The client, or the key, of a caller. -/
def ReplayCaller.party : ReplayCaller → String ⊕ String
  | .assertion clientId _ => .inl clientId
  | .proof _ jkt _ => .inr jkt

/-- The jti of a caller. -/
def ReplayCaller.jti : ReplayCaller → String
  | .assertion _ jti => jti
  | .proof _ _ jti => jti

/-- The callers that the server has: proofs are verified at three endpoints. -/
def ReplayCaller.OfServer : ReplayCaller → Prop
  | .assertion _ _ => True
  | .proof ctx _ _ => ∃ req, ProofContext P config req ctx

variable {P config}

/-- No proof is registered in the context of the assertions. -/
lemma ProofContext.replayKey_ne {req : HttpRequest} {ctx : DpopContext}
    (h : ProofContext P config req ctx) : ctx.replayKey P ≠ assertionContext := by
  intro he
  have hhead := congrArg (fun s => s.toList.head?) he
  cases h <;> simp [DpopContext.replayKey, assertionContext, tokenDpopContext, parDpopContext,
    userinfoDpopContext] at hhead

/-- A join of a text and an encoded one determines both. -/
lemma base64urlText_join_inj {a a' j j' : String}
    (h : a ++ "." ++ base64urlText j = a' ++ "." ++ base64urlText j') : a = a' ∧ j = j' := by
  have hdot : ∀ s, '.' ∉ (base64urlText s).toList := notMem_base64urlText (by decide)
  have h : a ++ String.ofList ['.'] ++ base64urlText j =
    a' ++ String.ofList ['.'] ++ base64urlText j' := h
  obtain ⟨ha, hj⟩ := join_inj_right (hdot j) (hdot j') h
  exact ⟨ha, base64urlText_injective hj⟩

/-- **Registrations with the same entry have the same context, the same client or key, and the same
jti.** -/
lemma ReplayCaller.entry_inj {r r' : ReplayCaller} (hr : r.OfServer P config)
    (hr' : r'.OfServer P config) (h : r.entry P = r'.entry P) :
    r.context P = r'.context P ∧ r.party = r'.party ∧ r.jti = r'.jti := by
  refine ⟨congrArg Prod.fst h, ?_⟩
  cases r with
  | assertion clientId jti =>
    cases r' with
    | assertion clientId' jti' =>
      obtain ⟨hc, hj⟩ := base64urlText_join_inj (congrArg Prod.snd h)
      exact ⟨congrArg Sum.inl (base64urlText_injective hc), hj⟩
    | proof ctx jkt jti' =>
      obtain ⟨req, hctx⟩ := hr'
      exact absurd (congrArg Prod.fst h).symm hctx.replayKey_ne
  | proof ctx jkt jti =>
    cases r' with
    | assertion clientId' jti' =>
      obtain ⟨req, hctx⟩ := hr
      exact absurd (congrArg Prod.fst h) hctx.replayKey_ne
    | proof ctx' jkt' jti' =>
      obtain ⟨hk, hj⟩ := base64urlText_join_inj (congrArg Prod.snd h)
      exact ⟨congrArg Sum.inr hk, hj⟩

/-- **Every registration of the server is that of one of its callers.** -/
lemma Registers.caller {req : HttpRequest} {context id : String} {e : Date} {t : ℕ}
    (h : Registers P config req (.db (.jtiRegister context id e t))) :
    ∃ r : ReplayCaller, r.OfServer P config ∧ r.entry P = (context, id) := by
  rcases h with ⟨_, client, _, _, jti, -, -, ho⟩ | ⟨ctx, hctx, _, p, jkt, -, -, ho⟩
  · obtain ⟨rfl, rfl, -, -⟩ :
        context = assertionContext ∧ id = replayId client.clientId jti ∧ _ ∧ _ := by
      simpa using ho
    exact ⟨.assertion client.clientId jti, trivial, rfl⟩
  · obtain ⟨rfl, rfl, -, -⟩ : context = ctx.replayKey P ∧ id = dpopReplayId jkt p.jti ∧ _ ∧ _ := by
      simpa using ho
    exact ⟨.proof ctx jkt p.jti, ⟨req, hctx⟩, rfl⟩

end Callers

/-! ## Ids of any strings -/

/-- `replayId`, of any strings: the parts are encoded as `Buffer.from(s, "utf8")` writes them. -/
def replayIdUnits (clientId jti : List UInt16) : String :=
  replayId (wellFormed clientId) (wellFormed jti)

/-- The replay id of `verifyDpopProof`, of any jti. -/
def dpopReplayIdUnits (jkt : String) (jti : List UInt16) : String :=
  dpopReplayId jkt (wellFormed jti)

/-- The ids of texts are those of their code units. -/
lemma replayIdUnits_utf16 (clientId jti jkt : String) :
    replayIdUnits (utf16 clientId) (utf16 jti) = replayId clientId jti ∧
      dpopReplayIdUnits jkt (utf16 jti) = dpopReplayId jkt jti := by
  simp only [replayIdUnits, dpopReplayIdUnits, wellFormed_utf16, and_self]

/-- **The ids determine what they are made of**, for strings of a kind. -/
structure IdsDetermine (S : List UInt16 → Prop) : Prop where
  assertion : ∀ clientId clientId' jti jti', S clientId → S clientId' → S jti → S jti' →
    replayIdUnits clientId jti = replayIdUnits clientId' jti' → clientId = clientId' ∧ jti = jti'
  proof : ∀ jkt jkt' jti jti', S jti → S jti' →
    dpopReplayIdUnits jkt jti = dpopReplayIdUnits jkt' jti' → jkt = jkt' ∧ jti = jti'

/-- They do for strings without unpaired surrogates. -/
lemma idsDetermine_isWellFormed : IdsDetermine IsWellFormed where
  assertion clientId clientId' jti jti' hc hc' hj hj' h := by
    obtain ⟨hclient, hjti⟩ := base64urlText_join_inj h
    exact ⟨wellFormed_inj hc hc' (base64urlText_injective hclient), wellFormed_inj hj hj' hjti⟩
  proof jkt jkt' jti jti' hj hj' h := by
    obtain ⟨hkey, hjti⟩ := base64urlText_join_inj h
    exact ⟨hkey, wellFormed_inj hj hj' hjti⟩

/-! ## Soundness -/

/-- A call that the database carries out: its texts have no U+0000, its expiry is a date of the
database, and the statement does not fail. -/
def GuardCall.Resolves (c : GuardCall) : Prop :=
  NulFreeKey c.key ∧ Pg.isTimestamptz c.expiresAt = true ∧ c.choice.fails = false

lemma Pg.refuses_jtiRegister {s : Store} {c : GuardCall} (h : c.Resolves) :
    Pg.refuses s (.jtiRegister c.context c.id c.expiresAt c.now) = false := by
  obtain ⟨⟨hc, hi⟩, hdate, -⟩ := h
  have hcontext : c.context.toList.contains '\x00' = false := by
    simpa [NulFree, GuardCall.key] using hc
  have hid : c.id.toList.contains '\x00' = false := by
    simpa [NulFree, GuardCall.key] using hi
  simp only [Pg.refuses, Pg.texts, Pg.uuids, Pg.dates, Pg.referenced, Pg.duplicate, List.any_cons,
    List.any_nil, hcontext, hid, hdate, Bool.not_true, Bool.or_self]

/-- A call that the database carries out returns on either adapter. -/
lemma Backend.registration_isSome {b : Backend} {calls : List GuardCall} {i : ℕ} {c : GuardCall}
    (hc : calls[i]? = some c) (hresolves : c.Resolves) :
    (b.registration calls i).isSome = true := by
  unfold Backend.registration Backend.register Backend.exec
  rw [hc]
  cases b with
  | memory => rfl
  | pg => simp [Pg.refuses_jtiRegister hresolves, hresolves.2.2, Except.toOption]

/-- **A sequence of calls is answered as a replay guard should.** -/
structure GuardSound (b : Backend) (calls : List GuardCall) : Prop where
  /-- After a call returned true, the calls for the same entry before its expiry return false. -/
  never_readmits : ∀ i j c c', i < j → calls[i]? = some c → calls[j]? = some c' →
    b.registration calls i = some true → c'.key = c.key → c.expiresAt.isAfter c'.now = true →
      b.registration calls j ≠ some true ∧
        (c'.Resolves → b.registration calls j = some false)
  /-- A call is refused because of an entry that is alive, or because the in-memory adapter is full.
  -/
  refused_because : ∀ j c', calls[j]? = some c' → b.registration calls j = some false →
    (∃ i < j, ∃ c, calls[i]? = some c ∧ b.registration calls i = some true ∧ c.key = c'.key ∧
      c.expiresAt.isAfter c'.now = true) ∨
    b = .memory ∧ (b.registered (calls.take j)).jti.size = 8192
  /-- The in-memory adapter never holds more than 8192 entries. -/
  capped : b = .memory → (b.registered calls).jti.size ≤ 8192

/-- **The replay guard never re-admits a live entry and never confuses callers.**

**Proof sketch.** Each call on either adapter is one call of a replay guard: sweeps and reaps remove
expired entries only, and a key is refused only for an entry that is alive or at the cap. So the
calls are a history of a guard, whose live entries are kept and never admitted again. The class
of the in-memory adapter joins context and id by a character that neither has, and the ids join
encoded parts by a dot that no encoded part has. -/
theorem replay_guard_sound (P : Platform) (config : AppConfig) (b : Backend)
    {calls : List GuardCall}
    (hnow : calls.Pairwise fun c c' => c.now ≤ c'.now) (hnul : ∀ c ∈ calls, NulFreeKey c.key) :
    GuardSound b calls ∧
    (∀ i, MemoryJtiReplay.registration calls i = Backend.memory.registration calls i) ∧
    (MemoryJtiReplay.registered calls).rows.size = (Backend.memory.registered calls).jti.size ∧
    (∀ req context id e t, Registers P config req (.db (.jtiRegister context id e t)) →
      ∃ r : ReplayCaller, r.OfServer P config ∧ r.entry P = (context, id)) ∧
    (∀ r r' : ReplayCaller, r.OfServer P config → r'.OfServer P config → r.entry P = r'.entry P →
      r.context P = r'.context P ∧ r.party = r'.party ∧ r.jti = r'.jti) ∧
    IdsDetermine IsWellFormed ∧
    (∀ clientId jti jkt : String, IsWellFormed (utf16 clientId) ∧ IsWellFormed (utf16 jti) ∧
      replayIdUnits (utf16 clientId) (utf16 jti) = replayId clientId jti ∧
      dpopReplayIdUnits jkt (utf16 jti) = dpopReplayId jkt jti) := by
  have hcall : ∀ {i : ℕ} {c : GuardCall}, calls[i]? = some c →
      (calls.map GuardCall.toRegistration)[i]? = some c.toRegistration := by
    intro i c hc
    rw [List.getElem?_map, hc]
    rfl
  have hnow' : (calls.map GuardCall.toRegistration).Pairwise fun c c' => c.now ≤ c'.now :=
    List.pairwise_map.mpr hnow
  refine ⟨⟨?_, ?_, ?_⟩, joinedKeys_registration hnul, (joinedKeys_registered hnul).rows.size,
    fun _ _ _ _ _ h => h.caller, fun _ _ hr hr' h => ReplayCaller.entry_inj hr hr' h,
    idsDetermine_isWellFormed, fun clientId jti jkt =>
      ⟨isWellFormed_utf16 clientId, isWellFormed_utf16 jti, replayIdUnits_utf16 clientId jti jkt⟩⟩
  · intro i j c c' hij hc hc' hadmitted hkey halive
    have hnot : b.registration calls j ≠ some true :=
      (guardHistory b calls).never_readmits Alive.mono hnow' hij (hcall hc) (hcall hc') hadmitted
        hkey
        halive
    refine ⟨hnot, fun hresolves => ?_⟩
    obtain ⟨fresh, hanswer⟩ := Option.isSome_iff_exists.mp
      (Backend.registration_isSome (b := b) hc' hresolves)
    cases fresh with
    | false => exact hanswer
    | true => exact absurd hanswer hnot
  · intro j c' hc' hrefused
    rcases (guardHistory b calls).refused_because (hcall hc') hrefused with
      ⟨i, hij, reg, hreg, hadmitted, hkey, halive⟩ | ⟨hb, hfull⟩
    · rw [List.getElem?_map, Option.map_eq_some_iff] at hreg
      obtain ⟨c, hc, rfl⟩ := hreg
      exact .inl ⟨i, hij, c, hc, hadmitted, hkey, halive⟩
    · subst hb
      exact .inr ⟨rfl, Nat.le_antisymm (jtiRegister_size _) hfull⟩
  · intro hb
    subst hb
    exact jtiRegister_size calls

namespace Sample

/-- Three registrations of one entry: the second while it is alive, the third after its expiry. -/
def registrations : List GuardCall :=
  [{ context := "client-assertion", id := "YQ.MQ", expiresAt := some 10, now := 1 },
    { context := "client-assertion", id := "YQ.MQ", expiresAt := some 20, now := 5 },
    { context := "client-assertion", id := "YQ.MQ", expiresAt := some 30, now := 10 }]

/-- The sample registrations on the database: admitted, refused, and admitted again. -/
theorem registrations_sound :
    GuardSound .pg registrations ∧
      (List.range 3).map (Backend.pg.registration registrations) =
        [some true, some false, some true] :=
  ⟨(replay_guard_sound platform config .pg (by decide)
    (by simp [registrations, NulFreeKey, NulFree, GuardCall.key])).1, by decide⟩

/-- Two registrations of client `A` with the jtis `"\ud800"` and `"\udbff"`. -/
def surrogates : List GuardCall :=
  [{ context := assertionContext, id := replayIdUnits (utf16 "A") [0xD800], expiresAt := some 10,
     now := 1 },
    { context := assertionContext, id := replayIdUnits (utf16 "A") [0xDBFF], expiresAt := some 20,
      now := 5 }]

/-- **Two jtis with unpaired surrogates share an entry**: the second is refused on both adapters
while the first is alive, although it is another. -/
theorem surrogates_confused :
    ¬IdsDetermine (fun _ => True) ∧
      replayIdUnits (utf16 "A") [0xD800] = replayIdUnits (utf16 "A") [0xDBFF] ∧
      (List.range 2).map (Backend.memory.registration surrogates) = [some true, some false] ∧
      (List.range 2).map (Backend.pg.registration surrogates) = [some true, some false] := by
  have hid : replayIdUnits (utf16 "A") [0xD800] = replayIdUnits (utf16 "A") [0xDBFF] := by decide
  refine ⟨fun hdetermine => ?_, hid, by decide, by decide⟩
  have hjti := (hdetermine.assertion _ _ _ _ trivial trivial trivial trivial hid).2
  exact absurd hjti (by decide)

end Sample

end Fapi2As
