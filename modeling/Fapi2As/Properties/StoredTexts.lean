import Fapi2As.Async.Trace
import Fapi2As.Sample
import Fapi2As.Server.Handed
import Fapi2As.Server.Rows

set_option relaxedAutoImplicit false
set_option autoImplicit false

/-!
# Texts without U+0000 reach the storage

The statements of the PostgreSQL adapter are refused for a parameter with U+0000, where the
in-memory adapter finds nothing or stores the value. In every run, no repository call passes such a
text exactly when no request hands one over at a call that takes texts of the request over as they
stand.

## Main definitions

* `Fapi2As.ServerRun.NulFreeCalls` — no call passes a text with U+0000, so none is refused for one.
* `Fapi2As.ServerRun.NulFreeHanded` — no request hands one over.

## Main results

* `Fapi2As.ServerRun.nulFreeCalls_iff` — the equivalence, over whole runs.
-/

namespace Fapi2As

open Js Async

variable {P : Platform} {config : AppConfig} {backend : Backend}

namespace ServerRun

variable (R : ServerRun P config backend)

/-! ## Runs -/

/-- **No U+0000 reaches the storage**: every text of every repository call of the run is free of it,
and no statement is refused for a text. -/
def NulFreeCalls : Prop := ∀ i pid p q r, R.Does i pid p ⟨.db q, r⟩ →
  q.NulFree ∧ (Pg.texts q).any (fun t => t.toList.contains '\x00') = false

/-- **No request hands U+0000 over**: when a repository call is reached that takes texts of its
request over as they stand, these are free of it. -/
def NulFreeHanded : Prop := ∀ i pid p q r, R.Does i pid p ⟨.db q, r⟩ →
  ∀ s, Handed P config p.req q s → NulFree s

variable {R}

/-- **The answer of a call without U+0000** from tables without it can be relied on, and the tables
stay without it. -/
lemma relied_of_nulFree {i pid : ℕ} {p : Proc (server P config backend)} {e : Event}
    (h : R.Does i pid p e) (hs : (R.store i).NulFree) (hq : ∀ q, e.op = .db q → q.NulFree) :
    Relied e.op e.res ∧ (R.store (i + 1)).NulFree := by
  obtain ⟨o, r⟩ := e
  by_cases ho : ∃ q, o = .db q
  · obtain ⟨q, rfl⟩ := ho
    have hfree := hq q rfl
    cases r with
    | error e =>
      refine ⟨fun a ha => (by cases ha), ?_⟩
      rwa [R.rejected h]
    | ok a =>
      have hcarried := R.carried h
      refine ⟨fun b hb => ⟨hfree, ?_⟩, hcarried.nulFree hfree hs⟩
      obtain rfl := Except.ok.inj hb
      exact hcarried.resNulFree hs fun id rec hrec => R.clients_keyed (Nat.le_of_lt h.lt) hrec
  · obtain ⟨x, -, hx⟩ := h.exec
    have hsame : R.store (i + 1) = R.store i := exec_store hx fun q hq => ho ⟨q, hq⟩
    refine ⟨?_, by rwa [hsame]⟩
    -- random values are texts of base64url characters
    have hdrawn : ∀ s, R.Draws i pid p s → NulFree s :=
      fun s hd => nulFree_of_forall (by decide) hd.text
    cases o with
    | db q => exact absurd ⟨q, rfl⟩ ho
    | randomUUID => exact hdrawn r (.uuid h)
    | randomBytes n => exact hdrawn r (.bytes n h)
    | _ => trivial

/-- Tables that hold no row are free of U+0000. -/
lemma nulFree_zero (R : ServerRun P config backend) : (R.store 0).NulFree := by
  rw [R.store_zero]
  constructor <;> intro k row h <;> cases h

/-- **Every call of a run is guarded**, when the guarded calls of the run pass no U+0000. -/
lemma guarded_of_nulFree (hP : NulFreeOutputs P)
    (h : ∀ i pid p q r, R.Does i pid p ⟨.db q, r⟩ → Guarded P config p.req (.db q) → q.NulFree)
    {i pid : ℕ} {p : Proc (server P config backend)} {e : Event} (hd : R.Does i pid p e) :
    Guarded P config p.req e.op := by
  have hstart : R.start.store.NulFree := by
    rw [← R.world_zero]
    exact R.nulFree_zero
  have hmoves : ∀ move w w', envStep move w = some w' → w.store.NulFree → w'.store.NulFree := by
    intro move w w' hmove hw
    cases move with
    | setClock t =>
      simp only [envStep, Option.ite_none_right_eq_some, Option.some.injEq] at hmove
      exact hmove.2 ▸ hw
    | upsertClient rec =>
      obtain rfl := Option.some.inj hmove
      exact ⟨hw.par, hw.grants, hw.codes, hw.accessTokens, hw.refreshTokens, hw.interactions⟩
  have hcalls : ∀ i pid p e, R.Does i pid p e → (R.world i).store.NulFree →
      Guarded P config p.req e.op → Relied e.op e.res ∧ (R.world (i + 1)).store.NulFree := by
    intro i pid p e hd hw hguard
    refine relied_of_nulFree hd hw fun q hq => ?_
    obtain ⟨o, r⟩ := e
    obtain rfl : o = .db q := hq
    exact h i pid p q r hd hguard
  exact hd.keeps (Run.rely_guarantee (I := fun w : World => w.store.NulFree) (careful_handler hP)
    hstart hmoves hcalls (Nat.le_of_lt hd.lt)).2

/-- **No U+0000 reaches the storage exactly when no request hands one over**: at the authorization
of a pushed request, in the unverified subject of a client assertion, in the redirect URI or the
prompt of a push, in the id of an interaction, in what a session says of its user, or in the id of a
token that verifies as one of the server. The platform returns none itself.

**Proof sketch.** Every handler makes guarded calls while the answers that it is given can be relied
on (`careful_handler`). A guarded call whose texts of the request are free of U+0000 is free of it;
then its answer can be relied on, and the tables stay free of it (`relied_of_nulFree`), so all calls
of the run are guarded (`Run.rely_guarantee`). Conversely a guarded call passes every text that it
takes over. -/
theorem nulFreeCalls_iff (hP : NulFreeOutputs P) : R.NulFreeCalls ↔ R.NulFreeHanded := by
  refine ⟨fun h i pid p q r hd s hs => ?_, fun h i pid p q r hd => ?_⟩
  · have hguard : Guarded P config p.req (.db q) :=
      guarded_of_nulFree hP (fun _ _ _ _ _ hd _ => (h _ _ _ _ _ hd).1) hd
    exact (h i pid p q r hd).1 s (hguard.2 s hs)
  · have hstep : ∀ i pid p q r, R.Does i pid p ⟨.db q, r⟩ → Guarded P config p.req (.db q) →
        q.NulFree := by
      intro i pid p q r hd hguard t ht
      exact (hguard.1 t ht).elim id (h i pid p q r hd t)
    have hfree := hstep i pid p q r hd (guarded_of_nulFree hP hstep hd)
    exact ⟨hfree, hfree.accepted⟩

end ServerRun

namespace Sample

/-- The sample platform, with a digest in base64url for a text with U+0000. -/
def nulFreePlatform : Platform :=
  { platform with
    sha256Base64Url := fun s => if NulFree s then platform.sha256Base64Url s else challenge }

/-- The platform returns no U+0000. -/
lemma nulFreePlatform_outputs : NulFreeOutputs nulFreePlatform := by
  have hurl : ∀ s u, nulFreePlatform.newURL s = some u → NulFree u.protocol ∧ NulFree u.hostname ∧
      NulFree u.host ∧ NulFree u.pathname ∧ NulFree u.origin := by
    intro s u hu
    have hall : ∀ e ∈ tables.urls, NulFree e.2.protocol ∧ NulFree e.2.hostname ∧ NulFree e.2.host ∧
        NulFree e.2.pathname ∧ NulFree e.2.origin := by decide
    exact hall (s, u) (mem_of_assoc hu)
  refine ⟨fun s => ?_, fun jwk k hk => ?_, fun s u hu => (hurl s u hu).1,
    fun s u hu => (hurl s u hu).2.1, fun s u hu => (hurl s u hu).2.2.1,
    fun s u hu => (hurl s u hu).2.2.2.1, fun s u hu => (hurl s u hu).2.2.2.2⟩
  · simp only [nulFreePlatform]
    split_ifs with hs
    · simp only [platform, Platform.ofTables]
      cases hd : assoc s tables.digests with
      | none => exact hs
      | some d =>
        have hall : ∀ e ∈ tables.digests, NulFree e.2 := by decide
        exact hall (s, d) (mem_of_assoc hd)
    · decide
  · have hall : ∀ e ∈ tables.thumbprints, NulFree e.2 := by decide
    exact hall (jwk, k) (mem_of_assoc hk)

/-- An authorization request that names an address. -/
def lookUp (uri : String) : HttpRequest where
  route := .authorize
  method := "GET"
  query := [("client_id", .str "A"), ("request_uri", .str uri)]

/-- An authorization request hands its address over, and nothing else. -/
lemma handed_lookUp {P : Platform} {config : AppConfig} {uri s : String} {q : Query}
    (h : Handed P config (lookUp uri) q s) : s = uri := by
  cases h with
  | requestUri _ h =>
    have hget : uri = s := str_eq_some h
    exact hget.symm
  | subject hroute => cases hroute
  | redirectUri h => cases h
  | prompt h => cases h
  | interaction h => cases h
  | session h => cases h
  | grantSubject h => cases h
  | jti h => cases h

/-- The deployment with this platform as a system. -/
abbrev textSystem (backend : Backend) : Sys Ret Exn Reply :=
  server nulFreePlatform Sample.config backend

/-- The request arrives and looks the address up. -/
def lookUpSteps (uri : String) : List (Act (textSystem backend)) :=
  .arrive (lookUp uri) :: nextCalls 0 2

/-- No other request is served, and the look-up gets an answer, with which the request is answered.
-/
def lookedUp (uri : String) (answer : Except Fault (Option ParRequestRecord)) (status : ℕ)
    (t : List (TraceStep (textSystem backend)) ×
      Conf (textSystem backend)) : Bool :=
  t.1.all (fun s => s.made.all fun (_, p, _) => p.req = lookUp uri) &&
    t.2.answers 0 fun _ past reply =>
      past.contains ⟨.db (.parPeek uri 100000), answer⟩ && reply.status = status

variable {uri : String} {answer : Except Fault (Option ParRequestRecord)} {status : ℕ}
  (h : ((textSystem backend).trace ⟨world, []⟩ (lookUpSteps uri)).any
    (lookedUp uri answer status) = true)

/-- The run of a look-up. -/
def lookUpRun : ServerRun nulFreePlatform Sample.config backend :=
  .ofTrace world (lookUpSteps uri) world_initial (lookedUp uri answer status) h

/-- All calls of the run are made for the one request. -/
lemma lookUpRun_req {i pid : ℕ} {p : Proc (textSystem backend)} {e : Event}
    (hd : (lookUpRun h).Does i pid p e) : p.req = lookUp uri := by
  obtain ⟨steps, last, ht, hshown⟩ : ∃ steps last, (lookUpRun h).HasTrace steps last ∧
    lookedUp uri answer status (steps, last) = true := Run.hasTrace_ofTrace h
  simp only [lookedUp, Bool.and_eq_true, List.all_eq_true] at hshown
  obtain ⟨s, hs, hmade⟩ := hd.traced ht
  have hreq := hshown.1 s (List.mem_of_getElem? hs)
  simpa [hmade] using hreq

/-- The look-up is made, and gets the answer. -/
lemma lookUpRun_does : ∃ i p,
    (lookUpRun h).Does i 0 p ⟨.db (.parPeek uri 100000), answer⟩ := by
  obtain ⟨steps, last, ht, hshown⟩ : ∃ steps last, (lookUpRun h).HasTrace steps last ∧
    lookedUp uri answer status (steps, last) = true := Run.hasTrace_ofTrace h
  simp only [lookedUp, Bool.and_eq_true] at hshown
  obtain ⟨req, past, reply, hp, htest⟩ := ht.answers hshown.2
  simp only [Bool.and_eq_true, List.contains_iff_mem] at htest
  obtain ⟨i, -, p, hd, -⟩ := (lookUpRun h).did le_rfl hp htest.1
  exact ⟨i, p, hd⟩

lemma plain_lookUp_trace : ((textSystem .pg).trace ⟨world, []⟩
    (lookUpSteps "x")).any (lookedUp "x" (.ok none) 400) = true := by
  decide +kernel

/-- An authorization request with an unknown address, without U+0000: no call passes one. -/
theorem plain_lookUp_nulFree : (lookUpRun plain_lookUp_trace).NulFreeCalls := by
  refine (ServerRun.nulFreeCalls_iff nulFreePlatform_outputs).mpr fun i pid p q r hd s hs => ?_
  rw [lookUpRun_req plain_lookUp_trace hd] at hs
  obtain rfl := handed_lookUp hs
  decide

lemma refused_lookUp_trace : ((textSystem .pg).trace ⟨world, []⟩
    (lookUpSteps "\x00")).any (lookedUp "\x00" (.error .rejected) 500) = true := by
  decide +kernel

lemma missed_lookUp_trace : ((textSystem .memory).trace ⟨world, []⟩
    (lookUpSteps "\x00")).any (lookedUp "\x00" (.ok none) 400) = true := by
  decide +kernel

/-- **An address of U+0000 reaches the storage**: with the PostgreSQL adapter the look-up is refused
and the request is answered with a server error, with the in-memory adapter nothing is found. -/
theorem nul_lookUp_refused : ¬(lookUpRun refused_lookUp_trace).NulFreeCalls ∧
    (∃ i p, (lookUpRun refused_lookUp_trace).Does i 0 p
      ⟨.db (.parPeek "\x00" 100000), .error .rejected⟩) ∧
    ∃ i p, (lookUpRun missed_lookUp_trace).Does i 0 p ⟨.db (.parPeek "\x00" 100000), .ok none⟩ := by
  obtain ⟨i, p, hd⟩ := lookUpRun_does refused_lookUp_trace
  refine ⟨fun h => ?_, ⟨i, p, hd⟩, lookUpRun_does missed_lookUp_trace⟩
  exact absurd (h i 0 p _ _ hd).1 (by decide)

end Sample

end Fapi2As
