import Fapi2As.Sample

set_option relaxedAutoImplicit false
set_option autoImplicit false

/-!
# The nonce challenge and the retry

When nonces are required, a DPoP proof that lacks a valid one is refused with a fresh nonce, and the
client tries again with it. The verification throws the nonce as an error; the token and the PAR
endpoint leave it to the error handler, which sends it in a header, while the userinfo endpoint
catches every error of the verification and answers a challenge of its own.

## Main definitions

* `Fapi2As.ProofStage` — what is left of a request that is about to verify its proof, by endpoint.
* `Fapi2As.ServerRun.Refused`, `Fapi2As.ServerRun.Passes` — a proof without a valid nonce, and one
  that passes.
* `Fapi2As.ServerRun.NonceRecovers` — the refusal sends a nonce with which the retry passes.

## Main results

* `Fapi2As.token_stage`, `Fapi2As.par_stage`, `Fapi2As.userinfo_stage` — every request that passes
  the checks before its proof gets to verify it.
* `Fapi2As.ServerRun.nonce_recovers_iff` — the client recovers exactly at the endpoints other than
  userinfo.
* `Fapi2As.Sample.userinfo_challenge_without_nonce` — a challenge without a nonce.
-/

namespace Fapi2As

open Js Async

/-! ## The stages -/

/-- What is left of a request that is about to verify its proof: what the proof is verified for, and
what follows when it is accepted and when the verification throws. -/
structure ProofStage where
  ctx : DpopContext
  pass : String → Handler Reply
  refuse : Exn → Handler Reply

section

variable (P : Platform) (config : AppConfig)

/-- What is left of a request at a stage. -/
def ProofStage.todo (s : ProofStage) (req : HttpRequest) : Handler Reply :=
  attempt (verifyDpopProof P config req.dpop s.ctx) >>= goOn s.pass s.refuse

/-- A stage of an endpoint that leaves the exceptions of the verification to the error handler. -/
def ProofStage.thrown (ctx : DpopContext) (f : String → Handler Reply) : ProofStage where
  ctx := ctx
  pass jkt := respond (f jkt)
  refuse e := pure (onSend (errorReply e))

/-- What the userinfo endpoint makes of the outcome of the verification. -/
def userinfoVerdict (cnfJkt subject : String) : Except Exn String → Handler Reply
  | .error _ => pure (challenge 401 (some ("invalid_dpop_proof", "DPoP proof is invalid")))
  | .ok jkt =>
    if jkt ≠ cnfJkt then pure (invalidToken "DPoP key does not match the access token binding")
    else pure (subjectReply subject)

/-- The stage of the userinfo endpoint, which keeps the exceptions of the verification. -/
def ProofStage.kept (ctx : DpopContext) (cnfJkt subject : String) : ProofStage where
  ctx := ctx
  pass jkt := respond (userinfoVerdict cnfJkt subject (.ok jkt))
  refuse e := respond (userinfoVerdict cnfJkt subject (.error e))

/-- The stages of the endpoints. -/
inductive ProofStage.Of (req : HttpRequest) : ProofStage → Prop
  | token (f : String → Handler Reply) (h : req.route = .token) :
      ProofStage.Of req (.thrown (tokenDpopContext P config) f)
  | par (f : String → Handler Reply) (h : req.route = .par) :
      ProofStage.Of req (.thrown (parDpopContext P config) f)
  | userinfo (token cnfJkt subject : String) (h : req.route = .userinfo) :
      ProofStage.Of req (.kept (userinfoDpopContext P config req.method token) cnfJkt subject)

end

section

variable {P : Platform} {config : AppConfig} {req : HttpRequest}

lemma thrown_todo (ctx : DpopContext) (f : String → Handler Reply) :
    respond (verifyDpopProof P config req.dpop ctx >>= f) =
      (ProofStage.thrown ctx f).todo P config req := respond_bind _ _

lemma kept_todo (ctx : DpopContext) (cnfJkt subject : String) :
    respond (attempt (verifyDpopProof P config req.dpop ctx) >>= userinfoVerdict cnfJkt subject) =
      (ProofStage.kept ctx cnfJkt subject).todo P config req := by
  rw [respond_attempt_bind]
  refine congrArg _ (funext fun x => ?_)
  cases x <;> rfl

/-- The rate limiter lets a request through. -/
lemma path_rateLimited {ip : String} {p p' : Handler Reply} {es : List Event}
    (h : Prog.Path p es p') : Prog.Path (rateLimited ip p) (⟨.allow ip, true⟩ :: es) p' := by
  have hallow : Prog.Path (Prog.perform (Call.allow ip) : Handler Bool) [⟨.allow ip, true⟩]
      (.ret true) := Prog.path_perform _ _
  exact hallow.bind_ret h

/-- **A token request gets to verify its proof**, once its client is authenticated. -/
lemma token_stage {client : Client} {qa : List Event} (hroute : req.route = .token)
    (hmethod : req.method = "POST") (hform : req.isForm = true)
    (hgrant : str (req.body.get "grant_type") ≠ some "password")
    (hclient : Prog.Path (authenticateClient P config req.body req.authorization) qa (.ret client))
    (hbound : client.metadata.dpopBoundAccessTokens = true) :
    ∃ s : ProofStage, s.ctx = tokenDpopContext P config ∧ s.Of P config req ∧
      Prog.Path (handler P config req) (⟨.allow req.ip, true⟩ :: qa) (s.todo P config req) := by
  have hpath : ∃ f, Prog.Path (handler P config req) (⟨.allow req.ip, true⟩ :: qa)
      (respond (verifyDpopProof P config req.dpop (tokenDpopContext P config) >>= f)) := by
    unfold handler dispatch
    simp only [hroute, hmethod, if_true]
    apply Exists.intro
    apply path_respond
    apply path_rateLimited
    rw [← List.append_nil qa]
    apply Prog.Path.bind_ret (Prog.path_throwIf _ (by simp [hform]))
    apply Prog.Path.bind_ret (Prog.path_throwIf _ hgrant)
    apply Prog.Path.bind_ret hclient
    apply Prog.Path.bind_ret (Prog.path_throwIf _ (by simp [hbound]))
    exact .done _
  obtain ⟨f, hf⟩ := hpath
  exact ⟨_, rfl, .token f hroute, thrown_todo (tokenDpopContext P config) f ▸ hf⟩

/-- **A push with a proof gets to verify it**, once its client is authenticated. -/
lemma par_stage {client : Client} {qa : List Event} {header : DpopHeader}
    (hroute : req.route = .par)
    (hmethod : req.method = "POST") (hform : req.isForm = true) (hdpop : req.dpop = some header)
    (hclient : Prog.Path (authenticateClient P config req.body req.authorization) qa
      (.ret client)) :
    ∃ s : ProofStage, s.ctx = parDpopContext P config ∧ s.Of P config req ∧
      Prog.Path (handler P config req) (⟨.allow req.ip, true⟩ :: qa) (s.todo P config req) := by
  have hpath : ∃ f, Prog.Path (handler P config req) (⟨.allow req.ip, true⟩ :: qa)
      (respond (verifyDpopProof P config req.dpop (parDpopContext P config) >>= f)) := by
    have hjkt : parDpopJkt P config req = verifyDpopProof P config req.dpop
        (parDpopContext P config) >>=
        fun jkt => pure (some jkt) := by
      simp only [parDpopJkt, hdpop]
    unfold handler dispatch
    simp only [hroute, hmethod, if_true]
    apply Exists.intro
    apply path_respond
    apply path_rateLimited
    rw [← List.append_nil qa]
    apply Prog.Path.bind_ret (Prog.path_throwIf _ (by simp [hform]))
    apply Prog.Path.bind_ret hclient
    rw [hjkt, Prog.bind_assoc]
    exact .done _
  obtain ⟨f, hf⟩ := hpath
  exact ⟨_, rfl, .par f hroute, thrown_todo (parDpopContext P config) f ▸ hf⟩

/-- **A userinfo request gets to verify its proof**, once its token is found live and bound to a
key. -/
lemma userinfo_stage {token cnfJkt : String} {record : AccessTokenRecord} {qf : List Event} {t : ℕ}
    (hroute : req.route = .userinfo) (hmethod : isGet req.method = true ∨ req.method = "POST")
    (htoken : req.authorization.bind dpopCredentials = some token) (hne : token ≠ "")
    (hfound : Prog.Path (findAccessToken P config token) qf (.ret (some record)))
    (hunrevoked : record.revokedAt = none) (hunexpired : record.expiresAt.isPast t = false)
    (hbound : record.cnfJkt = some cnfJkt) (hkey : cnfJkt ≠ "") :
    ∃ s : ProofStage, s.ctx = userinfoDpopContext P config req.method token ∧ s.Of P config req ∧
      Prog.Path (handler P config req) (qf ++ [⟨.now, t⟩]) (s.todo P config req) := by
  refine ⟨_, rfl, .userinfo token cnfJkt record.subject hroute, ?_⟩
  rw [← kept_todo]
  unfold handler dispatch handleUserinfo
  simp only [hroute, hmethod, if_true, htoken, hne, if_false]
  apply path_respond
  apply Prog.Path.bind_ret hfound
  dsimp only
  unfold userinfoOf
  rw [if_neg (by simp [hunrevoked])]
  have hnow : Prog.Path (now : Handler ℕ) [⟨.now, t⟩] (.ret t) := Prog.path_perform _ _
  rw [← List.append_nil [_]]
  apply Prog.Path.bind_ret hnow
  have hcnf : record.cnfJkt.filter (· ≠ "") = some cnfJkt := by simp [hbound, hkey]
  rw [if_neg (by simp [hunexpired]), hcnf]
  exact .done _

/-! ## The verification -/

/-- The verification of a proof after its reading of the clock. -/
def verifyAt (P : Platform) (config : AppConfig) (header : Option DpopHeader) (ctx : DpopContext)
    (t : ℕ) : Handler String := do
  let p ← Prog.settle Exn.oauth (checkProof P config header ctx t)
  let jkt ← match P.calculateJwkThumbprint p.jwk with
    | some jkt => pure jkt
    | none => throw .other
  let htuKey := normalizeHtu P ctx.htu
  throwIf (config.dpopNonceRequired = true ∧ nonceAccepted P config p.nonce jkt htuKey t = false)
    (useDpopNonce (issueNonce P config jkt htuKey t))
  let fresh ← db (.jtiRegister (ctx.replayKey P) (dpopReplayId jkt p.jti)
    (dpopReplayExpiry config p.iat) t)
  throwIf (fresh = false) (invalidDpopProof "DPoP proof replay detected [RFC9449 §11.1]")
  pure jkt

/-- A verification reads the clock first. -/
lemma verifyDpopProof_eq (header : Option DpopHeader) (ctx : DpopContext) :
    verifyDpopProof P config header ctx = now >>= verifyAt P config header ctx := rfl

/-- **A proof without a valid nonce is refused with the nonce of its key, URL and time window.** -/
lemma verifyAt_refuse {header : Option DpopHeader} {ctx : DpopContext} {t : ℕ}
    {proof : CheckedProof}
    {jkt : String} (hreq : config.dpopNonceRequired = true)
    (hproof : checkProof P config header ctx t = .ok proof)
    (hjkt : P.calculateJwkThumbprint proof.jwk = some jkt)
    (hnonce : nonceAccepted P config proof.nonce jkt (normalizeHtu P ctx.htu) t = false) :
    verifyAt P config header ctx t =
      .throw (.oauth (useDpopNonce (issueNonce P config jkt (normalizeHtu P ctx.htu) t))) := by
  have hrefuse : config.dpopNonceRequired = true ∧
      nonceAccepted P config proof.nonce jkt (normalizeHtu P ctx.htu) t = false := ⟨hreq, hnonce⟩
  unfold verifyAt
  rw [hproof, Prog.settle, Prog.ret_bind, hjkt]
  dsimp only
  rw [Prog.pure_bind', throwIf_pos _ hrefuse, Prog.throw_bind]

/-- The registration of the replay entry of a proof. -/
def proofRegistration (P : Platform) (config : AppConfig) (ctx : DpopContext) (proof : CheckedProof)
    (jkt : String) (t : ℕ) : Query :=
  .jtiRegister (ctx.replayKey P) (dpopReplayId jkt proof.jti) (dpopReplayExpiry config proof.iat) t

/-- **A proof with a valid nonce goes on to the replay guard**, and is accepted when its entry is
fresh. -/
lemma verifyAt_accept {header : Option DpopHeader} {ctx : DpopContext} {t : ℕ}
    {proof : CheckedProof}
    {jkt : String} (hproof : checkProof P config header ctx t = .ok proof)
    (hjkt : P.calculateJwkThumbprint proof.jwk = some jkt)
    (hnonce : nonceAccepted P config proof.nonce jkt (normalizeHtu P ctx.htu) t = true) :
    verifyAt P config header ctx t =
      db (.jtiRegister (ctx.replayKey P) (dpopReplayId jkt proof.jti)
        (dpopReplayExpiry config proof.iat) t) >>= fun fresh : Bool =>
      throwIf (fresh = false) (invalidDpopProof "DPoP proof replay detected [RFC9449 §11.1]") >>=
      fun _ => pure jkt := by
  have haccept : ¬(config.dpopNonceRequired = true ∧
      nonceAccepted P config proof.nonce jkt (normalizeHtu P ctx.htu) t = false) := by
    simp [hnonce]
  unfold verifyAt
  rw [hproof, Prog.settle, Prog.ret_bind, hjkt]
  dsimp only
  rw [Prog.pure_bind', throwIf_neg _ haccept, Prog.ret_bind]

/-- **The nonce that was sent is valid for a minute.** -/
lemma nonceAccepted_issueNonce {jkt htu : String} {t t' : ℕ} (hle : t ≤ t')
    (hsoon : t' ≤ t + 60000) :
    nonceAccepted P config (some (.str (issueNonce P config jkt htu t))) jkt htu t' = true := by
  have hwindow : nonceWindow t = nonceWindow t' ∨ nonceWindow t = nonceWindow t' - 1 := by
    simp only [nonceWindow, nonceWindowSec]
    omega
  rcases hwindow with h | h
  · simp [nonceAccepted, validNonce, issueNonce, h]
  · simp [nonceAccepted, validNonce, issueNonce, h]

/-! ## Refusals and retries -/

namespace ServerRun

variable {backend : Backend} (R : ServerRun P config backend)

/-- At step `i` a request that is about to verify its proof reads the instant `t`, at which the
proof passes every check and is under the key `jkt`. -/
structure Verifies (i pid : ℕ) (p : Proc (server P config backend)) (s : ProofStage)
    (proof : CheckedProof) (jkt : String) (t : ℕ) : Prop where
  /-- It is the stage of an endpoint. -/
  stage : s.Of P config p.req
  /-- The request is at the stage. -/
  todo : p.todo = s.todo P config p.req
  /-- It reads the clock. -/
  reads : R.Does i pid p ⟨.now, t⟩
  /-- The proof passes the checks before the nonce. -/
  checked : checkProof P config p.req.dpop s.ctx t = .ok proof
  /-- The key of the proof. -/
  thumbprint : P.calculateJwkThumbprint proof.jwk = some jkt

/-- A proof without a currently valid nonce is verified. -/
structure Refused (i pid : ℕ) (p : Proc (server P config backend)) (s : ProofStage)
    (proof : CheckedProof) (jkt : String) (t : ℕ) : Prop
    extends R.Verifies i pid p s proof jkt t where
  /-- The nonce is missing or not valid. -/
  noNonce : nonceAccepted P config proof.nonce jkt (normalizeHtu P s.ctx.htu) t = false

/-- The replay guard has room for an entry and holds none under its key, and the call that registers
it does not fail. -/
structure Unused (i : ℕ) (context jti : String) (r : Except Fault Bool) : Prop where
  /-- No entry has the key. -/
  unused : (R.store i).jti.get? (context, jti) = none
  /-- The in-memory guard is not full. -/
  room : backend = .memory → (R.store i).jti.size < Memory.jtiCap
  /-- The call resolves. -/
  resolves : ∀ fault, r ≠ .error fault

/-- The proof that a request verifies at step `i` passes: the request goes on to register the replay
entry, and accepts the proof when the entry is unused. -/
def Passes (i pid : ℕ) (p : Proc (server P config backend)) (s : ProofStage) (proof : CheckedProof)
    (jkt : String) (t : ℕ) : Prop :=
  (∃ k, R.proc (i + 1) pid = some ⟨p.req, p.past ++ [⟨.now, t⟩],
      .call (.db (proofRegistration P config s.ctx proof jkt t)) k⟩) ∧
    ∀ j q r, R.Does j pid q ⟨.db (proofRegistration P config s.ctx proof jkt t), r⟩ →
      q.past = p.past ++ [⟨.now, t⟩] →
      R.Unused j (s.ctx.replayKey P) (dpopReplayId jkt proof.jti) r →
      R.proc (j + 1) pid = some ⟨p.req, q.past ++ [⟨_, r⟩], s.pass jkt⟩

/-- The client recovers from a refusal: the request is answered with a nonce, nothing was recorded,
and every proof under the same key with this nonce, verified by a request to the same endpoint
within a minute, passes. -/
def NonceRecovers (i pid : ℕ) (p : Proc (server P config backend)) (s : ProofStage) (jkt : String)
    (t : ℕ) : Prop :=
  ∃ nonce reply, R.proc (i + 1) pid = some ⟨p.req, p.past ++ [⟨.now, t⟩], .ret reply⟩ ∧
    ("dpop-nonce", nonce) ∈ reply.headers ∧ R.store (i + 1) = R.store i ∧
    ∀ i' pid' p' s' proof' t', R.Verifies i' pid' p' s' proof' jkt t' →
      p'.req.route = p.req.route → s'.ctx = s.ctx → proof'.nonce = some (.str nonce) →
      t ≤ t' → t' ≤ t + 60000 → R.Passes i' pid' p' s' proof' jkt t'

variable {R}

/-- The verification goes on after its reading of the clock. -/
lemma Verifies.step {i pid : ℕ} {p : Proc (server P config backend)} {s : ProofStage}
    {proof : CheckedProof} {jkt : String} {t : ℕ} (h : R.Verifies i pid p s proof jkt t) :
    R.proc (i + 1) pid = some ⟨p.req, p.past ++ [⟨.now, t⟩],
      attempt (verifyAt P config p.req.dpop s.ctx t) >>= goOn s.pass s.refuse⟩ := by
  obtain ⟨k, hk, hproc⟩ := h.reads.todo
  have htodo : p.todo = .call .now fun t =>
      attempt (verifyAt P config p.req.dpop s.ctx t) >>= goOn s.pass s.refuse := by
    rw [h.todo, ProofStage.todo, verifyDpopProof_eq]
    rfl
  rw [htodo] at hk
  injection hk with _ hk
  rw [hproc, ← hk]

/-- **A refused request** goes on with the error that carries the nonce. -/
lemma Refused.step {i pid : ℕ} {p : Proc (server P config backend)} {s : ProofStage}
    {proof : CheckedProof} {jkt : String} {t : ℕ} (h : R.Refused i pid p s proof jkt t)
    (hreq : config.dpopNonceRequired = true) :
    R.proc (i + 1) pid = some ⟨p.req, p.past ++ [⟨.now, t⟩],
      s.refuse (.oauth (useDpopNonce (issueNonce P config jkt (normalizeHtu P s.ctx.htu) t)))⟩ := by
  rw [h.toVerifies.step, verifyAt_refuse hreq h.checked h.thumbprint h.noNonce]
  rfl

/-- **A retry with the nonce passes.** -/
lemma Verifies.passes {i pid : ℕ} {p : Proc (server P config backend)} {s : ProofStage}
    {proof : CheckedProof} {jkt : String} {t : ℕ} (h : R.Verifies i pid p s proof jkt t)
    (hnonce : nonceAccepted P config proof.nonce jkt (normalizeHtu P s.ctx.htu) t = true) :
    R.Passes i pid p s proof jkt t := by
  have hstep := h.step
  rw [verifyAt_accept h.checked h.thumbprint hnonce] at hstep
  refine ⟨⟨_, hstep⟩, fun j q r hd hpast hunused => ?_⟩
  obtain rfl := R.proc_eq_of_past h.reads.lt (Nat.le_of_lt hd.lt) hstep hd.proc hpast.symm
  obtain ⟨x, -, hx⟩ := hd.exec
  have hx : exec P config backend (.db (proofRegistration P config s.ctx proof jkt t)) x
      (R.world j) = some (r, R.world (j + 1)) := hx
  obtain rfl : r = .ok true :=
    Backend.jtiRegister_fresh (exec_db hx) hunused.unused hunused.room hunused.resolves
  obtain ⟨k, hk, hproc⟩ := hd.todo
  injection hk with _ hk
  rw [hproc, ← hk]
  rfl

/-- **Where a client recovers from a refusal.** When nonces are required, the refusal of a proof
that is otherwise valid sends a nonce with which every proof under the same key passes at the same
endpoint for a minute, exactly when the endpoint is not userinfo.

**Proof sketch.** The verification throws the nonce before it registers anything. The token and the
PAR endpoint pass the error on to the error handler, which sends its headers; the userinfo endpoint
catches it and answers a challenge without them. A nonce is valid in its window and the next one,
and a minute leads no further. -/
theorem nonce_recovers_iff {i pid : ℕ} {p : Proc (server P config backend)} {s : ProofStage}
    {proof : CheckedProof} {jkt : String} {t : ℕ} (hreq : config.dpopNonceRequired = true)
    (h : R.Refused i pid p s proof jkt t) :
    R.NonceRecovers i pid p s jkt t ↔ p.req.route ≠ .userinfo := by
  have hstep := h.step hreq
  have hstore : R.store (i + 1) = R.store i := by
    obtain ⟨x, -, hx⟩ := h.reads.exec
    have hx : exec P config backend .now x (R.world i) = some (t, R.world (i + 1)) := hx
    exact exec_store hx (by simp)
  have hrecovers : ∀ {ctx f}, s = .thrown ctx f → R.NonceRecovers i pid p s jkt t := by
    rintro ctx f rfl
    refine ⟨issueNonce P config jkt (normalizeHtu P ctx.htu) t, _, hstep, ?_, hstore,
      fun i' pid' p' s' proof' t' hv _ hctx hnonce hle hsoon => ?_⟩
    · exact mem_onSend_headers (by simp [errorReply, useDpopNonce, ProofStage.thrown])
    · refine hv.passes ?_
      rw [hnonce, hctx]
      exact nonceAccepted_issueNonce hle hsoon
  cases h.stage with
  | token f hroute =>
    refine ⟨fun _ => by simp [hroute], fun _ => hrecovers rfl⟩
  | par f hroute =>
    refine ⟨fun _ => by simp [hroute], fun _ => hrecovers rfl⟩
  | userinfo token cnfJkt subject hroute =>
    refine ⟨fun hrec => ?_, fun hne => absurd hroute hne⟩
    obtain ⟨nonce, reply, hproc, hmem, -⟩ := hrec
    have htodo : Prog.ret reply = Prog.ret (onSend (challenge 401
        (some ("invalid_dpop_proof", "DPoP proof is invalid")))) :=
      congrArg Proc.todo (Option.some.inj (hproc.symm.trans hstep))
    injection htodo with hreply
    subst hreply
    simp [onSend, challenge, noStore] at hmem

end ServerRun

end

namespace Sample

/-! ## Two refusals -/

/-- The configuration that requires nonces. -/
def nonceConfig : AppConfig := { Sample.config with dpopNonceRequired := true }

/-- A proof with a nonce. -/
def withNonce (k : SignedToken) (nonce : String) : SignedToken :=
  { k with claims := k.claims ++ [("nonce", .str nonce)] }

/-- The platform of the deployment, with a nonce for the token endpoint and a proof that has it. -/
def noncePlatform : Platform := Platform.ofTables
  { tables with
    macs := (("n", "k:https://as/token:1"), "N") :: tables.macs
    tokens := withNonce (proof "pn" "POST" "https://as/token" 100 none) "N" :: tables.tokens }

/-- The deployment as a system that requires nonces. -/
abbrev nonceSystem : Sys Ret Exn Reply := server noncePlatform nonceConfig .memory

/-- A token request with a proof that has no nonce. -/
def tokenWithoutNonce : List (Act nonceSystem) := .arrive (redeem "2" "z") :: nextCalls 0 5

/-- A code is issued and redeemed with a proof that has a nonce; the access token is then presented
to the userinfo endpoint with a proof that has none. -/
def userinfoWithoutNonce : List (Act nonceSystem) :=
  .arrive (par "1") :: nextCalls 0 5 ++ [.run 0 { random := reference }] ++ nextCalls 0 1 ++
    .arrive (authorize "A") :: nextCalls 1 4 ++ [.run 1 { decision := .ok true }] ++
    nextCalls 1 3 ++ [.run 1 { random := grantId }] ++ nextCalls 1 1 ++
    [.run 1 { random := code }] ++ nextCalls 1 1 ++
    .arrive (redeem "2" "pn") :: nextCalls 2 6 ++ [.run 2 { loaded := some [signingKey] }] ++
    nextCalls 2 4 ++ [.run 2 { random := jti }, .run 2 { token := .ok "t" }] ++ nextCalls 2 2 ++
    [.run 2 { random := refresh }] ++ nextCalls 2 1 ++
    .arrive (userinfo "t" "u") :: nextCalls 3 5

/-- The proof of a request is under the key `k`, passes the checks before the nonce, and has no
valid nonce. -/
def lacksNonce (ctx : DpopContext) (req : HttpRequest) : Bool :=
  match checkProof noncePlatform nonceConfig req.dpop ctx 100000 with
  | .ok proof => noncePlatform.calculateJwkThumbprint proof.jwk = some "k" &&
      !nonceAccepted noncePlatform nonceConfig proof.nonce "k" (normalizeHtu noncePlatform ctx.htu)
        100000
  | .error _ => false

/-- The last call of a request reads the clock. -/
def endsWithReading (past : List Event) : Bool := past.getLast? = some ⟨.now, 100000⟩

/-- The client of a token request is authenticated, and its proof lacks a nonce. -/
def tokenRefused (req : HttpRequest) (past : List Event) (_ : Reply) : Bool :=
  req.route = .token && req.method = "POST" && req.isForm &&
    str (req.body.get "grant_type") ≠ some "password" &&
    past.head? = some ⟨.allow req.ip, true⟩ && endsWithReading past &&
    (match (authenticateClient noncePlatform nonceConfig req.body req.authorization).outcome
        past.tail.dropLast with
      | some (.ok client) => client.metadata.dpopBoundAccessTokens
      | _ => false) &&
    lacksNonce (tokenDpopContext noncePlatform nonceConfig) req

/-- The token of a userinfo request is live and bound to the key `k`, its proof lacks a nonce, and
it is answered with a challenge without one. -/
def userinfoRefused (req : HttpRequest) (past : List Event) (reply : Reply) : Bool :=
  req.route = .userinfo && isGet req.method &&
    req.authorization.bind dpopCredentials = some "t" &&
    endsWithReading past && endsWithReading past.dropLast &&
    (match (findAccessToken noncePlatform nonceConfig "t").outcome past.dropLast.dropLast with
      | some (.ok (some record)) => record.revokedAt = none &&
          record.expiresAt.isPast 100000 = false && record.cnfJkt = some "k"
      | _ => false) &&
    lacksNonce (userinfoDpopContext noncePlatform nonceConfig req.method "t") req &&
    reply.status = 401 && reply.headers.all (·.1 ≠ "dpop-nonce")

lemma lacksNonce_eq_true {ctx : DpopContext} {req : HttpRequest} (h : lacksNonce ctx req = true) :
    ∃ proof, checkProof noncePlatform nonceConfig req.dpop ctx 100000 = .ok proof ∧
      noncePlatform.calculateJwkThumbprint proof.jwk = some "k" ∧
      nonceAccepted noncePlatform nonceConfig proof.nonce "k" (normalizeHtu noncePlatform ctx.htu)
        100000 = false := by
  unfold lacksNonce at h
  split at h
  · rename_i proof hproof
    simp only [Bool.and_eq_true, decide_eq_true_eq, Bool.not_eq_true'] at h
    exact ⟨proof, hproof, h⟩
  · cases h

lemma endsWithReading_eq_true {past : List Event} (h : endsWithReading past = true) :
    past = past.dropLast ++ [⟨.now, (100000 : ℕ)⟩] := by
  simp only [endsWithReading, decide_eq_true_eq] at h
  obtain ⟨before, rfl⟩ := List.getLast?_eq_some_iff.mp h
  simp

/-- An answered request whose last call is the reading of its verification was refused. -/
lemma refused_of_answered {R : ServerRun noncePlatform nonceConfig .memory} {pid : ℕ}
    {req : HttpRequest} {past : List Event} {reply : Reply} {s : ProofStage}
    (hp : R.proc R.len pid = some ⟨req, past, .ret reply⟩) (hend : endsWithReading past = true)
    (hstage : s.Of noncePlatform nonceConfig req)
    (hpath : Prog.Path (handler noncePlatform nonceConfig req) past.dropLast
      (s.todo noncePlatform nonceConfig req)) (hlacks : lacksNonce s.ctx req = true) :
    ∃ i p proof, R.Refused i pid p s proof "k" 100000 ∧ p.req = req ∧
      R.proc (i + 1) pid = some ⟨req, past, .ret reply⟩ := by
  have hpast := endsWithReading_eq_true hend
  obtain ⟨proof, hproof, hjkt, hnonce⟩ := lacksNonce_eq_true hlacks
  obtain ⟨i, -, p, hd, rfl, hq⟩ := R.did_at le_rfl hp hpast
  have htodo := (R.path (Nat.le_of_lt hd.lt) hd.proc).functional (hq ▸ hpath)
  obtain ⟨k, -, hk⟩ := hd.todo
  have hlast := R.proc_eq_of_past hd.lt le_rfl hk hp (by rw [hq]; exact hpast.symm)
  exact ⟨i, p, proof, ⟨⟨hstage, htodo, hd, hproof, hjkt⟩, hnonce⟩, rfl, hlast ▸ hk⟩

set_option maxRecDepth 4000 in
lemma tokenWithoutNonce_trace : (nonceSystem.trace ⟨world, []⟩ tokenWithoutNonce).any
    (fun trace => trace.2.answers 0 tokenRefused) = true := by
  decide +kernel

set_option maxRecDepth 4000 in
lemma userinfoWithoutNonce_trace : (nonceSystem.trace ⟨world, []⟩ userinfoWithoutNonce).any
    (fun trace => trace.2.answers 3 userinfoRefused) = true := by
  decide +kernel

/-- The run of a token request without a nonce. -/
def tokenRefusal : ServerRun noncePlatform nonceConfig .memory :=
  .ofTrace world tokenWithoutNonce world_initial _ tokenWithoutNonce_trace

/-- The run of a userinfo request without a nonce. -/
def userinfoRefusal : ServerRun noncePlatform nonceConfig .memory :=
  .ofTrace world userinfoWithoutNonce world_initial _ userinfoWithoutNonce_trace

/-- A token request that is refused recovers. -/
theorem token_refusal_recovers : ∃ i p s, p.req.route = .token ∧
    tokenRefusal.NonceRecovers i 0 p s "k" 100000 := by
  obtain ⟨steps, last, ht, hshown⟩ : ∃ steps last, tokenRefusal.HasTrace steps last ∧
    last.answers 0 tokenRefused = true := Run.hasTrace_ofTrace tokenWithoutNonce_trace
  obtain ⟨req, past, reply, hp, hrefused⟩ := ht.answers hshown
  simp only [tokenRefused, Bool.and_eq_true, decide_eq_true_eq] at hrefused
  obtain ⟨⟨⟨⟨⟨⟨⟨hroute, hmethod⟩, hform⟩, hgrant⟩, hhead⟩, hend⟩, hauth⟩, hlacks⟩ := hrefused
  split at hauth
  · rename_i client hclient
    obtain ⟨rest, rfl⟩ := List.head?_eq_some_iff.mp hhead
    have hne : rest ≠ [] := by
      rintro rfl
      simp [endsWithReading] at hend
    have hdrop := List.dropLast_cons_of_ne_nil (x := (⟨.allow req.ip, true⟩ : Event)) hne
    obtain ⟨s, hctx, hstage, hpath⟩ := token_stage hroute hmethod hform hgrant
      (Prog.path_of_outcome hclient) hauth
    rw [← hctx] at hlacks
    obtain ⟨i, p, proof, hr, rfl, -⟩ :=
      refused_of_answered hp hend hstage (hdrop ▸ hpath) hlacks
    exact ⟨i, p, s, hroute, (ServerRun.nonce_recovers_iff rfl hr).mpr (by simp [hroute])⟩
  · cases hauth

/-- **The userinfo endpoint sends no nonce.** The token is live and bound to the key of the proof,
which lacks nothing but a nonce: the challenge does not carry one, and the client cannot recover. -/
theorem userinfo_challenge_without_nonce : nonceConfig.dpopNonceRequired = true ∧
    ∃ i p s proof reply, p.req.route = .userinfo ∧
      userinfoRefusal.Refused i 3 p s proof "k" 100000 ∧
      userinfoRefusal.proc (i + 1) 3 = some ⟨p.req, p.past ++ [⟨.now, (100000 : ℕ)⟩], .ret reply⟩ ∧
      reply.status = 401 ∧ (∀ nonce, ("dpop-nonce", nonce) ∉ reply.headers) ∧
      ¬userinfoRefusal.NonceRecovers i 3 p s "k" 100000 := by
  obtain ⟨steps, last, ht, hshown⟩ : ∃ steps last, userinfoRefusal.HasTrace steps last ∧
    last.answers 3 userinfoRefused = true := Run.hasTrace_ofTrace userinfoWithoutNonce_trace
  obtain ⟨req, past, reply, hp, hrefused⟩ := ht.answers hshown
  simp only [userinfoRefused, Bool.and_eq_true, decide_eq_true_eq, List.all_eq_true] at hrefused
  obtain ⟨⟨⟨⟨⟨⟨⟨⟨hroute, hmethod⟩, htoken⟩, hend⟩, hend'⟩, hfound⟩, hlacks⟩, hstatus⟩, hheaders⟩ :=
    hrefused
  have hno : ∀ nonce, ("dpop-nonce", nonce) ∉ reply.headers :=
    fun nonce hmem => hheaders _ hmem rfl
  split at hfound
  · rename_i record hrecord
    simp only [Bool.and_eq_true, decide_eq_true_eq] at hfound
    obtain ⟨⟨hunrevoked, hunexpired⟩, hbound⟩ := hfound
    obtain ⟨s, hctx, hstage, hpath⟩ := userinfo_stage hroute (.inl hmethod) htoken (by decide)
      (Prog.path_of_outcome hrecord) hunrevoked hunexpired hbound (by decide)
    rw [← hctx] at hlacks
    obtain ⟨i, p, proof, hr, rfl, hlast⟩ := refused_of_answered hp hend hstage
      (endsWithReading_eq_true hend' ▸ hpath) hlacks
    obtain ⟨k, -, hk⟩ := hr.reads.todo
    have hpast : past = p.past ++ [⟨.now, (100000 : ℕ)⟩] :=
      congrArg Proc.past (Option.some.inj (hlast.symm.trans hk))
    subst hpast
    refine ⟨rfl, i, p, s, proof, reply, hroute, hr, hlast, hstatus, hno, ?_⟩
    rintro ⟨nonce, reply', hlast', hmem, -⟩
    have htodo : Prog.ret reply' = Prog.ret reply :=
      congrArg Proc.todo (Option.some.inj (hlast'.symm.trans hlast))
    injection htodo with hreply
    exact hno nonce (hreply ▸ hmem)
  · cases hfound

end Sample

end Fapi2As
