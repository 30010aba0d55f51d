import Fapi2As.Domain.Sessions
import Fapi2As.Js.Encoding
import Fapi2As.Sample

set_option relaxedAutoImplicit false
set_option autoImplicit false

/-!
# Session cookies and CSRF tokens under one key

Session cookies and CSRF tokens are MACs under the same secret: of a base64url payload, and of an
anchor behind the prefix `csrf:`. No payload that the server seals holds a colon, so no session
signature is a CSRF token. The converse needs the decoder: a cookie whose payload is a prefixed
anchor and whose signature is the CSRF token of the anchor passes the signature check, and the
lenient decoder skips its colon; but the prefix then decodes to a text that starts with the letter
`r`, which no JSON text does.

## Main definitions

* `Fapi2As.Outsider` — what can be sent by somebody who does not know the secret, under a symbolic
  MAC.
* `Fapi2As.NodeDecodes`, `Fapi2As.JsonTexts` — what is used of the decoder and of the JSON
  functions.

## Main results

* `Fapi2As.openSession_csrf` — a CSRF token signs no session.
* `Fapi2As.session_tokens_sound` — a session that opens was sealed, a CSRF token that verifies was
  issued for the anchor, and neither serves as the other.
-/

namespace Fapi2As

open Js

variable {P : Platform} {secret : String}

/-! ## The messages that are MACed -/

/-- The payload of a sealed session. -/
def sessionPayload (P : Platform) (session : LoginSession) : String :=
  base64urlText (P.jsonStringify session.toJson)

/-- The message of a CSRF token. -/
def csrfMessage (anchor : String) : String := "csrf:" ++ anchor

/-- The messages whose MACs the server has output: the payloads of the sealed sessions, and the
messages of the issued CSRF tokens. -/
def Maced (P : Platform) (sealed : Set LoginSession) (anchors : Set String) (m : String) : Prop :=
  (∃ session ∈ sealed, m = sessionPayload P session) ∨ ∃ anchor ∈ anchors, m = csrfMessage anchor

/-- **The texts somebody without the secret can send**, when the server has sealed some sessions and
issued CSRF tokens for some anchors. The MAC is symbolic: different messages have different MACs,
and a MAC under the secret is known only when the server has output it. Whoever knows a text knows
what stands behind its first dot. -/
structure Outsider (P : Platform) (secret : String) (sealed : Set LoginSession)
    (anchors : Set String) (sent : Set String) : Prop where
  /-- Messages with the same MAC are the same. -/
  injective : Function.Injective (P.hmacBase64Url secret)
  /-- A MAC that is known was output. -/
  output : ∀ m, P.hmacBase64Url secret m ∈ sent → Maced P sealed anchors m
  /-- The part behind the first dot is known with the text. -/
  parts : ∀ v ∈ sent, ∀ payload sig, cut '.' v = some (payload, sig) → sig ∈ sent

/-- **The decoder of base64url**: the encoding of a text is decoded to it; and when the message of a
CSRF token is decoded, a byte below 128 at the start is decoded to its character, whatever follows.
-/
structure NodeDecodes (P : Platform) : Prop where
  text : ∀ t, P.base64urlDecode (base64urlText t) = t
  ascii : ∀ anchor b l, base64urlBytes (csrfMessage anchor) = b :: l → b < 128 →
    ∃ t, P.base64urlDecode (csrfMessage anchor) = String.ofList (Char.ofNat b :: t)

/-- **The JSON functions**: no JSON text starts with the letter `r`, and the text of a session is
parsed to its members. -/
structure JsonTexts (P : Platform) (sealed : Set LoginSession) : Prop where
  start : ∀ t, P.jsonParse (String.ofList ('r' :: t)) = none
  roundTrip : ∀ session ∈ sealed, P.jsonParse (P.jsonStringify session.toJson) = some session.toJson

/-! ## The two kinds of messages -/

lemma colon_notMem_sessionPayload (session : LoginSession) :
    ':' ∉ (sessionPayload P session).toList := notMem_base64urlText (by decide) _

/-- No payload that is sealed is the message of a CSRF token. -/
lemma sessionPayload_ne_csrfMessage (session : LoginSession) (anchor : String) :
    sessionPayload P session ≠ csrfMessage anchor := by
  intro h
  apply colon_notMem_sessionPayload (P := P) session
  rw [h, csrfMessage, String.toList_append]
  exact List.mem_append_left _ (by decide)

/-- The message of a CSRF token decodes to bytes that start with the one of the letter `r`. -/
lemma base64urlBytes_csrfMessage (anchor : String) :
    ∃ l, base64urlBytes (csrfMessage anchor) = 114 :: l := by
  have hchars : (csrfMessage anchor).toList = ['c', 's', 'r', 'f', ':'] ++ anchor.toList := by
    rw [csrfMessage, String.toList_append]
    rfl
  have hkept : ∀ c ∈ ['c', 's', 'r', 'f', ':'], decide (c ≠ '=') = true := by simp
  have hprefix : ['c', 's', 'r', 'f', ':'].filterMap base64Value = [28, 44, 43, 31] := by decide
  unfold base64urlBytes
  rw [hchars, List.takeWhile_append_of_pos hkept, List.filterMap_append, hprefix]
  exact ⟨_, rfl⟩

/-- A payload that is the message of a CSRF token is no JSON text. -/
lemma jsonParse_csrfMessage (hnode : NodeDecodes P) {sealed : Set LoginSession}
    (hjson : JsonTexts P sealed) (anchor : String) :
    P.jsonParse (P.base64urlDecode (csrfMessage anchor)) = none := by
  obtain ⟨l, hl⟩ := base64urlBytes_csrfMessage anchor
  obtain ⟨t, ht⟩ := hnode.ascii _ _ _ hl (by omega)
  rw [ht]
  exact hjson.start t

/-! ## The cookie -/

/-- What a session cookie that opens has passed. -/
lemma openSession_eq_some {v : String} {nowSec : ℕ} {session : LoginSession}
    (h : openSession P (some v) secret nowSec = some session) :
    ∃ payload, cut '.' v = some (payload, P.hmacBase64Url secret payload) ∧
      (P.jsonParse (P.base64urlDecode payload)).bind LoginSession.ofJson = some session ∧
      nowSec < session.exp := by
  simp only [openSession, Option.bind_eq_bind, Option.bind_eq_some_iff, Option.pure_def,
    Option.guard_eq_some', Option.some.injEq, Prod.exists, exists_const] at h
  obtain ⟨v', rfl, payload, sig, hcut, -, rfl, obj, hobj, x, hx, hexp, rfl⟩ := h
  refine ⟨payload, hcut, ?_, hexp⟩
  rw [hobj, Option.bind_some, hx]

/-- The payload of a sealed session is parsed to the session. -/
lemma sealed_parses (hnode : NodeDecodes P) {sealed : Set LoginSession} (hjson : JsonTexts P sealed)
    {session : LoginSession} (hsession : session ∈ sealed) :
    (P.jsonParse (P.base64urlDecode (sessionPayload P session))).bind LoginSession.ofJson =
      some session := by
  rw [sessionPayload, hnode.text, hjson.roundTrip session hsession, Option.bind_some,
    session.ofJson_toJson]

/-- **A CSRF token signs no session**, whatever its anchor. -/
lemma openSession_csrf (hmac : Function.Injective (P.hmacBase64Url secret)) (hnode : NodeDecodes P)
    {sealed : Set LoginSession} (hjson : JsonTexts P sealed) {anchor v payload : String}
    (nowSec : ℕ)
    (hcut : cut '.' v = some (payload, issueCsrfToken P anchor secret)) :
    openSession P (some v) secret nowSec = none := by
  apply Option.eq_none_iff_forall_ne_some.mpr
  intro session h
  obtain ⟨p, hp, hparse, -⟩ := openSession_eq_some h
  rw [hcut, Option.some.injEq, Prod.mk.injEq] at hp
  have hmessage : csrfMessage anchor = p := hmac hp.2
  rw [← hmessage, jsonParse_csrfMessage hnode hjson, Option.bind_none] at hparse
  cases hparse

/-- **A session that opens was sealed, and a CSRF token that verifies was issued for the anchor.**
Somebody who knows only the MACs that the server has output opens exactly the sealed sessions,
before they expire, and is accepted with exactly the issued CSRF tokens; no CSRF token signs a
session, and no session signature is a CSRF token.

**Proof sketch.** The signature of a cookie that opens is the MAC of its payload, so the payload was
MACed: as a sealed session, whose members it then parses to, or as the message of a CSRF token,
which parses to nothing. A CSRF token that verifies is the MAC of a message with a colon, which no
sealed payload has. -/
theorem session_tokens_sound {sealed : Set LoginSession} {anchors sent : Set String}
    (hout : Outsider P secret sealed anchors sent) (hnode : NodeDecodes P)
    (hjson : JsonTexts P sealed) :
    (∀ v ∈ sent, ∀ (nowSec : ℕ) (session : LoginSession),
      openSession P (some v) secret nowSec = some session →
        session ∈ sealed ∧ v = sealSession P session secret ∧ nowSec < session.exp) ∧
    (∀ t ∈ sent, ∀ sid, verifyCsrfToken P (some t) sid secret = true →
      sid ∈ anchors ∧ t = issueCsrfToken P sid secret) ∧
    (∀ anchor v payload, cut '.' v = some (payload, issueCsrfToken P anchor secret) →
      ∀ nowSec, openSession P (some v) secret nowSec = none) ∧
    (∀ session payload sig, cut '.' (sealSession P session secret) = some (payload, sig) →
      ∀ sid, verifyCsrfToken P (some sig) sid secret = false) := by
  refine ⟨fun v hv nowSec session h => ?_, fun t ht sid h => ?_,
    fun anchor v payload hcut nowSec => openSession_csrf hout.injective hnode hjson nowSec hcut,
    fun session payload sig hcut sid => ?_⟩
  · obtain ⟨payload, hcut, hparse, hexp⟩ := openSession_eq_some h
    rcases hout.output _ (hout.parts v hv _ _ hcut) with ⟨s, hs, rfl⟩ | ⟨anchor, -, rfl⟩
    · have hsame := (sealed_parses hnode hjson hs).symm.trans hparse
      obtain rfl := Option.some.inj hsame
      exact ⟨hs, eq_of_cut hcut, hexp⟩
    · rw [jsonParse_csrfMessage hnode hjson, Option.bind_none] at hparse
      cases hparse
  · have heq : t = issueCsrfToken P sid secret := by
      have hsome := verifyCsrfToken_eq_true h
      exact Option.some.inj hsome
    subst heq
    refine ⟨?_, rfl⟩
    rcases hout.output _ ht with ⟨s, -, hs⟩ | ⟨anchor, hanchor, hs⟩
    · exact absurd hs.symm (sessionPayload_ne_csrfMessage s sid)
    · obtain rfl : sid = anchor := (String.append_right_inj _).mp hs
      exact hanchor
  · by_contra hc
    rw [Bool.not_eq_false] at hc
    have hsig := Option.some.inj (verifyCsrfToken_eq_true hc)
    have hseal : cut '.' (sealSession P session secret) = some (sessionPayload P session,
        P.hmacBase64Url secret (sessionPayload P session)) :=
      cut_append (notMem_base64urlText (by decide) _)
    rw [hseal, Option.some.injEq, Prod.mk.injEq] at hcut
    exact sessionPayload_ne_csrfMessage session sid (hout.injective (hcut.2.trans hsig))

namespace Sample

/-! ## A platform with the decoder of Node -/

/-- The sample platform with the decoder of Node and a MAC that shows its message. -/
def nodePlatform : Platform :=
  { platform with
    hmacBase64Url := fun secret data => secret ++ data
    base64urlDecode := fun s => lossyText (base64urlBytes s) }

lemma nodePlatform_base64urlDecode (s : String) :
    nodePlatform.base64urlDecode s = lossyText (base64urlBytes s) := rfl

lemma nodePlatform_decodes : NodeDecodes nodePlatform where
  text t := by
    rw [nodePlatform_base64urlDecode, base64urlBytes_base64urlText, lossyText_utf8]
  ascii anchor b l h hb := by
    rw [nodePlatform_base64urlDecode, h]
    refine lossyText_ascii ?_ hb
    rw [← h]
    refine groupBytes_lt fun a ha => ?_
    obtain ⟨c, -, hc⟩ := List.mem_filterMap.mp ha
    exact base64Value_lt hc

/-- The session of the user. -/
def userSession : LoginSession where
  sid := "i"
  sub := "u"
  authTime := 90
  exp := 9000
  acr := none
  amr := none

lemma nodePlatform_json : JsonTexts nodePlatform {userSession} where
  start t := by
    change assoc _ tables.documents = none
    apply assoc_eq_none
    intro hmem
    have hkeys : ∀ k ∈ tables.documents.map Prod.fst, k.toList.head? ≠ some 'r' := by decide
    exact hkeys _ hmem (by simp)
  roundTrip session hsession := by
    obtain rfl := hsession
    decide

/-- The cookie of the session, its signature, and a CSRF token. -/
def seen : Set String := {"ZQ.sZQ", "sZQ", "scsrf:i"}

lemma seen_outsider : Outsider nodePlatform "s" {userSession} {"i"} seen where
  injective m m' h := by
    have h : "s" ++ m = "s" ++ m' := h
    exact (String.append_right_inj _).mp h
  output m hm := by
    have hmac : "s" ++ m ∈ seen := hm
    simp only [seen, Set.mem_insert_iff, Set.mem_singleton_iff] at hmac
    rcases hmac with h | h | h
    · have hhead := congrArg (fun t => t.toList.head?) h
      simp at hhead
    · left
      have hm : m = "ZQ" :=
        (String.append_right_inj _).mp (h.trans (by decide : "sZQ" = "s" ++ "ZQ"))
      exact ⟨userSession, rfl, hm.trans (by decide)⟩
    · right
      have hm : m = "csrf:i" :=
        (String.append_right_inj _).mp (h.trans (by decide : "scsrf:i" = "s" ++ "csrf:i"))
      exact ⟨"i", rfl, hm⟩
  parts v hv payload sig hcut := by
    simp only [seen, Set.mem_insert_iff, Set.mem_singleton_iff] at hv
    rcases hv with rfl | rfl | rfl
    · have hsig : cut '.' "ZQ.sZQ" = some ("ZQ", "sZQ") := by decide
      rw [hsig] at hcut
      simp only [Option.some.injEq, Prod.mk.injEq] at hcut
      simp [seen, ← hcut.2]
    · have hnone : cut '.' "sZQ" = none := by decide
      rw [hnone] at hcut
      cases hcut
    · have hnone : cut '.' "scsrf:i" = none := by decide
      rw [hnone] at hcut
      cases hcut

/-- The sealed session opens from its cookie, and the CSRF token of its anchor signs nothing. -/
theorem cookie_of_userSession :
    ("ZQ.sZQ" = sealSession nodePlatform userSession "s" ∧ (100 : ℕ) < userSession.exp) ∧
      verifyCsrfToken nodePlatform (some "scsrf:i") "i" "s" = true ∧
      openSession nodePlatform (some "csrf:i.scsrf:i") "s" 100 = none := by
  have hsound := session_tokens_sound seen_outsider nodePlatform_decodes nodePlatform_json
  have hseal : Sealable nodePlatform userSession :=
    { text := by decide
      payload := by
        rw [nodePlatform_decodes.text]
        exact nodePlatform_json.roundTrip _ rfl }
  have hcookie : sealSession nodePlatform userSession "s" = "ZQ.sZQ" := by decide
  have hopen : openSession nodePlatform (some "ZQ.sZQ") "s" 100 = some userSession := by
    rw [← hcookie]
    exact openSession_sealSession hseal "s" (by norm_num [userSession])
  have hfound := hsound.1 "ZQ.sZQ" (by simp [seen]) 100 userSession hopen
  exact ⟨hfound.2, by decide, hsound.2.2.1 "i" _ "csrf:i" (by decide) 100⟩

end Sample

end Fapi2As
