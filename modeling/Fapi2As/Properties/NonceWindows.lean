import Fapi2As.Js.Encoding
import Fapi2As.Sample

set_option relaxedAutoImplicit false
set_option autoImplicit false

/-!
# The windows of a nonce

A nonce is the MAC of a thumbprint, a URL and a time window, joined by colons. The URL holds colons
itself, but the thumbprint and the digits of the window do not, so the join determines its three
parts. A nonce is accepted in its own window of a minute and in the next one.

## Main results

* `Fapi2As.nonceFor_inj` — under an injective MAC, a nonce determines its key, URL and window.
* `Fapi2As.nonce_windows_exact` — when the nonce of an instant is accepted at another one.
-/

namespace Fapi2As

open Js

/-- A thumbprint is a base64url text. -/
def IsBase64url (s : String) : Prop := ∀ c ∈ s.toList, isBase64urlChar c = true

variable {P : Platform} {config : AppConfig}

lemma colon_notMem {s : String} (h : IsBase64url s) : ':' ∉ s.toList := by
  intro hmem
  exact absurd (h ':' hmem) (by decide)

lemma colon_notMem_decimal (z : ℤ) : ':' ∉ (toString z).toList := by
  intro hmem
  rcases mem_decimal hmem with h | h
  · exact absurd h (by decide)
  · exact absurd h (by decide)

/-- **A nonce determines its key, URL and window.** The first colon of the message ends the
thumbprint and the last one starts the window. -/
lemma nonceFor_inj (hmac : Function.Injective (P.hmacBase64Url config.dpopNonceSecret))
    {jkt jkt' htu htu' : String} {w w' : ℤ} (hjkt : IsBase64url jkt) (hjkt' : IsBase64url jkt')
    (h : nonceFor P config jkt htu w = nonceFor P config jkt' htu' w') :
    jkt = jkt' ∧ htu = htu' ∧ w = w' := by
  have hmessage : jkt ++ ":" ++ htu ++ ":" ++ toString w =
      jkt' ++ ":" ++ htu' ++ ":" ++ toString w' := hmac h
  obtain ⟨hkey, hwindow⟩ :=
    join_inj_right (colon_notMem_decimal w) (colon_notMem_decimal w') hmessage
  obtain ⟨hj, hu⟩ := join_inj_left (colon_notMem hjkt) (colon_notMem hjkt') hkey
  exact ⟨hj, hu, decimal_inj hwindow⟩

/-- The window of an instant in milliseconds. -/
lemma nonceWindow_eq (t : ℕ) : nonceWindow t = (t / 60000 : ℕ) := by
  unfold nonceWindow nonceWindowSec
  rw [Nat.div_div_eq_div_mul]

/-- **The nonce of an instant is accepted exactly for its key and URL, in its window of a minute and
in the next one**, so for at least sixty seconds after it was issued and for less than a hundred and
twenty.

**Proof sketch.** A nonce that is accepted is one of the two that the other instant accepts. By the
injectivity of the MAC the keys, the URLs and the windows are then the same, and the windows are the
quotients of the instants by a minute. -/
theorem nonce_windows_exact (hmac : Function.Injective (P.hmacBase64Url config.dpopNonceSecret))
    {jkt jkt' : String} (hjkt : IsBase64url jkt) (hjkt' : IsBase64url jkt') (htu htu' : String)
    (t t' : ℕ) :
    (validNonce P config (issueNonce P config jkt htu t) jkt' htu' t' = true ↔
      jkt = jkt' ∧ htu = htu' ∧ (t' / 60000 = t / 60000 ∨ t' / 60000 = t / 60000 + 1)) ∧
    (t ≤ t' → t' ≤ t + 60000 →
      validNonce P config (issueNonce P config jkt htu t) jkt htu t' = true) ∧
    (t + 120000 ≤ t' →
      validNonce P config (issueNonce P config jkt htu t) jkt' htu' t' = false) ∧
    (jkt ≠ jkt' ∨ htu ≠ htu' →
      validNonce P config (issueNonce P config jkt htu t) jkt' htu' t' = false) := by
  have hiff : ∀ {k k' : String} (_ : IsBase64url k) (_ : IsBase64url k') (u u' : String),
      validNonce P config (issueNonce P config k u t) k' u' t' = true ↔
        k = k' ∧ u = u' ∧ (t' / 60000 = t / 60000 ∨ t' / 60000 = t / 60000 + 1) := by
    intro k k' hk hk' u u'
    rw [validNonce, issueNonce, Bool.or_eq_true, decide_eq_true_iff, decide_eq_true_iff]
    constructor
    · rintro (h | h)
      · obtain ⟨hkey, hurl, hw⟩ := nonceFor_inj hmac hk hk' h
        rw [nonceWindow_eq, nonceWindow_eq] at hw
        exact ⟨hkey, hurl, by omega⟩
      · obtain ⟨hkey, hurl, hw⟩ := nonceFor_inj hmac hk hk' h
        rw [nonceWindow_eq, nonceWindow_eq] at hw
        exact ⟨hkey, hurl, by omega⟩
    · rintro ⟨rfl, rfl, hw⟩
      rw [nonceWindow_eq, nonceWindow_eq]
      rcases hw with hw | hw
      · left
        rw [hw]
      · right
        rw [hw]
        congr 1
        omega
  refine ⟨hiff hjkt hjkt' htu htu', fun hle hlt => ?_, fun hle => ?_, fun hne => ?_⟩
  · rw [hiff hjkt hjkt]
    exact ⟨rfl, rfl, by omega⟩
  · rw [Bool.eq_false_iff, ne_eq, hiff hjkt hjkt']
    rintro ⟨-, -, hw⟩
    omega
  · rw [Bool.eq_false_iff, ne_eq, hiff hjkt hjkt']
    rintro ⟨hkey, hurl, -⟩
    exact hne.elim (fun h => h hkey) (fun h => h hurl)

namespace Sample

/-- The platform with a MAC that shows its message. -/
def clearPlatform : Platform := { platform with hmacBase64Url := fun _ data => data }

/-- The nonce of second 59 is accepted at second 119 and refused at second 179. -/
theorem nonce_of_second_59 :
    validNonce clearPlatform Sample.config
        (issueNonce clearPlatform Sample.config "k" "https://as/token" 59000) "k" "https://as/token"
        119000 = true ∧
      validNonce clearPlatform Sample.config
        (issueNonce clearPlatform Sample.config "k" "https://as/token" 59000) "k" "https://as/token"
        179000 = false := by
  have hmac : Function.Injective (clearPlatform.hmacBase64Url Sample.config.dpopNonceSecret) :=
    fun _ _ h => h
  have hkey : IsBase64url "k" := by
    intro c hc
    obtain rfl : c = 'k' := by simpa using hc
    decide
  have hfirst := nonce_windows_exact hmac hkey hkey "https://as/token"
    "https://as/token" 59000 119000
  have hsecond := nonce_windows_exact hmac hkey hkey "https://as/token"
    "https://as/token" 59000 179000
  exact ⟨hfirst.2.1 (by omega) (by omega), hsecond.2.2.1 (by omega)⟩

end Sample

end Fapi2As
