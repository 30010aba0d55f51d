import Fapi2As.Db.Effects
import Fapi2As.Db.JtiReplay

set_option relaxedAutoImplicit false
set_option autoImplicit false

/-!
# The texts of the storage calls

A PostgreSQL text cannot hold the character U+0000. The texts of a repository call are all the
strings that it passes to the adapter, as keys or as values, those inside untyped values among them.
The tables are free of the character when the insertion of every row would be, and calls whose texts
are free of it keep them so.

## Main definitions

* `Fapi2As.Query.strings`, `Fapi2As.Query.NulFree` — the texts of a call.
* `Fapi2As.Store.NulFree`, `Fapi2As.Query.ResNulFree` — tables and answers without U+0000.

## Main results

* `Fapi2As.Query.NulFree.accepted` — no statement is refused for the character.
* `Fapi2As.Carried.nulFree`, `Fapi2As.Carried.resNulFree` — what a call keeps and what it answers.
-/

namespace Fapi2As

open Js

/-! ## Texts -/

instance (s : String) : Decidable (NulFree s) := inferInstanceAs (Decidable (_ ∉ _))

/-- A text of characters of a class without U+0000. -/
lemma nulFree_of_forall {s : String} {p : Char → Bool} (hp : p '\x00' = false)
    (h : ∀ c ∈ s.toList, p c = true) : NulFree s :=
  fun hmem => by simp [h _ hmem] at hp

lemma nulFree_append {s t : String} (hs : NulFree s) (ht : NulFree t) : NulFree (s ++ t) := by
  simpa [NulFree] using ⟨hs, ht⟩

/-- Base64url has no U+0000. -/
lemma nulFree_base64urlText (s : String) : NulFree (base64urlText s) :=
  notMem_base64urlText (by decide) s

mutual

/-- The strings in an untyped value, the names of members among them. -/
def jsonTexts : Json → List String
  | .str s => [s]
  | .arr l => listTexts l
  | .obj fields => fieldTexts fields
  | .null | .bool _ | .num _ => []

/-- The strings in an array. -/
def listTexts : List Json → List String
  | [] => []
  | v :: l => jsonTexts v ++ listTexts l

/-- The strings in the members of an object. -/
def fieldTexts : List (String × Json) → List String
  | [] => []
  | (name, v) :: fields => name :: jsonTexts v ++ fieldTexts fields

end

/-! ## The texts of a call -/

/-- The untyped values among the arguments of a call. -/
def Query.values : Query → List Json
  | .interactionsInsert rec => rec.acr.toList ++ rec.amr.toList
  | .interactionsSetSubject _ _ _ acr amr => acr.toList ++ amr.toList
  | _ => []

/-- **All strings that a call passes to the storage adapter.** -/
def Query.strings (q : Query) : List String := Pg.texts q ++ q.values.flatMap jsonTexts

/-- No string of a call has the character U+0000. -/
def Query.NulFree (q : Query) : Prop := ∀ t ∈ q.strings, Fapi2As.NulFree t

instance (q : Query) : Decidable q.NulFree := inferInstanceAs (Decidable (∀ t ∈ q.strings, _))

variable {q : Query} {s s' : Store}

/-- **No statement is refused for the character**: among the reasons for which the schema refuses a
statement, only the others are left. -/
lemma Query.NulFree.accepted (h : q.NulFree) :
    (Pg.texts q).any (fun t => t.toList.contains '\x00') = false := by
  rw [List.any_eq_false]
  intro t ht
  have hfree : '\x00' ∉ t.toList := h t (List.mem_append_left _ ht)
  simpa using hfree

/-! ## Tables -/

/-- The tables are free of U+0000: the insertion of every row would be. -/
structure Store.NulFree (s : Store) : Prop where
  par : ∀ k row, s.par.get? k = some row → (Query.parInsert row.record).NulFree
  grants : ∀ k rec, s.grants.get? k = some rec → (Query.grantsInsert rec).NulFree
  codes : ∀ k row, s.codes.get? k = some row → (Query.codesInsert row.record).NulFree
  accessTokens : ∀ k rec, s.accessTokens.get? k = some rec → (Query.accessTokensInsert rec).NulFree
  refreshTokens : ∀ k rec, s.refreshTokens.get? k = some rec →
    (Query.refreshTokensInsert rec).NulFree
  interactions : ∀ k row, s.interactions.get? k = some row →
    (Query.interactionsInsert row.record).NulFree

/-- An answer is free of U+0000: a client has the identifier that was asked for, and every record
that is returned could be inserted. -/
def Query.ResNulFree : (q : Query) → q.Res → Prop
  | .clientsFindById clientId, r => ∀ rec : ClientRecord, r = some rec → rec.clientId = clientId
  | .parPeek _ _, r => ∀ rec : ParRequestRecord, r = some rec → (Query.parInsert rec).NulFree
  | .grantsFind _, r => ∀ rec : GrantRecord, r = some rec → (Query.grantsInsert rec).NulFree
  | .codesRedeem _ _, r => ∀ rec : AuthorizationCodeRecord, r = .ok rec ∨ r = .consumed rec →
      (Query.codesInsert rec).NulFree
  | .accessTokensFindByJti _, r => ∀ rec : AccessTokenRecord, r = some rec →
      (Query.accessTokensInsert rec).NulFree
  | .refreshTokensFindByHash _, r => ∀ rec : RefreshTokenRecord, r = some rec →
      (Query.refreshTokensInsert rec).NulFree
  | .interactionsFind _ _, r => ∀ rec : InteractionRecord, r = some rec →
      (Query.interactionsInsert rec).NulFree
  | _, _ => True

/-- A revocation changes no text of a grant. -/
lemma GrantRecord.strings_revoke (t : ℕ) (r : GrantRecord) :
    (Query.grantsInsert (r.revoke t)).strings = (Query.grantsInsert r).strings := by
  unfold GrantRecord.revoke
  split_ifs <;> rfl

/-- A revocation changes no text of an access token. -/
lemma AccessTokenRecord.strings_revoke (t : ℕ) (r : AccessTokenRecord) :
    (Query.accessTokensInsert (r.revoke t)).strings = (Query.accessTokensInsert r).strings := by
  unfold AccessTokenRecord.revoke
  split_ifs <;> rfl

/-- A revocation changes no text of a refresh token. -/
lemma RefreshTokenRecord.strings_revoke (t : ℕ) (r : RefreshTokenRecord) :
    (Query.refreshTokensInsert (r.revoke t)).strings = (Query.refreshTokensInsert r).strings := by
  unfold RefreshTokenRecord.revoke
  split_ifs <;> rfl

/-- An interaction that is bound to a subject has its own texts and those of the binding. -/
lemma strings_withSubject {row : InteractionRow} {id subject : String} {authTime : Date}
    {acr amr : Option Json} (hrow : (Query.interactionsInsert row.record).NulFree)
    (hset : (Query.interactionsSetSubject id subject authTime acr amr).NulFree) :
    (Query.interactionsInsert
      (Memory.withSubject subject authTime acr amr row).record).NulFree := by
  unfold Memory.withSubject
  split_ifs
  · intro t ht
    simp only [Query.strings, Query.values, Pg.texts, List.mem_append, List.mem_cons,
      Option.toList_some, List.not_mem_nil, or_false] at ht
    rcases ht with ((rfl | rfl | rfl) | rfl) | hv
    · exact hrow _ (by simp [Query.strings, Pg.texts])
    · exact hrow _ (by simp [Query.strings, Pg.texts])
    · exact hrow _ (by simp [Query.strings, Pg.texts])
    · exact hset _ (by simp [Query.strings, Pg.texts])
    · exact hset _ (List.mem_append_right _ hv)
  · exact hrow

/-- **A call without U+0000 keeps the tables free of it.** -/
lemma Carried.nulFree {r : q.Res} (h : Carried s q r s') (hq : q.NulFree) (hs : s.NulFree) :
    s'.NulFree where
  par k row hrow := by
    rcases h.effect.par k with heq | ⟨rec, rfl, -, heq⟩ | ⟨t, row', -, hrow', -, heq⟩
    · exact hs.par k row (heq ▸ hrow)
    · obtain rfl := Option.some.inj (heq.symm.trans hrow)
      exact hq
    · obtain rfl := Option.some.inj (heq.symm.trans hrow)
      exact hs.par k row' hrow'
  grants k rec hrec := by
    rcases h.effect.grants k with heq | ⟨rec', rfl, -, heq⟩ | ⟨t, -, heq⟩
    · exact hs.grants k rec (heq ▸ hrec)
    · obtain rfl := Option.some.inj (heq.symm.trans hrec)
      exact hq
    · rw [heq] at hrec
      obtain ⟨rec', hrec', rfl⟩ := Option.map_eq_some_iff.mp hrec
      have hold := hs.grants k rec' hrec'
      rwa [Query.NulFree, ← GrantRecord.strings_revoke t] at hold
  codes k row hrow := by
    rcases h.effect.codes k with heq | ⟨rec, rfl, -, heq⟩ | ⟨t, row', -, hrow', -, heq⟩
    · exact hs.codes k row (heq ▸ hrow)
    · obtain rfl := Option.some.inj (heq.symm.trans hrow)
      exact hq
    · obtain rfl := Option.some.inj (heq.symm.trans hrow)
      exact hs.codes k row' hrow'
  accessTokens k rec hrec := by
    rcases h.effect.accessTokens k with heq | ⟨rec', rfl, -, heq⟩ | ⟨t, rec', -, hrec', heq⟩
    · exact hs.accessTokens k rec (heq ▸ hrec)
    · obtain rfl := Option.some.inj (heq.symm.trans hrec)
      exact hq
    · obtain rfl := Option.some.inj (heq.symm.trans hrec)
      have hold := hs.accessTokens k rec' hrec'
      rwa [Query.NulFree, ← AccessTokenRecord.strings_revoke t] at hold
  refreshTokens k rec hrec := by
    rcases h.effect.refreshTokens k with heq | ⟨rec', rfl, -, heq⟩ | ⟨t, rec', -, hrec', heq⟩
    · exact hs.refreshTokens k rec (heq ▸ hrec)
    · obtain rfl := Option.some.inj (heq.symm.trans hrec)
      exact hq
    · obtain rfl := Option.some.inj (heq.symm.trans hrec)
      have hold := hs.refreshTokens k rec' hrec'
      rwa [Query.NulFree, ← RefreshTokenRecord.strings_revoke t] at hold
  interactions k row hrow := by
    have hstep := h.effect.interactions k
    generalize hold : s.interactions.get? k = old at hstep
    rw [hrow] at hstep
    cases hstep with
    | same => exact hs.interactions k row hold
    | insert _ rec hins => exact hins ▸ hq
    | setSubject row' subject authTime acr amr hset =>
      exact strings_withSubject (hs.interactions k row' hold) (hset ▸ hq)
    | complete row' t => exact hs.interactions k row' hold

/-- **What a call answers** from tables without U+0000, when clients are registered by their
identifiers. -/
lemma Carried.resNulFree {r : q.Res} (h : Carried s q r s') (hs : s.NulFree)
    (hclients : ∀ id rec, s.clients.get? id = some rec → rec.clientId = id) : q.ResNulFree r := by
  cases q with
  | clientsFindById clientId =>
    rintro rec rfl
    exact hclients _ _ h.clientsFindById
  | parPeek uri t =>
    rintro rec rfl
    obtain ⟨row, hrow, rfl, -⟩ := h.parPeek
    exact hs.par _ _ hrow
  | grantsFind grantId =>
    rintro rec rfl
    exact hs.grants _ _ h.grantsFind
  | codesRedeem codeHash t =>
    have hr := h.codesRedeem
    rintro rec (rfl | rfl)
    · obtain ⟨row, hrow, rfl, -⟩ := hr
      exact hs.codes _ _ hrow
    · obtain ⟨row, hrow, rfl, -⟩ := hr
      exact hs.codes _ _ hrow
  | accessTokensFindByJti jti =>
    rintro rec rfl
    exact hs.accessTokens _ _ h.accessTokensFindByJti
  | refreshTokensFindByHash tokenHash =>
    rintro rec rfl
    exact hs.refreshTokens _ _ h.refreshTokensFindByHash
  | interactionsFind id t =>
    rintro rec rfl
    obtain ⟨row, hrow, rfl, -⟩ := h.interactionsFind
    exact hs.interactions _ _ hrow
  | _ => trivial

end Fapi2As
