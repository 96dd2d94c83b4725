import IdentityProvider.Proofs.Service.Revocation
import IdentityProvider.Proofs.Token.Spacing

/-!
# What a refresh does to the scopes

A refresh takes the scopes out of the text of the refresh token and joins them
again. `scopes_of_refreshToken`: the access token has the same scopes, in the
order of the refresh token, but the same text only where every scope that was asked
for is single-spaced. `refreshToken_respaces` is a refresh that changes the text.
-/

namespace IdentityProvider.Service

variable [VerifyingKey P] [SigningKey K P]

-- ----- Copies

/-- The refresh token itself, or what some service reads when its compact form is presented. -/
inductive CopyOf (K P : Type) [VerifyingKey P] (r : SignedToken) : Token → Prop
  | itself : CopyOf K P r r.token
  | parsed {reader : Service K P} (h : (reader.parse r.compact).result = .ok t) : CopyOf K P r t

variable {s s' : Service K P} {r : SignedToken} {t access : Token}

theorem SignsRefresh.claims_of_copy (h : s.SignsRefresh now user app scopes r)
    (hcopy : CopyOf K P r t) : t.claims = r.token.claims := by
  cases hcopy with
  | itself => rfl
  | parsed hparse =>
    obtain ⟨signature, hread⟩ := h.parseUnverified
    obtain ⟨message, u, -, -, hu, rfl⟩ :=
      Token.parseAndVerify_eq_ok_iff.mp (parse_eq_ok_iff.mp hparse)
    cases hread.symm.trans hu
    rfl

-- ----- Scopes

/-- What was asked for is joined into one text, and a refresh by any service at any time
joins the words of that text. Both texts are the same where each scope that was
asked for has single spaces between its words and no other blanks. -/
theorem scopes_of_refreshToken
    (hissued : (s.newRefreshToken now storageNow tokens user app scopes).1.result = .ok r)
    (hcopy : CopyOf K P r t)
    (hrefresh : (s'.refreshToken now' app' user' t).result = .ok access) :
    r.token.claims.scopes = joinScopes scopes ∧
    access.claims.scopes = joinScopes r.token.claims.scopeList ∧
    access.claims.scopeList = r.token.claims.scopeList ∧
    (access.claims.scopes = r.token.claims.scopes ↔
      ∀ scope ∈ scopes, Text.SingleSpaced scope.toList) := by
  have hsigns := SignsRefresh.of_newRefreshToken hissued
  obtain ⟨a, u, -, rfl⟩ := refreshToken_eq_ok_iff.mp hrefresh
  rw [hsigns.claims_of_copy hcopy]
  have hasked : r.token.claims.scopes = joinScopes scopes := by
    rw [hsigns.token]
    rfl
  have haccess := issuedAccess_issue s' now' a u r.token.claims.scopeList
  refine ⟨hasked, haccess.scopes, haccess.scopeList, ?_⟩
  rw [haccess.scopes, Claims.scopeList, joinScopes_scopeList_eq_iff, hasked,
    singleSpaced_joinScopes_iff]

-- ----- Two refreshes

open Session (firstTime offlineApp offlineUser)

def offlineStorages : Storages :=
  [.insertUser offlineUser, .insertApp offlineApp].foldl Storages.apply .empty

/-- The refresh token of the secret scalar 8 for the scopes. -/
def scopedToken (scopes : List String) : Token :=
  (sampleService.issue firstTime (sampleService.refreshGrant offlineUser offlineApp scopes)).result

/-- The secret scalar 8, with its signature of that refresh token. -/
def scopedService (scopes : List String) (signature : Bytes) : Service RecordedKey RecordedKey :=
  ⟨"identifo", {}, .ofKey { RecordedKey.sample with
    message := (scopedToken scopes).signingInput, signature }⟩

def scopedSigned (scopes : List String) (signature : Bytes) : SignedToken :=
  ⟨scopedToken scopes, { scopedToken scopes with signature }.compactForm⟩

def scopedRead (scopes : List String) (signature : Bytes) : Token :=
  { scopedToken scopes with signature, trust := .verified }

theorem newRefreshToken_scoped (scopes : List String) (signature : Bytes)
    (h : refreshRefusal? offlineUser offlineApp scopes = none) :
    ((scopedService scopes signature).newRefreshToken firstTime firstTime ⟨.empty, none⟩
      offlineUser offlineApp scopes).1.result = .ok (scopedSigned scopes signature) :=
  newRefreshToken_eq_ok_iff.mpr
    ⟨h, rfl, string_issue_eq_ok_iff.mpr ⟨rfl, signature, if_pos rfl, rfl⟩, rfl⟩

theorem parse_scopedSigned (scopes : List String) (signature : Bytes) :
    ((scopedService scopes signature).parse (scopedSigned scopes signature).compact).result =
      .ok (scopedRead scopes signature) :=
  parse_eq_ok_iff.mpr (Token.parseAndVerify_compactForm
    (t := { scopedToken scopes with signature }) (RecordedKey.sound _) rfl (if_pos rfl))

theorem refreshToken_scopedRead (scopes : List String) (signature : Bytes) : ∃ access,
    ((scopedService scopes signature).refreshToken firstTime offlineStorages.app
      offlineStorages.user (scopedRead scopes signature)).result = .ok access ∧
    access.claims.scopes = joinScopes (scopeList (joinScopes scopes)) :=
  ⟨_, refreshToken_eq_ok_iff.mpr
    ⟨offlineApp, offlineUser, ⟨⟨rfl, rfl, rfl⟩, rfl, rfl⟩, rfl⟩, rfl⟩

/-- Two scopes of one word and of two words, and an empty one. -/
def spacedScopes : List String := [offlineScope, "", "chat read"]

def spacedSignature : Bytes :=
  [147, 227, 203, 165, 169, 128, 14, 28, 130, 56, 226, 243, 42, 122, 25, 174, 152, 230, 16, 13, 55,
    224, 169, 228, 33, 112, 207, 117, 165, 205, 230, 99, 21, 145, 111, 243, 179, 135, 16, 70, 196,
    194, 100, 104, 47, 86, 151, 7, 146, 128, 151, 99, 55, 1, 124, 45, 80, 108, 146, 194, 162, 132,
    217, 158]

theorem singleSpaced_spacedScopes : ∀ scope ∈ spacedScopes, Text.SingleSpaced scope.toList := by
  rw [← singleSpaced_joinScopes_iff, ← joinScopes_scopeList_eq_iff]
  decide

theorem scopes_of_refreshToken_spacedScopes : ∃ r t access,
    ((scopedService spacedScopes spacedSignature).newRefreshToken firstTime firstTime
      ⟨.empty, none⟩ offlineUser offlineApp spacedScopes).1.result = .ok r ∧
    ((scopedService spacedScopes spacedSignature).parse r.compact).result = .ok t ∧
    ((scopedService spacedScopes spacedSignature).refreshToken firstTime offlineStorages.app
      offlineStorages.user t).result = .ok access ∧
    access.claims.scopes = r.token.claims.scopes := by
  have hissued := newRefreshToken_scoped spacedScopes spacedSignature (by decide)
  have hread := parse_scopedSigned spacedScopes spacedSignature
  obtain ⟨access, hrefresh, -⟩ := refreshToken_scopedRead spacedScopes spacedSignature
  obtain ⟨-, -, -, hsame⟩ := scopes_of_refreshToken hissued (.parsed hread) hrefresh
  exact ⟨_, _, access, hissued, hread, hrefresh, hsame.mpr singleSpaced_spacedScopes⟩

/-- Two spaces stand in the second scope. -/
def respacedScopes : List String := [offlineScope, "chat  read"]

def respacedSignature : Bytes :=
  [56, 125, 239, 2, 242, 89, 211, 163, 197, 98, 186, 139, 179, 138, 65, 111, 103, 32, 114, 248, 152,
    50, 119, 89, 238, 8, 231, 104, 73, 77, 14, 148, 19, 212, 52, 190, 163, 227, 220, 8, 139, 182,
    214, 139, 128, 118, 185, 37, 41, 43, 32, 120, 115, 37, 103, 231, 81, 14, 40, 218, 160, 76, 50,
    33]

theorem refreshToken_respaces : ∃ r t access,
    ((scopedService respacedScopes respacedSignature).newRefreshToken firstTime firstTime
      ⟨.empty, none⟩ offlineUser offlineApp respacedScopes).1.result = .ok r ∧
    ((scopedService respacedScopes respacedSignature).parse r.compact).result = .ok t ∧
    ((scopedService respacedScopes respacedSignature).refreshToken firstTime offlineStorages.app
      offlineStorages.user t).result = .ok access ∧
    r.token.claims.scopes = "offline chat  read" ∧ access.claims.scopes = "offline chat read" := by
  have hissued := newRefreshToken_scoped respacedScopes respacedSignature (by decide)
  obtain ⟨access, hrefresh, hscopes⟩ := refreshToken_scopedRead respacedScopes respacedSignature
  refine ⟨_, _, access, hissued, parse_scopedSigned _ _, hrefresh, by decide, ?_⟩
  rw [hscopes]
  decide

end IdentityProvider.Service
