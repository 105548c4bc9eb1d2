import HnbCloud.Iam.Authorization
import HnbCloud.Lib.Table

set_option autoImplicit false

/-! # Refresh tokens

`Refresh` of the token manager. The rotation of the token is a transaction of its own, and what
comes after it may fail: the membership, the permissions, the key or the signature. What the other
services answer is given, and so is what becomes of the statements of the transaction. -/

namespace HnbCloud.Iam

/-- A row of `auth_refresh_tokens`. -/
structure RefreshTokenRecord where
  (tokenHash subjectId membershipId : String)
  expiresAt : Int
  consumedAt : Option Int := none

abbrev RefreshStore : Type := Table RefreshTokenRecord String RefreshTokenRecord.tokenHash

def RefreshTokenRecord.consume (now : Int) (token : RefreshTokenRecord) : RefreshTokenRecord :=
  { token with consumedAt := some now }

theorem RefreshTokenRecord.tokenHash_consume (now : Int) (token : RefreshTokenRecord) :
    (token.consume now).tokenHash = token.tokenHash := rfl

/-- The token can be exchanged. -/
def RefreshTokenRecord.valid (now : Int) (token : RefreshTokenRecord) : Bool :=
  token.consumedAt.isNone && decide (now < token.expiresAt)

open RefreshTokenRecord

structure Identity where
  (subjectId membershipId tenantId : String)

/-- What becomes of a commit: it may have taken effect although it is answered with an error. -/
inductive Commit where
  | done
  | failed
  | lost
deriving DecidableEq

inductive RefreshError where
  /-- `ErrRefreshReplay`. -/
  | replay
  /-- `ValidatePermissionSnapshot` refuses the permissions. -/
  | snapshot
  | other (text : String)

/-- What the services around `Refresh` answer. -/
structure RefreshServices where
  randomOpaqueToken : Except String String
  /-- Every statement of the rotation is carried out. -/
  statements : Bool
  commit : Commit
  resolveMembership : String → String → Except String Identity
  currentSigningKey : Except String String
  resolvePermissions : Identity → Except String (String × List ScopedPermission)
  signAccessToken : String → Identity → String → List ScopedPermission → Except String String

def maxAccessTokenSize : Nat := 8192

section Refresh

variable (hash : String → String) (services : RefreshServices)

/-- `RotateRefreshToken`. -/
def rotateRefreshToken (db : RefreshStore) (oldHash newHash : String) (expiresAt now : Int) :
    RefreshStore × Option RefreshTokenRecord :=
  match (db.get? oldHash).filter (RefreshTokenRecord.valid now) with
  | none => (db, none)
  | some old =>
    let consumed := db.update oldHash (consume now) (tokenHash_consume now)
    match consumed.insert? ⟨newHash, old.subjectId, old.membershipId, expiresAt, none⟩ with
    | none => (db, none)
    | some rotated =>
      if services.statements = false then (db, none)
      else match services.commit with
        | .done => (rotated, some old)
        | .failed => (db, none)
        | .lost => (rotated, none)

def issueAccess (identity : Identity) : Except RefreshError String := do
  let kid ← services.currentSigningKey.mapError .other
  let (policyVersion, permissions) ← (services.resolvePermissions identity).mapError
    fun text => .other ("resolve permission snapshot: " ++ text)
  if validPermissionSnapshot policyVersion permissions identity.tenantId = false then
    throw .snapshot
  let value ← (services.signAccessToken kid identity policyVersion permissions).mapError .other
  if maxAccessTokenSize < value.utf8ByteSize then
    throw (.other "permission snapshot exceeds access token size")
  return value

/-- `Refresh`: the access token and the new refresh token, or an error. -/
def refresh (db : RefreshStore) (refreshValue : String) (now refreshTtl : Int) :
    RefreshStore × Except RefreshError (String × String) :=
  if refreshValue.utf8ByteSize < 43 ∨ 512 < refreshValue.utf8ByteSize then
    (db, .error .replay)
  else match services.randomOpaqueToken with
  | .error text => (db, .error (.other text))
  | .ok newValue =>
    match rotateRefreshToken services db (hash refreshValue) (hash newValue) (now + refreshTtl)
      now with
    | (db, none) => (db, .error .replay)
    | (db, some old) => (db, do
      let identity ← (services.resolveMembership old.subjectId old.membershipId).mapError .other
      let access ← issueAccess services identity
      return (access, newValue))

/-- The transaction of the rotation takes effect. -/
def RefreshServices.Rotates (db : RefreshStore) (newHash : String) : Prop :=
  db.get? newHash = none ∧ services.statements = true ∧ services.commit ≠ .failed

variable {hash services} {db : RefreshStore} {refreshValue : String} {now refreshTtl : Int}
  {token : RefreshTokenRecord} {oldHash newHash : String}

theorem rotateRefreshToken_keeps_iff (expiresAt : Int) (htoken : db.get? oldHash = some token)
    (hvalid : token.valid now = true) :
    (∃ kept, (rotateRefreshToken services db oldHash newHash expiresAt now).1.get? oldHash
        = some kept ∧ kept.valid now = true)
      ↔ ¬ services.Rotates db newHash := by
  have hget : ∀ k, (db.update oldHash (consume now) (tokenHash_consume now)).get? k
      = if k = oldHash then some (token.consume now) else db.get? k := by
    intro k
    rw [Table.get?_update, htoken]
    rfl
  unfold rotateRefreshToken
  rw [htoken, Option.filter_some, if_pos hvalid]
  dsimp only
  split
  next hinsert =>
    refine iff_of_true ⟨token, htoken, hvalid⟩ fun ⟨hnone, _⟩ => ?_
    have hne : newHash ≠ oldHash := by
      rintro rfl
      simp [htoken] at hnone
    obtain ⟨rotated, hsome⟩ := Table.exists_insert? (db.update oldHash (consume now)
      (tokenHash_consume now)) ⟨newHash, token.subjectId, token.membershipId, expiresAt, none⟩
      (by rw [hget, if_neg hne, hnone])
    simp [hsome] at hinsert
  next rotated hinsert =>
    have hfree := Table.get?_eq_none_of_insert? hinsert
    rw [hget] at hfree
    split_ifs at hfree with hsame
    have hold : rotated.get? oldHash = some (token.consume now) := by
      rw [Table.get?_insert? hinsert, if_neg (Ne.symm hsame), hget, if_pos rfl]
    have hconsumed : (token.consume now).valid now = false := rfl
    rcases hstatements : services.statements with _ | _
    · simp [htoken, hvalid, RefreshServices.Rotates, hstatements]
    · rcases hcommit : services.commit <;>
        simp [hold, htoken, hvalid, hconsumed, RefreshServices.Rotates, hstatements, hcommit, hfree]

/-- **Refreshes and their tokens.** After a call of `Refresh` with a token that is valid, whatever
    it answers, the token is still valid exactly if the call is refused by its length, there is no
    new token, or the rotation does not take effect. -/
theorem refresh_keeps_token_iff (htoken : db.get? (hash refreshValue) = some token)
    (hvalid : token.valid now = true) :
    (∃ kept, (refresh hash services db refreshValue now refreshTtl).1.get? (hash refreshValue)
        = some kept ∧ kept.valid now = true)
      ↔ ¬ (43 ≤ refreshValue.utf8ByteSize ∧ refreshValue.utf8ByteSize ≤ 512
        ∧ ∃ newValue, services.randomOpaqueToken = .ok newValue
          ∧ services.Rotates db (hash newValue)) := by
  unfold refresh
  by_cases hlength : refreshValue.utf8ByteSize < 43 ∨ 512 < refreshValue.utf8ByteSize
  · rw [if_pos hlength]
    refine iff_of_true ⟨token, htoken, hvalid⟩ ?_
    rintro ⟨hmin, hmax, -⟩
    omega
  rw [if_neg hlength]
  rcases hrandom : services.randomOpaqueToken with text | newValue
  · exact iff_of_true ⟨token, htoken, hvalid⟩ (by simp)
  obtain ⟨hmin, hmax⟩ : 43 ≤ refreshValue.utf8ByteSize ∧ refreshValue.utf8ByteSize ≤ 512 := by omega
  simp only [hmin, hmax, true_and, Except.ok.injEq, exists_eq_left']
  rw [← rotateRefreshToken_keeps_iff (now + refreshTtl) htoken hvalid]
  split
  all_goals
    next heq => rw [heq]

end Refresh

/-- One token, and a membership that cannot be looked up. -/
def oneToken : RefreshStore := ⟨[⟨"token", "user-1", "member-1", 1000, none⟩], by simp⟩

def membershipDown : RefreshServices where
  randomOpaqueToken := .ok "new"
  statements := true
  commit := .done
  resolveMembership := fun _ _ => .error "connection refused"
  currentSigningKey := .ok "key-1"
  resolvePermissions := fun _ => .ok ("1", [])
  signAccessToken := fun _ _ _ _ => .ok "access"

def tokenValue : String := "aaaaaaaaaaaaaaaaaaaaaaaaaaaaaaaaaaaaaaaaaaa"

def tokenHashOf (text : String) : String := if text = tokenValue then "token" else text

/-- A refresh that fails for the moment ends the session. -/
theorem failed_refresh_consumes_token :
    let after := refresh tokenHashOf membershipDown oneToken tokenValue 0 3600
    (oneToken.get? (tokenHashOf tokenValue)).any (RefreshTokenRecord.valid 0) = true
      ∧ after.2.isOk = false
      ∧ (after.1.get? (tokenHashOf tokenValue)).any (RefreshTokenRecord.valid 0) = false := by
  decide +kernel

theorem refused_commit_keeps_token :
    ∃ kept, (refresh tokenHashOf { membershipDown with commit := .failed } oneToken tokenValue 0
      3600).1.get? (tokenHashOf tokenValue) = some kept ∧ kept.valid 0 = true := by
  have htoken : oneToken.get? (tokenHashOf tokenValue)
      = some ⟨"token", "user-1", "member-1", 1000, none⟩ := rfl
  exact (refresh_keeps_token_iff htoken rfl).2 fun ⟨_, _, _, _, _, _, hcommit⟩ => hcommit rfl

end HnbCloud.Iam
