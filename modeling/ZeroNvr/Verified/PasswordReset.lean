import ZeroNvr.Auth.PasswordReset
import ZeroNvr.Lib.Run

/-! # Password reset tokens

In every order of issuing, delivering, rotating keys, using a token and switching
users off and on, the only live record of a user is the newest one.  A token is
used once at most, and it is derived again as it was when it was issued.
-/

namespace ZeroNvr.PasswordResetService

open Lib

/-! ## Histories -/

/-- What was issued, with the key of the time. -/
structure IssuedToken where
  resetId : Uuid
  userId : Uuid
  expiresAt : Int
  key : String
  token : String
  enabled : Bool

/-- The store, beside the tokens that were issued, the newest first, and those that were used. -/
structure ResetWorld where
  db : Database
  settings : SecretSettings
  now : Int
  issued : List IssuedToken
  consumed : List String

inductive ResetAction where
  | issue (identifier : String) (now later : Int)
  | issueAdmin (userId createdBy : Uuid) (now : Int)
  | deliveryMail (correlationId : String) (now : Int)
  | rotateKeys (settings : SecretSettings)
  | consume (token newPassword : String) (now : Int)
  | disableUser (userId : Uuid) (now : Int)
  | enableUser (userId : Uuid)

def isEnabled (db : Database) (userId : Uuid) : Bool := (db.users.get? userId).any User.enabled

/-- The record that a transaction added. -/
def created (db db' : Database) : Option PasswordResetToken :=
  db'.passwordResetTokens.first? fun reset => (db.passwordResetTokens.get? reset.id).isNone

/-- The newest token that was issued to a user. -/
def newest (issued : List IssuedToken) (userId : Uuid) : Option IssuedToken := issued.find? fun entry => entry.userId = userId

namespace ResetWorld

/-- A transaction that may have added a record, whose token the caller was given or not. -/
def recordIssue (world : ResetWorld) (db : Database) (now : Int) (token : PasswordResetToken → String) : ResetWorld :=
  let added := (created world.db db).map fun reset : PasswordResetToken =>
    { resetId := reset.id
      userId := reset.userId
      expiresAt := reset.expiresAt
      key := world.settings.secretKey
      token := token reset
      enabled := isEnabled world.db reset.userId : IssuedToken }
  { world with db, now, issued := added.toList ++ world.issued }

end ResetWorld

section Histories

variable (crypto : ResetCrypto) (uuid4 : Supply Uuid) (hash : String → String)

def administratorIssues (world : ResetWorld) (userId createdBy : Uuid) (now : Int) :
    Result (Database × AdminPasswordResetIssue) := do
  let user ← AuthAdminService.getUser world.db userId
  issueAdmin crypto world.settings uuid4 world.db user createdBy now

/-- One transaction, which changes nothing when it is refused. -/
def perform (world : ResetWorld) : ResetAction → ResetWorld
  | .issue identifier now later =>
    match issue crypto world.settings uuid4 world.db identifier now later with
    | .ok (db, _) =>
      world.recordIssue db later fun reset =>
        tokenForKey crypto reset.id reset.userId reset.expiresAt world.settings.secretKey
    | .error _ => { world with now := later }
  | .issueAdmin userId createdBy now =>
    match administratorIssues crypto uuid4 world userId createdBy now with
    | .ok (db, answer) => world.recordIssue db now fun _ => answer.token
    | .error _ => { world with now }
  | .deliveryMail correlationId now =>
    match deliveryMail crypto world.settings world.db correlationId now with
    | .ok _ | .error _ => { world with now }
  | .rotateKeys settings => { world with settings }
  | .consume token newPassword now =>
    match PasswordResetService.consume crypto hash world.db token newPassword now with
    | .ok (db, _) => { world with db, now, consumed := strip token :: world.consumed }
    | .error _ => { world with now }
  | .disableUser userId now =>
    match (do AuthAdminService.disableUser world.db (← AuthAdminService.getUser world.db userId) now) with
    | .ok db => { world with db, now }
    | .error _ => { world with now }
  | .enableUser userId =>
    match (do AuthAdminService.enableUser world.db (← AuthAdminService.getUser world.db userId)) with
    | .ok db => { world with db }
    | .error _ => world

/-- The clock does not go back, and a key that something was issued with stays configured. -/
def Permitted (world : ResetWorld) : ResetAction → Prop
  | .issue _ now later => world.now ≤ now ∧ now ≤ later
  | .issueAdmin _ _ now | .deliveryMail _ now | .consume _ _ now | .disableUser _ now => world.now ≤ now
  | .rotateKeys settings => ∀ entry ∈ world.issued, entry.key ∈ keyValues settings
  | .enableUser _ => True

/-- A history of transactions. -/
abbrev Histories (world : ResetWorld) (actions : List ResetAction) (world' : ResetWorld) : Prop :=
  Run (fun world action world' => Permitted world action ∧ perform crypto uuid4 hash world action = world') world actions world'

end Histories

/-! ## The invariant -/

def Live (now : Int) (reset : PasswordResetToken) : Prop := reset.usedAt = none ∧ now < reset.expiresAt

/-- The record of a token that was issued. -/
structure RecordOf (crypto : ResetCrypto) (entry : IssuedToken) (reset : PasswordResetToken) : Prop where
  id : reset.id = entry.resetId
  user : reset.userId = entry.userId
  expiry : reset.expiresAt = entry.expiresAt
  hash : reset.tokenHash = hashToken crypto entry.token

structure Sound (crypto : ResetCrypto) (world : ResetWorld) : Prop where
  configured : ∀ entry ∈ world.issued, entry.key ∈ keyValues world.settings
  derived : ∀ entry ∈ world.issued, entry.token = tokenForKey crypto entry.resetId entry.userId entry.expiresAt entry.key
  enabled : ∀ entry ∈ world.issued, entry.enabled = true
  recorded : ∀ entry ∈ world.issued, ∃ reset ∈ world.db.passwordResetTokens, RecordOf crypto entry reset
  unique : ∀ reset ∈ world.db.passwordResetTokens, ∀ other ∈ world.db.passwordResetTokens,
    reset.tokenHash = other.tokenHash → reset = other
  live : ∀ reset ∈ world.db.passwordResetTokens, Live world.now reset →
    ∃ entry, newest world.issued reset.userId = some entry ∧ RecordOf crypto entry reset
  used : ∀ token ∈ world.consumed, ∃ reset ∈ world.db.passwordResetTokens,
    reset.tokenHash = hashToken crypto token ∧ reset.usedAt ≠ none
  once : world.consumed.Nodup

/-- What a transaction may do to a record. -/
structure UsesUp (f : PasswordResetToken → PasswordResetToken) : Prop where
  id : ∀ reset, (f reset).id = reset.id
  user : ∀ reset, (f reset).userId = reset.userId
  expiry : ∀ reset, (f reset).expiresAt = reset.expiresAt
  hash : ∀ reset, (f reset).tokenHash = reset.tokenHash
  used : ∀ reset, (f reset).usedAt = none → reset.usedAt = none

theorem superseded_usesUp (userId : Uuid) (now : Int) : UsesUp (superseded userId now) := by
  constructor
  all_goals
    intro reset
    unfold superseded
    split <;> simp

theorem spent_usesUp (userId : Uuid) (now : Int) : UsesUp (spent userId now) := by
  constructor
  all_goals
    intro reset
    unfold spent
    split <;> simp

theorem id_usesUp : UsesUp id := ⟨fun _ => rfl, fun _ => rfl, fun _ => rfl, fun _ => rfl, fun _ unused => unused⟩

section Invariant

variable {crypto : ResetCrypto} {uuid4 : Supply Uuid} {hash : String → String} {world world' : ResetWorld} {db' : Database}
  {f : PasswordResetToken → PasswordResetToken}

theorem RecordOf.usesUp {entry : IssuedToken} {reset : PasswordResetToken} (uses : UsesUp f)
    (record : RecordOf crypto entry reset) : RecordOf crypto entry (f reset) :=
  ⟨(uses.id _).trans record.id, (uses.user _).trans record.user, (uses.expiry _).trans record.expiry,
    (uses.hash _).trans record.hash⟩

/-- Using records up keeps the invariant, as does the passing of time. -/
theorem Sound.usesUp (sound : Sound crypto world) (uses : UsesUp f) {now : Int} (later : world.now ≤ now)
    (rows : ∀ row, row ∈ db'.passwordResetTokens ↔ ∃ old ∈ world.db.passwordResetTokens, f old = row) :
    Sound crypto { world with db := db', now } where
  configured := sound.configured
  derived := sound.derived
  enabled := sound.enabled
  recorded := by
    intro entry member
    obtain ⟨reset, stored, record⟩ := sound.recorded entry member
    exact ⟨f reset, (rows _).mpr ⟨reset, stored, rfl⟩, record.usesUp uses⟩
  unique := by
    intro reset stored other otherStored same
    obtain ⟨old, oldStored, rfl⟩ := (rows _).mp stored
    obtain ⟨older, olderStored, rfl⟩ := (rows _).mp otherStored
    rw [uses.hash, uses.hash] at same
    rw [sound.unique old oldStored older olderStored same]
  live := by
    intro reset stored live
    obtain ⟨old, oldStored, rfl⟩ := (rows _).mp stored
    have oldLive : Live world.now old := ⟨uses.used old live.1, lt_of_le_of_lt later (uses.expiry old ▸ live.2)⟩
    obtain ⟨entry, isNewest, record⟩ := sound.live old oldStored oldLive
    exact ⟨entry, (uses.user old).symm ▸ isNewest, record.usesUp uses⟩
  used := by
    intro token member
    obtain ⟨reset, stored, hashed, used⟩ := sound.used token member
    exact ⟨f reset, (rows _).mpr ⟨reset, stored, rfl⟩, (uses.hash reset).trans hashed, fun unused => used (uses.used reset unused)⟩
  once := sound.once

theorem Sound.waits (sound : Sound crypto world) {now : Int} (later : world.now ≤ now) :
    Sound crypto { world with now } :=
  sound.usesUp id_usesUp later fun row => by simp

/-- Accounts that are switched off and on keep their tokens. -/
theorem Sound.sameTokens (sound : Sound crypto world) {now : Int} (later : world.now ≤ now)
    (same : db'.passwordResetTokens = world.db.passwordResetTokens) : Sound crypto { world with db := db', now } :=
  sound.usesUp id_usesUp later fun row => by simp [same]

/-! ## Issuing -/

theorem newest_cons (entry : IssuedToken) (issued : List IssuedToken) (userId : Uuid) :
    newest (entry :: issued) userId = if entry.userId = userId then some entry else newest issued userId := by
  by_cases own : entry.userId = userId <;> simp [newest, own]

/-- A new record beside those of which none of the same user is live. -/
theorem Sound.issues (sound : Sound crypto world) {entry : IssuedToken} {reset : PasswordResetToken}
    (record : RecordOf crypto entry reset) (enabled : entry.enabled = true)
    (derived : entry.token = tokenForKey crypto entry.resetId entry.userId entry.expiresAt entry.key)
    (configured : entry.key ∈ keyValues world.settings)
    (unused : ∀ other ∈ world.db.passwordResetTokens, other.tokenHash ≠ reset.tokenHash)
    (alone : ∀ other ∈ world.db.passwordResetTokens, other.userId = reset.userId → ¬Live world.now other)
    (rows : ∀ row, row ∈ db'.passwordResetTokens ↔ row = reset ∨ row ∈ world.db.passwordResetTokens) :
    Sound crypto { world with db := db', issued := entry :: world.issued } where
  configured := by simpa using ⟨configured, sound.configured⟩
  derived := by simpa using ⟨derived, sound.derived⟩
  enabled := by simpa using ⟨enabled, sound.enabled⟩
  recorded := by
    intro other member
    cases member with
    | head => exact ⟨reset, (rows _).mpr (.inl rfl), record⟩
    | tail _ earlier =>
      obtain ⟨row, stored, ofRow⟩ := sound.recorded other earlier
      exact ⟨row, (rows _).mpr (.inr stored), ofRow⟩
  unique := by
    intro row stored other otherStored same
    rcases (rows _).mp stored with rfl | old <;> rcases (rows _).mp otherStored with rfl | older
    · rfl
    · exact absurd same.symm (unused other older)
    · exact absurd same (unused row old)
    · exact sound.unique row old other older same
  live := by
    intro row stored live
    rcases (rows _).mp stored with rfl | old
    · exact ⟨entry, by simp [newest_cons, record.user], record⟩
    · have differs : entry.userId ≠ row.userId := fun same => alone row old (same.symm.trans record.user.symm) live
      obtain ⟨other, isNewest, ofRow⟩ := sound.live row old live
      exact ⟨other, by rw [newest_cons, if_neg differs, isNewest], ofRow⟩
  used := by
    intro token member
    obtain ⟨row, stored, hashed, used⟩ := sound.used token member
    exact ⟨row, (rows _).mpr (.inr stored), hashed, used⟩
  once := sound.once

/-- After the live records of a user are used up, none is live. -/
theorem not_live_superseded {userId : Uuid} {now : Int} {reset : PasswordResetToken} (own : reset.userId = userId) :
    ¬Live now (superseded userId now reset) := by
  unfold superseded Live
  split
  · simp
  · next other =>
    rintro ⟨unused, unexpired⟩
    exact other ⟨own, unused, unexpired⟩

theorem created_of_createReset {db : Database} {user : User} {now : Int} {reset : PasswordResetToken}
    (fresh : ∀ other ∈ db.passwordResetTokens, other.id ≠ reset.id)
    (rows : ∀ row, row ∈ db'.passwordResetTokens ↔
      row = reset ∨ ∃ old ∈ db.passwordResetTokens, superseded user.id now old = row) :
    created db db' = some reset := by
  have isNew : (db.passwordResetTokens.get? reset.id).isNone = true := by
    rw [Option.isNone_iff_eq_none, Table.get?_eq_none_iff]
    exact fresh
  have stored : reset ∈ db'.passwordResetTokens := (rows reset).mpr (.inl rfl)
  obtain ⟨row, found⟩ := @Table.exists_first? _ _ _ _ (fun reset => (db.passwordResetTokens.get? reset.id).isNone) _ stored isNew
  obtain ⟨rowStored, rowNew⟩ := Table.mem_of_first? found
  rcases (rows row).mp rowStored with rfl | ⟨old, member, rfl⟩
  · exact found
  · rw [Option.isNone_iff_eq_none, Table.get?_eq_none_iff, (superseded_usesUp _ _).id] at rowNew
    exact absurd rfl (rowNew old member)

theorem created_self (db : Database) (same : db'.passwordResetTokens = db.passwordResetTokens) : created db db' = none := by
  unfold created
  rw [same, Table.first?_eq_none_iff]
  intro reset member
  have found : db.passwordResetTokens.get? reset.id = some reset := Table.get?_of_mem member
  simp [found]

/-- A record that is created for an enabled user. -/
theorem Sound.creates (sound : Sound crypto world) {user : User} {createdBy : Option Uuid} {now : Int}
    {db : Database} {reset : PasswordResetToken} {token : PasswordResetToken → String} (later : world.now ≤ now)
    (found : world.db.users.get? user.id = some user) (enabled : user.enabled = true)
    (done : createReset crypto world.settings uuid4 world.db user createdBy now = .ok (db, reset))
    (same : db'.passwordResetTokens = db.passwordResetTokens)
    (given : token reset = tokenForKey crypto reset.id reset.userId reset.expiresAt world.settings.secretKey) :
    Sound crypto (world.recordIssue db' now token) := by
  obtain ⟨own, -, hashed, fresh, rows, -⟩ := createReset_spec done
  rw [← same] at rows
  have isCreated := created_of_createReset (fun other member => (fresh other member).1) rows
  let tokens := world.db.passwordResetTokens.mapRows (superseded user.id now) (superseded_usesUp user.id now).id
  have tokenRows (row : PasswordResetToken) :
      row ∈ tokens ↔ ∃ old ∈ world.db.passwordResetTokens, superseded user.id now old = row := Table.mem_mapRows
  -- first the live records of the user are used up
  have between := @Sound.usesUp _ _ { world.db with passwordResetTokens := tokens } _ sound
    (superseded_usesUp user.id now) now later tokenRows
  unfold ResetWorld.recordIssue
  rw [isCreated]
  have record : RecordOf crypto ⟨reset.id, reset.userId, reset.expiresAt, world.settings.secretKey, token reset,
      isEnabled world.db reset.userId⟩ reset := ⟨rfl, rfl, rfl, hashed.trans (congrArg _ given.symm)⟩
  refine between.issues record ?_ given List.mem_cons_self ?_ ?_ ?_
  · simp [isEnabled, own, found, enabled]
  · intro other member
    obtain ⟨old, oldMember, rfl⟩ := (tokenRows other).mp member
    rw [(superseded_usesUp _ _).hash]
    exact (fresh old oldMember).2
  · intro other member ofUser
    obtain ⟨old, oldMember, rfl⟩ := (tokenRows other).mp member
    rw [(superseded_usesUp _ _).user, own] at ofUser
    exact not_live_superseded ofUser
  · intro row
    rw [rows row, tokenRows row]

theorem Sound.unchangedIssue (sound : Sound crypto world) {now : Int} {token : PasswordResetToken → String}
    (later : world.now ≤ now) : Sound crypto (world.recordIssue world.db now token) := by
  unfold ResetWorld.recordIssue
  rw [created_self _ rfl]
  exact sound.waits later

/-- `issue` did nothing, or it created a record for an enabled user. -/
theorem issue_spec {db : Database} {settings : SecretSettings} {identifier : String} {now later : Int}
    {answer : Option PasswordResetIssue}
    (done : issue crypto settings uuid4 db identifier now later = .ok (db', answer)) :
    db' = db ∨ ∃ user middle reset, db.users.get? user.id = some user ∧ user.enabled = true ∧
      createReset crypto settings uuid4 db user none later = .ok (middle, reset) ∧
      db'.passwordResetTokens = middle.passwordResetTokens := by
  unfold issue at done
  dsimp only at done
  split at done
  · cases done
    exact .inl rfl
  split at done
  · cases done
    exact .inl rfl
  next user identified =>
  obtain ⟨member, matched⟩ := Table.mem_of_first? identified
  have enabled : user.enabled = true := by
    rw [Bool.and_eq_true] at matched
    exact matched.1
  split at done
  · cases done
    exact .inl rfl
  split at done
  · cases done
    exact .inl rfl
  split at done
  · cases done
    exact .inl rfl
  obtain ⟨⟨middle, reset⟩, wasCreated, rest⟩ := bind_eq_ok.mp done
  cases rest
  exact .inr ⟨user, middle, reset, Table.get?_of_mem member, enabled, wasCreated, rfl⟩

theorem administratorIssues_spec {userId createdBy : Uuid} {now : Int} {answer : AdminPasswordResetIssue}
    (done : administratorIssues crypto uuid4 world userId createdBy now = .ok (db', answer)) :
    ∃ user reset, world.db.users.get? user.id = some user ∧ user.enabled = true ∧
      createReset crypto world.settings uuid4 world.db user (some createdBy) now = .ok (db', reset) ∧
      tokenForRecord crypto world.settings reset = .ok answer.token := by
  unfold administratorIssues at done
  obtain ⟨user, got, issued⟩ := bind_eq_ok.mp done
  have found : world.db.users.get? user.id = some user := by
    unfold AuthAdminService.getUser at got
    split at got
    · next holder found =>
      cases got
      exact Table.get?_of_mem (Table.mem_of_get? found)
    · cases got
  unfold issueAdmin at issued
  split at issued
  · cases issued
  next enabled =>
  obtain ⟨⟨middle, reset⟩, wasCreated, rest⟩ := bind_eq_ok.mp issued
  obtain ⟨token, derived, last⟩ := bind_eq_ok.mp rest
  cases last
  exact ⟨user, reset, found, by simpa using enabled, wasCreated, derived⟩

/-! ## Using a token -/

/-- A token that is taken is the newest one of an enabled user, and all sessions of that user end with it. -/
structure Redeems (world : ResetWorld) (token : String) (now : Int) (user : User) (db' : Database) : Prop where
  issued : ∃ entry, newest world.issued user.id = some entry ∧ entry.token = token ∧ entry.enabled = true ∧ now < entry.expiresAt
  unused : token ∉ world.consumed
  ends : ∀ session ∈ db'.userSessions, session.userId = user.id → session.revokedAt ≠ none
  others : ∀ session : UserSession, session.userId ≠ user.id →
    (session ∈ db'.userSessions ↔ session ∈ world.db.userSessions)

theorem revokeSessions_ends {sessions : Table UserSession} {userId : Uuid} {now : Int} {session : UserSession}
    (member : session ∈ AuthAdminService.revokeSessions sessions userId now) (own : session.userId = userId) :
    session.revokedAt ≠ none := by
  obtain ⟨old, -, rfl⟩ := Table.mem_mapRows.mp member
  by_cases revoked : old.userId = userId ∧ old.revokedAt = none
  · simp [revoked]
  · rw [if_neg revoked] at own ⊢
    exact fun unrevoked => revoked ⟨own, unrevoked⟩

theorem revokeSessions_others {sessions : Table UserSession} {userId : Uuid} {now : Int} {session : UserSession}
    (other : session.userId ≠ userId) :
    session ∈ AuthAdminService.revokeSessions sessions userId now ↔ session ∈ sessions := by
  refine Table.mem_mapRows.trans ⟨?_, fun member => ⟨session, member, if_neg fun own => other own.1⟩⟩
  rintro ⟨old, member, rfl⟩
  by_cases revoked : old.userId = userId ∧ old.revokedAt = none
  · rw [if_pos revoked] at other
    exact absurd revoked.1 other
  · rwa [if_neg revoked]

theorem Sound.redeems (injective : Function.Injective crypto.sha256Hex) (sound : Sound crypto world)
    {token newPassword : String} {now : Int} {user : User} (later : world.now ≤ now)
    (done : PasswordResetService.consume crypto hash world.db token newPassword now = .ok (db', user)) :
    Redeems world (strip token) now user db' := by
  obtain ⟨reset, stored, hashed, unused, unexpired, own, -, -, sessions⟩ := consume_spec done
  obtain ⟨entry, isNewest, record⟩ := sound.live reset stored ⟨unused, lt_of_le_of_lt later unexpired⟩
  refine ⟨⟨entry, own ▸ isNewest, hashToken_injective injective (record.hash.symm.trans hashed), ?_, record.expiry ▸ unexpired⟩,
    ?_, ?_, ?_⟩
  · exact sound.enabled entry (List.mem_of_find?_eq_some isNewest)
  · intro again
    obtain ⟨other, otherStored, otherHashed, used⟩ := sound.used _ again
    rw [sound.unique other otherStored reset stored (otherHashed.trans hashed.symm)] at used
    exact used unused
  · rw [sessions]
    exact fun session => revokeSessions_ends
  · rw [sessions]
    exact fun session => revokeSessions_others

theorem Sound.consumes (injective : Function.Injective crypto.sha256Hex) (sound : Sound crypto world)
    {token newPassword : String} {now : Int} {user : User} (later : world.now ≤ now)
    (done : PasswordResetService.consume crypto hash world.db token newPassword now = .ok (db', user)) :
    Sound crypto { world with db := db', now, consumed := strip token :: world.consumed } := by
  have redeems := sound.redeems injective later done
  obtain ⟨reset, stored, hashed, -, -, own, -, rows, -⟩ := consume_spec done
  have spends := sound.usesUp (spent_usesUp user.id now) later rows
  refine { spends with used := ?_, once := List.nodup_cons.mpr ⟨redeems.unused, sound.once⟩ }
  intro used member
  cases member with
  | head =>
    refine ⟨spent user.id now reset, (rows _).mpr ⟨reset, stored, rfl⟩, ((spent_usesUp _ _).hash reset).trans hashed, ?_⟩
    unfold spent
    split
    · simp
    · next kept => exact fun unused => kept ⟨own, unused⟩
  | tail _ earlier => exact spends.used used earlier

/-! ## Histories keep the invariant -/

theorem disableUser_tokens {db : Database} {user : User} {now : Int}
    (done : AuthAdminService.disableUser db user now = .ok db') : db'.passwordResetTokens = db.passwordResetTokens := by
  unfold AuthAdminService.disableUser at done
  split at done
  · cases done
    rfl
  · obtain ⟨-, -, rest⟩ := bind_eq_ok.mp done
    cases rest
    rfl

theorem Sound.performs (injective : Function.Injective crypto.sha256Hex) (sound : Sound crypto world) {action : ResetAction}
    (permitted : Permitted world action) : Sound crypto (perform crypto uuid4 hash world action) := by
  cases action with
  | issue identifier now later =>
    have waits : world.now ≤ later := permitted.1.trans permitted.2
    simp only [perform]
    split
    · next db answer done =>
      rcases issue_spec done with rfl | ⟨user, middle, reset, found, enabled, wasCreated, same⟩
      · exact sound.unchangedIssue waits
      · exact sound.creates waits found enabled wasCreated same rfl
    · exact sound.waits waits
  | issueAdmin userId createdBy now =>
    simp only [perform]
    split
    · next db answer done =>
      obtain ⟨user, reset, found, enabled, wasCreated, derived⟩ := administratorIssues_spec done
      have primary : world.settings.secretKey ∈ keyValues world.settings := List.mem_cons_self
      have rederived := tokenForRecord_of_key injective primary (createReset_spec wasCreated).2.2.1
      exact sound.creates permitted found enabled wasCreated rfl (Except.ok.inj (derived.symm.trans rederived))
    · exact sound.waits permitted
  | deliveryMail correlationId now =>
    simp only [perform]
    split
    all_goals exact sound.waits permitted
  | rotateKeys settings => exact { sound with configured := permitted }
  | consume token newPassword now =>
    simp only [perform]
    split
    · next db user done => exact sound.consumes injective permitted done
    · exact sound.waits permitted
  | disableUser userId now =>
    simp only [perform]
    split
    · next db done =>
      obtain ⟨user, -, disabled⟩ := bind_eq_ok.mp done
      exact sound.sameTokens permitted (disableUser_tokens disabled)
    · exact sound.waits permitted
  | enableUser userId =>
    simp only [perform]
    split
    · next db done =>
      obtain ⟨user, -, enabled⟩ := bind_eq_ok.mp done
      cases enabled
      exact sound.sameTokens le_rfl rfl
    · exact sound

/-- Before anything is issued. -/
structure NothingIssued (world : ResetWorld) : Prop where
  records : world.db.passwordResetTokens = .empty
  issued : world.issued = []
  consumed : world.consumed = []

theorem NothingIssued.sound (nothing : NothingIssued world) : Sound crypto world := by
  obtain ⟨records, issued, consumed⟩ := nothing
  constructor
  all_goals simp [records, issued, consumed]

theorem Sound.alone (sound : Sound crypto world) {reset other : PasswordResetToken}
    (stored : reset ∈ world.db.passwordResetTokens) (otherStored : other ∈ world.db.passwordResetTokens)
    (same : reset.userId = other.userId) (live : Live world.now reset) (otherLive : Live world.now other) : reset = other := by
  obtain ⟨entry, isNewest, record⟩ := sound.live reset stored live
  obtain ⟨entry', isNewest', record'⟩ := sound.live other otherStored otherLive
  rw [same] at isNewest
  cases Option.some.inj (isNewest.symm.trans isNewest')
  exact Table.eq_of_key_eq stored otherStored (record.id.trans record'.id.symm)

theorem Sound.rederives (injective : Function.Injective crypto.sha256Hex) (sound : Sound crypto world) {entry : IssuedToken}
    (member : entry ∈ world.issued) :
    ∃ reset, world.db.passwordResetTokens.get? entry.resetId = some reset ∧
      tokenForRecord crypto world.settings reset = .ok entry.token := by
  obtain ⟨reset, stored, record⟩ := sound.recorded entry member
  have derived : tokenForKey crypto reset.id reset.userId reset.expiresAt entry.key = entry.token := by
    rw [sound.derived entry member, record.id, record.user, record.expiry]
  refine ⟨reset, record.id ▸ Table.get?_of_mem stored, ?_⟩
  rw [tokenForRecord_of_key injective (sound.configured entry member) (record.hash.trans (congrArg _ derived.symm)), derived]

/-- After any history a user has one live record at most, every token that was issued is
derived again from its record, and no token was used twice.  A token that is used now is the
newest one of an enabled user and has not expired; the sessions that end are those of that user. -/
theorem reset_single_use (injective : Function.Injective crypto.sha256Hex) {actions : List ResetAction}
    (nothing : NothingIssued world) (run : Histories crypto uuid4 hash world actions world') :
    (∀ reset ∈ world'.db.passwordResetTokens, ∀ other ∈ world'.db.passwordResetTokens, reset.userId = other.userId →
      Live world'.now reset → Live world'.now other → reset = other) ∧
    (∀ entry ∈ world'.issued, ∃ reset, world'.db.passwordResetTokens.get? entry.resetId = some reset ∧
      tokenForRecord crypto world'.settings reset = .ok entry.token) ∧
    (∀ token newPassword now db' user, world'.now ≤ now →
      PasswordResetService.consume crypto hash world'.db token newPassword now = .ok (db', user) →
      Redeems world' (strip token) now user db') ∧
    world'.consumed.Nodup := by
  have sound : Sound crypto world' := @Run.invariant _ _ _ (Sound crypto)
    (fun before action after kept step => by
      obtain ⟨permitted, rfl⟩ := step
      exact kept.performs injective permitted) _ _ _ run nothing.sound
  exact ⟨fun _ stored _ otherStored same live otherLive => sound.alone stored otherStored same live otherLive,
    fun _ => sound.rederives injective, fun _ _ _ _ _ later done => sound.redeems injective later done, sound.once⟩

end Invariant

/-- Injective hash functions, with a letter for each byte. -/
def letterCrypto : ResetCrypto where
  sha256Hex data := String.ofList (data.map fun byte => Char.ofNat byte.toNat)
  hmacSha256 key message := key ++ message

theorem letterCrypto_injective : Function.Injective letterCrypto.sha256Hex := by
  have letter : Function.Injective fun byte : UInt8 => Char.ofNat byte.toNat := by decide +kernel
  intro data other same
  exact letter.list_map (String.ofList_injective same)

/-- An enabled user, before anything is issued. -/
def oneUser : ResetWorld where
  db := { users := ⟨[{ id := 1, username := "viewer", displayName := "Viewer" }], by decide⟩ }
  settings := { secretKey := "first", secretKeyPrevious := [] }
  now := 0
  issued := []
  consumed := []

def keysRotated : SecretSettings := { secretKey := "second", secretKeyPrevious := ["first"] }

def onceIssued : ResetWorld := perform letterCrypto .counting id oneUser (.issueAdmin 1 9 0)
def onceRotated : ResetWorld := perform letterCrypto .counting id onceIssued (.rotateKeys keysRotated)

/-- Two tokens for one user, with a new key between them. -/
def twiceIssued : ResetWorld := perform letterCrypto .counting id onceRotated (.issueAdmin 1 9 60)

theorem reset_single_use_rotated :
    twiceIssued.issued.length = 2 ∧ ∀ entry ∈ twiceIssued.issued, ∃ reset,
      twiceIssued.db.passwordResetTokens.get? entry.resetId = some reset ∧
        tokenForRecord letterCrypto twiceIssued.settings reset = .ok entry.token := by
  have keyKept : Permitted onceIssued (.rotateKeys keysRotated) := by
    unfold Permitted
    decide +kernel
  have later : Permitted onceRotated (.issueAdmin 1 9 60) := by
    unfold Permitted
    decide +kernel
  have run : Histories letterCrypto .counting id oneUser
      [.issueAdmin 1 9 0, .rotateKeys keysRotated, .issueAdmin 1 9 60] twiceIssued :=
    .next ⟨le_refl (0 : Int), by rw [onceIssued]⟩ (.next ⟨keyKept, by rw [onceRotated]⟩
      (.next ⟨later, by rw [twiceIssued]⟩ (.done _)))
  exact ⟨by decide +kernel, (reset_single_use letterCrypto_injective ⟨rfl, rfl, rfl⟩ run).2.1⟩

end ZeroNvr.PasswordResetService
