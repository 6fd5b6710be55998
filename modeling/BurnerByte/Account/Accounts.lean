import BurnerByte.Account.Users
import BurnerByte.Basic
import BurnerByte.Core.Table

/-!
# The table of users

A user has an identifier and an e-mail address, and the table has a unique constraint
on each. The address is compared as it is stored, byte by byte. Every request that
rewrites a row leaves the address alone. A time is stored with microseconds.
-/

namespace BurnerByte.Account

open Sql

structure UserRow where
  id : UUID
  user : User

/-- A time, counted in nanoseconds, as a `TIMESTAMPTZ` column keeps it. -/
def timestamptz (time : Nat) : Nat := time / 1000 * 1000

/-- The row as it is read back. -/
def User.stored (user : User) : User :=
  { user with passwordChangedAt := user.passwordChangedAt.map timestamptz }

@[simp] theorem timestamptz_timestamptz (time : Nat) :
    timestamptz (timestamptz time) = timestamptz time := by
  unfold timestamptz
  omega

theorem User.stored_email (user : User) (email : String) :
    ({ user.stored with email } : User).stored = { user.stored with email } := by
  have hidem : timestamptz ∘ timestamptz = timestamptz := funext timestamptz_timestamptz
  simp only [User.stored, Option.map_map, hidem]

@[simp] theorem User.stored_stored (user : User) : user.stored.stored = user.stored :=
  user.stored_email user.email

structure Accounts where
  table : Table UserRow UUID UserRow.id
  emails : (table.rows.map fun account => account.user.email).Nodup
  stored : ∀ account ∈ table, account.user.stored = account.user

theorem UserRow.withUser_id (user : User) (account : UserRow) :
    { account with user := { user.stored with email := account.user.email } }.id = account.id := rfl

namespace Accounts

def empty : Accounts := ⟨.empty, List.nodup_nil, fun _ h => absurd h (Table.not_mem_empty _)⟩

def getByID (accounts : Accounts) (id : UUID) : Option User :=
  (accounts.table.find? id).map UserRow.user

def getByEmail (accounts : Accounts) (email : String) : Option UserRow :=
  accounts.table.rows.find? fun account => account.user.email = email

variable {account : UserRow} {accounts accounts' : Accounts} {id : UUID} {user : User}

theorem stored_insert (accounts : Accounts) {table : Table UserRow UUID UserRow.id}
    (h : account.user.stored = account.user)
    (hinsert : accounts.table.insert account = some table) :
    ∀ row ∈ table, row.user.stored = row.user := by
  intro row hrow
  cases ((Table.insert_eq_some hinsert).2 row).mp hrow with
  | inl hnew =>
    rw [hnew]
    exact h
  | inr hold => exact accounts.stored row hold

/-- Insert a row. The column of the address holds 255 characters. -/
def create (accounts : Accounts) (id : UUID) (user : User) : Except RepoError Accounts :=
  if 255 < user.email.length then .error (.other "create user: value too long for type")
  else
    match hinsert : accounts.table.insert ⟨id, user.stored⟩ with
    | none => .error .conflict
    | some table =>
      if h : (table.rows.map fun account => account.user.email).Nodup then
        .ok ⟨table, h, accounts.stored_insert user.stored_stored hinsert⟩
      else .error .conflict

/-- Rewrite the columns of a row other than its address. -/
def update (accounts : Accounts) (id : UUID) (user : User) : Accounts where
  table := accounts.table.updateWhere (fun account => account.id = id)
    (fun account => { account with user := { user.stored with email := account.user.email } })
    fun _ => rfl
  emails := by
    have hemails : (accounts.table.updateWhere (fun account => account.id = id)
        (fun account => { account with user := { user.stored with email := account.user.email } })
        fun _ => rfl).rows.map (fun account => account.user.email) =
        accounts.table.rows.map fun account => account.user.email := by
      simp only [Table.updateWhere, List.map_map]
      refine List.map_congr_left fun account _ => ?_
      simp only [Function.comp_apply]
      split <;> rfl
    rw [hemails]
    exact accounts.emails
  stored := by
    intro account haccount
    rw [Table.mem_updateWhere] at haccount
    obtain ⟨old, hold, rfl⟩ := haccount
    split
    · exact user.stored_email old.user.email
    · exact accounts.stored old hold

def delete (accounts : Accounts) (id : UUID) : Accounts where
  table := accounts.table.deleteWhere fun account => account.id = id
  emails := accounts.emails.sublist (List.filter_sublist.map _)
  stored := fun account haccount => accounts.stored account (Table.mem_deleteWhere.mp haccount).1

/-! ## Lookups -/

theorem getByID_eq_some :
    accounts.getByID id = some user ↔ (⟨id, user⟩ : UserRow) ∈ accounts.table := by
  unfold getByID
  rw [Option.map_eq_some_iff]
  constructor
  · rintro ⟨account, hfind, rfl⟩
    obtain ⟨hmem, rfl⟩ := Table.find?_eq_some_iff.mp hfind
    exact hmem
  · intro hmem
    exact ⟨_, Table.find?_eq_some_iff.mpr ⟨hmem, rfl⟩, rfl⟩

theorem stored_of_getByID (h : accounts.getByID id = some user) : user.stored = user :=
  accounts.stored _ (getByID_eq_some.mp h)

theorem getByEmail_eq_some {email : String} :
    accounts.getByEmail email = some account ↔
      account ∈ accounts.table ∧ account.user.email = email := find?_column_eq_some accounts.emails

/-! ## What the statements do -/

section

variable (h : accounts.create id user = .ok accounts')

include h

theorem create_eq_ok : accounts.table.insert ⟨id, user.stored⟩ = some accounts'.table := by
  unfold create at h
  split at h
  · cases h
  split at h
  · cases h
  split at h
  · cases h
    assumption
  · cases h

/-- The address of a new row fits its column. -/
theorem email_length_of_create : user.email.length ≤ 255 := by
  unfold create at h
  split at h
  · cases h
  · omega

theorem mem_create (account : UserRow) :
    account ∈ accounts'.table ↔ account = ⟨id, user.stored⟩ ∨ account ∈ accounts.table :=
  (Table.insert_eq_some (create_eq_ok h)).2 account

/-- The identifier of a new row was not in use. -/
theorem fresh_of_create : accounts.getByID id = none := by
  rw [Option.eq_none_iff_forall_ne_some]
  intro old hold
  exact (Table.insert_eq_some (create_eq_ok h)).1 _ (getByID_eq_some.mp hold) rfl

end

theorem mem_update :
    account ∈ (accounts.update id user).table ↔
      ∃ old ∈ accounts.table, (if old.id = id then
        { old with user := { user.stored with email := old.user.email } } else old) = account := by
  unfold update
  rw [Table.mem_updateWhere]
  simp only [decide_eq_true_eq]

theorem getByID_create_self (h : accounts.create id user = .ok accounts') :
    accounts'.getByID id = some user.stored :=
  getByID_eq_some.mpr ((mem_create h _).mpr (.inl rfl))

theorem getByID_create_of_ne {id' : UUID} (h : accounts.create id user = .ok accounts')
    (hne : id' ≠ id) : accounts'.getByID id' = accounts.getByID id' := by
  ext old
  rw [getByID_eq_some, getByID_eq_some, mem_create h]
  constructor
  · rintro (heq | hmem)
    · exact absurd (congrArg UserRow.id heq) hne
    · exact hmem
  · exact .inr

theorem getByID_update_self {old : User} (h : accounts.getByID id = some old) :
    (accounts.update id user).getByID id = some { user.stored with email := old.email } := by
  rw [getByID_eq_some, mem_update]
  exact ⟨⟨id, old⟩, getByID_eq_some.mp h, by simp⟩

theorem getByID_update_of_ne {id' : UUID} (hne : id' ≠ id) :
    (accounts.update id user).getByID id' = accounts.getByID id' := by
  ext old
  rw [getByID_eq_some, getByID_eq_some, mem_update]
  constructor
  · rintro ⟨row, hrow, heq⟩
    split at heq
    · rename_i hid
      exact absurd ((congrArg UserRow.id heq).symm.trans hid) hne
    · rw [← heq]
      exact hrow
  · intro hmem
    exact ⟨⟨id', old⟩, hmem, if_neg hne⟩

end Accounts

end BurnerByte.Account
