import BurnerByte.Core.Expiring
import BurnerByte.Go.Duration
import BurnerByte.Mailbox.Database

/-!
# The three stores of the mail service

The database, a Redis cache that maps the addresses of inboxes to their identifiers, and
the object storage of attachments. Every request is a sequence of writes to the three,
and what holds of all runs is proved from what single writes do.

The cache only holds identifiers that the service wrote, so an entry that is no
identifier does not occur.
-/

namespace BurnerByte.Mailbox

open Go Outcome Sql
open Tenancy (Team Assignment)

structure Object where
  key : StorageKey
  data : Bytes

structure State where
  db : Db
  redis : Expiring.Store Bytes UUID
  objects : List Object
  /-- The latest time at which something happened. -/
  clock : Int

def State.empty : State := ⟨.empty, .empty, [], 0⟩

/-- When Redis drops a key that is set at a time. The client sends whole milliseconds, at
least one, and a lifetime that is not positive sets a key without expiry. -/
def redisDeadline (set ttl : Int) : Option Int :=
  if ttl ≤ 0 then none
  else if ttl < millisecond then some (set + millisecond)
  else some (set + ttl / millisecond * millisecond)

/-- An argument of `fmt.Errorf`. -/
inductive Arg where
  | text (s : Bytes)
  | number (n : Int)
  | duration (nanoseconds : Int)
  | error (err : RepoError)
  deriving DecidableEq

/-- An error by its format and its arguments. -/
structure Failure where
  format : String
  args : List Arg := []
  deriving DecidableEq

/-- An error of a repository that is handed on as it is. -/
def Failure.ofRepo (err : RepoError) : Failure := ⟨err.message, []⟩

/-- The times of a request: when it starts, which is also what its queries take for now,
when it reads the clock again, and from when Redis counts the life of a key. -/
structure Times where
  now : Int
  read : Int
  set : Int

/-- Writes that concern neither inboxes nor mail. -/
inductive Admin where
  | addDomain (domain : Domain)
  | addTeam (team : Team)
  | addAssignment (a : Assignment)
  | setAccessLevel (id : UUID) (accessLevel : String)
  | updateDNSStatus (domainID : UUID) (mx txt : Bool)
  | updateOrgID (domainID orgID : UUID)
  | setTeamOrg (teamID orgID : UUID)

inductive Write where
  | admin (w : Admin)
  | delete (d : Db.Deletion)
  | addInbox (inbox : Inbox)
  | extendTTL (id : UUID) (newExpiry : Int)
  | deactivate (domainID : UUID)
  | clearCreator (userID : UUID)
  | addEmail (email : Email)
  | setHasAttachments (id : UUID) (has : Bool)
  | addAttachment (a : Attachment)
  | redisSet (addr : Bytes) (id : UUID) (deadline : Option Int)
  | redisDel (addr : Bytes)
  | flush
  | putObject (object : Object)
  | removeObject (key : StorageKey)

/-- A statement that fails changes nothing. -/
def Db.admin (db : Db) : Admin → Db
  | .addDomain domain => (db.insertDomain domain).toOption.getD db
  | .addTeam team => (db.insertTeam team).toOption.getD db
  | .addAssignment a => (db.insertAssignment a).toOption.getD db
  | .setAccessLevel id accessLevel => db.setAccessLevel id accessLevel
  | .updateDNSStatus domainID mx txt => db.updateDNSStatus domainID mx txt
  | .updateOrgID domainID orgID => db.updateOrgID domainID orgID
  | .setTeamOrg teamID orgID => db.setTeamOrg teamID orgID

/-- What these writes leave alone. Domains keep their names, and assignments their domains. -/
structure Db.Kept (db db' : Db) : Prop where
  inboxes : db'.inboxes = db.inboxes
  emails : db'.emails = db.emails
  attachments : db'.attachments = db.attachments
  domains : ∀ domain ∈ db.domains, ∃ domain' ∈ db'.domains,
    domain'.id = domain.id ∧ domain'.domainName = domain.domainName
  assignments : ∀ a ∈ db.assignments, ∃ a' ∈ db'.assignments,
    a'.id = a.id ∧ a'.domainID = a.domainID

namespace Db

theorem Kept.refl (db : Db) : db.Kept db where
  inboxes := rfl
  emails := rfl
  attachments := rfl
  domains domain h := ⟨domain, h, rfl, rfl⟩
  assignments a h := ⟨a, h, rfl, rfl⟩

variable {db db' : Db} {domain : Domain}

theorem kept_insertDomain (h : db.insertDomain domain = .ok db') :
    db.Kept db' ∧ ∀ x, x ∈ db'.domains ↔ x = domain ∨ x ∈ db.domains := by
  unfold insertDomain at h
  split at h
  · cases h
  split at h
  · cases h
  rename_i domains hinsert
  cases h
  have hmem := UniqueTable.mem_insert hinsert
  refine ⟨{ Kept.refl db with domains := ?_ }, hmem⟩
  intro old hold
  exact ⟨old, (hmem old).mpr (.inr hold), rfl, rfl⟩

theorem kept_insertTeam {team : Team} (h : db.insertTeam team = .ok db') :
    db.Kept db' ∧ db'.domains = db.domains := by
  unfold insertTeam at h
  split at h
  · cases h
  cases h
  exact ⟨{ Kept.refl db with }, rfl⟩

theorem kept_insertAssignment {a : Assignment} (h : db.insertAssignment a = .ok db') :
    db.Kept db' ∧ db'.domains = db.domains := by
  unfold insertAssignment at h
  split at h
  · split at h
    · cases h
    rename_i assignments hinsert
    cases h
    refine ⟨{ Kept.refl db with assignments := ?_ }, rfl⟩
    intro old hold
    exact ⟨old, (UniqueTable.mem_insert hinsert old).mpr (.inr hold), rfl, rfl⟩
  · cases h

theorem kept_updateDomain (db : Db) (domainID : UUID) (f : Domain → Domain)
    (hid : ∀ domain, (f domain).id = domain.id)
    (hname : ∀ domain, (f domain).domainName = domain.domainName) :
    db.Kept (db.updateDomain domainID f hid hname) := by
  refine { Kept.refl db with domains := ?_ }
  intro domain hdomain
  refine ⟨_, List.mem_map.mpr ⟨domain, hdomain, rfl⟩, ?_⟩
  split
  · exact ⟨hid domain, hname domain⟩
  · exact ⟨rfl, rfl⟩

theorem kept_admin (db : Db) (w : Admin) : db.Kept (db.admin w) := by
  cases w with
  | addDomain domain =>
    exact getD_of_ok (.refl db) fun _ h => (kept_insertDomain h).1
  | addTeam team =>
    exact getD_of_ok (.refl db) fun _ h => (kept_insertTeam h).1
  | addAssignment a =>
    exact getD_of_ok (.refl db) fun _ h => (kept_insertAssignment h).1
  | setAccessLevel id accessLevel =>
    refine { Kept.refl db with assignments := ?_ }
    intro a ha
    refine ⟨_, List.mem_map.mpr ⟨a, ha, rfl⟩, ?_⟩
    split
    · exact ⟨rfl, rfl⟩
    · exact ⟨rfl, rfl⟩
  | updateDNSStatus domainID mx txt | updateOrgID domainID orgID =>
    exact kept_updateDomain db domainID _ _ _
  | setTeamOrg teamID orgID => exact { Kept.refl db with }

/-- An update of a domain concerns its other columns. -/
theorem exists_of_mem_updateDomain {domainID : UUID} {f : Domain → Domain}
    {hid : ∀ domain, (f domain).id = domain.id}
    {hname : ∀ domain, (f domain).domainName = domain.domainName}
    (h : domain ∈ (db.updateDomain domainID f hid hname).domains) :
    ∃ old ∈ db.domains, old.domainName = domain.domainName := by
  obtain ⟨old, hold, rfl⟩ := List.mem_map.mp h
  refine ⟨old, hold, ?_⟩
  split
  · exact (hname old).symm
  · rfl

theorem domains_addTeam (db : Db) (team : Team) : (db.admin (.addTeam team)).domains = db.domains :=
  getD_of_ok (P := (Db.domains · = db.domains)) rfl fun _ h => (kept_insertTeam h).2

theorem domains_addAssignment (db : Db) (a : Assignment) :
    (db.admin (.addAssignment a)).domains = db.domains :=
  getD_of_ok (P := (Db.domains · = db.domains)) rfl fun _ h => (kept_insertAssignment h).2

/-- The name of a domain was there before, or the domain is new. -/
theorem mem_admin_domains {w : Admin} (h : domain ∈ (db.admin w).domains) :
    (∃ old ∈ db.domains, old.domainName = domain.domainName) ∨ w = .addDomain domain := by
  cases w with
  | addDomain new =>
    cases hinsert : db.insertDomain new with
    | error err =>
      simp only [admin, hinsert] at h
      exact .inl ⟨domain, h, rfl⟩
    | ok db' =>
      simp only [admin, hinsert] at h
      cases ((kept_insertDomain hinsert).2 domain).mp h with
      | inl heq => exact .inr (congrArg Admin.addDomain heq.symm)
      | inr hold => exact .inl ⟨domain, hold, rfl⟩
  | addTeam team =>
    rw [domains_addTeam] at h
    exact .inl ⟨domain, h, rfl⟩
  | addAssignment a =>
    rw [domains_addAssignment] at h
    exact .inl ⟨domain, h, rfl⟩
  | setAccessLevel id accessLevel | setTeamOrg teamID orgID => exact .inl ⟨domain, h, rfl⟩
  | _ => exact .inl (exists_of_mem_updateDomain h)

end Db

def State.write (s : State) : Write → State
  | .admin w => { s with db := s.db.admin w }
  | .delete d => { s with db := s.db.delete d }
  | .addInbox inbox => { s with db := (s.db.insertInbox inbox).toOption.getD s.db }
  | .extendTTL id newExpiry => { s with db := s.db.extendTTL id newExpiry }
  | .deactivate domainID => { s with db := s.db.deactivateInboxesByDomain domainID }
  | .clearCreator userID => { s with db := s.db.clearCreator userID }
  | .addEmail email => { s with db := (s.db.insertEmail email).toOption.getD s.db }
  | .setHasAttachments id has => { s with db := s.db.setHasAttachments id has }
  | .addAttachment a => { s with db := (s.db.insertAttachment a).toOption.getD s.db }
  | .redisSet addr id deadline => { s with redis := s.redis.set addr id deadline }
  | .redisDel addr => { s with redis := s.redis.del addr }
  | .flush => { s with redis := .empty }
  | .putObject object =>
    { s with objects := object :: s.objects.filter fun old => old.key ≠ object.key }
  | .removeObject key => { s with objects := s.objects.filter fun old => old.key ≠ key }

/-- A new message changes no other table. -/
theorem State.write_addEmail_frame (s : State) (email : Email) :
    (s.write (.addEmail email)).db.domains = s.db.domains ∧
      (s.write (.addEmail email)).db.assignments = s.db.assignments ∧
      (s.write (.addEmail email)).db.inboxes = s.db.inboxes ∧
      (s.write (.addEmail email)).db.attachments = s.db.attachments :=
  getD_of_ok
    (P := fun db : Db => db.domains = s.db.domains ∧ db.assignments = s.db.assignments ∧
      db.inboxes = s.db.inboxes ∧ db.attachments = s.db.attachments)
    ⟨rfl, rfl, rfl, rfl⟩ fun _ hinsert => (Db.insertEmail_eq_ok hinsert).2

/-- A new attachment changes no other table. -/
theorem State.write_addAttachment_frame (s : State) (a : Attachment) :
    (s.write (.addAttachment a)).db.domains = s.db.domains ∧
      (s.write (.addAttachment a)).db.assignments = s.db.assignments ∧
      (s.write (.addAttachment a)).db.inboxes = s.db.inboxes ∧
      (s.write (.addAttachment a)).db.emails = s.db.emails :=
  getD_of_ok
    (P := fun db : Db => db.domains = s.db.domains ∧ db.assignments = s.db.assignments ∧
      db.inboxes = s.db.inboxes ∧ db.emails = s.db.emails)
    ⟨rfl, rfl, rfl, rfl⟩ fun _ hinsert => (Db.insertAttachment_eq_ok hinsert).2

end BurnerByte.Mailbox
