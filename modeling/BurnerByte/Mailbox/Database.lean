import BurnerByte.Core.References
import BurnerByte.Go.Strings
import BurnerByte.Tenancy.Assignments

/-!
# The tables of the mail service

Teams are assigned domains, inboxes are created for an assignment, e-mails arrive in
inboxes and carry attachments. Every reference is a foreign key with `ON DELETE CASCADE`:
a deletion takes with it everything that hangs below the deleted rows. The one exception
is the creator of an inbox, which becomes null when the user is deleted.

Times are counted in nanoseconds, and a column keeps microseconds.
-/

namespace BurnerByte.Mailbox

open Go Sql
open Tenancy (Team Assignment)

structure Domain where
  id : UUID
  orgID : UUID
  domainName : Bytes
  mxVerified : Bool
  txtVerified : Bool

structure Inbox where
  id : UUID
  domainAssignmentID : UUID
  domainID : UUID
  createdBy : Option UUID
  address : Bytes
  fullAddress : Bytes
  isActive : Bool
  expiresAt : Int
  createdAt : Int
  /-- What `time.ParseDuration` reads from the column. -/
  originalTTL : Option Int
  deriving DecidableEq

/-- The condition of most queries on inboxes. -/
def Inbox.live (inbox : Inbox) (now : Int) : Bool := inbox.isActive && now < inbox.expiresAt

/-- The statements of the cleanup job compare with their own `NOW()`. -/
def expired (now : Int) (inbox : Inbox) : Bool := inbox.expiresAt < now

structure Email where
  id : UUID
  inboxID : UUID
  toAddress : Bytes
  hasAttachments : Bool
  expiresAt : Int
  deriving DecidableEq

/-- The key of an object, `attachments/{email}/{object}/{filename}`. -/
structure StorageKey where
  emailID : UUID
  object : UUID
  filename : Bytes
  deriving DecidableEq

structure Attachment where
  id : UUID
  emailID : UUID
  filename : Bytes
  contentType : Bytes
  sizeBytes : Nat
  storageKey : StorageKey

/-- A time as a `TIMESTAMPTZ` column keeps it. -/
def timestamptz (time : Int) : Int := time / 1000 * 1000

/-- The team and the domain, which are unique together. -/
def assigned (a : Assignment) : UUID × UUID := (a.teamID, a.domainID)

structure Db where
  teams : Table Team UUID Team.id
  domains : UniqueTable Domain UUID Bytes Domain.id Domain.domainName
  assignments : UniqueTable Assignment UUID (UUID × UUID) Assignment.id assigned
  inboxes : UniqueTable Inbox UUID Bytes Inbox.id Inbox.fullAddress
  emails : Table Email UUID Email.id
  attachments : Table Attachment UUID Attachment.id
  assignment_team : References assignments.rows Assignment.teamID teams
  assignment_domain : References assignments.rows Assignment.domainID domains.toTable
  inbox_assignment : References inboxes.rows Inbox.domainAssignmentID assignments.toTable
  inbox_domain : References inboxes.rows Inbox.domainID domains.toTable
  email_inbox : References emails.rows Email.inboxID inboxes.toTable
  attachment_email : References attachments.rows Attachment.emailID emails

namespace Db

def empty : Db where
  teams := .empty
  domains := .empty
  assignments := .empty
  inboxes := .empty
  emails := .empty
  attachments := .empty
  assignment_team _ h := nomatch h
  assignment_domain _ h := nomatch h
  inbox_assignment _ h := nomatch h
  inbox_domain _ h := nomatch h
  email_inbox _ h := nomatch h
  attachment_email _ h := nomatch h

/-! ## Deletions -/

/-- The rows that a request names. -/
structure Deletion where
  teams : Team → Bool := fun _ => false
  domains : Domain → Bool := fun _ => false
  assignments : Assignment → Bool := fun _ => false
  inboxes : Inbox → Bool := fun _ => false
  emails : Email → Bool := fun _ => false
  attachments : Attachment → Bool := fun _ => false

section

variable (db : Db) (d : Deletion)

/-- The assignment is named, or its team or its domain is. -/
def removesAssignment (a : Assignment) : Bool :=
  d.assignments a || db.teams.rows.any (fun team => d.teams team && team.id = a.teamID) ||
    db.domains.rows.any fun domain => d.domains domain && domain.id = a.domainID

def removesInbox (inbox : Inbox) : Bool :=
  d.inboxes inbox ||
    db.assignments.rows.any
      (fun a => db.removesAssignment d a && a.id = inbox.domainAssignmentID) ||
    db.domains.rows.any fun domain => d.domains domain && domain.id = inbox.domainID

def removesEmail (email : Email) : Bool :=
  d.emails email ||
    db.inboxes.rows.any fun inbox => db.removesInbox d inbox && inbox.id = email.inboxID

def removesAttachment (a : Attachment) : Bool :=
  d.attachments a || db.emails.rows.any fun email => db.removesEmail d email && email.id = a.emailID

end

/-- Delete rows and everything below them. -/
def delete (db : Db) (d : Deletion) : Db where
  teams := db.teams.deleteWhere d.teams
  domains := db.domains.deleteWhere d.domains
  assignments := db.assignments.deleteWhere (db.removesAssignment d)
  inboxes := db.inboxes.deleteWhere (db.removesInbox d)
  emails := db.emails.deleteWhere (db.removesEmail d)
  attachments := db.attachments.deleteWhere (db.removesAttachment d)
  assignment_team := by
    refine db.assignment_team.deleteWhere fun a _ team hteam hkey hdeleted => ?_
    simp [removesAssignment, any_parent hteam hdeleted hkey]
  assignment_domain := by
    refine db.assignment_domain.deleteWhere fun a _ domain hdomain hkey hdeleted => ?_
    simp [removesAssignment, any_parent hdomain hdeleted hkey]
  inbox_assignment := by
    refine db.inbox_assignment.deleteWhere fun inbox _ a ha hkey hdeleted => ?_
    simp [removesInbox, any_parent ha hdeleted hkey]
  inbox_domain := by
    refine db.inbox_domain.deleteWhere fun inbox _ domain hdomain hkey hdeleted => ?_
    simp [removesInbox, any_parent hdomain hdeleted hkey]
  email_inbox := by
    refine db.email_inbox.deleteWhere fun email _ inbox hinbox hkey hdeleted => ?_
    simp [removesEmail, any_parent hinbox hdeleted hkey]
  attachment_email := by
    refine db.attachment_email.deleteWhere fun a _ email hemail hkey hdeleted => ?_
    simp [removesAttachment, any_parent hemail hdeleted hkey]

section

variable {db : Db} {d : Deletion}

variable {a : Assignment} {inbox : Inbox} {email : Email}

theorem removesAssignment_iff :
    db.removesAssignment d a = true ↔
      d.assignments a = true ∨ (∃ team ∈ db.teams, d.teams team = true ∧ team.id = a.teamID) ∨
        ∃ domain ∈ db.domains, d.domains domain = true ∧ domain.id = a.domainID := by
  simp only [removesAssignment, Bool.or_eq_true, List.any_eq_true, Bool.and_eq_true,
    decide_eq_true_eq, or_assoc]
  rfl

theorem removesInbox_iff :
    db.removesInbox d inbox = true ↔
      d.inboxes inbox = true ∨
        (∃ a ∈ db.assignments, db.removesAssignment d a = true ∧ a.id = inbox.domainAssignmentID) ∨
        ∃ domain ∈ db.domains, d.domains domain = true ∧ domain.id = inbox.domainID := by
  simp only [removesInbox, Bool.or_eq_true, List.any_eq_true, Bool.and_eq_true,
    decide_eq_true_eq, or_assoc]
  rfl

/-- A deletion that names no parent of an inbox. -/
theorem removesInbox_inboxes (p : Inbox → Bool) (q : Email → Bool) (r : Attachment → Bool) :
    db.removesInbox { inboxes := p, emails := q, attachments := r } inbox = p inbox := by
  rw [Bool.eq_iff_iff, removesInbox_iff]
  simp [removesAssignment_iff]

theorem removesEmail_iff :
    db.removesEmail d email = true ↔
      d.emails email = true ∨
        ∃ inbox ∈ db.inboxes, db.removesInbox d inbox = true ∧ inbox.id = email.inboxID := by
  simp only [removesEmail, Bool.or_eq_true, List.any_eq_true, Bool.and_eq_true, decide_eq_true_eq]
  rfl

theorem removesAttachment_iff {a : Attachment} :
    db.removesAttachment d a = true ↔
      d.attachments a = true ∨
        ∃ email ∈ db.emails, db.removesEmail d email = true ∧ email.id = a.emailID := by
  simp only [removesAttachment, Bool.or_eq_true, List.any_eq_true, Bool.and_eq_true,
    decide_eq_true_eq]
  rfl

@[simp] theorem mem_delete_domains {domain : Domain} :
    domain ∈ (db.delete d).domains ↔ domain ∈ db.domains ∧ d.domains domain = false :=
  UniqueTable.mem_deleteWhere

@[simp] theorem mem_delete_assignments :
    a ∈ (db.delete d).assignments ↔ a ∈ db.assignments ∧ db.removesAssignment d a = false :=
  UniqueTable.mem_deleteWhere

@[simp] theorem mem_delete_inboxes :
    inbox ∈ (db.delete d).inboxes ↔ inbox ∈ db.inboxes ∧ db.removesInbox d inbox = false :=
  UniqueTable.mem_deleteWhere

@[simp] theorem mem_delete_emails :
    email ∈ (db.delete d).emails ↔ email ∈ db.emails ∧ db.removesEmail d email = false :=
  Table.mem_deleteWhere

@[simp] theorem mem_delete_attachments {a : Attachment} :
    a ∈ (db.delete d).attachments ↔ a ∈ db.attachments ∧ db.removesAttachment d a = false :=
  Table.mem_deleteWhere

end

/-! ## Insertions -/

/-- The name has at most 255 characters. -/
def insertDomain (db : Db) (domain : Domain) : Except RepoError Db :=
  if 255 < (runes domain.domainName).length then
    .error (.other "create domain: value too long for type")
  else
    match hinsert : db.domains.insert domain with
    | none => .error .conflict
    | some domains =>
      .ok { db with
        domains
        assignment_domain := db.assignment_domain.of_parent_mem (UniqueTable.mem_insert hinsert)
        inbox_domain := db.inbox_domain.of_parent_mem (UniqueTable.mem_insert hinsert) }

def insertTeam (db : Db) (team : Team) : Except RepoError Db :=
  match hinsert : db.teams.insert team with
  | none => .error .conflict
  | some teams =>
    .ok { db with
      teams
      assignment_team := db.assignment_team.of_parent_mem (Table.insert_eq_some hinsert).2 }

def insertAssignment (db : Db) (a : Assignment) : Except RepoError Db :=
  if h : (∃ team ∈ db.teams, team.id = a.teamID) ∧
      ∃ domain ∈ db.domains, domain.id = a.domainID then
    match hinsert : db.assignments.insert a with
    | none => .error .conflict
    | some assignments =>
      .ok { db with
        assignments
        assignment_team := db.assignment_team.of_mem h.1 (UniqueTable.mem_insert hinsert)
        assignment_domain := db.assignment_domain.of_mem h.2 (UniqueTable.mem_insert hinsert)
        inbox_assignment := db.inbox_assignment.of_parent_mem (UniqueTable.mem_insert hinsert) }
  else .error (.other "create assignment: foreign key violation")

def insertInbox (db : Db) (inbox : Inbox) : Except RepoError Db :=
  if h : (∃ a ∈ db.assignments, a.id = inbox.domainAssignmentID) ∧
      ∃ domain ∈ db.domains, domain.id = inbox.domainID then
    match hinsert : db.inboxes.insert inbox with
    | none => .error .conflict
    | some inboxes =>
      .ok { db with
        inboxes
        inbox_assignment := db.inbox_assignment.of_mem h.1 (UniqueTable.mem_insert hinsert)
        inbox_domain := db.inbox_domain.of_mem h.2 (UniqueTable.mem_insert hinsert)
        email_inbox := db.email_inbox.of_parent_mem (UniqueTable.mem_insert hinsert) }
  else .error (.other "create inbox: foreign key violation")

def insertEmail (db : Db) (email : Email) : Except RepoError Db :=
  if h : ∃ inbox ∈ db.inboxes, inbox.id = email.inboxID then
    match hinsert : db.emails.insert email with
    | none => .error (.other "create email: duplicate key value")
    | some emails =>
      .ok { db with
        emails
        email_inbox := db.email_inbox.of_mem h (Table.insert_eq_some hinsert).2
        attachment_email := db.attachment_email.of_parent_mem (Table.insert_eq_some hinsert).2 }
  else .error (.other "create email: foreign key violation")

def insertAttachment (db : Db) (a : Attachment) : Except RepoError Db :=
  if h : ∃ email ∈ db.emails, email.id = a.emailID then
    match hinsert : db.attachments.insert a with
    | none => .error (.other "create attachment: duplicate key value")
    | some attachments =>
      .ok { db with
        attachments
        attachment_email := db.attachment_email.of_mem h (Table.insert_eq_some hinsert).2 }
  else .error (.other "create attachment: foreign key violation")

section

variable {db db' : Db}

theorem insertInbox_eq_ok {inbox : Inbox} (h : db.insertInbox inbox = .ok db') :
    (∀ x, x ∈ db'.inboxes ↔ x = inbox ∨ x ∈ db.inboxes) ∧ db'.domains = db.domains ∧
      db'.assignments = db.assignments ∧ db'.emails = db.emails ∧
      db'.attachments = db.attachments := by
  unfold insertInbox at h
  split at h
  · split at h
    · cases h
    rename_i inboxes hinsert
    cases h
    exact ⟨UniqueTable.mem_insert hinsert, rfl, rfl, rfl, rfl⟩
  · cases h

theorem insertEmail_eq_ok {email : Email} (h : db.insertEmail email = .ok db') :
    (∀ x, x ∈ db'.emails ↔ x = email ∨ x ∈ db.emails) ∧ db'.domains = db.domains ∧
      db'.assignments = db.assignments ∧ db'.inboxes = db.inboxes ∧
      db'.attachments = db.attachments := by
  unfold insertEmail at h
  split at h
  · split at h
    · cases h
    rename_i emails hinsert
    cases h
    exact ⟨(Table.insert_eq_some hinsert).2, rfl, rfl, rfl, rfl⟩
  · cases h

theorem insertAttachment_eq_ok {a : Attachment} (h : db.insertAttachment a = .ok db') :
    (∀ x, x ∈ db'.attachments ↔ x = a ∨ x ∈ db.attachments) ∧ db'.domains = db.domains ∧
      db'.assignments = db.assignments ∧ db'.inboxes = db.inboxes ∧ db'.emails = db.emails := by
  unfold insertAttachment at h
  split at h
  · split at h
    · cases h
    rename_i attachments hinsert
    cases h
    exact ⟨(Table.insert_eq_some hinsert).2, rfl, rfl, rfl, rfl⟩
  · cases h

end

/-! ## Updates -/

/-- The team in another organisation. -/
def moveTeam (orgID : UUID) (team : Team) : Team := { team with orgID }

theorem moveTeam_id (orgID : UUID) (team : Team) : (moveTeam orgID team).id = team.id := rfl

section

variable (db : Db)

def setTeamOrg (teamID orgID : UUID) : Db :=
  { db with
    teams := db.teams.updateWhere (fun team => team.id = teamID) (moveTeam orgID)
      (moveTeam_id orgID)
    assignment_team := db.assignment_team.update_parents _ (moveTeam orgID) (moveTeam_id orgID) }

def setAccessLevel (id : UUID) (accessLevel : String) : Db :=
  let f (a : Assignment) : Assignment := { a with accessLevel }
  { db with
    assignments := db.assignments.updateWhere (fun a => a.id = id) f (fun _ => rfl) fun _ => rfl
    assignment_team := db.assignment_team.update _ f fun _ => rfl
    assignment_domain := db.assignment_domain.update _ f fun _ => rfl
    inbox_assignment := db.inbox_assignment.update_parents _ f fun _ => rfl }

/-- Update columns of a domain other than its name. -/
def updateDomain (domainID : UUID) (f : Domain → Domain) (hid : ∀ domain, (f domain).id = domain.id)
    (hname : ∀ domain, (f domain).domainName = domain.domainName) : Db :=
  { db with
    domains := db.domains.updateWhere (fun domain => domain.id = domainID) f hid hname
    assignment_domain := db.assignment_domain.update_parents _ _ hid
    inbox_domain := db.inbox_domain.update_parents _ _ hid }

def updateDNSStatus (domainID : UUID) (mx txt : Bool) : Db :=
  db.updateDomain domainID (fun d => { d with mxVerified := mx, txtVerified := txt })
    (fun _ => rfl) fun _ => rfl

def updateOrgID (domainID orgID : UUID) : Db :=
  db.updateDomain domainID (fun d => { d with orgID }) (fun _ => rfl) fun _ => rfl

/-- Update the columns of inboxes that are not keys: whether they are active, their expiry
and their creator. -/
def updateInboxes (p : Inbox → Bool) (isActive : Inbox → Bool) (expiresAt : Inbox → Int)
    (createdBy : Inbox → Option UUID) : Db :=
  let f (inbox : Inbox) : Inbox :=
    { inbox with
      isActive := isActive inbox, expiresAt := expiresAt inbox, createdBy := createdBy inbox }
  { db with
    inboxes := db.inboxes.updateWhere p f (fun _ => rfl) fun _ => rfl
    inbox_assignment := db.inbox_assignment.update p f fun _ => rfl
    inbox_domain := db.inbox_domain.update p f fun _ => rfl
    email_inbox := db.email_inbox.update_parents p f fun _ => rfl }

def extendTTL (id : UUID) (newExpiry : Int) : Db :=
  db.updateInboxes (fun inbox => inbox.id = id) Inbox.isActive (fun _ => timestamptz newExpiry)
    Inbox.createdBy

def deactivateInboxesByDomain (domainID : UUID) : Db :=
  db.updateInboxes (fun inbox => inbox.domainID = domainID && inbox.isActive) (fun _ => false)
    Inbox.expiresAt Inbox.createdBy

def setHasAttachments (id : UUID) (has : Bool) : Db :=
  let f (email : Email) : Email := { email with hasAttachments := has }
  { db with
    emails := db.emails.updateWhere (fun email => email.id = id) f fun _ => rfl
    email_inbox := db.email_inbox.update _ f fun _ => rfl
    attachment_email := db.attachment_email.update_parents _ f fun _ => rfl }

/-- What the deletion of a user leaves of their inboxes. -/
def clearCreator (userID : UUID) : Db :=
  db.updateInboxes (fun inbox => inbox.createdBy = some userID) Inbox.isActive Inbox.expiresAt
    fun _ => none

/-! ## Queries -/

/-- The query reports an expired inbox as inactive. -/
def getByID (now : Int) (id : UUID) : Option Inbox :=
  (db.inboxes.find? id).map fun inbox => { inbox with isActive := inbox.live now }

def getByFullAddress (now : Int) (addr : Bytes) : Option Inbox :=
  (db.inboxes.findBy addr).filter fun inbox => inbox.live now

def getByTeamAndDomain (teamID domainID : UUID) : Option Assignment :=
  db.assignments.findBy (teamID, domainID)

def countActiveByDomain (now : Int) (domainID : UUID) : Nat :=
  db.inboxes.rows.countP fun inbox => inbox.domainID = domainID && inbox.live now

def countActiveByUser (now : Int) (userID : UUID) : Nat :=
  db.inboxes.rows.countP fun inbox => inbox.createdBy = some userID && inbox.live now

/-- The addresses are put together from the inboxes and the name of their domain. -/
def listActiveAddressesByDomain (now : Int) (domainID : UUID) : List Bytes :=
  match db.domains.find? domainID with
  | none => []
  | some domain =>
    (db.inboxes.rows.filter fun inbox => inbox.domainID = domainID && inbox.live now).map
      fun inbox => inbox.address ++ lit "@" ++ domain.domainName

def listActive (now : Int) : List Inbox :=
  db.inboxes.rows.filter fun inbox => inbox.live now

end

theorem getByID_eq_some {db : Db} {now : Int} {id : UUID} {inbox : Inbox} :
    db.getByID now id = some inbox ↔
      ∃ row ∈ db.inboxes, row.id = id ∧ inbox = { row with isActive := row.live now } := by
  unfold getByID
  rw [Option.map_eq_some_iff]
  constructor
  · rintro ⟨row, hfind, rfl⟩
    obtain ⟨hrow, hid⟩ := UniqueTable.find?_eq_some_iff.mp hfind
    exact ⟨row, hrow, hid, rfl⟩
  · rintro ⟨row, hrow, hid, rfl⟩
    exact ⟨row, UniqueTable.find?_eq_some_iff.mpr ⟨hrow, hid⟩, rfl⟩

theorem getByFullAddress_eq_some {db : Db} {now : Int} {addr : Bytes} {inbox : Inbox} :
    db.getByFullAddress now addr = some inbox ↔
      inbox ∈ db.inboxes ∧ inbox.fullAddress = addr ∧ inbox.live now = true := by
  unfold getByFullAddress
  rw [Option.filter_eq_some_iff, UniqueTable.findBy_eq_some_iff, and_assoc]

end Db

end BurnerByte.Mailbox
