import BurnerByte.Mailbox.Inboxes

/-!
# Realtime events

What the SMTP daemon publishes when it has stored a message, what the cleanup worker
publishes for an expired inbox, and the statements that an API instance executes for each
event it receives. The instance also pushes the event to its own WebSocket clients, which
writes nothing.

An event reaches the instances as JSON. Its texts were stored in the database before, so
they are valid UTF-8 and survive the encoding.
-/

namespace BurnerByte.Realtime

open Go
open Mailbox (Inbox)

inductive MessageType where
  | emailReceived
  | inboxExpired
  | other (name : Bytes)
  deriving DecidableEq

def MessageType.text : MessageType → Bytes
  | .emailReceived => lit "email.received"
  | .inboxExpired => lit "inbox.expired"
  | .other name => name

/-- The data by the names of its fields. -/
structure Message where
  type : MessageType
  data : List (String × Bytes)

structure InboxEvent where
  inboxID : UUID
  userID : UUID
  orgID : UUID
  sizeBytes : Nat
  senderDomain : Bytes
  domainName : Bytes
  teamID : UUID
  hour : Int
  message : Message

/-! ## Events of the SMTP daemon -/

/-- What the end of `process` reads of the message it has stored. -/
structure Received where
  sender : Bytes
  subject : Bytes
  sizeBytes : Nat
  hour : Fin 24

section

variable (m : Casing)

/-- What follows the first `@` of the sender. -/
def senderDomain (sender : Bytes) : Bytes :=
  match splitN2 sender (lit "@") with
  | [_, name] => toLower m name
  | _ => []

/-- The organisation comes with the inbox, from the row of its domain. -/
def orgOf (db : Mailbox.Db) (inbox : Inbox) : UUID :=
  match db.domains.find? inbox.domainID with
  | none => uuidNil
  | some domain => domain.orgID

/-- The team and the domain name of the assignment. An error of the lookup leaves both empty. -/
def assignmentOf (db : Mailbox.Db) (inbox : Inbox) : UUID × Bytes :=
  match db.assignments.find? inbox.domainAssignmentID with
  | none => (uuidNil, [])
  | some a =>
    match db.domains.find? a.domainID with
    | none => (uuidNil, [])
    | some domain => (a.teamID, domain.domainName)

def emailReceived (db : Mailbox.Db) (inbox : Inbox) (r : Received) : InboxEvent where
  inboxID := inbox.id
  userID := inbox.owner
  orgID := orgOf db inbox
  sizeBytes := r.sizeBytes
  senderDomain := senderDomain m r.sender
  domainName := (assignmentOf db inbox).2
  teamID := (assignmentOf db inbox).1
  hour := r.hour.val
  message := ⟨.emailReceived, [("from_address", r.sender), ("subject", r.subject)]⟩

end

/-! ## Events of the cleanup worker -/

/-- An inbox as the query of the expired inboxes reports it, with its organisation and team. -/
structure Expired where
  id : UUID
  createdBy : UUID
  fullAddress : Bytes
  expiresAt : Int
  orgID : UUID
  teamID : UUID

def inboxExpired (ib : Expired) : InboxEvent where
  inboxID := ib.id
  userID := ib.createdBy
  orgID := ib.orgID
  sizeBytes := 0
  senderDomain := []
  domainName := []
  teamID := ib.teamID
  hour := -1
  message := ⟨.inboxExpired, [("full_address", ib.fullAddress)]⟩

/-! ## Statements of the subscribers -/

inductive Statement where
  | createNotification (userID : UUID) (type title message : Bytes) (inboxID : Option UUID)
  | incrementEmail (orgID : UUID) (sizeBytes : Nat)
  | upsertDailyStat (orgID : UUID) (emailsReceived inboxesCreated storageBytes : Nat)
  | upsertHourlyStat (orgID : UUID) (hour : Int)
  | upsertDomainStat (orgID : UUID) (domainName : Bytes)
  | upsertSenderDomainStat (orgID : UUID) (senderDomain : Bytes)
  | incrementTeamEmail (teamID : UUID) (sizeBytes : Nat)
  | upsertDailyTeamStat (teamID : UUID) (emailsReceived inboxesCreated storageBytes : Nat)

namespace InboxEvent

variable (evt : InboxEvent)

/-- A field that is missing is read as the empty text. -/
def field (name : String) : Bytes := (evt.message.data.lookup name).getD []

/-- The dash between the sender and the subject of a notification, in UTF-8. -/
def dash : Bytes := [32, 226, 128, 148, 32]

def title : Bytes :=
  match evt.message.type with
  | .emailReceived => lit "New email received"
  | .inboxExpired => lit "Inbox Expired"
  | .other name => name

def body : Bytes :=
  match evt.message.type with
  | .emailReceived =>
    let subject := if evt.field "subject" = [] then lit "(no subject)" else evt.field "subject"
    if evt.field "from_address" ≠ [] then
      lit "From: " ++ evt.field "from_address" ++ dash ++ subject
    else subject
  | .inboxExpired =>
    (evt.message.data.lookup "full_address").getD (lit "An inbox has expired")
  | .other _ => evt.field "full_address"

def notification : Statement :=
  .createNotification evt.userID evt.message.type.text evt.title evt.body (some evt.inboxID)

/-- The counters of a message. A counter without a name is left out. -/
def counters : List Statement :=
  if evt.message.type = .emailReceived ∧ evt.orgID ≠ uuidNil then
    [.incrementEmail evt.orgID evt.sizeBytes, .upsertDailyStat evt.orgID 1 0 evt.sizeBytes] ++
      (if 0 ≤ evt.hour then [.upsertHourlyStat evt.orgID evt.hour] else []) ++
      (if evt.domainName ≠ [] then [.upsertDomainStat evt.orgID evt.domainName] else []) ++
      (if evt.senderDomain ≠ [] then [.upsertSenderDomainStat evt.orgID evt.senderDomain]
        else []) ++
      (if evt.teamID ≠ uuidNil then
        [.incrementTeamEmail evt.teamID evt.sizeBytes,
          .upsertDailyTeamStat evt.teamID 1 0 evt.sizeBytes]
      else [])
  else []

/-- What `Subscribe` does with an event. -/
def statements : List Statement := evt.notification :: evt.counters

end InboxEvent

/-! ## A small mail service -/

/-- Team 2 of organisation 1 is assigned domain 4, and inbox 6 was created for the assignment. -/
def sampleMail : Mailbox.Db where
  teams := ⟨[⟨2, 1, false⟩], by decide⟩
  domains := ⟨⟨[⟨4, 1, lit "b.io", true, true⟩], by decide⟩, by decide⟩
  assignments := ⟨⟨[⟨5, 2, 4, "full", none⟩], by decide⟩, by decide⟩
  inboxes := ⟨⟨[⟨6, 5, 4, some 3, lit "a", lit "a@b.io", true, 50, 0, none⟩], by decide⟩, by decide⟩
  emails := .empty
  attachments := .empty
  assignment_team := by decide
  assignment_domain := by decide
  inbox_assignment := by decide
  inbox_domain := by decide
  email_inbox := by decide
  attachment_email := by decide

end BurnerByte.Realtime
