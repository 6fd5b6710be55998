import BurnerByte.Mailbox.Requests

/-!
# Whose mail it is

The operations of the services on one inbox, message or attachment, for a user. An attachment
belongs to its message, a message to its inbox, and an inbox to the user who created it.
-/

namespace BurnerByte.Mailbox

open Trace

/-- The mailbox, with what is known of a message besides. -/
structure Mail where
  state : State
  isRead : UUID → Bool
  receivedAt : UUID → Nat

inductive Data where
  | inbox (inbox : Inbox)
  | email (email : Email) (isRead : Bool) (attachments : List Attachment)
  | emails (summaries : List (Email × Bool)) (total : Int)
  | count (n : Nat)
  /-- A URL for the object of the attachment, under its name. -/
  | url (a : Attachment)
  | done

/-- What a search finds is up to the database, and whether it can make a URL to the storage. -/
inductive Request where
  | getInbox (id : UUID)
  | extendTTL (id : UUID) (extension : Option (Option Int)) (settings : Settings)
  | deleteInbox (id : UUID)
  | getEmail (id : UUID)
  | listByInbox (inboxID : UUID) (page perPage : Int)
  | search (inboxID : UUID) (finds : Email → Bool) (page perPage : Int)
  | markReadUnread (id : UUID) (isRead : Bool)
  | markAllRead (inboxID : UUID)
  | deleteEmail (id : UUID)
  | getDownloadURL (id : UUID) (refused : Option String)

section

variable (db : Db) (now : Int)

/-- The message, if its inbox is the user's. -/
def ownEmail (forbidden : String) (id userID : UUID) : Except Failure Email :=
  match db.emails.find? id with
  | none => .error (.ofRepo .notFound)
  | some email =>
    match db.getByID now email.inboxID with
    | none => .error (.ofRepo .notFound)
    | some inbox => if inbox.owner ≠ userID then .error ⟨forbidden, []⟩ else .ok email

/-- The attachment, if the inbox of its message is the user's. -/
def checkOwnership (id userID : UUID) : Except Failure Attachment :=
  match db.attachments.find? id with
  | none => .error (.ofRepo .notFound)
  | some a => (ownEmail db now "forbidden: not your attachment" a.emailID userID).map fun _ => a

end

namespace Mail

variable (s : Mail)

/-- One page of messages. -/
def list (finds : Email → Bool) (page perPage : Int) : Except Failure Data :=
  let (page, perPage) := clampPage page perPage
  match selectPage (fun email => s.receivedAt email.id) (s.state.db.emails.rows.filter finds) page
    perPage with
  | .error msg => .error ⟨msg, []⟩
  | .ok (emails, total) => .ok (.emails (emails.map fun email => (email, s.isRead email.id)) total)

def markRead (p : Email → Bool) (isRead : Bool) : Mail :=
  { s with isRead := fun id =>
      if (s.state.db.emails.find? id).any p then isRead else s.isRead id }

/-- What follows the check, and what it finds. -/
def after {α : Type} (check : Except Failure α) (f : α → Except Failure Data × Mail) :
    Except Failure Data × Mail :=
  match check with
  | .error err => (.error err, s)
  | .ok a => f a

def handle (t : Times) (userID : UUID) : Request → Except Failure Data × Mail
  | .getInbox id =>
    s.after (ownInbox s.state.db t.now id userID) fun inbox => (.ok (.inbox inbox), s)
  | .extendTTL id extension settings =>
    let (result, state) := Mailbox.extendTTL s.state t ⟨id, userID, extension, settings⟩
    (result.map .inbox, { s with state })
  | .deleteInbox id =>
    let (result, state) := Mailbox.deleteInbox s.state t id userID
    (result.map fun _ => .done, { s with state })
  | .getEmail id =>
    s.after (ownEmail s.state.db t.now "forbidden: not your email" id userID) fun email =>
      let attachments := if email.hasAttachments then
        s.state.db.attachments.rows.filter fun a => a.emailID = id else []
      (.ok (.email email true attachments), s.markRead (fun row => row.id = id) true)
  | .listByInbox inboxID page perPage =>
    s.after (ownInbox s.state.db t.now inboxID userID) fun _ =>
      (s.list (fun email => email.inboxID = inboxID) page perPage, s)
  | .search inboxID finds page perPage =>
    s.after (ownInbox s.state.db t.now inboxID userID) fun _ =>
      (s.list (fun email => email.inboxID = inboxID && finds email) page perPage, s)
  | .markReadUnread id isRead =>
    s.after (ownEmail s.state.db t.now "forbidden: not your email" id userID) fun _ =>
      (.ok .done, s.markRead (fun row => row.id = id) isRead)
  | .markAllRead inboxID =>
    s.after (ownInbox s.state.db t.now inboxID userID) fun _ =>
      let unread := s.state.db.emails.rows.countP fun email =>
        email.inboxID = inboxID && !s.isRead email.id
      (.ok (.count unread), s.markRead (fun row => row.inboxID = inboxID) true)
  | .deleteEmail id =>
    let (result, state) := Mailbox.deleteEmail s.state t id userID
    (result.map fun _ => .done, { s with state })
  | .getDownloadURL id refused =>
    s.after (checkOwnership s.state.db t.now id userID) fun a =>
      match refused with
      | some msg => (.error ⟨"generate presigned url: " ++ msg, []⟩, s)
      | none => (.ok (.url a), s)

end Mail

section

variable (db : Db) (userID : UUID)

def Db.OwnInbox (id : UUID) : Prop :=
  ∃ inbox ∈ db.inboxes, inbox.id = id ∧ inbox.createdBy = some userID

def Db.OwnEmail (id : UUID) : Prop :=
  ∃ email ∈ db.emails, email.id = id ∧ db.OwnInbox userID email.inboxID

/-- What the request is about is in an inbox that the user created. -/
def Request.Own : Request → Prop
  | .getInbox id | .extendTTL id _ _ | .deleteInbox id | .listByInbox id _ _ | .search id _ _ _
  | .markAllRead id => db.OwnInbox userID id
  | .getEmail id | .markReadUnread id _ | .deleteEmail id => db.OwnEmail userID id
  | .getDownloadURL id _ => ∃ a ∈ db.attachments, a.id = id ∧ db.OwnEmail userID a.emailID

end

section

variable {db : Db} {id userID : UUID} (huser : userID ≠ uuidNil)

include huser

theorem ownInbox_of_owner {now : Int} {inbox : Inbox} (hinbox : db.getByID now id = some inbox)
    (howner : inbox.owner = userID) : db.OwnInbox userID id := by
  obtain ⟨row, hrow, hid, rfl⟩ := Db.getByID_eq_some.mp hinbox
  refine ⟨row, hrow, hid, ?_⟩
  cases hcreator : row.createdBy with
  | none => simp [Inbox.owner, hcreator, huser.symm] at howner
  | some creator => simpa [Inbox.owner, hcreator] using howner

theorem ownInbox_refuses (now : Int) (h : ¬ db.OwnInbox userID id) :
    ∃ err, ownInbox db now id userID = .error err := by
  unfold ownInbox
  split
  · exact ⟨_, rfl⟩
  rename_i inbox hinbox
  rw [if_pos fun howner => h (ownInbox_of_owner huser hinbox howner)]
  exact ⟨_, rfl⟩

theorem owner_ne {now : Int} {email : Email} {inbox : Inbox} (h : ¬ db.OwnEmail userID id)
    (hemail : db.emails.find? id = some email)
    (hinbox : db.getByID now email.inboxID = some inbox) : inbox.owner ≠ userID := fun howner =>
  have hrow := Sql.Table.find?_eq_some_iff.mp hemail
  h ⟨email, hrow.1, hrow.2, ownInbox_of_owner huser hinbox howner⟩

theorem ownEmail_refuses (now : Int) (forbidden : String) (h : ¬ db.OwnEmail userID id) :
    ∃ err, ownEmail db now forbidden id userID = .error err := by
  unfold ownEmail
  split
  · exact ⟨_, rfl⟩
  split
  · exact ⟨_, rfl⟩
  exact ⟨_, if_pos (owner_ne huser h ‹_› ‹_›)⟩

theorem deleteEmail_refuses {s : State} {t : Times} (h : ¬ s.db.OwnEmail userID id) :
    ∃ err, deleteEmail s t id userID = (.error err, s) := by
  unfold deleteEmail
  split
  · exact ⟨_, rfl⟩
  split
  · exact ⟨_, rfl⟩
  exact ⟨_, if_pos (owner_ne huser h ‹_› ‹_›)⟩

theorem checkOwnership_refuses (now : Int)
    (h : ¬ ∃ a ∈ db.attachments, a.id = id ∧ db.OwnEmail userID a.emailID) :
    ∃ err, checkOwnership db now id userID = .error err := by
  unfold checkOwnership
  split
  · exact ⟨_, rfl⟩
  rename_i a ha
  obtain ⟨hmem, hid⟩ := Sql.Table.find?_eq_some_iff.mp ha
  obtain ⟨err, herr⟩ := ownEmail_refuses huser now "forbidden: not your attachment"
    fun hown => h ⟨a, hmem, hid, hown⟩
  rw [herr]
  exact ⟨err, rfl⟩

/-- A request about mail in an inbox that the user did not create is refused, and nothing
changes. -/
theorem unowned_refused {s : Mail} {t : Times} {r : Request} (h : ¬ r.Own s.state.db userID) :
    ∃ err, s.handle t userID r = (.error err, s) := by
  cases r with
  | getInbox | listByInbox | search | markAllRead =>
    obtain ⟨err, herr⟩ := ownInbox_refuses huser t.now h
    rw [Mail.handle, herr]
    exact ⟨err, rfl⟩
  | getEmail | markReadUnread =>
    obtain ⟨err, herr⟩ := ownEmail_refuses huser t.now "forbidden: not your email" h
    rw [Mail.handle, herr]
    exact ⟨err, rfl⟩
  | getDownloadURL =>
    obtain ⟨err, herr⟩ := checkOwnership_refuses huser t.now h
    rw [Mail.handle, herr]
    exact ⟨err, rfl⟩
  | extendTTL id extension settings =>
    obtain ⟨err, herr⟩ := ownInbox_refuses huser t.now h
    refine ⟨err, ?_⟩
    rw [Mail.handle, Mailbox.extendTTL, ExtendRequest.expiry, herr]
    rfl
  | deleteInbox id =>
    obtain ⟨err, herr⟩ := ownInbox_refuses huser t.now h
    rw [Mail.handle, Mailbox.deleteInbox, herr]
    exact ⟨err, rfl⟩
  | deleteEmail id =>
    obtain ⟨err, herr⟩ := deleteEmail_refuses huser (t := t) h
    rw [Mail.handle, herr]
    exact ⟨err, rfl⟩

end

/-- The message of the small run is not another user's to read. -/
theorem stranger_refused :
    let s : Mail := ⟨run (step .ascii) .empty deliveredRun, fun _ => false, fun _ => 0⟩
    ∃ err, s.handle ⟨60, 60, 60⟩ 8 (.getEmail 5) = (.error err, s) := by
  refine unowned_refused (by decide) ?_
  unfold Request.Own Db.OwnEmail Db.OwnInbox
  decide +kernel

end BurnerByte.Mailbox
