import BurnerByte.Mailbox.Settings
import BurnerByte.Mailbox.State

/-!
# Receiving and removing mail

The SMTP server asks `canAccept` for each recipient, and a worker stores each accepted
message with `process`. Both look an address up in the cache first. Mail is removed by
`deleteEmail` and by the cleanup job.

The database may refuse a row for reasons outside the tables, such as a text that it does
not take; a message and an attachment bring the error it would report. An attachment also
brings the error of the object storage.
-/

namespace BurnerByte.Mailbox

open Go Sql

section

variable (m : Casing)

/-- The form in which addresses are looked up. -/
def normalize (addr : Bytes) : Bytes := toLower m (trimSpace addr)

section

variable (r : ReceiveRequest) (s : State) (t : Times) (att : InboundAttachment)

/-- The answer is the identifier of the inbox. -/
def canAccept (now : Int) (rcptTo : Bytes) : Except Failure UUID :=
  let addr := normalize m rcptTo
  match splitN2 addr (lit "@") with
  | [_, name] =>
    match s.db.domains.findBy name with
    | none => .error ⟨"unknown domain: %s", [.text name]⟩
    | some _ =>
      match s.redis.get now addr with
      | some id => .ok id
      | none =>
        -- The query leaves out expired inboxes already.
        match s.db.getByFullAddress now addr with
        | none => .error ⟨"unknown recipient: %s", [.text addr]⟩
        | some inbox =>
          if !inbox.isActive || inbox.expiresAt < now then
            .error ⟨"inbox expired: %s", [.text addr]⟩
          else .ok inbox.id
  | _ => .error ⟨"invalid address format", []⟩

/-! ## Attachments -/

structure InboundAttachment where
  filename : Bytes
  contentType : Bytes
  data : Bytes
  objectID : UUID
  newID : UUID
  putError : Option String
  rowError : Option String

structure InboundEmail where
  toAddr : Bytes
  attachments : List InboundAttachment
  newID : UUID
  rowError : Option String

def blockedExtensions : List Bytes :=
  [".exe", ".bat", ".cmd", ".com", ".msi", ".scr", ".pif", ".vbs", ".js", ".wsh", ".wsf", ".ps1",
    ".hta", ".cpl", ".reg", ".inf"].map lit

def sanitizeFilename (name : Bytes) : Bytes :=
  let name := base name
  let name := replaceAll name [0] []
  let name := replaceAll name (lit "/") (lit "_")
  let name := replaceAll name (lit "\\") (lit "_")
  let name := replaceAll name (lit "..") (lit "_")
  let name := if name = [] ∨ name = lit "." then lit "unnamed" else name
  name.take 255

def InboundAttachment.storageKey (emailID : UUID) : StorageKey :=
  ⟨emailID, att.objectID, sanitizeFilename att.filename⟩

def InboundAttachment.row (emailID : UUID) : Attachment :=
  { id := att.newID
    emailID
    filename := att.filename
    contentType := att.contentType
    sizeBytes := att.data.length
    storageKey := att.storageKey emailID }

/-- The statement that creates the row of an attachment. -/
def InboundAttachment.create (db : Db) (emailID : UUID) : Except RepoError Db :=
  match att.rowError with
  | some message => .error (.other message)
  | none => db.insertAttachment (att.row emailID)

/-- The object is stored first, and removed again when the row cannot be created. -/
def storeAttachment (maxSizeMB : Int) (s : State) (emailID : UUID) (att : InboundAttachment) :
    Except Failure Unit × State :=
  if maxSizeMB * 1024 * 1024 < att.data.length then
    (.error ⟨"attachment exceeds max size (%dMB)", [.number maxSizeMB]⟩, s)
  else
    match att.putError with
    | some message => (.error ⟨"upload to s3: %w", [.error (.other message)]⟩, s)
    | none =>
      let s := s.write (.putObject ⟨att.storageKey emailID, att.data⟩)
      match att.create s.db emailID with
      | .error err => (.error (.ofRepo err), s.write (.removeObject (att.storageKey emailID)))
      | .ok db => (.ok (), { s with db })

/-- Attachments that are skipped without an attempt to store them. -/
def InboundAttachment.skipped (maxSize : Int) : Bool :=
  blockedExtensions.contains (toLower m (ext att.filename)) || maxSize < att.data.length

/-- Store one attachment, and count it if that succeeds. -/
def processAttachment (maxSizeMB maxSize : Int) (emailID : UUID) (acc : State × Nat)
    (att : InboundAttachment) : State × Nat :=
  if att.skipped m maxSize then acc
  else
    match storeAttachment maxSizeMB acc.1 emailID att with
    | (.error _, s) => (s, acc.2)
    | (.ok (), s) => (s, acc.2 + 1)

/-! ## Storing a message -/

structure ReceiveRequest where
  email : InboundEmail
  settings : Settings
  /-- The size limit of the attachment service, if there is one. -/
  attachmentStorer : Option Int

/-- Look up the inbox, and cache it if it had to be looked up in the database. -/
def lookupInbox (toAddr : Bytes) : Except Failure Inbox × State :=
  match s.redis.get t.now toAddr with
  | some id =>
    match s.db.getByID t.now id with
    | none => (.error ⟨"inbox lookup by ID: %w", [.error .notFound]⟩, s)
    | some inbox => (.ok inbox, s)
  | none =>
    match s.db.getByFullAddress t.now toAddr with
    | none => (.error ⟨"inbox not found for %s", [.text toAddr]⟩, s)
    | some inbox =>
      let remaining := inbox.expiresAt - t.read
      if 0 < remaining then
        (.ok inbox, s.write (.redisSet toAddr inbox.id (redisDeadline t.set remaining)))
      else (.ok inbox, s)

/-- The statement that creates the row of a message. -/
def InboundEmail.create (email : InboundEmail) (db : Db) (row : Email) : Except RepoError Db :=
  match email.rowError with
  | some message => .error (.other message)
  | none => db.insertEmail row

/-- Whether the message has attachments and they are kept. -/
def ReceiveRequest.expectsAttachments : Bool :=
  !r.email.attachments.isEmpty && r.attachmentStorer.isSome && r.settings.resolveAttachmentsEnabled

/-- The row of a message expires with its inbox. -/
def ReceiveRequest.row (inbox : Inbox) : Email :=
  { id := r.email.newID
    inboxID := inbox.id
    toAddress := r.email.toAddr
    hasAttachments := r.expectsAttachments
    expiresAt := inbox.expiresAt }

/-- Store the attachments, and clear the flag of the message if none was stored. -/
def ReceiveRequest.storeAttachments : State :=
  if r.expectsAttachments then
    let (s, stored) := r.email.attachments.foldl
      (processAttachment m (r.attachmentStorer.getD 0) r.settings.resolveMaxAttachmentSize
        r.email.newID) (s, 0)
    if stored = 0 then s.write (.setHasAttachments r.email.newID false) else s
  else s

def process (r : ReceiveRequest) : Except Failure Unit × State :=
  let toAddr := normalize m r.email.toAddr
  match lookupInbox s t toAddr with
  | (.error err, s) => (.error err, s)
  | (.ok inbox, s) =>
    if !inbox.isActive || inbox.expiresAt < t.read then
      (.error ⟨"inbox expired or inactive: %s", [.text toAddr]⟩, s)
    else
      match r.email.create s.db (r.row inbox) with
      | .error err => (.error ⟨"store email: %w", [.error err]⟩, s)
      | .ok db => (.ok (), r.storeAttachments m { s with db })

end

end

/-! ## Mail for a live inbox -/

/-- The database takes the row of a message. -/
def Db.Takes (db : Db) (email : InboundEmail) : Prop :=
  email.rowError = none ∧ ∀ old ∈ db.emails, old.id ≠ email.newID

theorem Db.exists_insertEmail {db : Db} {email : Email} {inbox : Inbox}
    (hinbox : inbox ∈ db.inboxes) (hid : inbox.id = email.inboxID)
    (hfresh : ∀ old ∈ db.emails, old.id ≠ email.id) : ∃ db', db.insertEmail email = .ok db' := by
  obtain ⟨emails, hinsert⟩ := Table.exists_insert hfresh
  unfold Db.insertEmail
  rw [dif_pos ⟨inbox, hinbox, hid⟩]
  split
  · rename_i hnone
    rw [hinsert] at hnone
    cases hnone
  · exact ⟨_, rfl⟩

section

variable {m : Casing} {s : State} {t : Times}

theorem storeAttachment_emails (maxSizeMB : Int) (emailID : UUID) (att : InboundAttachment) :
    (storeAttachment maxSizeMB s emailID att).2.db.emails = s.db.emails := by
  unfold storeAttachment
  split
  · rfl
  split
  · rfl
  simp only
  split
  · rfl
  rename_i db hcreate
  unfold InboundAttachment.create at hcreate
  split at hcreate
  · cases hcreate
  · exact (Db.insertAttachment_eq_ok hcreate).2.2.2.2

theorem processAttachment_emails (maxSizeMB maxSize : Int) (emailID : UUID) (acc : State × Nat)
    (att : InboundAttachment) :
    (processAttachment m maxSizeMB maxSize emailID acc att).1.db.emails = acc.1.db.emails := by
  have hstore : (storeAttachment maxSizeMB acc.1 emailID att).2.db.emails = acc.1.db.emails :=
    storeAttachment_emails maxSizeMB emailID att
  unfold processAttachment
  split
  · rfl
  split
  · rename_i hresult
    rw [hresult] at hstore
    exact hstore
  rename_i hresult
  rw [hresult] at hstore
  exact hstore

/-- The loop over the attachments leaves the messages alone. -/
theorem foldl_processAttachment_emails (maxSizeMB maxSize : Int) (emailID : UUID)
    (atts : List InboundAttachment) (acc : State × Nat) :
    (atts.foldl (processAttachment m maxSizeMB maxSize emailID) acc).1.db.emails =
      acc.1.db.emails := by
  induction atts generalizing acc with
  | nil => rfl
  | cons att atts ih => rw [List.foldl_cons, ih, processAttachment_emails]

/-- Storing attachments changes neither the identifier of a message nor its inbox. -/
theorem exists_mem_storeAttachments_iff (r : ReceiveRequest) {id inboxID : UUID} :
    (∃ email ∈ (r.storeAttachments m s).db.emails, email.id = id ∧ email.inboxID = inboxID) ↔
      ∃ email ∈ s.db.emails, email.id = id ∧ email.inboxID = inboxID := by
  unfold ReceiveRequest.storeAttachments
  split
  · have hsame := foldl_processAttachment_emails (m := m) (r.attachmentStorer.getD 0)
      r.settings.resolveMaxAttachmentSize r.email.newID r.email.attachments (s, 0)
    rw [← hsame]
    simp only
    split
    · constructor
      · rintro ⟨email, hemail, hid, hin⟩
        obtain ⟨old, hold, rfl⟩ := List.mem_map.mp hemail
        refine ⟨old, hold, ?_⟩
        split at hid <;> split at hin <;> exact ⟨hid, hin⟩
      · rintro ⟨email, hemail, hid, hin⟩
        refine ⟨_, List.mem_map.mpr ⟨email, hemail, rfl⟩, ?_⟩
        split <;> exact ⟨hid, hin⟩
    · exact Iff.rfl
  · exact Iff.rfl

theorem lookupInbox_db (s : State) (t : Times) (addr : Bytes) :
    (lookupInbox s t addr).2.db = s.db := by
  unfold lookupInbox
  split
  · split <;> rfl
  split
  · rfl
  simp only
  split <;> rfl

theorem InboundEmail.create_eq_ok {email : InboundEmail} {db db' : Db} {row : Email}
    (h : email.create db row = .ok db') : db.insertEmail row = .ok db' := by
  unfold InboundEmail.create at h
  split at h
  · cases h
  · exact h

/-- The lookup finds an inbox that is live, if the cache does not point elsewhere. -/
theorem lookupInbox_of_live {inbox : Inbox} (hinbox : inbox ∈ s.db.inboxes)
    (hlive : inbox.live t.now = true)
    (hcache : ∀ id, s.redis.get t.now inbox.fullAddress = some id → id = inbox.id) :
    ∃ found s', lookupInbox s t inbox.fullAddress = (.ok found, s') ∧ s'.db = s.db ∧
      found.id = inbox.id ∧ found.isActive = true ∧ found.expiresAt = inbox.expiresAt := by
  unfold lookupInbox
  have hactive : inbox.isActive = true := by
    simp only [Inbox.live, Bool.and_eq_true] at hlive
    exact hlive.1
  cases hget : s.redis.get t.now inbox.fullAddress with
  | some id =>
    have hfound : s.db.getByID t.now id = some { inbox with isActive := inbox.live t.now } :=
      Db.getByID_eq_some.mpr ⟨inbox, hinbox, (hcache id hget).symm, rfl⟩
    simp only [hfound]
    exact ⟨_, _, rfl, rfl, rfl, hlive, rfl⟩
  | none =>
    have hfound : s.db.getByFullAddress t.now inbox.fullAddress = some inbox :=
      Db.getByFullAddress_eq_some.mpr ⟨hinbox, rfl, hlive⟩
    simp only [hfound]
    split
    · exact ⟨_, _, rfl, rfl, rfl, hactive, rfl⟩
    · exact ⟨_, _, rfl, rfl, rfl, hactive, rfl⟩

/-- A message for the address of a live inbox is stored there. -/
theorem process_of_live (r : ReceiveRequest) {inbox : Inbox} (hinbox : inbox ∈ s.db.inboxes)
    (hfull : inbox.fullAddress = normalize m r.email.toAddr) (hlive : inbox.live t.now = true)
    (hread : t.read ≤ inbox.expiresAt)
    (hcache : ∀ id, s.redis.get t.now inbox.fullAddress = some id → id = inbox.id)
    (htakes : s.db.Takes r.email) :
    (process m s t r).1 = .ok () ∧ ∃ email ∈ (process m s t r).2.db.emails,
      email.id = r.email.newID ∧ email.inboxID = inbox.id := by
  obtain ⟨found, s', hlookup, hdb, hid, hactive, hexpires⟩ :=
    lookupInbox_of_live hinbox hlive hcache
  rw [hfull] at hlookup
  rw [← hdb] at hinbox htakes
  obtain ⟨db', hinsert⟩ : ∃ db', s'.db.insertEmail (r.row found) = .ok db' :=
    Db.exists_insertEmail hinbox hid.symm htakes.2
  have hcreate : r.email.create s'.db (r.row found) = .ok db' := by
    simp only [InboundEmail.create, htakes.1]
    exact hinsert
  have hunexpired : ¬ (!found.isActive || decide (found.expiresAt < t.read)) = true := by
    rw [hactive, hexpires]
    simpa using hread
  simp only [process, hlookup, if_neg hunexpired, hcreate]
  refine ⟨trivial, (exists_mem_storeAttachments_iff r).mpr ⟨r.row found, ?_, rfl, hid⟩⟩
  exact ((Db.insertEmail_eq_ok hinsert).1 _).mpr (.inl rfl)

end

/-! ## Removing mail -/

/-- The rows are deleted before the objects are removed. -/
def deleteByEmail (s : State) (emailID : UUID) : State :=
  let keys := (s.db.attachments.rows.filter fun a => a.emailID = emailID).map Attachment.storageKey
  keys.foldl (fun s key => s.write (.removeObject key))
    (s.write (.delete { attachments := fun a => a.emailID = emailID }))

def deleteEmail (s : State) (t : Times) (emailID userID : UUID) : Except Failure Unit × State :=
  match s.db.emails.find? emailID with
  | none => (.error ⟨"email not found", []⟩, s)
  | some email =>
    match s.db.getByID t.now email.inboxID with
    | none => (.error (.ofRepo .notFound), s)
    | some inbox =>
      if inbox.createdBy.getD uuidNil ≠ userID then
        (.error ⟨"forbidden: not your email", []⟩, s)
      else
        (.ok (), (deleteByEmail s emailID).write (.delete { emails := fun e => e.id = emailID }))

/-- The messages that have expired. -/
def expiredEmails (s : State) (now : Int) : List Email :=
  s.db.emails.rows.filter fun email => email.expiresAt < now

/-- The rows of the messages are deleted before their attachments are looked up. -/
def cleanupJob (s : State) (t : Times) : State :=
  -- `DELETE ... RETURNING id`, whose cascade takes the rows of the attachments with it.
  let ids := (expiredEmails s t.now).map Email.id
  let s := s.write (.delete { emails := fun email => email.expiresAt < t.now })
  let s := ids.foldl deleteByEmail s
  s.write (.delete { inboxes := expired t.read })

end BurnerByte.Mailbox
