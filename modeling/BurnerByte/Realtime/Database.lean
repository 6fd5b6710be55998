import BurnerByte.Core.Counters
import BurnerByte.Realtime.Events

/-!
# Notifications and counters

The tables that the subscribers write. A notification belongs to a user and may refer to an
inbox, and the deletion of the inbox takes it along. The counters of organisations and of
their teams are added to by upserts, most of them in a row for each day.

The columns of the counters are wide enough for every number of messages here.
-/

namespace BurnerByte.Realtime

open Go Sql
open Mailbox (Inbox Domain)
open Tenancy (Team)

structure Notification where
  userID : UUID
  type : Bytes
  title : Bytes
  message : Bytes
  inboxID : Option UUID

/-- The columns that are added to. -/
structure Totals where
  emailsReceived : Nat
  inboxesCreated : Nat
  storageBytes : Nat

instance : Add Totals where
  add a b :=
    { emailsReceived := a.emailsReceived + b.emailsReceived
      inboxesCreated := a.inboxesCreated + b.inboxesCreated
      storageBytes := a.storageBytes + b.storageBytes }

@[simp] theorem Totals.emailsReceived_add (a b : Totals) :
    (a + b).emailsReceived = a.emailsReceived + b.emailsReceived := rfl

/-- A notification refers to an inbox that exists, or to none. -/
def RefersTo (mail : Mailbox.Db) (n : Notification) : Prop :=
  ∀ id, n.inboxID = some id → ∃ inbox ∈ mail.inboxes, inbox.id = id

structure Db where
  users : Table UUID UUID id
  orgs : Table UUID UUID id
  mail : Mailbox.Db
  notifications : List Notification
  orgCounters : Counters UUID Totals
  dailyStats : Counters (UUID × Nat) Totals
  hourlyStats : Counters (UUID × Nat × Int) Nat
  domainStats : Counters (UUID × Nat × Bytes) Nat
  senderDomainStats : Counters (UUID × Nat × Bytes) Nat
  teamCounters : Counters UUID Totals
  dailyTeamStats : Counters (UUID × Nat) Totals
  domain_org : References mail.domains.rows Domain.orgID orgs
  inbox_creator : ∀ inbox ∈ mail.inboxes, ∀ userID ∈ inbox.createdBy, userID ∈ users
  notification_user : References notifications Notification.userID users
  notification_inbox : ∀ n ∈ notifications, RefersTo mail n
  /-- Identifiers are generated, and none is nil. -/
  user_ne_nil : ∀ userID ∈ users, userID ≠ uuidNil
  org_ne_nil : ∀ orgID ∈ orgs, orgID ≠ uuidNil
  team_ne_nil : ∀ team ∈ mail.teams, team.id ≠ uuidNil
  /-- The name of a domain is checked before the domain is created. -/
  domain_named : ∀ domain ∈ mail.domains, domain.domainName ≠ []

namespace Db

/-! ## Statements -/

/-- The inbox of the notification is removed. -/
def removesNotification (db : Db) (d : Mailbox.Db.Deletion) (n : Notification) : Bool :=
  db.mail.inboxes.rows.any fun inbox =>
    db.mail.removesInbox d inbox && n.inboxID = some inbox.id

theorem refersTo_of_kept (db : Db) (d : Mailbox.Db.Deletion) :
    ∀ n ∈ db.notifications.filter fun n => !db.removesNotification d n,
      RefersTo (db.mail.delete d) n := by
  intro n hn id hid
  obtain ⟨hmem, hkept⟩ := List.mem_filter.mp hn
  obtain ⟨inbox, hinbox, rfl⟩ := db.notification_inbox n hmem id hid
  refine ⟨inbox, Mailbox.Db.mem_delete_inboxes.mpr ⟨hinbox, ?_⟩, rfl⟩
  by_contra hremoved
  have hgone : db.removesNotification d n = true :=
    List.any_eq_true.mpr ⟨inbox, hinbox, by simp [hremoved, hid]⟩
  rw [hgone] at hkept
  cases hkept

/-- Delete inboxes, and with them the notifications about them. -/
def removeInboxes (db : Db) (p : Inbox → Bool) : Db :=
  let d : Mailbox.Db.Deletion := { inboxes := p }
  { db with
    mail := db.mail.delete d
    notifications := db.notifications.filter fun n => !db.removesNotification d n
    domain_org := db.domain_org.filter _
    inbox_creator := fun inbox hinbox =>
      db.inbox_creator inbox (Mailbox.Db.mem_delete_inboxes.mp hinbox).1
    notification_user := db.notification_user.filter _
    notification_inbox := db.refersTo_of_kept d
    team_ne_nil := fun team hteam => db.team_ne_nil team (Table.mem_deleteWhere.mp hteam).1
    domain_named := fun domain hdomain =>
      db.domain_named domain (Mailbox.Db.mem_delete_domains.mp hdomain).1 }

/-- `CHECK` of the column. -/
def ValidHour (hour : Int) : Prop := 0 ≤ hour ∧ hour ≤ 23
  deriving Decidable

def foreignKeyViolation : RepoError := .other "foreign key violation"

def createNotification (db : Db) (n : Notification) : Except RepoError Db :=
  if h : (∃ user ∈ db.users, user = n.userID) ∧ ∀ id ∈ n.inboxID, ∃ inbox ∈ db.mail.inboxes,
      inbox.id = id then
    .ok { db with
      notifications := n :: db.notifications
      notification_user := db.notification_user.of_mem h.1 fun _ => List.mem_cons
      notification_inbox := List.forall_mem_cons.mpr ⟨h.2, db.notification_inbox⟩ }
  else .error (.other "create notification: foreign key violation")

section

variable (db : Db) (today : Nat)

/-- A statement on a table whose rows refer to an organisation. -/
def forOrg (orgID : UUID) (db' : Db) : Except RepoError Db :=
  if orgID ∈ db.orgs then .ok db' else .error foreignKeyViolation

/-- A statement on a table whose rows refer to a team. -/
def forTeam (teamID : UUID) (db' : Db) : Except RepoError Db :=
  if ∃ team ∈ db.mail.teams, team.id = teamID then .ok db' else .error foreignKeyViolation

def incrementEmail (orgID : UUID) (sizeBytes : Nat) : Except RepoError Db :=
  db.forOrg orgID { db with orgCounters := db.orgCounters.upsert orgID ⟨1, 0, sizeBytes⟩ }

def upsertDailyStat (orgID : UUID) (emailsReceived inboxesCreated storageBytes : Nat) :
    Except RepoError Db :=
  db.forOrg orgID
    { db with
      dailyStats :=
        db.dailyStats.upsert (orgID, today) ⟨emailsReceived, inboxesCreated, storageBytes⟩ }

def upsertHourlyStat (orgID : UUID) (hour : Int) : Except RepoError Db :=
  if ValidHour hour then
    db.forOrg orgID { db with hourlyStats := db.hourlyStats.upsert (orgID, today, hour) 1 }
  else .error (.other "check violation")

def upsertDomainStat (orgID : UUID) (domainName : Bytes) : Except RepoError Db :=
  db.forOrg orgID { db with domainStats := db.domainStats.upsert (orgID, today, domainName) 1 }

def upsertSenderDomainStat (orgID : UUID) (senderDomain : Bytes) : Except RepoError Db :=
  db.forOrg orgID
    { db with senderDomainStats := db.senderDomainStats.upsert (orgID, today, senderDomain) 1 }

def incrementTeamEmail (teamID : UUID) (sizeBytes : Nat) : Except RepoError Db :=
  db.forTeam teamID { db with teamCounters := db.teamCounters.upsert teamID ⟨1, 0, sizeBytes⟩ }

def upsertDailyTeamStat (teamID : UUID) (emailsReceived inboxesCreated storageBytes : Nat) :
    Except RepoError Db :=
  db.forTeam teamID
    { db with
      dailyTeamStats :=
        db.dailyTeamStats.upsert (teamID, today) ⟨emailsReceived, inboxesCreated, storageBytes⟩ }

end

end Db

/-- Execute a statement on a day. -/
def Statement.exec (db : Db) (today : Nat) : Statement → Except RepoError Db
  | .createNotification userID type title message inboxID =>
    db.createNotification ⟨userID, type, title, message, inboxID⟩
  | .incrementEmail orgID sizeBytes => db.incrementEmail orgID sizeBytes
  | .upsertDailyStat orgID emailsReceived inboxesCreated storageBytes =>
    db.upsertDailyStat today orgID emailsReceived inboxesCreated storageBytes
  | .upsertHourlyStat orgID hour => db.upsertHourlyStat today orgID hour
  | .upsertDomainStat orgID domainName => db.upsertDomainStat today orgID domainName
  | .upsertSenderDomainStat orgID senderDomain =>
    db.upsertSenderDomainStat today orgID senderDomain
  | .incrementTeamEmail teamID sizeBytes => db.incrementTeamEmail teamID sizeBytes
  | .upsertDailyTeamStat teamID emailsReceived inboxesCreated storageBytes =>
    db.upsertDailyTeamStat today teamID emailsReceived inboxesCreated storageBytes

/-- An error is logged, and the subscriber goes on. -/
def Statement.run (db : Db) (today : Nat) (stmt : Statement) : Db :=
  match stmt.exec db today with
  | .error _ => db
  | .ok db' => db'

/-! ## What is counted -/

/-- A counter over all its days, or the notifications of a user about an inbox. -/
inductive Metric where
  | org (orgID : UUID)
  | daily (orgID : UUID)
  | hourly (orgID : UUID) (hour : Int)
  | domain (orgID : UUID) (domainName : Bytes)
  | sender (orgID : UUID) (senderDomain : Bytes)
  | team (teamID : UUID)
  | dailyTeam (teamID : UUID)
  | notified (userID : UUID) (type : Bytes) (inboxID : Option UUID)
  deriving DecidableEq

/-- The number of messages, or of notifications. -/
def Db.figure (db : Db) : Metric → Nat
  | .org orgID => db.orgCounters.total (fun key => key = orgID) Totals.emailsReceived
  | .daily orgID => db.dailyStats.total (fun key => key.1 = orgID) Totals.emailsReceived
  | .hourly orgID hour => db.hourlyStats.total (fun key => key.1 = orgID ∧ key.2.2 = hour) id
  | .domain orgID domainName =>
    db.domainStats.total (fun key => key.1 = orgID ∧ key.2.2 = domainName) id
  | .sender orgID senderDomain =>
    db.senderDomainStats.total (fun key => key.1 = orgID ∧ key.2.2 = senderDomain) id
  | .team teamID => db.teamCounters.total (fun key => key = teamID) Totals.emailsReceived
  | .dailyTeam teamID => db.dailyTeamStats.total (fun key => key.1 = teamID) Totals.emailsReceived
  | .notified userID type inboxID =>
    db.notifications.countP fun n => n.userID = userID ∧ n.type = type ∧ n.inboxID = inboxID

namespace Statement

def metric : Statement → Metric
  | .createNotification userID type _ _ inboxID => .notified userID type inboxID
  | .incrementEmail orgID _ => .org orgID
  | .upsertDailyStat orgID _ _ _ => .daily orgID
  | .upsertHourlyStat orgID hour => .hourly orgID hour
  | .upsertDomainStat orgID domainName => .domain orgID domainName
  | .upsertSenderDomainStat orgID senderDomain => .sender orgID senderDomain
  | .incrementTeamEmail teamID _ => .team teamID
  | .upsertDailyTeamStat teamID _ _ _ => .dailyTeam teamID

/-- How much the statement adds to its metric. -/
def amount : Statement → Nat
  | .upsertDailyStat _ emailsReceived _ _ => emailsReceived
  | .upsertDailyTeamStat _ emailsReceived _ _ => emailsReceived
  | _ => 1

/-- The rows that the statement refers to exist. -/
def Accepted (db : Db) : Statement → Prop
  | .createNotification userID _ _ _ inboxID =>
    (∃ user ∈ db.users, user = userID) ∧
      ∀ id ∈ inboxID, ∃ inbox ∈ db.mail.inboxes, inbox.id = id
  | .incrementEmail orgID _ => orgID ∈ db.orgs
  | .upsertDailyStat orgID _ _ _ => orgID ∈ db.orgs
  | .upsertHourlyStat orgID hour => Db.ValidHour hour ∧ orgID ∈ db.orgs
  | .upsertDomainStat orgID _ => orgID ∈ db.orgs
  | .upsertSenderDomainStat orgID _ => orgID ∈ db.orgs
  | .incrementTeamEmail teamID _ => ∃ team ∈ db.mail.teams, team.id = teamID
  | .upsertDailyTeamStat teamID _ _ _ => ∃ team ∈ db.mail.teams, team.id = teamID

instance instDecidableAccepted (db : Db) : (stmt : Statement) → Decidable (stmt.Accepted db)
  | .createNotification userID _ _ _ inboxID =>
    inferInstanceAs (Decidable ((∃ user ∈ db.users, user = userID) ∧
      ∀ id ∈ inboxID, ∃ inbox ∈ db.mail.inboxes, inbox.id = id))
  | .incrementEmail orgID _ => inferInstanceAs (Decidable (orgID ∈ db.orgs))
  | .upsertDailyStat orgID _ _ _ => inferInstanceAs (Decidable (orgID ∈ db.orgs))
  | .upsertHourlyStat orgID hour =>
    inferInstanceAs (Decidable (Db.ValidHour hour ∧ orgID ∈ db.orgs))
  | .upsertDomainStat orgID _ => inferInstanceAs (Decidable (orgID ∈ db.orgs))
  | .upsertSenderDomainStat orgID _ => inferInstanceAs (Decidable (orgID ∈ db.orgs))
  | .incrementTeamEmail teamID _ =>
    inferInstanceAs (Decidable (∃ team ∈ db.mail.teams, team.id = teamID))
  | .upsertDailyTeamStat teamID _ _ _ =>
    inferInstanceAs (Decidable (∃ team ∈ db.mail.teams, team.id = teamID))

variable {db : Db}

/-- An accepted statement adds its amount to its metric and leaves the others alone. -/
theorem exec_of_accepted (today : Nat) {stmt : Statement} (h : stmt.Accepted db) :
    ∃ db', stmt.exec db today = .ok db' ∧ db'.users = db.users ∧ db'.orgs = db.orgs ∧
      db'.mail = db.mail ∧ ∀ metric, db'.figure metric =
        db.figure metric + if stmt.metric = metric then stmt.amount else 0 := by
  cases stmt with
  | createNotification userID type title message inboxID =>
    refine ⟨_, dif_pos h, rfl, rfl, rfl, fun metric => ?_⟩
    cases metric <;> simp [Db.figure, Statement.metric, amount, List.countP_cons]
  | upsertHourlyStat orgID hour =>
    refine ⟨_, (if_pos h.1).trans (if_pos h.2), rfl, rfl, rfl, fun metric => ?_⟩
    cases metric <;> simp [Db.figure, Statement.metric, amount]
  | _ =>
    refine ⟨_, if_pos h, rfl, rfl, rfl, fun metric => ?_⟩
    cases metric <;> simp [Db.figure, Statement.metric, amount]

theorem exec_of_not_accepted (today : Nat) {stmt : Statement} (h : ¬ stmt.Accepted db) :
    ∃ err, stmt.exec db today = .error err := by
  cases stmt with
  | createNotification => exact ⟨_, dif_neg h⟩
  | upsertHourlyStat orgID hour =>
    by_cases hhour : Db.ValidHour hour
    · exact ⟨_, (if_pos hhour).trans (if_neg fun horg => h ⟨hhour, horg⟩)⟩
    · exact ⟨_, if_neg hhour⟩
  | _ => exact ⟨_, if_neg h⟩

end Statement

/-! ## Statements one after the other -/

/-- The rows that statements refer to are the same. -/
structure Db.SameParents (db db' : Db) : Prop where
  users : db'.users = db.users
  orgs : db'.orgs = db.orgs
  mail : db'.mail = db.mail

namespace Db.SameParents

variable {db db' db'' : Db}

theorem refl (db : Db) : db.SameParents db := ⟨rfl, rfl, rfl⟩

theorem trans (h : db.SameParents db') (h' : db'.SameParents db'') : db.SameParents db'' :=
  ⟨h'.users.trans h.users, h'.orgs.trans h.orgs, h'.mail.trans h.mail⟩

theorem accepted_iff (h : db.SameParents db') (stmt : Statement) :
    stmt.Accepted db' ↔ stmt.Accepted db := by
  cases stmt <;> simp only [Statement.Accepted, h.users, h.orgs, h.mail]

end Db.SameParents

namespace Statement

variable (db : Db) (metric : Metric)

/-- What the statement adds to a metric when it is executed. -/
def gain (stmt : Statement) : Nat :=
  if stmt.Accepted db ∧ stmt.metric = metric then stmt.amount else 0

/-- What all statements add to a metric. -/
def gains : List Statement → Nat
  | [] => 0
  | stmt :: stmts => stmt.gain db metric + gains stmts

theorem gains_append (stmts stmts' : List Statement) :
    gains db metric (stmts ++ stmts') = gains db metric stmts + gains db metric stmts' := by
  induction stmts with
  | nil => exact (Nat.zero_add _).symm
  | cons stmt stmts ih => rw [List.cons_append, gains, gains, ih, Nat.add_assoc]

variable {db} {db' : Db}

/-- One statement of a subscriber, on a database with the same rows to refer to. -/
theorem run_spec (h : db.SameParents db') (today : Nat) (stmt : Statement) :
    db.SameParents (stmt.run db' today) ∧
      (stmt.run db' today).figure metric = db'.figure metric + stmt.gain db metric := by
  by_cases haccepted : stmt.Accepted db
  · obtain ⟨db'', hexec, husers, horgs, hmail, hfigure⟩ :=
      exec_of_accepted today ((h.accepted_iff stmt).mpr haccepted)
    have hrun : stmt.run db' today = db'' := by rw [run, hexec]
    rw [hrun]
    refine ⟨h.trans ⟨husers, horgs, hmail⟩, ?_⟩
    simp only [hfigure, gain, haccepted, true_and]
  · obtain ⟨err, hexec⟩ :=
      exec_of_not_accepted today (mt (h.accepted_iff stmt).mp haccepted)
    have hrun : stmt.run db' today = db' := by rw [run, hexec]
    rw [hrun, gain, if_neg fun hgain => haccepted hgain.1]
    exact ⟨h, rfl⟩

end Statement

/-! ## A small database -/

/-- The inbox is the one of user 3, and nothing has been counted. -/
def sampleDb : Db where
  users := ⟨[3], by decide⟩
  orgs := ⟨[1], by decide⟩
  mail := sampleMail
  notifications := []
  orgCounters := .empty
  dailyStats := .empty
  hourlyStats := .empty
  domainStats := .empty
  senderDomainStats := .empty
  teamCounters := .empty
  dailyTeamStats := .empty
  domain_org := by decide
  inbox_creator := by decide
  notification_user := by decide
  notification_inbox _ h := absurd h List.not_mem_nil
  user_ne_nil := by decide
  org_ne_nil := by decide
  team_ne_nil := by decide
  domain_named := by decide

end BurnerByte.Realtime
