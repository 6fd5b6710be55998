import BurnerByte.Core.References
import BurnerByte.Handler.Checks

/-!
# Webhooks and their deliveries

The handlers of the webhook routes, with the service and the statements below them. All of
them check the permission in the team of the path. Updating, deleting and listing deliveries
then look up the webhook by its id and compare its team with that of the path. The statistics
are those of the webhook id in the path, whatever team it belongs to.

The payload and the body of a delivery, and its key against repetition, are not read by these
routes and are left out.
-/

namespace BurnerByte.Webhooks

open Sql Rbac Handler

/-! ## Tables -/

structure Webhook where
  id : UUID
  teamID : UUID
  /-- The creator, as long as the account exists. -/
  createdBy : Option UUID
  url : String
  secret : String
  events : List String
  active : Bool
  lastStatus : Option Int
  lastAttemptAt : Option Nat
  failureCount : Nat
  createdAt : Nat
  updatedAt : Nat
  deriving DecidableEq

structure DeliveryLog where
  id : UUID
  webhookID : UUID
  event : String
  responseStatus : Option Int
  responseTimeMs : Option Int
  success : Bool
  attempt : Nat
  createdAt : Nat
  deriving DecidableEq

structure Db where
  teams : Table UUID UUID id
  users : Table UUID UUID id
  webhooks : Table Webhook UUID Webhook.id
  logs : Table DeliveryLog UUID DeliveryLog.id
  webhook_team : References webhooks.rows Webhook.teamID teams
  log_webhook : References logs.rows DeliveryLog.webhookID webhooks

/-- The columns that an update writes. -/
def Webhook.edit (url : String) (events : List String) (active : Bool) (now : Nat) (w : Webhook) :
    Webhook :=
  { w with url, events, active, updatedAt := now }

theorem Webhook.edit_id (url : String) (events : List String) (active : Bool) (now : Nat)
    (w : Webhook) : (w.edit url events active now).id = w.id := rfl

namespace Db

/-- Insert a webhook. Its team and its creator must exist. -/
def create (db : Db) (w : Webhook) : Except String Db :=
  match hinsert : db.webhooks.insert w with
  | none => .error "create webhook: duplicate key value violates unique constraint"
  | some webhooks =>
    if h : ∃ team ∈ db.teams, team = w.teamID then
      if ∀ userID ∈ w.createdBy, ∃ user ∈ db.users, user = userID then
        .ok { db with
          webhooks
          webhook_team := db.webhook_team.of_mem h (Table.insert_eq_some hinsert).2
          log_webhook := db.log_webhook.of_parent_mem (Table.insert_eq_some hinsert).2 }
      else .error "create webhook: foreign key violation"
    else .error "create webhook: foreign key violation"

def getByID (db : Db) (id : UUID) : Except RepoError Webhook :=
  match db.webhooks.find? id with
  | none => .error .notFound
  | some w => .ok w

def update (db : Db) (w : Webhook) (now : Nat) : Db :=
  { db with
    webhooks := db.webhooks.updateWhere (fun old => old.id = w.id)
      (Webhook.edit w.url w.events w.active now) (Webhook.edit_id w.url w.events w.active now)
    webhook_team := db.webhook_team.update _ _ fun _ => rfl
    log_webhook := db.log_webhook.update_parents _ _ _ }

/-- The deliveries of a deleted webhook are deleted with it. -/
def deleteWebhooks (db : Db) (p : Webhook → Bool) : Db :=
  { db with
    webhooks := db.webhooks.deleteWhere p
    logs := db.logs.deleteWhere fun log =>
      db.webhooks.rows.any fun w => p w && w.id = log.webhookID
    webhook_team := db.webhook_team.filter _
    log_webhook := db.log_webhook.deleteWhere fun _ _ _ hparent hkey hp =>
      any_parent hparent hp hkey }

def delete (db : Db) (id : UUID) : Db := db.deleteWebhooks fun w => w.id = id

def listByTeam (db : Db) (teamID : UUID) (page perPage : Int) :
    Except String (List Webhook × Int) :=
  selectPage Webhook.createdAt (db.webhooks.rows.filter fun w => w.teamID = teamID) page perPage

def logsOf (db : Db) (webhookID : UUID) : List DeliveryLog :=
  db.logs.rows.filter fun log => log.webhookID = webhookID

def listDeliveryLogs (db : Db) (webhookID : UUID) (page perPage : Int) :
    Except String (List DeliveryLog × Int) :=
  selectPage DeliveryLog.createdAt (db.logsOf webhookID) page perPage

end Db

structure WebhookStats where
  totalDeliveries : Nat
  successCount : Nat
  failureCount : Nat
  /-- The rate in tenths of a percent, rounded. -/
  successRate : Nat
  avgResponseTimeMs : Rat
  lastDeliveryAt : Option Nat
  deriving DecidableEq

/-- The average of the values, 0 if there are none. -/
def average (values : List Int) : Rat :=
  if values.isEmpty then 0 else (values.foldl (· + ·) 0 : Rat) / (values.length : Rat)

def Db.getWebhookStats (db : Db) (webhookID : UUID) : WebhookStats :=
  let logs := db.logsOf webhookID
  let successes := (logs.filter fun log => log.success).length
  { totalDeliveries := logs.length
    successCount := successes
    failureCount := (logs.filter fun log => !log.success).length
    successRate :=
      if 0 < logs.length then (2000 * successes + logs.length) / (2 * logs.length) else 0
    avgResponseTimeMs := average (logs.filterMap DeliveryLog.responseTimeMs)
    lastDeliveryAt := (logs.map DeliveryLog.createdAt).max? }

/-! ## The service -/

/-- The check of webhook URLs, which resolves host names, and what the database says to a list of
events. -/
structure Env where
  urlError : String → Option String
  eventsError : List String → Option String

structure CreateWebhookInput where
  url : String
  events : List String

structure UpdateWebhookInput where
  url : Option String
  events : Option (List String)
  active : Option Bool

def validEvents : List String := ["email.received", "inbox.created", "inbox.expired"]

section

variable (env : Env) (now : Nat)

/-- The answer is the row as the service has built it, without the times. -/
def create (db : Db) (teamID userID : UUID) (input : CreateWebhookInput) (id : UUID)
    (secret : String) : Except String (Webhook × Db) :=
  match env.urlError input.url, input.events.find? (· ∉ validEvents) with
  | some msg, _ => .error msg
  | none, some event => .error ("invalid event: " ++ event)
  | none, none =>
    let w : Webhook := ⟨id, teamID, some userID, input.url, secret, input.events, true, none, none,
      0, 0, 0⟩
    match db.create { w with createdAt := now, updatedAt := now } with
    | .error msg => .error msg
    | .ok db' => .ok (w, db')

def list (db : Db) (teamID : UUID) (page perPage : Int) : Except String (List Webhook × Int) :=
  let (page, perPage) := clampPage page perPage
  match db.listByTeam teamID page perPage with
  | .error msg => .error msg
  | .ok (webhooks, total) => .ok (webhooks.map fun w => { w with secret := "" }, total)

/-- The webhook with the id, if it belongs to the team. -/
def getOfTeam (db : Db) (teamID id : UUID) : Except String Webhook :=
  match db.getByID id with
  | .error err => .error err.message
  | .ok w => if w.teamID ≠ teamID then .error "webhook not found" else .ok w

def getByID (db : Db) (teamID id : UUID) : Except String Webhook :=
  (getOfTeam db teamID id).map fun w => { w with secret := "" }

def update (db : Db) (teamID id : UUID) (input : UpdateWebhookInput) :
    Except String (Webhook × Db) :=
  match getOfTeam db teamID id with
  | .error msg => .error msg
  | .ok w =>
    match input.url.bind env.urlError with
    | some msg => .error msg
    | none =>
      let w :=
        { w with
          url := input.url.getD w.url
          events := input.events.getD w.events
          active := input.active.getD w.active }
      match env.eventsError w.events with
      | some msg => .error msg
      | none => .ok ({ w with secret := "" }, db.update w now)

def delete (db : Db) (teamID id : UUID) : Except String Db :=
  match getOfTeam db teamID id with
  | .error msg => .error msg
  | .ok _ => .ok (db.delete id)

def listDeliveryLogs (db : Db) (teamID webhookID : UUID) (page perPage : Int) :
    Except String (List DeliveryLog × Int) :=
  match getOfTeam db teamID webhookID with
  | .error msg => .error msg
  | .ok _ =>
    let (page, perPage) := clampPage page perPage
    db.listDeliveryLogs webhookID page perPage

/-- The team is not asked for. -/
def getWebhookStats (db : Db) (webhookID : UUID) : WebhookStats := db.getWebhookStats webhookID

end

/-! ## The handlers -/

/-- Who calls, and the ids of the path as `uuid.Parse` reads them. -/
structure Route where
  uc : Option UserContext
  orgParam : Option UUID
  teamParam : Option UUID

/-- The two parameters of a page as numbers, where they are such. -/
structure PageParams where
  page : Option Int
  perPage : Option Int

def parsePagination (params : PageParams) : Int × Int :=
  ((params.page.filter fun p => 0 < p).getD 1,
    (params.perPage.filter fun p => 0 < p && p ≤ 100).getD 20)

structure Page (α : Type) where
  data : List α
  total : Int
  page : Int
  perPage : Int
  totalPages : Int
  deriving DecidableEq

def paginatedResponse {α : Type} (data : List α) (total page perPage : Int) : Page α where
  data := data
  total := total
  page := page
  perPage := perPage
  totalPages := if 0 < total.tmod perPage then total.tdiv perPage + 1 else total.tdiv perPage

inductive Answer where
  | created (w : Webhook)
  | webhook (w : Webhook)
  | webhooks (page : Page Webhook)
  | deliveries (page : Page DeliveryLog)
  | stats (stats : WebhookStats)
  | noContent
  deriving DecidableEq

/-- What the audit log says of a webhook before and after an update. -/
structure Snapshot where
  url : String
  events : List String
  active : Bool

def Webhook.snapshot (w : Webhook) : Snapshot := ⟨w.url, w.events, w.active⟩

inductive AuditMeta where
  | created (url : String)
  | updated (input : UpdateWebhookInput) (change : Option (Snapshot × Snapshot))
  | deleted (webhookID : UUID) (webhookURL : String)

structure AuditEntry where
  orgID : UUID
  action : String
  resourceID : UUID
  resourceName : String
  info : AuditMeta

/-- The answer to a request, and its entry in the audit log. -/
structure Reply where
  answer : Answer
  audit : Option AuditEntry

inductive Operation where
  | create (body : Option CreateWebhookInput) (id : UUID) (secret : String)
  | list (params : PageParams)
  | update (webhookParam : Option UUID) (body : Option UpdateWebhookInput)
  | delete (webhookParam : Option UUID)
  | listDeliveryLogs (webhookParam : Option UUID) (params : PageParams)
  | webhookStats (webhookParam : Option UUID)

structure Request where
  route : Route
  op : Operation

def failed : HttpError := ⟨500, "failed"⟩

/-- The first lines of every handler: the scopes of an API key, the ids of the org and the team,
and the permission in the team. -/
def authorize (c : Checker) (route : Route) (permissionKey : String) :
    Except HttpError (UUID × UUID) :=
  if route.uc.any fun user => user.hasKeyScopes && !hasScope route.uc permissionKey then
    .error (forbidden "insufficient scope")
  else
    match route.orgParam, route.teamParam with
    | none, _ => .error (badRequest "invalid org ID")
    | some _, none => .error (badRequest "invalid team ID")
    | some orgID, some teamID => do
      checkTeamPermission c route.uc orgID teamID permissionKey
      return (orgID, teamID)

def parseWebhookID (webhookParam : Option UUID) : Except HttpError UUID :=
  match webhookParam with
  | none => .error (badRequest "invalid webhook ID")
  | some id => .ok id

section

variable (c : Checker) (env : Env) (now : Nat) (db : Db) (route : Route)

def handleCreate (body : Option CreateWebhookInput) (id : UUID) (secret : String) :
    Except HttpError (Reply × Db) := do
  let (orgID, teamID) ← authorize c route "team.webhooks.manage"
  match body with
  | none => .error (badRequest "invalid request body")
  | some input =>
    match create env now db teamID ((route.uc.map (·.userID)).getD uuidNil) input id secret with
    | .error msg => .error (serviceError msg)
    | .ok (w, db') =>
      .ok (⟨.created w, some ⟨orgID, "webhook.created", w.id, input.url, .created input.url⟩⟩, db')

section

variable (webhookParam : Option UUID) (params : PageParams)

def handleList : Except HttpError (Reply × Db) := do
  let (_, teamID) ← authorize c route "team.webhooks.view"
  let (page, perPage) := parsePagination params
  match list db teamID page perPage with
  | .error _ => .error failed
  | .ok (webhooks, total) =>
    .ok (⟨.webhooks (paginatedResponse webhooks total page perPage), none⟩, db)

/-- The webhook is looked up before for the audit log. -/
def handleUpdate (body : Option UpdateWebhookInput) : Except HttpError (Reply × Db) := do
  let (orgID, teamID) ← authorize c route "team.webhooks.manage"
  let id ← parseWebhookID webhookParam
  let before := (getByID db teamID id).toOption
  match body with
  | none => .error (badRequest "invalid request body")
  | some input =>
    match update env now db teamID id input with
    | .error msg => .error (serviceError msg)
    | .ok (w, db') =>
      let change := before.map fun old => (old.snapshot, w.snapshot)
      .ok (⟨.webhook w, some ⟨orgID, "webhook.updated", id, w.url, .updated input change⟩⟩, db')

/-- The audit log names the webhook by its URL. -/
def handleDelete : Except HttpError (Reply × Db) := do
  let (orgID, teamID) ← authorize c route "team.webhooks.manage"
  let id ← parseWebhookID webhookParam
  let old := (getByID db teamID id).toOption
  match delete db teamID id with
  | .error _ => .error failed
  | .ok db' =>
    .ok (⟨.noContent, some ⟨orgID, "webhook.deleted", id, old.elim (toString id) Webhook.url,
      .deleted id (old.elim "" Webhook.url)⟩⟩, db')

def handleListDeliveryLogs : Except HttpError (Reply × Db) := do
  let (_, teamID) ← authorize c route "team.webhooks.view"
  let webhookID ← parseWebhookID webhookParam
  let (page, perPage) := parsePagination params
  match listDeliveryLogs db teamID webhookID page perPage with
  | .error _ => .error failed
  | .ok (logs, total) =>
    .ok (⟨.deliveries (paginatedResponse logs total page perPage), none⟩, db)

def handleWebhookStats : Except HttpError (Reply × Db) := do
  let _ ← authorize c route "team.webhooks.view"
  let webhookID ← parseWebhookID webhookParam
  .ok (⟨.stats (getWebhookStats db webhookID), none⟩, db)

end

end

def handle (c : Checker) (env : Env) (now : Nat) (db : Db) (req : Request) :
    Except HttpError (Reply × Db) :=
  match req.op with
  | .create body id secret => handleCreate c env now db req.route body id secret
  | .list params => handleList c db req.route params
  | .update webhookParam body => handleUpdate c env now db req.route webhookParam body
  | .delete webhookParam => handleDelete c db req.route webhookParam
  | .listDeliveryLogs webhookParam params =>
    handleListDeliveryLogs c db req.route webhookParam params
  | .webhookStats webhookParam => handleWebhookStats c db req.route webhookParam

end BurnerByte.Webhooks
