import BurnerByte.Mailbox.Settings
import BurnerByte.Mailbox.State

/-!
# Requests on domains, assignments and inboxes

`createInbox`, `extendTTL`, `deleteInbox`, `addDomain` and `assignDomain` are modelled in
full. Moving a domain or a team also checks limits of the target organisation; these
checks only refuse and are left out.
-/

namespace BurnerByte.Mailbox

open Go
open Tenancy (Team Assignment accessLevels)

/-! ## Addresses -/

def isAlnum (b : UInt8) : Bool := (97 ≤ b && b ≤ 122) || (48 ≤ b && b ≤ 57)

/-- Letters, digits, dots, underscores and hyphens. -/
def isAliasByte (b : UInt8) : Bool := isAlnum b || b = 46 || b = 95 || b = 45

/-- The pattern `^[a-z0-9][a-z0-9._-]{0,62}[a-z0-9]$`. -/
def aliasRe (s : Bytes) : Bool :=
  2 ≤ s.length && s.length ≤ 64 && s.head?.any isAlnum && s.getLast?.any isAlnum &&
    s.all isAliasByte

def charset : Bytes := lit "abcdefghijklmnopqrstuvwxyz0123456789"

/-- Characters drawn at random. -/
def generate (length : Nat) (draw : Nat → Fin 36) : Bytes :=
  (List.range (min 12 (max 6 length))).map fun i => charset.get ((draw i).cast (by decide))

/-! ## Creating inboxes -/

/-- The body of the request. `ttl` is what `time.ParseDuration` makes of it. -/
structure CreateInboxInput where
  customAlias : Option Bytes
  ttl : Option (Option Int)

structure CreateRequest where
  teamID : UUID
  domainID : UUID
  userID : UUID
  input : CreateInboxInput
  settings : Settings
  newID : UUID
  draw : Nat → Fin 36

section

variable (m : Casing) (r : CreateRequest) (db : Db) (s : State) (t : Times)

/-- The address before the `@`. -/
def CreateRequest.address : Except Failure Bytes :=
  match r.input.customAlias.filter (· ≠ []) with
  | none => .ok (generate 8 r.draw)
  | some text =>
    if aliasRe text then .ok text
    else .error ⟨"invalid alias: must be 2-64 alphanumeric lowercase chars", []⟩

/-- How long the inbox is to live. -/
def CreateRequest.lifetime : Except Failure Int :=
  match r.input.ttl with
  | none => .ok r.settings.resolveDefaultInboxTTLWithTeam
  | some none => .error ⟨"invalid TTL format", []⟩
  | some (some parsed) =>
    if parsed ≤ 0 ∨ parsed < minute then .error ⟨"TTL must be at least 1 minute", []⟩
    else if r.settings.resolveMaxInboxTTL < parsed then
      .error ⟨"TTL exceeds maximum (%s)", [.duration r.settings.resolveMaxInboxTTL]⟩
    else .ok parsed

/-- The limits on the number of inboxes of the domain and of the user. -/
def CreateRequest.checkLimits (now : Int) : Except Failure Unit :=
  let maxInboxes := r.settings.org.maxInboxesPerDomain.getD r.settings.defaults.maxInboxesPerDomain
  if maxInboxes ≤ db.countActiveByDomain now r.domainID then
    .error ⟨"inbox limit reached for this domain (%d)", [.number maxInboxes]⟩
  else if 50 ≤ db.countActiveByUser now r.userID then
    .error ⟨"maximum active inboxes per user reached (50)", []⟩
  else .ok ()

def CreateRequest.checkTeamLimit (now : Int) : Except Failure Unit :=
  match r.settings.team.bind (·.maxInboxesPerDomain) with
  | none => .ok ()
  | some teamMax =>
    if teamMax ≤ db.countActiveByDomain now r.domainID then
      .error ⟨"team inbox limit reached for this domain (%d)", [.number teamMax]⟩
    else .ok ()

/-- The assignment and the domain that the inbox is created for. -/
def CreateRequest.target : Except Failure (Assignment × Domain) :=
  match db.getByTeamAndDomain r.teamID r.domainID with
  | none => .error ⟨"domain not assigned to this team", []⟩
  | some a =>
    if a.accessLevel = "read_only" then
      .error ⟨"read-only access — cannot create inboxes", []⟩
    else
      match db.domains.find? r.domainID with
      | none => .error (.ofRepo .notFound)
      | some dom =>
        if dom.mxVerified then .ok (a, dom)
        else .error ⟨"domain MX record not verified — mail cannot be received", []⟩

/-- The row of the inbox and its lifetime. -/
def CreateRequest.inbox (now : Int) : Except Failure (Inbox × Int) := do
  let (a, dom) ← r.target db
  r.checkLimits db now
  let address ← r.address
  r.checkTeamLimit db now
  let ttl ← r.lifetime
  pure
    ({ id := r.newID
       domainAssignmentID := a.id
       domainID := r.domainID
       createdBy := some r.userID
       address
       fullAddress := address ++ lit "@" ++ dom.domainName
       isActive := true
       expiresAt := timestamptz (now + ttl)
       createdAt := timestamptz now
       originalTTL := some ttl }, ttl)

def createInbox (r : CreateRequest) : Except Failure Inbox × State :=
  match r.inbox s.db t.now with
  | .error err => (.error err, s)
  | .ok (inbox, ttl) =>
    match s.db.insertInbox inbox with
    | .error .conflict => (.error ⟨"address already taken", []⟩, s)
    | .error err => (.error (.ofRepo err), s)
    | .ok db =>
      (.ok inbox,
        { s with
          db, redis := s.redis.set inbox.fullAddress inbox.id (redisDeadline t.set ttl) })

/-! ## Extending and deleting inboxes -/

/-- A creator that was deleted is read as the nil identifier. -/
def Inbox.owner (inbox : Inbox) : UUID := inbox.createdBy.getD uuidNil

/-- The inbox, if it is the user's. -/
def ownInbox (now : Int) (id userID : UUID) : Except Failure Inbox :=
  match db.getByID now id with
  | none => .error (.ofRepo .notFound)
  | some inbox =>
    if inbox.owner ≠ userID then .error ⟨"forbidden: not your inbox", []⟩ else .ok inbox

/-- The text of an extension is empty, or what `time.ParseDuration` makes of it. -/
structure ExtendRequest where
  id : UUID
  userID : UUID
  extension : Option (Option Int)
  settings : Settings

/-- By how much the inbox is extended. -/
def ExtendRequest.duration (r : ExtendRequest) (inbox : Inbox) : Except Failure Int :=
  match r.extension with
  | none => .ok (r.settings.resolveRenewalDuration inbox.originalTTL)
  | some none => .error ⟨"invalid extension format", []⟩
  | some (some ext) => .ok ext

/-- The inbox and its new expiry. -/
def ExtendRequest.expiry (r : ExtendRequest) (db : Db) (now : Int) :
    Except Failure (Inbox × Int) := do
  let inbox ← ownInbox db now r.id r.userID
  let ext ← r.duration inbox
  if inbox.createdAt + r.settings.resolveMaxInboxTTL < now + ext then
    .error ⟨"extension would exceed max TTL (%s)", [.duration r.settings.resolveMaxInboxTTL]⟩
  else pure (inbox, now + ext)

def extendTTL (r : ExtendRequest) : Except Failure Inbox × State :=
  match r.expiry s.db t.now with
  | .error err => (.error err, s)
  | .ok (inbox, newExpiry) =>
    (.ok { inbox with expiresAt := newExpiry },
      { s with
        db := s.db.extendTTL r.id newExpiry
        redis := s.redis.set inbox.fullAddress inbox.id
          (redisDeadline t.set (newExpiry - t.read)) })

def deleteInbox (id userID : UUID) : Except Failure Unit × State :=
  match ownInbox s.db t.now id userID with
  | .error err => (.error err, s)
  | .ok inbox =>
    (.ok (),
      { s with
        db := s.db.delete { inboxes := fun row => row.id = id }
        redis := s.redis.del inbox.fullAddress })

/-! ## Domains -/

/-- Letters of both cases, digits and hyphens. -/
def isLabelByte (b : UInt8) : Bool := isAlnum b || (65 ≤ b && b ≤ 90) || b = 45

/-- A label `[a-zA-Z0-9]([a-zA-Z0-9-]{0,61}[a-zA-Z0-9])?`. -/
def isLabel (s : Bytes) : Bool :=
  1 ≤ s.length && s.length ≤ 63 && s.all isLabelByte && s.head? ≠ some 45 && s.getLast? ≠ some 45

/-- The last label, `[a-zA-Z]{2,}`. -/
def isTopLevel (s : Bytes) : Bool :=
  2 ≤ s.length && s.all fun b => (97 ≤ b && b ≤ 122) || (65 ≤ b && b ≤ 90)

/-- The pattern of domain names: labels, each followed by a dot, and the last label. -/
def domainNameRe (name : Bytes) : Bool :=
  let labels := name.splitOn 46
  2 ≤ labels.length && labels.dropLast.all isLabel && labels.getLast?.any isTopLevel

structure AddDomainRequest where
  orgID : UUID
  newID : UUID
  domainName : Bytes
  description : Bytes
  /-- The domains the organisation may have. -/
  maxDomains : Int

/-- The name that is stored. -/
def AddDomainRequest.name (m : Casing) (r : AddDomainRequest) : Except Failure Bytes :=
  if r.domainName = [] then .error ⟨"domain_name is required", []⟩
  else
    let name := toLower m (trimSpace r.domainName)
    if !domainNameRe name then .error ⟨"invalid domain name format", []⟩
    else if name = lit "localhost" ∨ lit ".local" <:+ name ∨ lit ".internal" <:+ name then
      .error ⟨"cannot add private/internal domain", []⟩
    else .ok name

/-- A new domain is not verified. -/
def newDomain (id orgID : UUID) (domainName : Bytes) : Domain :=
  { id, orgID, domainName, mxVerified := false, txtVerified := false }

def Db.countByOrg (orgID : UUID) : Nat :=
  db.domains.rows.countP fun domain => domain.orgID = orgID

def addDomain (r : AddDomainRequest) : Except Failure Unit × State :=
  match r.name m with
  | .error err => (.error err, s)
  | .ok name =>
    if 1000 < r.description.length then
      (.error ⟨"description must not exceed 1000 characters", []⟩, s)
    else if r.maxDomains ≤ s.db.countByOrg r.orgID then
      (.error ⟨"domain limit reached (%d)", [.number r.maxDomains]⟩, s)
    else
      match s.db.insertDomain (newDomain r.newID r.orgID name) with
      | .error .conflict => (.error ⟨"domain already registered", []⟩, s)
      | .error err => (.error (.ofRepo err), s)
      | .ok db => (.ok (), { s with db })

/-- The domain of the setup wizard is stored as it was typed in. -/
def setupDomain (id orgID : UUID) (domainName : Bytes) : Except Failure Unit × State :=
  if domainName = [] then (.error ⟨"at least one domain is required", []⟩, s)
  else
    match s.db.insertDomain (newDomain id orgID domainName) with
    | .error _ => (.error ⟨"failed to add domain", []⟩, s)
    | .ok db => (.ok (), { s with db })

/-- The domain, if it belongs to the organisation. -/
def ownDomain (orgID id : UUID) : Except Failure Domain :=
  match db.domains.find? id with
  | none => .error (.ofRepo .notFound)
  | some domain =>
    if domain.orgID ≠ orgID then .error ⟨"domain not found", []⟩ else .ok domain

/-- The keys are deleted before the rows are. -/
def deleteDomain (orgID id : UUID) : Except Failure Unit × State :=
  match ownDomain s.db orgID id with
  | .error err => (.error err, s)
  | .ok _ =>
    (.ok (),
      { s with
        redis := s.redis.delAll (s.db.listActiveAddressesByDomain t.now id)
        db := s.db.delete { domains := fun domain => domain.id = id } })

/-- The keys are looked up after the assignments are deleted. -/
def transferDomain (orgID domainID targetOrgID : UUID) : Except Failure Unit × State :=
  match ownDomain s.db orgID domainID with
  | .error err => (.error err, s)
  | .ok _ =>
    -- The cascade of this statement deletes the inboxes that are looked for next.
    let db := s.db.delete { assignments := fun a => a.domainID = domainID }
    (.ok (),
      { s with
        redis := s.redis.delAll (db.listActiveAddressesByDomain t.now domainID)
        db := (db.deactivateInboxesByDomain domainID).updateOrgID domainID targetOrgID })

/-! ## Teams and assignments -/

structure AssignRequest where
  teamID : UUID
  domainID : UUID
  accessLevel : String
  assignedBy : UUID
  orgID : UUID
  newID : UUID

def assignDomain (r : AssignRequest) : Except Failure Unit × State :=
  if r.accessLevel ∉ accessLevels then
    (.error ⟨"invalid access_level: %s", [.text (lit r.accessLevel)]⟩, s)
  else
    match s.db.domains.find? r.domainID with
    | none => (.error ⟨"domain not found", []⟩, s)
    | some d =>
      if !d.mxVerified || !d.txtVerified then
        (.error ⟨"domain must have both MX and TXT records verified before assignment", []⟩, s)
      else if d.orgID ≠ r.orgID then
        (.error ⟨"domain does not belong to this organization", []⟩, s)
      else
        match s.db.insertAssignment
            { id := r.newID, teamID := r.teamID, domainID := r.domainID
              accessLevel := r.accessLevel, assignedBy := some r.assignedBy } with
        | .error .conflict => (.error ⟨"domain already assigned to this team", []⟩, s)
        | .error err => (.error (.ofRepo err), s)
        | .ok db => (.ok (), { s with db })

def updateAssignment (teamID domainID : UUID) (accessLevel : String) :
    Except Failure Unit × State :=
  match s.db.getByTeamAndDomain teamID domainID with
  | none => (.error (.ofRepo .notFound), s)
  | some a =>
    if accessLevel ∉ accessLevels then
      (.error ⟨"invalid access_level: %s", [.text (lit accessLevel)]⟩, s)
    else (.ok (), { s with db := s.db.setAccessLevel a.id accessLevel })

def unassign (teamID domainID : UUID) : Except Failure Unit × State :=
  match s.db.getByTeamAndDomain teamID domainID with
  | none => (.error (.ofRepo .notFound), s)
  | some a => (.ok (), { s with db := s.db.delete { assignments := fun row => row.id = a.id } })

/-- The team, if it belongs to the organisation. -/
def ownTeam (orgID id : UUID) (foreign : String) : Except Failure Team :=
  match db.teams.find? id with
  | none => .error (.ofRepo .notFound)
  | some team => if team.orgID ≠ orgID then .error ⟨foreign, []⟩ else .ok team

def deleteTeam (orgID id : UUID) : Except Failure Unit × State :=
  match ownTeam s.db orgID id "team not found" with
  | .error err => (.error err, s)
  | .ok _ => (.ok (), { s with db := s.db.delete { teams := fun team => team.id = id } })

def transferTeam (orgID teamID targetOrgID : UUID) : Except Failure Unit × State :=
  match ownTeam s.db orgID teamID "team not found in this organization" with
  | .error err => (.error err, s)
  | .ok _ =>
    (.ok (),
      { s with
        db := (s.db.delete { assignments := fun a => a.teamID = teamID }).setTeamOrg teamID
          targetOrgID })

/-- The teams and domains of an organisation go with it. -/
def deleteOrg (orgID : UUID) : State :=
  { s with
    db := s.db.delete
      { teams := fun team => team.orgID = orgID, domains := fun domain => domain.orgID = orgID } }

/-! ## Reconciling the cache -/

section

variable {α : Type} (text : UUID → α) (isEmpty : α → Bool)

/-- An iteration of the job, at its own times. `InboxRepo.Get` reads no entry as an empty one. -/
def reconcileEntry (redis : Expiring.Store Bytes α) (inbox : Inbox) : Expiring.Store Bytes α :=
  let remaining := inbox.expiresAt - t.read
  if remaining ≤ 0 then redis
  else if (redis.get t.read inbox.fullAddress).all isEmpty then
    redis.set inbox.fullAddress (text inbox.id) (redisDeadline t.set remaining)
  else redis

/-- Cache the live inboxes that are not cached. The values of the cache are texts, and `text` is
how an identifier is written there. -/
def reconcile (now : Int) (times : UUID → Times) (redis : Expiring.Store Bytes α) :
    Expiring.Store Bytes α :=
  (db.listActive now).foldl
    (fun redis inbox => reconcileEntry (times inbox.id) text isEmpty redis inbox) redis

end

/-- Here the cache holds identifiers only. -/
def reconcilerJob (times : UUID → Times) : State :=
  { s with redis := reconcile s.db id (fun _ => false) t.now times s.redis }

end

end BurnerByte.Mailbox
