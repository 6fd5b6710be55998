import BurnerByte.Mailbox.Delivery
import BurnerByte.Mailbox.Inboxes

/-!
# The mail service as a machine

Requests, messages and jobs are handled one after the other. The cache may also lose what
it holds. Between two events time passes.
-/

namespace BurnerByte.Mailbox

open Go
open Tenancy (Team)

inductive Op where
  | addDomain (r : AddDomainRequest)
  | setupDomain (id orgID : UUID) (domainName : Bytes)
  | createTeam (team : Team)
  | assignDomain (r : AssignRequest)
  | updateAssignment (teamID domainID : UUID) (accessLevel : String)
  | updateDNSStatus (domainID : UUID) (mx txt : Bool)
  | createInbox (r : CreateRequest)
  | extendTTL (r : ExtendRequest)
  | deleteInbox (id userID : UUID)
  | unassign (teamID domainID : UUID)
  | deleteTeam (orgID id : UUID)
  | transferTeam (orgID teamID targetOrgID : UUID)
  | deleteDomain (orgID id : UUID)
  | transferDomain (orgID domainID targetOrgID : UUID)
  | deleteOrg (orgID : UUID)
  | deleteUser (userID : UUID)
  | process (r : ReceiveRequest)
  | deleteEmail (emailID userID : UUID)
  | cleanupJob
  | reconcilerJob (times : UUID → Times)
  | flush

structure Event where
  times : Times
  op : Op

section

variable (m : Casing)

def handle (s : State) (t : Times) : Op → State
  | .addDomain r => (addDomain m s r).2
  | .setupDomain id orgID domainName => (setupDomain s id orgID domainName).2
  | .createTeam team => s.write (.admin (.addTeam team))
  | .assignDomain r => (assignDomain s r).2
  | .updateAssignment teamID domainID accessLevel =>
    (updateAssignment s teamID domainID accessLevel).2
  | .updateDNSStatus domainID mx txt => s.write (.admin (.updateDNSStatus domainID mx txt))
  | .createInbox r => (createInbox s t r).2
  | .extendTTL r => (extendTTL s t r).2
  | .deleteInbox id userID => (deleteInbox s t id userID).2
  | .unassign teamID domainID => (unassign s teamID domainID).2
  | .deleteTeam orgID id => (deleteTeam s orgID id).2
  | .transferTeam orgID teamID targetOrgID => (transferTeam s orgID teamID targetOrgID).2
  | .deleteDomain orgID id => (deleteDomain s t orgID id).2
  | .transferDomain orgID domainID targetOrgID =>
    (transferDomain s t orgID domainID targetOrgID).2
  | .deleteOrg orgID => deleteOrg s orgID
  | .deleteUser userID => s.write (.clearCreator userID)
  | .process r => (process m s t r).2
  | .deleteEmail emailID userID => (deleteEmail s t emailID userID).2
  | .cleanupJob => cleanupJob s t
  | .reconcilerJob times => reconcilerJob s t times
  | .flush => s.write .flush

def step (s : State) (e : Event) : State :=
  { handle m s e.times e.op with clock := e.times.set }

end

/-- The clock does not go back. -/
def InOrder (s : State) (e : Event) : Prop :=
  s.clock ≤ e.times.now ∧ e.times.now ≤ e.times.read ∧ e.times.read ≤ e.times.set
  deriving Decidable

/-! ## A small run -/

/-- An event that takes no time. -/
def Event.instant (now : Int) (op : Op) : Event := ⟨⟨now, now, now⟩, op⟩

def sampleSettings : Settings where
  assignment := ⟨none, none⟩
  team := none
  domain := ⟨none, none, none⟩
  org := ⟨none, none, none, none, none, none, none⟩
  defaults := ⟨true, 10, 5, hour, 24 * hour⟩

def sampleRequest : CreateRequest where
  teamID := 2
  domainID := 1
  userID := 7
  input := ⟨some (lit "joe"), none⟩
  settings := sampleSettings
  newID := 4
  draw _ := 0

/-- A domain is set up and assigned to a team, and a user creates an inbox for it that
lives for an hour. -/
def sampleRun (domainName : Bytes) : List Event :=
  [.instant 0 (.setupDomain 1 9 domainName),
    .instant 0 (.createTeam ⟨2, 9, false⟩),
    .instant 0 (.updateDNSStatus 1 true true),
    .instant 0 (.assignDomain ⟨2, 1, "full", 7, 9, 3⟩),
    .instant 0 (.createInbox sampleRequest)]

def sampleState : State := Trace.run (step .ascii) .empty (sampleRun (lit "ex.am"))

/-- A message with an attachment. -/
def sampleMessage (toAddr : Bytes) (newID : UUID) : ReceiveRequest where
  email :=
    { toAddr
      attachments :=
        [⟨lit "a.txt", lit "text/plain", lit "hello", newID + 1, newID + 2, none, none⟩]
      newID
      rowError := none }
  settings := sampleSettings
  attachmentStorer := some 10

/-- The message arrives in the inbox of the small run. -/
def deliveredRun : List Event :=
  sampleRun (lit "ex.am") ++ [.instant 60 (.process (sampleMessage (lit "joe@ex.am") 5))]

end BurnerByte.Mailbox
