import BurnerByte.Basic

/-!
# The settings cascade

Lifetimes, limits and whether attachments are kept are set at several levels, and the
nearest level that says something decides. Settings change at any time, so a request
brings them as it finds them. A lifetime is what `time.ParseDuration` reads from its
text, in nanoseconds; a text that it does not read counts as absent.
-/

namespace BurnerByte.Mailbox

structure AssignmentSettings where
  attachmentsEnabled : Option String
  maxInboxTTL : Option Int

structure TeamSettings where
  defaultInboxTTL : Option Int
  maxInboxesPerDomain : Option Int

structure DomainSettings where
  attachmentsEnabled : Option String
  defaultInboxTTL : Option Int
  maxInboxTTL : Option Int

structure OrgSettings where
  attachmentsEnabled : Option Bool
  maxAttachmentSizeMB : Option Int
  maxInboxesPerDomain : Option Int
  defaultInboxTTL : Option Int
  maxInboxTTL : Option Int
  renewalPolicy : Option String
  renewalTTL : Option Int
  deriving DecidableEq

/-- The system defaults. -/
structure DefaultsConfig where
  attachmentsEnabled : Bool
  maxAttachmentSizeMB : Int
  maxInboxesPerDomain : Int
  defaultInboxTTL : Int
  maxInboxTTL : Int

structure Settings where
  assignment : AssignmentSettings
  team : Option TeamSettings
  domain : DomainSettings
  org : OrgSettings
  defaults : DefaultsConfig

namespace Settings

def resolveAttachmentsEnabled (c : Settings) : Bool :=
  match c.assignment.attachmentsEnabled.filter (· ≠ "inherit") with
  | some value => value = "enabled"
  | none =>
    match c.domain.attachmentsEnabled.filter (· ≠ "inherit") with
    | some value => value = "enabled"
    | none => c.org.attachmentsEnabled.getD c.defaults.attachmentsEnabled

def resolveMaxAttachmentSize (c : Settings) : Int :=
  c.org.maxAttachmentSizeMB.getD c.defaults.maxAttachmentSizeMB * 1024 * 1024

def resolveDefaultInboxTTL (c : Settings) : Int :=
  (c.domain.defaultInboxTTL <|> c.org.defaultInboxTTL).getD c.defaults.defaultInboxTTL

def resolveDefaultInboxTTLWithTeam (c : Settings) : Int :=
  (c.team.bind (·.defaultInboxTTL)).getD c.resolveDefaultInboxTTL

def resolveMaxInboxTTL (c : Settings) : Int :=
  (c.assignment.maxInboxTTL <|> c.domain.maxInboxTTL <|> c.org.maxInboxTTL).getD
    c.defaults.maxInboxTTL

/-- Any policy but these two stands for the cascade. -/
def resolveRenewalDuration (c : Settings) (originalTTL : Option Int) : Int :=
  match (c.org.renewalPolicy.filter (· ≠ "")).getD "original" with
  | "original" => (originalTTL.filter (0 < ·)).getD c.resolveDefaultInboxTTL
  | "fixed" => (c.org.renewalTTL.filter (0 < ·)).getD c.resolveDefaultInboxTTL
  | _ => c.resolveDefaultInboxTTL

end Settings

end BurnerByte.Mailbox
