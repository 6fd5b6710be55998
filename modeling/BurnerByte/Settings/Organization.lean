import BurnerByte.Basic
import BurnerByte.Core.Outcome
import Mathlib.Logic.Function.Basic

/-!
# Settings of an organisation

An update overwrites the fields that it provides. It misses two, which say how inboxes are renewed.
-/

namespace BurnerByte.Policies

open Outcome

structure OrgSettings where
  attachmentsEnabled : Option Bool := none
  defaultInboxTTL : Option String := none
  maxInboxTTL : Option String := none
  maxAttachmentSizeMB : Option Int := none
  maxDomains : Option Int := none
  maxTeams : Option Int := none
  maxInboxesPerDomain : Option Int := none
  enforceSSO : Option Bool := none
  renewalPolicy : Option String := none
  renewalTTL : Option String := none

/-- Two fields are left as they are. -/
def OrgSettings.update (org input : OrgSettings) : Except String OrgSettings :=
  if input.maxAttachmentSizeMB.any (· < 1) then .error "max_attachment_size_mb must be >= 1"
  else if input.maxDomains.any (· < 1) then .error "max_domains must be >= 1"
  else if input.maxTeams.any (· < 1) then .error "max_teams must be >= 1"
  else if input.maxInboxesPerDomain.any (· < 1) then .error "max_inboxes_per_domain must be >= 1"
  else
    .ok
      { org with
        attachmentsEnabled := input.attachmentsEnabled <|> org.attachmentsEnabled
        defaultInboxTTL := input.defaultInboxTTL <|> org.defaultInboxTTL
        maxInboxTTL := input.maxInboxTTL <|> org.maxInboxTTL
        maxAttachmentSizeMB := input.maxAttachmentSizeMB <|> org.maxAttachmentSizeMB
        maxDomains := input.maxDomains <|> org.maxDomains
        maxTeams := input.maxTeams <|> org.maxTeams
        maxInboxesPerDomain := input.maxInboxesPerDomain <|> org.maxInboxesPerDomain
        enforceSSO := input.enforceSSO <|> org.enforceSSO }

/-- The settings of the organisations. `saved` is the outcome of the statement that writes them. -/
def updateSettings (orgs : UUID → Option OrgSettings) (orgID : UUID) (input : OrgSettings)
    (saved : Except String Unit) : Except String (UUID → Option OrgSettings) :=
  match orgs orgID with
  | none => .error RepoError.notFound.message
  | some org => do
    let settings ← org.update input
    saved
    .ok (Function.update orgs orgID (some settings))

/-- Every field that the input provides takes its value, and the others keep theirs. -/
def OrgSettings.overlay (org input : OrgSettings) : OrgSettings where
  attachmentsEnabled := input.attachmentsEnabled <|> org.attachmentsEnabled
  defaultInboxTTL := input.defaultInboxTTL <|> org.defaultInboxTTL
  maxInboxTTL := input.maxInboxTTL <|> org.maxInboxTTL
  maxAttachmentSizeMB := input.maxAttachmentSizeMB <|> org.maxAttachmentSizeMB
  maxDomains := input.maxDomains <|> org.maxDomains
  maxTeams := input.maxTeams <|> org.maxTeams
  maxInboxesPerDomain := input.maxInboxesPerDomain <|> org.maxInboxesPerDomain
  enforceSSO := input.enforceSSO <|> org.enforceSSO
  renewalPolicy := input.renewalPolicy <|> org.renewalPolicy
  renewalTTL := input.renewalTTL <|> org.renewalTTL

theorem OrgSettings.update_eq_ok {org input settings : OrgSettings}
    (h : org.update input = .ok settings) :
    settings = { org.overlay input with
      renewalPolicy := org.renewalPolicy, renewalTTL := org.renewalTTL } := by
  simp only [OrgSettings.update, guard_eq_ok] at h
  exact (Except.ok.inj h.2.2.2.2).symm

/-- An update of an organisation does what it is to do exactly if it provides no renewal policy and
no renewal lifetime but those that are stored. -/
theorem overlays_iff {orgs orgs' : UUID → Option OrgSettings} {orgID : UUID}
    {saved : Except String Unit} {input org : OrgSettings}
    (h : updateSettings orgs orgID input saved = .ok orgs') (horg : orgs orgID = some org) :
    orgs' orgID = some (org.overlay input) ↔
      (input.renewalPolicy = none ∨ input.renewalPolicy = org.renewalPolicy) ∧
        (input.renewalTTL = none ∨ input.renewalTTL = org.renewalTTL) := by
  simp only [updateSettings, horg, bind_eq_ok] at h
  obtain ⟨settings, hsettings, _, _, hstored⟩ := h
  cases hstored
  rw [OrgSettings.update_eq_ok hsettings]
  have hkept (new old : Option String) : old = new.or old ↔ new = none ∨ new = old := by
    cases new <;> simp [eq_comm]
  simp [OrgSettings.overlay, hkept]

theorem team_limit_overlaid :
    ∃ orgs, updateSettings (fun _ => some {}) 1 { maxTeams := some 3 } (.ok ()) = .ok orgs ∧
      orgs 1 = some { maxTeams := some 3 } := by
  have hoverlays :=
    @overlays_iff (fun _ => some {}) _ 1 (.ok ()) { maxTeams := some 3 } {} rfl rfl
  exact ⟨_, rfl, hoverlays.mpr (by decide)⟩

/-- A renewal policy is accepted, and not stored. -/
theorem renewal_policy_dropped :
    ∃ orgs, updateSettings (fun _ => some {}) 1
        { renewalPolicy := some "fixed", renewalTTL := some "2h" } (.ok ()) = .ok orgs ∧
      orgs 1 = some {} :=
  ⟨_, rfl, rfl⟩

end BurnerByte.Policies
