import BurnerByte.Go.Duration
import BurnerByte.Handler.Checks

/-!
# Platform settings

An administrator may change the platform settings while the process runs. The request is checked,
stored as one row of `system_configs`, and put into the configuration of the process. A process that
starts reads its configuration file and then loads the row over it. The two were written apart: the
request puts every value in force, while the loading passes over values that are zero or missing.

Of the configuration only the settings that the request can change are modelled.
-/

namespace BurnerByte.Settings

open Go Handler Outcome

/-! ## Configuration -/

structure PasswordConfig where
  minLength : Int
  requireUppercase : Bool
  requireLowercase : Bool
  requireNumber : Bool
  requireSpecial : Bool
  deriving DecidableEq

structure LockoutConfig where
  maxAttempts : Int
  duration : Int
  deriving DecidableEq

structure DefaultsConfig where
  allowRegistration : Bool
  defaultInboxTTL : Int
  maxInboxTTL : Int
  maxAttachmentSizeMB : Int
  maxDomains : Int
  maxTeams : Int
  maxInboxesPerDomain : Int
  timezone : String
  dateFormat : String
  timeFormat : String
  maxSessionsPerUser : Int
  deriving DecidableEq

structure Config where
  lockout : LockoutConfig
  password : PasswordConfig
  defaults : DefaultsConfig
  emailVerification : Bool
  demo : Bool
  deriving DecidableEq

structure PlatformSettings where
  allowRegistration : Bool
  emailVerification : Bool
  passwordMinLength : Int
  passwordRequireUpper : Bool
  passwordRequireLower : Bool
  passwordRequireNum : Bool
  passwordRequireSpec : Bool
  lockoutMaxAttempts : Int
  lockoutDurationMins : Int
  timezone : String
  dateFormat : String
  timeFormat : String
  defaultInboxTTL : String
  maxInboxTTL : String
  maxAttachmentSizeMB : Int
  maxDomains : Int
  maxTeams : Int
  maxInboxesPerDomain : Int
  maxSessionsPerUser : Int
  demoEnabled : Bool
  demoConfigured : Bool
  deriving DecidableEq

/-! ## The request -/

def raise (low x : Int) : Int := if x < low then low else x

/-- Too small values of three fields are raised. -/
def PlatformSettings.clamped (input : PlatformSettings) : PlatformSettings :=
  { input with
    passwordMinLength := raise 6 input.passwordMinLength
    lockoutMaxAttempts := raise 1 input.lockoutMaxAttempts
    lockoutDurationMins := raise 1 input.lockoutDurationMins }

def PlatformSettings.check (input : PlatformSettings) : Except HttpError Unit :=
  if 128 < input.passwordMinLength then
    .error (badRequest "password_min_length must not exceed 128")
  else if 100 < input.lockoutMaxAttempts then
    .error (badRequest "lockout_max_attempts must not exceed 100")
  else if 1440 < input.lockoutDurationMins then
    .error (badRequest "lockout_duration_mins must not exceed 1440 (24 hours)")
  else if input.maxSessionsPerUser < 1 ∨ 100 < input.maxSessionsPerUser then
    .error (badRequest "max_sessions_per_user must be between 1 and 100")
  else if input.maxAttachmentSizeMB < 0 ∨ 100 < input.maxAttachmentSizeMB then
    .error (badRequest "max_attachment_size_mb must be between 0 and 100")
  else if input.maxDomains < 0 ∨ 10000 < input.maxDomains then
    .error (badRequest "max_domains must be between 0 and 10000")
  else if input.maxTeams < 0 ∨ 10000 < input.maxTeams then
    .error (badRequest "max_teams must be between 0 and 10000")
  else if input.maxInboxesPerDomain < 0 ∨ 100000 < input.maxInboxesPerDomain then
    .error (badRequest "max_inboxes_per_domain must be between 0 and 100000")
  else .ok ()

/-- The lifetime in a field; an empty text sets none. -/
def parseTTL (field text : String) : Except HttpError (Option Int) :=
  if text = "" then .ok none
  else
    match parseDuration text with
    | none => .error (badRequest (field ++ " must be between 0 and 365 days"))
    | some d =>
      if d < 0 ∨ 365 * 24 * hour < d then
        .error (badRequest (field ++ " must be between 0 and 365 days"))
      else .ok (some d)

/-- The update of the running configuration. -/
def Config.apply (c : Config) (input : PlatformSettings) (defaultTTL maxTTL : Option Int) :
    Config where
  lockout := ⟨input.lockoutMaxAttempts, input.lockoutDurationMins * minute⟩
  password := ⟨input.passwordMinLength, input.passwordRequireUpper, input.passwordRequireLower,
    input.passwordRequireNum, input.passwordRequireSpec⟩
  defaults :=
    { allowRegistration := input.allowRegistration
      defaultInboxTTL := defaultTTL.getD c.defaults.defaultInboxTTL
      maxInboxTTL := maxTTL.getD c.defaults.maxInboxTTL
      maxAttachmentSizeMB := input.maxAttachmentSizeMB
      maxDomains := input.maxDomains
      maxTeams := input.maxTeams
      maxInboxesPerDomain := input.maxInboxesPerDomain
      timezone := input.timezone
      dateFormat := input.dateFormat
      timeFormat := input.timeFormat
      maxSessionsPerUser := input.maxSessionsPerUser }
  emailVerification := input.emailVerification
  demo := input.demoEnabled

/-- The row `platform` of `system_configs`. -/
abbrev Stored := Option PlatformSettings

/-- Whether the row can be saved is up to the database. -/
def updatePlatformSettings (saved : Bool) (cfg : Config) (body : Option PlatformSettings) :
    Except HttpError (Stored × Config) :=
  match body with
  | none => .error (badRequest "invalid request body")
  | some input => do
    let input := input.clamped
    input.check
    let defaultTTL ← parseTTL "default_inbox_ttl" input.defaultInboxTTL
    let maxTTL ← parseTTL "max_inbox_ttl" input.maxInboxTTL
    if !saved then .error ⟨500, "failed to save"⟩
    else .ok (some input, cfg.apply input defaultTTL maxTTL)

/-! ## Loading -/

/-- A number that is not positive counts as missing. -/
def positiveOr (old new : Int) : Int := if 0 < new then new else old

def positiveDurationOr (old : Int) (text : String) : Int :=
  match parseDuration text with
  | some d => if 0 < d then d else old
  | none => old

def Config.loadFromDB (c : Config) : Stored → Config
  | none => c
  | some platform =>
    { lockout :=
        ⟨positiveOr c.lockout.maxAttempts platform.lockoutMaxAttempts,
          if 0 < platform.lockoutDurationMins then platform.lockoutDurationMins * minute
          else c.lockout.duration⟩
      password :=
        ⟨positiveOr c.password.minLength platform.passwordMinLength,
          platform.passwordRequireUpper, platform.passwordRequireLower,
          platform.passwordRequireNum, platform.passwordRequireSpec⟩
      defaults :=
        { allowRegistration := platform.allowRegistration
          defaultInboxTTL := positiveDurationOr c.defaults.defaultInboxTTL platform.defaultInboxTTL
          maxInboxTTL := positiveDurationOr c.defaults.maxInboxTTL platform.maxInboxTTL
          maxAttachmentSizeMB :=
            positiveOr c.defaults.maxAttachmentSizeMB platform.maxAttachmentSizeMB
          maxDomains := positiveOr c.defaults.maxDomains platform.maxDomains
          maxTeams := positiveOr c.defaults.maxTeams platform.maxTeams
          maxInboxesPerDomain :=
            positiveOr c.defaults.maxInboxesPerDomain platform.maxInboxesPerDomain
          timezone := platform.timezone
          dateFormat := platform.dateFormat
          timeFormat := platform.timeFormat
          maxSessionsPerUser :=
            positiveOr c.defaults.maxSessionsPerUser platform.maxSessionsPerUser }
      emailVerification := platform.emailVerification
      -- the row has a field for the demo that nobody loads
      demo := c.demo }

/-! ## Accepted requests -/

theorem le_raise (low x : Int) : low ≤ raise low x := by
  unfold raise
  split <;> omega

theorem raise_le_iff {low x bound : Int} (h : low ≤ bound) : raise low x ≤ bound ↔ x ≤ bound := by
  unfold raise
  split <;> omega

theorem parseTTL_eq_ok {field text : String} {ttl : Option Int}
    (h : parseTTL field text = .ok ttl) :
    text = "" ∧ ttl = none ∨ ∃ d, parseDuration text = some d ∧ 0 ≤ d ∧ ttl = some d := by
  unfold parseTTL at h
  split at h
  · exact .inl ⟨‹_›, (Except.ok.inj h).symm⟩
  split at h
  · cases h
  rename_i d hparse
  obtain ⟨hrange, hok⟩ := guard_eq_ok.mp h
  exact .inr ⟨d, hparse, by omega, (Except.ok.inj hok).symm⟩

/-- What the checks let pass. -/
structure PlatformSettings.InRange (input : PlatformSettings) : Prop where
  passwordMinLength : input.passwordMinLength ≤ 128
  maxSessionsPerUser : 1 ≤ input.maxSessionsPerUser
  maxAttachmentSizeMB : 0 ≤ input.maxAttachmentSizeMB
  maxDomains : 0 ≤ input.maxDomains
  maxTeams : 0 ≤ input.maxTeams
  maxInboxesPerDomain : 0 ≤ input.maxInboxesPerDomain

theorem PlatformSettings.inRange_of_check {input : PlatformSettings}
    (h : input.check = .ok ()) : input.InRange := by
  obtain ⟨hlength, h⟩ := guard_eq_ok.mp h
  obtain ⟨_, h⟩ := guard_eq_ok.mp h
  obtain ⟨_, h⟩ := guard_eq_ok.mp h
  obtain ⟨hsessions, h⟩ := guard_eq_ok.mp h
  obtain ⟨hattachments, h⟩ := guard_eq_ok.mp h
  obtain ⟨hdomains, h⟩ := guard_eq_ok.mp h
  obtain ⟨hteams, h⟩ := guard_eq_ok.mp h
  obtain ⟨hinboxes, _⟩ := guard_eq_ok.mp h
  exact ⟨by omega, by omega, by omega, by omega, by omega, by omega⟩

/-- A request that succeeds has stored its settings and put them in force. -/
theorem updatePlatformSettings_eq_ok {saved : Bool} {cfg cfg' : Config}
    {body : Option PlatformSettings} {stored : Stored}
    (h : updatePlatformSettings saved cfg body = .ok (stored, cfg')) :
    ∃ input defaultTTL maxTTL, body = some input ∧ input.clamped.InRange ∧
      parseTTL "default_inbox_ttl" input.defaultInboxTTL = .ok defaultTTL ∧
      parseTTL "max_inbox_ttl" input.maxInboxTTL = .ok maxTTL ∧
      stored = some input.clamped ∧ cfg' = cfg.apply input.clamped defaultTTL maxTTL := by
  cases body with
  | none => cases h
  | some input =>
    obtain ⟨⟨⟩, hcheck, h⟩ := bind_eq_ok.mp h
    simp only [bind_eq_ok, guard_eq_ok] at h
    obtain ⟨defaultTTL, hdefault, maxTTL, hmax, _, h⟩ := h
    cases h
    exact ⟨input, defaultTTL, maxTTL, rfl, PlatformSettings.inRange_of_check hcheck, hdefault,
      hmax, rfl, rfl⟩

end BurnerByte.Settings
