import BurnerByte.Settings.Platform

/-!
# Settings after a restart

The settings that a request puts in force should be those that the next start of the process finds.
They are, unless the request sets a limit or a lifetime to zero, which the loading takes for a value
that is missing, leaves a lifetime as it is, which the next start takes from the file, or changes
whether the demo is enabled, which is not loaded at all.
-/

namespace BurnerByte.Settings

open Go

/-- The lifetime that a text leaves in force is the one that is loaded later: an empty text keeps
the running one, which is then that of the file, and zero is what the file says too. -/
def TTLSurvives (text : String) (running file : Int) : Prop :=
  (text = "" → running = file) ∧ (parseDuration text = some 0 → file = 0)
  deriving Decidable

/-- What the running settings and the file must have in common for the request. -/
structure Survives (file running : Config) (input : PlatformSettings) : Prop where
  demo : input.demoEnabled = file.demo
  defaultInboxTTL : TTLSurvives input.defaultInboxTTL running.defaults.defaultInboxTTL
    file.defaults.defaultInboxTTL
  maxInboxTTL : TTLSurvives input.maxInboxTTL running.defaults.maxInboxTTL
    file.defaults.maxInboxTTL
  maxAttachmentSizeMB : input.maxAttachmentSizeMB = 0 → file.defaults.maxAttachmentSizeMB = 0
  maxDomains : input.maxDomains = 0 → file.defaults.maxDomains = 0
  maxTeams : input.maxTeams = 0 → file.defaults.maxTeams = 0
  maxInboxesPerDomain : input.maxInboxesPerDomain = 0 → file.defaults.maxInboxesPerDomain = 0

theorem positiveOr_of_pos {old new : Int} (h : 0 < new) : positiveOr old new = new := if_pos h

theorem eq_positiveOr_iff {old new : Int} (h : 0 ≤ new) :
    new = positiveOr old new ↔ (new = 0 → old = 0) := by
  unfold positiveOr
  split <;> omega

theorem parseTTL_eq_loaded_iff {field text : String} {ttl : Option Int} {running file : Int}
    (h : parseTTL field text = .ok ttl) :
    ttl.getD running = positiveDurationOr file text ↔ TTLSurvives text running file := by
  unfold positiveDurationOr TTLSurvives
  obtain ⟨rfl, rfl⟩ | ⟨d, hparse, hnonneg, rfl⟩ := parseTTL_eq_ok h
  · simp [parseDuration_empty]
  have hne : text ≠ "" := by
    rintro rfl
    cases hparse
  simp only [hparse, hne, Option.getD_some, Option.some.injEq, false_implies, true_and]
  split <;> omega

/-- The settings in force after a request are those of a restart exactly if they survive it. -/
theorem running_eq_restarted_iff {saved : Bool} {running running' : Config}
    {input : PlatformSettings} {stored : Stored} (file : Config)
    (h : updatePlatformSettings saved running (some input) = .ok (stored, running')) :
    running' = file.loadFromDB stored ↔ Survives file running input := by
  obtain ⟨_, defaultTTL, maxTTL, hbody, hrange, hdefault, hmax, rfl, rfl⟩ :=
    updatePlatformSettings_eq_ok h
  cases hbody
  have hlength : 0 < input.clamped.passwordMinLength :=
    Int.lt_of_lt_of_le (by decide) (le_raise 6 input.passwordMinLength)
  have hattempts : 0 < input.clamped.lockoutMaxAttempts :=
    Int.lt_of_lt_of_le (by decide) (le_raise 1 input.lockoutMaxAttempts)
  have hduration : 0 < input.clamped.lockoutDurationMins :=
    Int.lt_of_lt_of_le (by decide) (le_raise 1 input.lockoutDurationMins)
  have hsessions : 0 < input.clamped.maxSessionsPerUser :=
    Int.lt_of_lt_of_le (by decide) hrange.maxSessionsPerUser
  simp only [Config.apply, Config.loadFromDB, Config.mk.injEq, DefaultsConfig.mk.injEq,
    positiveOr_of_pos hlength, positiveOr_of_pos hattempts, positiveOr_of_pos hsessions,
    if_pos hduration, true_and, and_true, eq_positiveOr_iff hrange.maxAttachmentSizeMB,
    eq_positiveOr_iff hrange.maxDomains, eq_positiveOr_iff hrange.maxTeams,
    eq_positiveOr_iff hrange.maxInboxesPerDomain]
  have hdefaultIff := @parseTTL_eq_loaded_iff _ _ _ running.defaults.defaultInboxTTL
    file.defaults.defaultInboxTTL hdefault
  have hmaxIff := @parseTTL_eq_loaded_iff _ _ _ running.defaults.maxInboxTTL
    file.defaults.maxInboxTTL hmax
  constructor
  · rintro ⟨⟨hdefaultTTL, hmaxTTL, hattachments, hdomains, hteams, hinboxes⟩, hdemo⟩
    exact ⟨hdemo, hdefaultIff.mp hdefaultTTL, hmaxIff.mp hmaxTTL, hattachments, hdomains, hteams,
      hinboxes⟩
  · intro h
    exact ⟨⟨hdefaultIff.mpr h.defaultInboxTTL, hmaxIff.mpr h.maxInboxTTL, h.maxAttachmentSizeMB,
      h.maxDomains, h.maxTeams, h.maxInboxesPerDomain⟩, h.demo⟩

/-- The settings of `config.example.yaml`. -/
def fileConfig : Config where
  lockout := ⟨5, 15 * minute⟩
  password := ⟨8, true, true, true, true⟩
  defaults := ⟨true, 10 * minute, 24 * hour, 25, 10, 50, 100, "UTC", "YYYY-MM-DD", "24h", 5⟩
  emailVerification := true
  demo := false

/-- What the administration page sends if nothing has been changed. -/
def unchangedSettings : PlatformSettings where
  allowRegistration := true
  emailVerification := true
  passwordMinLength := 8
  passwordRequireUpper := true
  passwordRequireLower := true
  passwordRequireNum := true
  passwordRequireSpec := true
  lockoutMaxAttempts := 5
  lockoutDurationMins := 15
  timezone := "UTC"
  dateFormat := "YYYY-MM-DD"
  timeFormat := "24h"
  defaultInboxTTL := "10m0s"
  maxInboxTTL := "24h0m0s"
  maxAttachmentSizeMB := 25
  maxDomains := 10
  maxTeams := 50
  maxInboxesPerDomain := 100
  maxSessionsPerUser := 5
  demoEnabled := false
  demoConfigured := false

/-- A new limit survives the restart. -/
theorem new_limit_survives :
    ∃ stored running', updatePlatformSettings true fileConfig
        (some { unchangedSettings with maxDomains := 20 }) = .ok (stored, running') ∧
      running'.defaults.maxDomains = 20 ∧ running' = fileConfig.loadFromDB stored := by
  have hupdate : updatePlatformSettings true fileConfig
      (some { unchangedSettings with maxDomains := 20 }) =
      .ok (some { unchangedSettings with maxDomains := 20 },
        { fileConfig with defaults := { fileConfig.defaults with maxDomains := 20 } }) := by
    decide +kernel
  refine ⟨_, _, hupdate, rfl, (running_eq_restarted_iff fileConfig hupdate).mpr ?_⟩
  constructor <;> decide +kernel

/-- A limit of zero, a lifetime of zero and an enabled demo are gone after the restart. -/
theorem settings_lost_by_restart :
    (∃ stored running', updatePlatformSettings true fileConfig
        (some { unchangedSettings with maxDomains := 0 }) = .ok (stored, running') ∧
      running'.defaults.maxDomains = 0 ∧ running' ≠ fileConfig.loadFromDB stored) ∧
    (∃ stored running', updatePlatformSettings true fileConfig
        (some { unchangedSettings with maxInboxTTL := "0s" }) = .ok (stored, running') ∧
      running'.defaults.maxInboxTTL = 0 ∧ running' ≠ fileConfig.loadFromDB stored) ∧
    ∃ stored running', updatePlatformSettings true fileConfig
        (some { unchangedSettings with demoEnabled := true }) = .ok (stored, running') ∧
      running'.demo = true ∧ running' ≠ fileConfig.loadFromDB stored := by
  refine ⟨⟨some { unchangedSettings with maxDomains := 0 },
      fileConfig.apply { unchangedSettings with maxDomains := 0 } (some (10 * minute))
        (some (24 * hour)), ?_⟩,
    ⟨some { unchangedSettings with maxInboxTTL := "0s" },
      fileConfig.apply unchangedSettings (some (10 * minute)) (some 0), ?_⟩,
    ⟨some { unchangedSettings with demoEnabled := true },
      fileConfig.apply { unchangedSettings with demoEnabled := true } (some (10 * minute))
        (some (24 * hour)), ?_⟩⟩
  all_goals decide +kernel

end BurnerByte.Settings
