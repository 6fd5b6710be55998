import BurnerByte.Mailbox.InboxEffects
import BurnerByte.Settings.Organization

/-!
# The lifetimes of inboxes

The longest lifetime is compared with a lifetime that a user asks for and with an extension, but
not with the default. An extension is a duration of either sign, counted from the time of the
request. What the listing of domains shows as the default is resolved with the system defaults of
the start of the process, and neither the listing nor a renewal looks at the team.
-/

namespace BurnerByte.Mailbox

open Go Sql
open Trace (run)

/-! ## New inboxes -/

/-- The settings that an organisation stores, as requests read them. -/
def OrgSettings.read (org : Policies.OrgSettings) : OrgSettings where
  attachmentsEnabled := org.attachmentsEnabled
  maxAttachmentSizeMB := org.maxAttachmentSizeMB
  maxInboxesPerDomain := org.maxInboxesPerDomain
  defaultInboxTTL := org.defaultInboxTTL.bind parseDuration
  maxInboxTTL := org.maxInboxTTL.bind parseDuration
  renewalPolicy := org.renewalPolicy
  renewalTTL := org.renewalTTL.bind parseDuration

section

variable {s : State} {t : Times}

theorem createInbox_eq_ok {r : CreateRequest} {inbox : Inbox}
    (h : (createInbox s t r).1 = .ok inbox) : ∃ ttl, r.inbox s.db t.now = .ok (inbox, ttl) := by
  unfold createInbox at h
  split at h
  · cases h
  rename_i inbox' ttl hinbox
  refine ⟨ttl, ?_⟩
  split at h <;> cases h
  exact hinbox

/-- A lifetime that was asked for is within the bounds. -/
theorem CreateRequest.lifetime_bounds {r : CreateRequest} {ttl : Int} (h : r.lifetime = .ok ttl)
    (httl : r.input.ttl ≠ none) : 0 < ttl ∧ ttl ≤ r.settings.resolveMaxInboxTTL := by
  unfold CreateRequest.lifetime at h
  split at h
  · rename_i hnone
    exact absurd hnone httl
  · cases h
  split at h
  · cases h
  split at h
  · cases h
  cases h
  omega

/-- An inbox gets a positive lifetime up to the maximum exactly if the request brings one or the
default is such a lifetime. -/
theorem lifetime_bounded_iff {r : CreateRequest} {inbox : Inbox}
    (h : (createInbox s t r).1 = .ok inbox) :
    (∃ ttl, inbox.originalTTL = some ttl ∧ inbox.expiresAt = timestamptz (t.now + ttl) ∧ 0 < ttl ∧
        ttl ≤ r.settings.resolveMaxInboxTTL) ↔
      (r.input.ttl = none → 0 < r.settings.resolveDefaultInboxTTLWithTeam ∧
        r.settings.resolveDefaultInboxTTLWithTeam ≤ r.settings.resolveMaxInboxTTL) := by
  obtain ⟨ttl, hinbox⟩ := createInbox_eq_ok h
  obtain ⟨-, ⟨hlifetime, hexpires, horiginal⟩, -⟩ := CreateRequest.inbox_eq_ok hinbox
  have hdefault : r.input.ttl = none → r.settings.resolveDefaultInboxTTLWithTeam = ttl := by
    intro hnone
    rw [CreateRequest.lifetime, hnone] at hlifetime
    exact Except.ok.inj hlifetime
  constructor
  · rintro ⟨ttl', httl', -, hbounds⟩ hnone
    cases horiginal.symm.trans httl'
    rwa [hdefault hnone]
  · intro hbounds
    refine ⟨ttl, horiginal, hexpires, ?_⟩
    by_cases hnone : r.input.ttl = none
    · rw [← hdefault hnone]
      exact hbounds hnone
    · exact CreateRequest.lifetime_bounds hlifetime hnone

/-- The small run before there are inboxes. -/
def assignedState : State := run (step .ascii) .empty ((sampleRun (lit "ex.am")).take 4)

theorem asked_lifetime_bounded :
    ∃ inbox ttl, (createInbox assignedState ⟨0, 0, 0⟩
        { sampleRequest with input := ⟨none, some (some hour)⟩ }).1 = .ok inbox ∧
      inbox.originalTTL = some ttl ∧ 0 < ttl ∧ ttl ≤ 24 * hour := by
  have hok : (createInbox assignedState ⟨0, 0, 0⟩
      { sampleRequest with input := ⟨none, some (some hour)⟩ }).1.toOption.isSome = true := by
    decide +kernel
  obtain ⟨inbox, hinbox⟩ := Outcome.exists_ok hok
  obtain ⟨ttl, horiginal, -, hbounds⟩ := (lifetime_bounded_iff hinbox).mpr (fun h => by cases h)
  exact ⟨inbox, ttl, hinbox, horiginal, hbounds⟩

/-- An organisation that sets its default to two days, with a maximum of one. -/
def longDefault : Policies.OrgSettings := { defaultInboxTTL := some "48h" }

/-- The default is taken though it exceeds the maximum. -/
theorem default_exceeds_maximum :
    let settings := { sampleSettings with org := .read longDefault }
    Policies.OrgSettings.update {} longDefault = .ok longDefault ∧
      (createInbox assignedState ⟨0, 0, 0⟩
        { sampleRequest with settings }).1.toOption.bind (·.originalTTL) = some (48 * hour) ∧
      settings.resolveMaxInboxTTL = 24 * hour :=
  ⟨rfl, by decide +kernel⟩

/-! ## Extensions -/

/-- What an extension is to leave of an inbox, and of the key of its address. -/
structure Extended (row row' : Inbox) (t : Times) (maxTTL : Int)
    (redis : Expiring.Store Bytes UUID) : Prop where
  later : row.expiresAt ≤ row'.expiresAt
  future : t.set < row'.expiresAt
  within : row'.expiresAt ≤ row.createdAt + maxTTL
  cached : ∀ entry, redis row.fullAddress = some entry → ∃ d ∈ entry.deadline, d ≤ row'.expiresAt
  inactive : row.live t.now = false → redis row.fullAddress = none

/-- A key that is set expires up to a time exactly if it lives for a millisecond or more and its
whole milliseconds end by then, provided that the time is no later than the lifetime asks for. -/
theorem redisDeadline_le_iff {read set expiry stored : Int} (hread : read ≤ set)
    (hstored : stored ≤ expiry) :
    (∃ d ∈ redisDeadline set (expiry - read), d ≤ stored) ↔
      millisecond ≤ expiry - read ∧
        set + (expiry - read) / millisecond * millisecond ≤ stored := by
  unfold redisDeadline
  split
  · simp only [Option.mem_def, reduceCtorEq, false_and, exists_const, false_iff]
    unfold millisecond
    omega
  · split <;> simp only [Option.mem_some_iff, exists_eq_left'] <;> unfold millisecond at * <;> omega

theorem timestamptz_le (time : Int) : timestamptz time ≤ time := by
  unfold timestamptz
  omega

/-- An extension does what it is to do exactly if the inbox is active, the new expiry is not before
the old one, and the key of the address lives for whole milliseconds that end by the expiry. -/
theorem extended_iff {r : ExtendRequest} {inbox row row' : Inbox} {ext : Int}
    (h : (extendTTL s t r).1 = .ok inbox) (hrow : row ∈ s.db.inboxes) (hid : row.id = r.id)
    (hrow' : row' ∈ (extendTTL s t r).2.db.inboxes) (hid' : row'.id = r.id)
    (hext : r.duration row = .ok ext) (hread : t.read ≤ t.set) :
    Extended row row' t r.settings.resolveMaxInboxTTL (extendTTL s t r).2.redis ↔
      row.live t.now = true ∧ row.expiresAt ≤ timestamptz (t.now + ext) ∧
        millisecond ≤ t.now + ext - t.read ∧
        t.set + (t.now + ext - t.read) / millisecond * millisecond ≤ timestamptz (t.now + ext) := by
  unfold extendTTL at h hrow' ⊢
  cases hnew : r.expiry s.db t.now with
  | error err =>
    rw [hnew] at h
    cases h
  | ok new =>
    obtain ⟨found, newExpiry⟩ := new
    obtain ⟨old, hold, holdID, hfoundID, hfull, ext', hext', rfl, hmax⟩ :=
      ExtendRequest.expiry_eq_ok hnew
    obtain rfl := UniqueTable.eq_of_key_eq hrow hold (hid.trans holdID.symm)
    cases hext.symm.trans hext'
    simp only [hnew] at hrow' ⊢
    have hmem := mem_extendTTL (t.now + ext) hrow
    rw [hid] at hmem
    obtain rfl := UniqueTable.eq_of_key_eq hrow' hmem hid'
    have hentry := Expiring.Store.set_self s.redis row.fullAddress found.id
      (redisDeadline t.set (t.now + ext - t.read))
    rw [hfull]
    have hdeadline := redisDeadline_le_iff hread (timestamptz_le (t.now + ext))
    constructor
    · intro hextended
      refine ⟨?_, hextended.later, hdeadline.mp (hextended.cached _ hentry)⟩
      by_contra hlive
      cases hentry.symm.trans (hextended.inactive (Bool.eq_false_iff.mpr hlive))
    · rintro ⟨hlive, hlater, hms, hset⟩
      have hpos : 0 < (t.now + ext - t.read) / millisecond * millisecond := by
        unfold millisecond at hms ⊢
        omega
      refine ⟨hlater, ?_, Int.le_trans (timestamptz_le _) hmax, fun entry hfound => ?_, ?_⟩
      · exact Int.lt_of_lt_of_le (Int.lt_add_of_pos_right _ hpos) hset
      · cases hentry.symm.trans hfound
        exact hdeadline.mpr ⟨hms, hset⟩
      · intro hdead
        cases hlive.symm.trans hdead

/-- The inbox of the small run. -/
def sampleInbox : Inbox :=
  ⟨4, 3, 1, some 7, lit "joe", lit "joe@ex.am", true, hour, 0, some hour⟩

def oneMinuteIn : Times := ⟨minute, minute, minute⟩

def extension (ext : Int) : ExtendRequest := ⟨4, 7, some (some ext), sampleSettings⟩

theorem extended_by_two_hours :
    Extended sampleInbox { sampleInbox with expiresAt := minute + 2 * hour } oneMinuteIn (24 * hour)
      (extendTTL sampleState oneMinuteIn (extension (2 * hour))).2.redis := by
  have hok : (extendTTL sampleState oneMinuteIn (extension (2 * hour))).1.toOption.isSome := by
    decide +kernel
  obtain ⟨inbox, hinbox⟩ := Outcome.exists_ok hok
  have hrow : sampleInbox ∈ sampleState.db.inboxes := by decide +kernel
  exact (extended_iff hinbox hrow rfl (by decide +kernel) rfl rfl (Int.le_refl _)).mpr
    (by decide +kernel)

/-- An extension by a negative duration is accepted. It ends the inbox, and the key of its address
stays for good. -/
theorem extension_ends_inbox :
    let after := extendTTL sampleState oneMinuteIn (extension (-hour))
    after.1.toOption.isSome = true ∧
      after.2.db.inboxes.rows.map (·.expiresAt) = [minute - hour] ∧
      (after.2.redis (lit "joe@ex.am")).map (·.deadline) = some none := by
  decide +kernel

end

/-! ## The default -/

/-- The lifetimes that the listing of domains shows. The service keeps the system defaults that it
was created with. -/
def listedTTLs (startup : DefaultsConfig) (c : Settings) : Int × Int :=
  let c := { c with defaults := startup }
  (c.resolveDefaultInboxTTL, c.resolveMaxInboxTTL)

/-- The cascade of the documentation: team, domain, organisation, platform. -/
def Settings.cascade (c : Settings) : Int :=
  ([c.team.bind (·.defaultInboxTTL), c.domain.defaultInboxTTL, c.org.defaultInboxTTL].findSome?
    id).getD c.defaults.defaultInboxTTL

theorem cascade_eq (c : Settings) : c.cascade = c.resolveDefaultInboxTTLWithTeam := by
  unfold Settings.cascade Settings.resolveDefaultInboxTTLWithTeam Settings.resolveDefaultInboxTTL
  cases c.team.bind (·.defaultInboxTTL) <;> cases c.domain.defaultInboxTTL <;>
    cases c.org.defaultInboxTTL <;> rfl

/-- The listing resolves the default as a renewal does if a level sets it, or if the system default
is the one of the start. -/
theorem listed_eq_iff (startup : DefaultsConfig) (c : Settings) :
    (listedTTLs startup c).1 = c.resolveDefaultInboxTTL ↔
      c.domain.defaultInboxTTL.isSome ∨ c.org.defaultInboxTTL.isSome ∨
        startup.defaultInboxTTL = c.defaults.defaultInboxTTL := by
  simp only [listedTTLs, Settings.resolveDefaultInboxTTL]
  cases c.domain.defaultInboxTTL <;> cases c.org.defaultInboxTTL <;> simp

/-- The settings, with renewals by the default. -/
def Settings.renewingByDefault (c : Settings) : Settings :=
  { c with org := { c.org with renewalPolicy := some "default" } }

/-- The listing, a new inbox and a renewal by the default follow the cascade exactly if the team
sets no other default than the levels below it, and one of these sets it or the system default is
still the one of the start. -/
theorem defaults_agree_iff (startup : DefaultsConfig) {create : CreateRequest}
    {renew : ExtendRequest} (inbox : Inbox)
    (hsettings : renew.settings = create.settings.renewingByDefault)
    (httl : create.input.ttl = none) (hext : renew.extension = none) :
    let c := create.settings
    ((listedTTLs startup c).1 = c.cascade ∧ create.lifetime = .ok c.cascade ∧
        renew.duration inbox = .ok c.cascade) ↔
      (∀ ttl, c.team.bind (·.defaultInboxTTL) = some ttl → ttl = c.resolveDefaultInboxTTL) ∧
        (c.domain.defaultInboxTTL.isSome ∨ c.org.defaultInboxTTL.isSome ∨
          startup.defaultInboxTTL = c.defaults.defaultInboxTTL) := by
  intro c
  have hcreate : create.lifetime = .ok c.cascade := by
    rw [CreateRequest.lifetime, httl, cascade_eq]
  have hrenew : renew.duration inbox = .ok c.resolveDefaultInboxTTL := by
    rw [ExtendRequest.duration, hext, hsettings]
    rfl
  have hteam : c.resolveDefaultInboxTTL = c.cascade ↔
      ∀ ttl, c.team.bind (·.defaultInboxTTL) = some ttl → ttl = c.resolveDefaultInboxTTL := by
    rw [cascade_eq, Settings.resolveDefaultInboxTTLWithTeam]
    cases c.team.bind (·.defaultInboxTTL) <;> simp [eq_comm]
  rw [← hteam, ← listed_eq_iff startup c, hrenew, Except.ok.injEq]
  constructor
  · rintro ⟨hlisted, -, hlower⟩
    exact ⟨hlower, hlisted.trans hlower.symm⟩
  · rintro ⟨hlower, hlisted⟩
    exact ⟨hlisted.trans hlower, hcreate, hlower⟩

/-- The small settings with a default that the organisation sets. -/
def orgDefault : Settings :=
  { sampleSettings with org := { sampleSettings.org with defaultInboxTTL := some (2 * hour) } }

theorem organisation_default_agrees :
    (listedTTLs ⟨true, 10, 5, 600, 24 * hour⟩ orgDefault).1 = 2 * hour ∧
      { sampleRequest with settings := orgDefault }.lifetime = .ok (2 * hour) ∧
      (⟨4, 7, none, orgDefault.renewingByDefault⟩ : ExtendRequest).duration sampleInbox =
        .ok (2 * hour) :=
  (@defaults_agree_iff _ { sampleRequest with settings := orgDefault } _ sampleInbox rfl rfl
    rfl).mpr (by decide +kernel)

/-- A team sets a default of three hours: new inboxes follow it, the listing does not, and a renewal
by the default would not. -/
theorem team_default_ignored :
    let c := { orgDefault with team := some ⟨some (3 * hour), none⟩ }
    c.org.renewalPolicy = none ∧ c.cascade = 3 * hour ∧
      { sampleRequest with settings := c }.lifetime = .ok (3 * hour) ∧
      (listedTTLs c.defaults c).1 = 2 * hour ∧
      (⟨4, 7, none, c.renewingByDefault⟩ : ExtendRequest).duration sampleInbox =
        .ok (2 * hour) := by
  decide +kernel

end BurnerByte.Mailbox
