import BurnerByte.Mailbox.Requests

/-!
# What the requests write

Every event is a run of writes. `Allows` says what each write meets in the state that it
finds; from it the invariants of all runs are derived without a second look at the
requests. Deleting a key commutes with writes to the database, so a request that deletes
or overwrites the key of an inbox is seen as one that deletes the key first.

Three conditions on events are named here. The invariants that need them are proved in
the modules that use them.
-/

namespace BurnerByte.Mailbox

open Go Trace

/-! ## Well-formed inboxes -/

/-- What creation establishes for an inbox and nothing undoes as long as it exists. -/
structure Inbox.WellFormed (db : Db) (inbox : Inbox) : Prop where
  isActive : inbox.isActive = true
  address : ∀ b ∈ inbox.address, isAliasByte b = true
  fullAddress : ∃ domain ∈ db.domains, domain.id = inbox.domainID ∧
    inbox.fullAddress = inbox.address ++ lit "@" ++ domain.domainName
  assignment : ∃ a ∈ db.assignments, a.id = inbox.domainAssignmentID ∧ a.domainID = inbox.domainID

def Db.WellFormed (db : Db) : Prop := ∀ inbox ∈ db.inboxes, inbox.WellFormed db

section

variable {db db' : Db}

theorem Inbox.WellFormed.of_kept {inbox : Inbox} (h : inbox.WellFormed db) (hkept : db.Kept db') :
    inbox.WellFormed db' := by
  obtain ⟨domain, hdomain, hdomainID, hfull⟩ := h.fullAddress
  obtain ⟨a, ha, haID, hassigned⟩ := h.assignment
  obtain ⟨domain', hdomain', hid, hname⟩ := hkept.domains domain hdomain
  obtain ⟨a', ha', haID', hassigned'⟩ := hkept.assignments a ha
  refine ⟨h.isActive, h.address, ⟨domain', hdomain', hid.trans hdomainID, ?_⟩, ?_⟩
  · rw [hname]
    exact hfull
  · exact ⟨a', ha', haID'.trans haID, hassigned'.trans hassigned⟩

section

variable (h : db.WellFormed)

include h

theorem Db.WellFormed.of_kept (hkept : db.Kept db') : db'.WellFormed := by
  intro inbox hinbox
  rw [hkept.inboxes] at hinbox
  exact (h inbox hinbox).of_kept hkept

/-- Writes to mail leave the tables alone that inboxes depend on. -/
theorem Db.WellFormed.of_eq (hdomains : db'.domains = db.domains)
    (hassignments : db'.assignments = db.assignments) (hinboxes : db'.inboxes = db.inboxes) :
    db'.WellFormed := by
  intro inbox hinbox
  rw [hinboxes] at hinbox
  obtain ⟨hactive, haddress, hfull, hassignment⟩ := h inbox hinbox
  rw [← hdomains] at hfull
  rw [← hassignments] at hassignment
  exact ⟨hactive, haddress, hfull, hassignment⟩

/-- A surviving inbox has kept its domain and its assignment. -/
theorem Db.WellFormed.delete (d : Db.Deletion) : (db.delete d).WellFormed := by
  intro inbox hinbox
  obtain ⟨hold, hkept⟩ := Db.mem_delete_inboxes.mp hinbox
  obtain ⟨hactive, haddress, ⟨domain, hdomain, hdomainID, hfull⟩, ⟨a, ha, haID, hassigned⟩⟩ :=
    h inbox hold
  have hnot : ¬ db.removesInbox d inbox = true := by simp [hkept]
  rw [Db.removesInbox_iff, not_or, not_or] at hnot
  refine ⟨hactive, haddress, ⟨domain, ?_, hdomainID, hfull⟩, ⟨a, ?_, haID, hassigned⟩⟩
  · rw [Db.mem_delete_domains]
    refine ⟨hdomain, ?_⟩
    by_contra hdeleted
    exact hnot.2.2 ⟨domain, hdomain, by simpa using hdeleted, hdomainID⟩
  · rw [Db.mem_delete_assignments]
    refine ⟨ha, ?_⟩
    by_contra hdeleted
    exact hnot.2.1 ⟨a, ha, by simpa using hdeleted, haID⟩

theorem Db.WellFormed.insertInbox {inbox : Inbox} (hnew : inbox.WellFormed db)
    (hinsert : db.insertInbox inbox = .ok db') : db'.WellFormed := by
  obtain ⟨hmem, hdomains, hassignments, _⟩ := Db.insertInbox_eq_ok hinsert
  intro x hx
  have hx' : x.WellFormed db := by
    cases (hmem x).mp hx with
    | inl heq =>
      rw [heq]
      exact hnew
    | inr hold => exact h x hold
  obtain ⟨hactive, haddress, hfull, hassignment⟩ := hx'
  rw [← hdomains] at hfull
  rw [← hassignments] at hassignment
  exact ⟨hactive, haddress, hfull, hassignment⟩

/-- An update that deactivates no inbox. -/
theorem Db.WellFormed.updateInboxes {p : Inbox → Bool} {isActive : Inbox → Bool}
    {expiresAt : Inbox → Int} {createdBy : Inbox → Option UUID}
    (hactive : ∀ inbox ∈ db.inboxes, p inbox = true → isActive inbox = true) :
    (db.updateInboxes p isActive expiresAt createdBy).WellFormed := by
  intro inbox hinbox
  obtain ⟨old, hold, rfl⟩ := List.mem_map.mp hinbox
  have hwell := h old hold
  by_cases hp : p old = true
  · rw [if_pos hp]
    exact ⟨hactive old hold hp, hwell.address, hwell.fullAddress, hwell.assignment⟩
  · rw [if_neg hp]
    exact ⟨hwell.isActive, hwell.address, hwell.fullAddress, hwell.assignment⟩

end

end

/-! ## Conditions on events -/

/-- A key is dropped no later than at a time. -/
def Before (deadline : Option Int) (stop : Int) : Prop := ∃ d, deadline = some d ∧ d ≤ stop

/-- The rows that an event deletes without a lookup of what hangs below them. -/
def Op.deletion (db : Db) (t : Times) : Op → Db.Deletion
  | .deleteInbox id _ => { inboxes := fun inbox => inbox.id = id }
  | .unassign teamID domainID =>
    { assignments := fun a => (db.getByTeamAndDomain teamID domainID).any fun row => a.id = row.id }
  | .deleteTeam _ id => { teams := fun team => team.id = id }
  | .transferTeam _ teamID _ => { assignments := fun a => a.teamID = teamID }
  | .deleteDomain _ id => { domains := fun domain => domain.id = id }
  | .transferDomain _ domainID _ => { assignments := fun a => a.domainID = domainID }
  | .deleteOrg orgID =>
    { teams := fun team => team.orgID = orgID, domains := fun domain => domain.orgID = orgID }
  | .cleanupJob =>
    { emails := fun email => email.expiresAt < t.now
      inboxes := expired t.read }
  | _ => {}

section

variable (m : Casing) (s : State) (t : Times)

/-- A deletion removes no inbox that mail is still accepted for from the cache. -/
def LeavesCached (now : Int) (d : Db.Deletion) : Prop :=
  ∀ inbox ∈ s.db.inboxes, s.db.removesInbox d inbox = true → inbox.live now = true →
    s.redis.get now inbox.fullAddress = none

/-- An inbox that is not cached would be cached until its expiry at most. -/
def RecachedInTime (inbox : Inbox) : Prop :=
  inbox.live t.now = true → t.read < inbox.expiresAt →
    s.redis.get t.read inbox.fullAddress = none →
    Before (redisDeadline t.set (inbox.expiresAt - t.read)) inbox.expiresAt

/-- Keys are set to live no longer than their inboxes, and an event that does not look at
the cache removes no inbox that is in it. -/
def InTime : Op → Prop
  | .createInbox r => ∀ ttl, r.lifetime = .ok ttl →
    Before (redisDeadline t.set ttl) (timestamptz (t.now + ttl))
  | .extendTTL r => ∀ inbox ∈ s.db.inboxes, inbox.id = r.id → ∀ ext, r.duration inbox = .ok ext →
    Before (redisDeadline t.set (t.now + ext - t.read)) (timestamptz (t.now + ext))
  | .process r => ∀ inbox ∈ s.db.inboxes, inbox.fullAddress = normalize m r.email.toAddr →
    RecachedInTime s t inbox
  | .reconcilerJob times =>
    ∀ inbox ∈ s.db.inboxes, RecachedInTime s { times inbox.id with now := t.now } inbox
  | .unassign teamID domainID =>
    LeavesCached s t.set (Op.deletion s.db t (.unassign teamID domainID))
  | .deleteTeam orgID id => LeavesCached s t.set (Op.deletion s.db t (.deleteTeam orgID id))
  | .transferTeam orgID teamID target =>
    LeavesCached s t.set (Op.deletion s.db t (.transferTeam orgID teamID target))
  | .transferDomain orgID domainID target =>
    LeavesCached s t.set (Op.deletion s.db t (.transferDomain orgID domainID target))
  | .deleteOrg orgID => LeavesCached s t.set (Op.deletion s.db t (.deleteOrg orgID))
  | _ => True

/-- An extension does not move the expiry of an inbox past that of mail it holds. -/
def WithinMail : Op → Prop
  | .extendTTL r => ∀ inbox ∈ s.db.inboxes, inbox.id = r.id → ∀ ext, r.duration inbox = .ok ext →
    ∀ email ∈ s.db.emails, email.inboxID = r.id → timestamptz (t.now + ext) ≤ email.expiresAt
  | _ => True

/-- No row of an attachment goes with the rows that an event deletes. -/
def KeepsAttachments (op : Op) : Prop :=
  ∀ a ∈ s.db.attachments, s.db.removesAttachment (op.deletion s.db t) a = false

/-! ## Writes -/

/-- A deletion removes no attachment whose object is stored. -/
def LeavesObjects (d : Db.Deletion) : Prop :=
  ∀ a ∈ s.db.attachments, s.db.removesAttachment d a = true →
    ∀ object ∈ s.objects, object.key ≠ a.storageKey

/-- The name of a new domain. -/
def StoresName (name : Bytes) (op : Op) : Prop :=
  (∃ r, op = .addDomain r ∧ r.name m = .ok name) ∨ ∃ id orgID, op = .setupDomain id orgID name

/-- What a write of an event that happens in `s₀` meets in the state that it finds. -/
def Allows (s₀ : State) (t : Times) (op : Op) (s : State) : Write → Prop
  | .admin (.addDomain domain) => StoresName m domain.domainName op
  | .delete d =>
    (InTime m s₀ t op → LeavesCached s t.set d) ∧ (KeepsAttachments s₀ t op → LeavesObjects s d)
  | .addInbox inbox => inbox.WellFormed s.db ∧ s.redis inbox.fullAddress = none
  | .extendTTL id newExpiry =>
    (∃ inbox ∈ s.db.inboxes, inbox.id = id ∧ s.redis inbox.fullAddress = none) ∧
      (WithinMail s₀ t op → ∀ email ∈ s.db.emails, email.inboxID = id →
        timestamptz newExpiry ≤ email.expiresAt)
  | .deactivate domainID => ∀ inbox ∈ s.db.inboxes, inbox.domainID ≠ domainID
  | .addEmail email =>
    ∃ inbox ∈ s.db.inboxes, inbox.id = email.inboxID ∧ email.expiresAt = inbox.expiresAt
  | .redisSet addr id deadline => ∃ inbox ∈ s.db.inboxes, inbox.fullAddress = addr ∧ inbox.id = id ∧
    (InTime m s₀ t op → Before deadline inbox.expiresAt)
  | .putObject object => ∃ a ∈ s.db.attachments, a.storageKey = object.key
  | _ => True

end

theorem Allows.wellFormed {m : Casing} {s₀ s : State} {t : Times} {op : Op} {w : Write}
    (hw : Allows m s₀ t op s w) (h : s.db.WellFormed) : (s.write w).db.WellFormed := by
  cases w with
  | admin w => exact h.of_kept (Db.kept_admin s.db w)
  | delete d => exact h.delete d
  | addInbox inbox =>
    exact Outcome.getD_of_ok h fun db' hinsert => h.insertInbox hw.1 hinsert
  | deactivate domainID =>
    refine h.updateInboxes fun inbox hinbox hp => ?_
    have hdomain : inbox.domainID = domainID := by
      simp only [Bool.and_eq_true, decide_eq_true_eq] at hp
      exact hp.1
    exact absurd hdomain (hw inbox hinbox)
  | addEmail email =>
    obtain ⟨hdomains, hassignments, hinboxes, _⟩ := s.write_addEmail_frame email
    exact h.of_eq hdomains hassignments hinboxes
  | setHasAttachments id has => exact h.of_eq rfl rfl rfl
  | addAttachment a =>
    obtain ⟨hdomains, hassignments, hinboxes, _⟩ := s.write_addAttachment_frame a
    exact h.of_eq hdomains hassignments hinboxes
  | redisSet addr id deadline | redisDel addr | flush | putObject object | removeObject key =>
    exact h
  | _ => exact h.updateInboxes fun inbox hinbox _ => (h inbox hinbox).isActive

/-! ## Requests as runs of writes -/

section

variable {m : Casing} {s : State} {t : Times}

/-- What an event does is a run of writes that it is allowed. -/
def Writes (m : Casing) (s : State) (t : Times) (op : Op) (s' : State) : Prop :=
  Reaches State.write (Allows m s t op) s s'

theorem writes_of_allows {op : Op} (w : Write) (hw : Allows m s t op s w) :
    Writes m s t op (s.write w) := Reaches.single hw

end

end BurnerByte.Mailbox
