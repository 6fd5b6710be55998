import BurnerByte.Mailbox.Effects

/-!
# What requests on inboxes and domains write

Creating, extending and deleting inboxes, and the requests that remove inboxes with their
assignment, their team or their domain. Only the deletion of a domain looks its keys up
before the inboxes are gone.
-/

namespace BurnerByte.Mailbox

open Go Outcome Sql Trace

section

variable {m : Casing} {s : State} {t : Times}

/-! ## New domains and assignments -/

variable {op : Op} {a : Tenancy.Assignment} {b : UInt8} {d : Db.Deletion}

/-- Keys may be deleted at any point of an event. -/
theorem reaches_delAll {s₀ : State} (s : State) (addrs : List Bytes) :
    Reaches State.write (Allows m s₀ t op) s { s with redis := s.redis.delAll addrs } := by
  induction addrs generalizing s with
  | nil => exact .refl s
  | cons addr addrs ih =>
    have hdel : Reaches State.write (Allows m s₀ t op) s (s.write (.redisDel addr)) :=
      Reaches.single trivial
    exact hdel.trans (ih (s.write (.redisDel addr)))

variable {db : Db} {r : CreateRequest} {now : Int} {inbox : Inbox}

theorem write_addDomain {domain : Domain} (h : s.db.insertDomain domain = .ok db) :
    s.write (.admin (.addDomain domain)) = { s with db } := by
  simp [State.write, Db.admin, h, Except.toOption]

theorem write_addAssignment (h : s.db.insertAssignment a = .ok db) :
    s.write (.admin (.addAssignment a)) = { s with db } := by
  simp [State.write, Db.admin, h, Except.toOption]

theorem addDomain_writes (r : AddDomainRequest) :
    Writes m s t (.addDomain r) (addDomain m s r).2 := by
  unfold addDomain
  cases hname : r.name m with
  | error err => exact .refl s
  | ok name =>
    simp only
    split
    · exact .refl s
    split
    · exact .refl s
    cases hinsert : s.db.insertDomain (newDomain r.newID r.orgID name) with
    | error err => cases err <;> exact .refl s
    | ok db =>
      simp only [← write_addDomain hinsert]
      exact .single (.inl ⟨r, rfl, hname⟩)

theorem setupDomain_writes (id orgID : UUID) (domainName : Bytes) :
    Writes m s t (.setupDomain id orgID domainName) (setupDomain s id orgID domainName).2 := by
  unfold setupDomain
  split
  · exact .refl s
  cases hinsert : s.db.insertDomain (newDomain id orgID domainName) with
  | error err => exact .refl s
  | ok db =>
    simp only [← write_addDomain hinsert]
    exact .single (.inr ⟨id, orgID, rfl⟩)

theorem assignDomain_writes (r : AssignRequest) :
    Writes m s t (.assignDomain r) (assignDomain s r).2 := by
  unfold assignDomain
  iterate 5
    split
    · exact .refl s
  · exact .refl s
  rename_i db hinsert
  simp only [← write_addAssignment hinsert]
  exact .single trivial

theorem updateAssignment_writes (teamID domainID : UUID) (accessLevel : String) :
    Writes m s t (.updateAssignment teamID domainID accessLevel)
      (updateAssignment s teamID domainID accessLevel).2 := by
  unfold updateAssignment
  split
  · exact .refl s
  rename_i a _
  split
  · exact .refl s
  have hallows : Allows m s t (.updateAssignment teamID domainID accessLevel) s
      (.admin (.setAccessLevel a.id accessLevel)) := trivial
  exact .single hallows

/-! ## Inboxes -/

theorem CreateRequest.target_eq_ok {dom : Domain} (h : r.target db = .ok (a, dom)) :
    (a ∈ db.assignments ∧ a.domainID = r.domainID) ∧ dom ∈ db.domains ∧ dom.id = r.domainID := by
  unfold CreateRequest.target at h
  split at h
  · cases h
  rename_i a' hfound
  split at h
  · cases h
  split at h
  · cases h
  rename_i dom' hdom
  split at h
  · cases h
    obtain ⟨ha, hassigned⟩ := UniqueTable.findBy_eq_some_iff.mp hfound
    exact ⟨⟨ha, congrArg Prod.snd hassigned⟩, UniqueTable.find?_eq_some_iff.mp hdom⟩
  · cases h

theorem CreateRequest.inbox_eq_ok {ttl : Int} (h : r.inbox db now = .ok (inbox, ttl)) :
    (inbox.WellFormed db ∧ inbox.domainID = r.domainID) ∧
      (r.lifetime = .ok ttl ∧ inbox.expiresAt = timestamptz (now + ttl) ∧
        inbox.originalTTL = some ttl) ∧
      r.checkLimits db now = .ok () ∧ r.checkTeamLimit db now = .ok () := by
  obtain ⟨⟨a, dom⟩, htarget, h⟩ := bind_eq_ok.mp h
  simp only [bind_eq_ok] at h
  obtain ⟨_, hlimits, address, haddress, _, hteam, ttl', httl, h⟩ := h
  cases h
  obtain ⟨⟨ha, hassigned⟩, hdom, hdomID⟩ := CreateRequest.target_eq_ok htarget
  refine ⟨⟨⟨rfl, ?_, ⟨dom, hdom, hdomID, rfl⟩, ⟨a, ha, rfl, hassigned⟩⟩, rfl⟩, ⟨httl, rfl, rfl⟩,
    hlimits, hteam⟩
  intro b hb
  unfold CreateRequest.address at haddress
  split at haddress
  · cases haddress
    obtain ⟨i, _, rfl⟩ := List.mem_map.mp hb
    have hcharset : charset.all isAliasByte = true := by decide
    exact List.all_eq_true.mp hcharset _ (List.get_mem charset _)
  split at haddress
  · rename_i halias
    cases haddress
    simp only [aliasRe, Bool.and_eq_true] at halias
    exact List.all_eq_true.mp halias.2 b hb
  · cases haddress

theorem createInbox_writes (r : CreateRequest) :
    Writes m s t (.createInbox r) (createInbox s t r).2 := by
  unfold createInbox
  cases hnew : r.inbox s.db t.now with
  | error err => exact .refl s
  | ok new =>
    obtain ⟨inbox, ttl⟩ := new
    simp only
    cases hinsert : s.db.insertInbox inbox with
    | error err => cases err <;> exact .refl s
    | ok db =>
      obtain ⟨⟨hwell, -⟩, ⟨hlifetime, hexpires, -⟩, -⟩ := CreateRequest.inbox_eq_ok hnew
      -- A key that an earlier inbox of this address has left behind is overwritten.
      let s₁ := s.write (.redisDel inbox.fullAddress)
      let s₂ := s₁.write (.addInbox inbox)
      have hdb : s₂.db = db := by simp [s₁, s₂, State.write, hinsert, Except.toOption]
      have hinbox : inbox ∈ s₂.db.inboxes := by
        rw [hdb]
        exact ((Db.insertInbox_eq_ok hinsert).1 inbox).mpr (.inl rfl)
      have hadd : Allows m s t (.createInbox r) s₁ (.addInbox inbox) := ⟨hwell, if_pos rfl⟩
      have hset : Allows m s t (.createInbox r) s₂
          (.redisSet inbox.fullAddress inbox.id (redisDeadline t.set ttl)) := by
        refine ⟨inbox, hinbox, rfl, rfl, fun htime => ?_⟩
        rw [hexpires]
        exact htime ttl hlifetime
      have hstate : { s with
          db, redis := s.redis.set inbox.fullAddress inbox.id (redisDeadline t.set ttl) } =
          s₂.write (.redisSet inbox.fullAddress inbox.id (redisDeadline t.set ttl)) := by
        simp [s₁, s₂, State.write, hinsert, Except.toOption]
      have hdel : Writes m s t (.createInbox r) s₁ := Reaches.single trivial
      simp only [hstate]
      exact (hdel.snoc hadd).snoc hset

theorem ownInbox_eq_ok {id userID : UUID} (h : ownInbox db now id userID = .ok inbox) :
    ∃ row ∈ db.inboxes, row.id = id ∧ inbox = { row with isActive := row.live now } := by
  unfold ownInbox at h
  split at h
  · cases h
  rename_i found hfound
  split at h
  · cases h
  cases h
  exact Db.getByID_eq_some.mp hfound

theorem ExtendRequest.expiry_eq_ok {r : ExtendRequest} {newExpiry : Int}
    (h : r.expiry db now = .ok (inbox, newExpiry)) :
    ∃ row ∈ db.inboxes, row.id = r.id ∧ inbox.id = r.id ∧ inbox.fullAddress = row.fullAddress ∧
      ∃ ext, r.duration row = .ok ext ∧ newExpiry = now + ext ∧
        newExpiry ≤ row.createdAt + r.settings.resolveMaxInboxTTL := by
  obtain ⟨inbox', hown, h⟩ := bind_eq_ok.mp h
  obtain ⟨ext, hext, h⟩ := bind_eq_ok.mp h
  obtain ⟨row, hrow, hid, rfl⟩ := ownInbox_eq_ok hown
  split at h
  · cases h
  rename_i hmax
  cases h
  exact ⟨row, hrow, hid, hid, rfl, ext, hext, rfl, Int.not_lt.mp hmax⟩

theorem mem_extendTTL {row : Inbox} (newExpiry : Int) (hrow : row ∈ db.inboxes) :
    { row with expiresAt := timestamptz newExpiry } ∈ (db.extendTTL row.id newExpiry).inboxes :=
  List.mem_map.mpr ⟨row, hrow, by simp⟩

theorem extendTTL_writes (r : ExtendRequest) :
    Writes m s t (.extendTTL r) (extendTTL s t r).2 := by
  unfold extendTTL
  cases hnew : r.expiry s.db t.now with
  | error err => exact .refl s
  | ok new =>
    obtain ⟨inbox, newExpiry⟩ := new
    obtain ⟨row, hrow, hid, hinboxID, hfull, ext, hext, rfl, -⟩ := ExtendRequest.expiry_eq_ok hnew
    let deadline := redisDeadline t.set (t.now + ext - t.read)
    let s₁ := s.write (.redisDel row.fullAddress)
    let s₂ := s₁.write (.extendTTL r.id (t.now + ext))
    have hextend : Allows m s t (.extendTTL r) s₁ (.extendTTL r.id (t.now + ext)) := by
      refine ⟨⟨row, hrow, hid, if_pos rfl⟩, fun hmail email hemail hin => ?_⟩
      exact hmail row hrow hid ext hext email hemail hin
    have hset : Allows m s t (.extendTTL r) s₂ (.redisSet row.fullAddress r.id deadline) := by
      have hnewRow := mem_extendTTL (t.now + ext) hrow
      rw [hid] at hnewRow
      refine ⟨_, hnewRow, rfl, rfl, fun htime => ?_⟩
      exact htime row hrow hid ext hext
    have hstate : { s with
        db := s.db.extendTTL r.id (t.now + ext)
        redis := s.redis.set inbox.fullAddress inbox.id deadline } =
        s₂.write (.redisSet row.fullAddress r.id deadline) := by
      simp [s₁, s₂, State.write, hfull, hinboxID]
    have hdel : Writes m s t (.extendTTL r) s₁ := Reaches.single trivial
    simp only [hstate, deadline]
    exact (hdel.snoc hextend).snoc hset

/-- Without rows of attachments below the deleted rows no object is left behind. -/
theorem leavesObjects_of_keeps (h : ∀ a ∈ s.db.attachments, s.db.removesAttachment d a = false) :
    LeavesObjects s d := by
  intro a ha hremoved
  rw [h a ha] at hremoved
  cases hremoved

theorem deleteInbox_writes (id userID : UUID) :
    Writes m s t (.deleteInbox id userID) (deleteInbox s t id userID).2 := by
  unfold deleteInbox
  cases hown : ownInbox s.db t.now id userID with
  | error err => exact .refl s
  | ok inbox =>
    obtain ⟨row, hrow, hid, rfl⟩ := ownInbox_eq_ok hown
    let s₁ := s.write (.redisDel row.fullAddress)
    have hdelete : Allows m s t (.deleteInbox id userID) s₁
        (.delete { inboxes := fun row => row.id = id }) := by
      refine ⟨fun _ old hold hremoved _ => ?_, fun hkeeps => leavesObjects_of_keeps hkeeps⟩
      have holdID : old.id = id := by simpa [Db.removesInbox_inboxes] using hremoved
      have hsame : old = row := UniqueTable.eq_of_key_eq hold hrow (holdID.trans hid.symm)
      simp [s₁, State.write, Expiring.Store.get, Expiring.Store.del, hsame]
    have hdel : Writes m s t (.deleteInbox id userID) s₁ := Reaches.single trivial
    exact hdel.snoc hdelete

/-! ## Assignments, teams and domains -/

/-- An event that deletes rows first, without a look at the cache or the storage. -/
theorem delete_writes (hd : op.deletion s.db t = d)
    (htime : InTime m s t op → LeavesCached s t.set (op.deletion s.db t)) :
    Writes m s t op (s.write (.delete d)) := by
  subst hd
  refine .single ⟨htime, fun hkeeps => leavesObjects_of_keeps hkeeps⟩

theorem unassign_writes (teamID domainID : UUID) :
    Writes m s t (.unassign teamID domainID) (unassign s teamID domainID).2 := by
  unfold unassign
  cases hfound : s.db.getByTeamAndDomain teamID domainID with
  | none => exact .refl s
  | some a =>
    have hd : Op.deletion s.db t (.unassign teamID domainID) =
        { assignments := fun row => row.id = a.id } := by
      simp [Op.deletion, hfound]
    exact delete_writes hd id

theorem deleteTeam_writes (orgID id : UUID) :
    Writes m s t (.deleteTeam orgID id) (deleteTeam s orgID id).2 := by
  unfold deleteTeam
  split
  · exact .refl s
  · exact delete_writes rfl fun htime => htime

theorem transferTeam_writes (orgID teamID targetOrgID : UUID) :
    Writes m s t (.transferTeam orgID teamID targetOrgID)
      (transferTeam s orgID teamID targetOrgID).2 := by
  unfold transferTeam
  split
  · exact .refl s
  have hdelete : Writes m s t (.transferTeam orgID teamID targetOrgID)
      (s.write (.delete { assignments := fun a => a.teamID = teamID })) :=
    delete_writes rfl fun htime => htime
  have horg : Allows m s t (.transferTeam orgID teamID targetOrgID)
      (s.write (.delete { assignments := fun a => a.teamID = teamID }))
      (.admin (.setTeamOrg teamID targetOrgID)) := trivial
  exact hdelete.snoc horg

/-- The inboxes of a domain are those of its assignments. -/
theorem domainID_of_removesInbox (h : db.WellFormed) {domainID : UUID} (hinbox : inbox ∈ db.inboxes)
    (hremoved : db.removesInbox { domains := fun domain => domain.id = domainID } inbox = true) :
    inbox.domainID = domainID := by
  rw [Db.removesInbox_iff] at hremoved
  rcases hremoved with hnamed | ⟨a, ha, hassignment, haID⟩ | ⟨domain, _, hdomain, hid⟩
  · cases hnamed
  · obtain ⟨a', ha', haID', hdomainID⟩ := (h inbox hinbox).assignment
    have hsame : a' = a := UniqueTable.eq_of_key_eq ha' ha (haID'.trans haID.symm)
    rw [Db.removesAssignment_iff] at hassignment
    rcases hassignment with hnamed | ⟨_, _, hteam, _⟩ | ⟨domain, _, hdomain, hid⟩
    · cases hnamed
    · cases hteam
    · rw [← hdomainID, hsame, ← hid]
      exact of_decide_eq_true hdomain
  · rw [← hid]
    exact of_decide_eq_true hdomain

/-- The addresses that are looked up are those of the domain's active inboxes. -/
theorem mem_listActiveAddressesByDomain (h : db.WellFormed) (hinbox : inbox ∈ db.inboxes)
    (hlive : inbox.live now = true) :
    inbox.fullAddress ∈ db.listActiveAddressesByDomain now inbox.domainID := by
  obtain ⟨domain, hdomain, hid, hfull⟩ := (h inbox hinbox).fullAddress
  have hfind : db.domains.find? inbox.domainID = some domain :=
    UniqueTable.find?_eq_some_iff.mpr ⟨hdomain, hid⟩
  simp only [Db.listActiveAddressesByDomain, hfind]
  refine List.mem_map.mpr ⟨inbox, List.mem_filter.mpr ⟨hinbox, ?_⟩, hfull.symm⟩
  simp [hlive]

theorem Inbox.live_of_later {later : Int} (h : inbox.live later = true) (hle : now ≤ later) :
    inbox.live now = true := by
  simp only [Inbox.live, Bool.and_eq_true, decide_eq_true_eq] at h ⊢
  exact ⟨h.1, by omega⟩

theorem deleteDomain_writes (h : s.db.WellFormed) (hle : t.now ≤ t.set) (orgID id : UUID) :
    Writes m s t (.deleteDomain orgID id) (deleteDomain s t orgID id).2 := by
  unfold deleteDomain
  split
  · exact .refl s
  let s₁ : State := { s with redis := s.redis.delAll (s.db.listActiveAddressesByDomain t.now id) }
  have hdelete : Allows m s t (.deleteDomain orgID id) s₁
      (.delete { domains := fun domain => domain.id = id }) := by
    refine ⟨fun _ inbox hinbox hremoved hlive => ?_, fun hkeeps => leavesObjects_of_keeps hkeeps⟩
    have hdomain := domainID_of_removesInbox h hinbox hremoved
    have hlisted := mem_listActiveAddressesByDomain h hinbox (Inbox.live_of_later hlive hle)
    rw [hdomain] at hlisted
    rw [Option.eq_none_iff_forall_ne_some]
    intro v hget
    exact (Expiring.Store.get_delAll.mp hget).1 hlisted
  have hkeys : Writes m s t (.deleteDomain orgID id) s₁ := reaches_delAll s _
  exact hkeys.snoc hdelete

theorem transferDomain_writes (h : s.db.WellFormed) (orgID domainID targetOrgID : UUID) :
    Writes m s t (.transferDomain orgID domainID targetOrgID)
      (transferDomain s t orgID domainID targetOrgID).2 := by
  unfold transferDomain
  split
  · exact .refl s
  let d : Db.Deletion := { assignments := fun a => a.domainID = domainID }
  let s₁ := s.write (.delete d)
  let s₂ : State :=
    { s₁ with redis := s₁.redis.delAll (s₁.db.listActiveAddressesByDomain t.now domainID) }
  have hdelete : Writes m s t (.transferDomain orgID domainID targetOrgID) s₁ :=
    delete_writes rfl fun htime => htime
  -- The assignments of the domain have taken its inboxes with them.
  have hdeactivate : Allows m s t (.transferDomain orgID domainID targetOrgID) s₂
      (.deactivate domainID) := by
    intro inbox hinbox hdomainID
    obtain ⟨hold, hkept⟩ := Db.mem_delete_inboxes.mp hinbox
    obtain ⟨a, ha, haID, hassigned⟩ := (h inbox hold).assignment
    have hassignment : s.db.removesAssignment d a = true :=
      Db.removesAssignment_iff.mpr (.inl (decide_eq_true (hassigned.trans hdomainID)))
    have hremoved : s.db.removesInbox d inbox = true :=
      Db.removesInbox_iff.mpr (.inr (.inl ⟨a, ha, hassignment, haID⟩))
    rw [hremoved] at hkept
    cases hkept
  have hkeys : Writes m s t (.transferDomain orgID domainID targetOrgID) s₂ :=
    hdelete.trans (reaches_delAll s₁ _)
  have horg : Allows m s t (.transferDomain orgID domainID targetOrgID)
      (s₂.write (.deactivate domainID)) (.admin (.updateOrgID domainID targetOrgID)) := trivial
  exact (hkeys.snoc hdeactivate).snoc horg

end

end BurnerByte.Mailbox
