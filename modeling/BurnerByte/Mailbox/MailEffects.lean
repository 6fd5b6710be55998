import BurnerByte.Mailbox.InboxEffects

/-!
# What jobs and mail write

The jobs, the storing of messages and their removal, and with them all events of the
machine. Seen from the end of an event, an object is stored after the row that names it
and removed before it.
-/

namespace BurnerByte.Mailbox

open Go Sql Trace

section

variable {m : Casing} {s : State} {t : Times}

/-! ## Reconciling and receiving -/

variable {s₀ : State} {op : Op} {db : Db} {a : Attachment}

/-- The loop sets keys only, and has not yet touched those of the inboxes that are left. -/
theorem reconcile_reaches {times : UUID → Times} {inboxes : List Inbox}
    {redis : Expiring.Store Bytes UUID}
    (hmem : ∀ inbox ∈ inboxes, inbox ∈ s.db.inboxes ∧ inbox.live t.now = true)
    (hkeys : ∀ inbox ∈ inboxes, redis inbox.fullAddress = s.redis inbox.fullAddress)
    (hdistinct : (inboxes.map Inbox.fullAddress).Nodup) :
    Reaches State.write (Allows m s t (.reconcilerJob times)) { s with redis }
      { s with redis := inboxes.foldl (fun redis inbox =>
        reconcileEntry (times inbox.id) id (fun _ => false) redis inbox) redis } := by
  induction inboxes generalizing redis with
  | nil => exact .refl _
  | cons inbox inboxes ih =>
    rw [List.map_cons, List.nodup_cons] at hdistinct
    have hrest := fun x hx => hmem x (List.mem_cons_of_mem inbox hx)
    have hkeys' := fun x hx => hkeys x (List.mem_cons_of_mem inbox hx)
    rw [List.foldl_cons, reconcileEntry]
    split
    · exact ih hrest hkeys' hdistinct.2
    rename_i hexpires
    split
    · rename_i hempty
      obtain ⟨hinbox, hlive⟩ := hmem inbox List.mem_cons_self
      have hnone : s.redis.get (times inbox.id).read inbox.fullAddress = none := by
        simpa [Expiring.Store.get, hkeys inbox List.mem_cons_self] using hempty
      have hallows : Allows m s t (.reconcilerJob times) { s with redis }
          (.redisSet inbox.fullAddress inbox.id (redisDeadline (times inbox.id).set
            (inbox.expiresAt - (times inbox.id).read))) := by
        refine ⟨inbox, hinbox, rfl, rfl, fun htime => ?_⟩
        exact htime inbox hinbox hlive (by dsimp only; omega) hnone
      refine (Reaches.single hallows).trans (ih hrest (fun x hx => ?_) hdistinct.2)
      have hne : x.fullAddress ≠ inbox.fullAddress := by
        intro heq
        exact hdistinct.1 (List.mem_map.mpr ⟨x, hx, heq⟩)
      exact (Expiring.Store.set_of_ne _ _ _ hne).trans (hkeys' x hx)
    · exact ih hrest hkeys' hdistinct.2

theorem lookupInbox_reaches (r : ReceiveRequest) (hle : t.now ≤ t.read) :
    Writes m s t (.process r) (lookupInbox s t (normalize m r.email.toAddr)).2 := by
  unfold lookupInbox
  split
  · split <;> exact .refl s
  rename_i huncached
  split
  · exact .refl s
  rename_i inbox hfound
  simp only
  split
  · obtain ⟨hinbox, hfull, hlive⟩ := Db.getByFullAddress_eq_some.mp hfound
    have hnone : s.redis.get t.read inbox.fullAddress = none := by
      rw [Option.eq_none_iff_forall_ne_some]
      intro v hget
      rw [hfull] at hget
      rw [Expiring.Store.get_of_later hget hle] at huncached
      cases huncached
    have hset : Allows m s t (.process r) s (.redisSet (normalize m r.email.toAddr) inbox.id
        (redisDeadline t.set (inbox.expiresAt - t.read))) := by
      refine ⟨inbox, hinbox, hfull, rfl, fun htime => ?_⟩
      exact htime inbox hinbox hfull hlive (by omega) hnone
    exact .single hset
  · exact .refl s

/-- The inbox that is found, as far as a message depends on it. -/
theorem lookupInbox_eq_ok {addr : Bytes} {inbox : Inbox}
    (h : (lookupInbox s t addr).1 = .ok inbox) :
    ∃ row ∈ s.db.inboxes, row.id = inbox.id ∧ row.expiresAt = inbox.expiresAt := by
  unfold lookupInbox at h
  split at h
  · split at h
    · cases h
    rename_i found hfound
    cases h
    obtain ⟨row, hrow, _, rfl⟩ := Db.getByID_eq_some.mp hfound
    exact ⟨row, hrow, rfl, rfl⟩
  split at h
  · cases h
  rename_i found hfound
  obtain ⟨hrow, _⟩ := Db.getByFullAddress_eq_some.mp hfound
  have hfoundInbox : found = inbox := by
    simp only at h
    split at h <;> exact Except.ok.inj h
  rw [← hfoundInbox]
  exact ⟨found, hrow, rfl, rfl⟩

/-- Seen from its end, the row of an attachment exists before its object is stored. -/
theorem storeAttachment_reaches (maxSizeMB : Int) (emailID : UUID) (att : InboundAttachment) :
    Reaches State.write (Allows m s₀ t op) s (storeAttachment maxSizeMB s emailID att).2 := by
  unfold storeAttachment
  split
  · exact .refl s
  split
  · exact .refl s
  simp only
  split
  · have hstate : (s.write (.putObject ⟨att.storageKey emailID, att.data⟩)).write
        (.removeObject (att.storageKey emailID)) =
        s.write (.removeObject (att.storageKey emailID)) := by
      simp [State.write, List.filter_filter]
    have hremove : Allows m s₀ t op s (.removeObject (att.storageKey emailID)) := trivial
    rw [hstate]
    exact .single hremove
  · rename_i db hcreate
    have hinsert : s.db.insertAttachment (att.row emailID) = .ok db := by
      unfold InboundAttachment.create at hcreate
      split at hcreate
      · cases hcreate
      · exact hcreate
    let s₁ := s.write (.addAttachment (att.row emailID))
    have hdb : s₁.db = db := by simp [s₁, State.write, hinsert, Except.toOption]
    have hput : Allows m s₀ t op s₁ (.putObject ⟨att.storageKey emailID, att.data⟩) := by
      refine ⟨att.row emailID, ?_, rfl⟩
      rw [hdb]
      exact ((Db.insertAttachment_eq_ok hinsert).1 _).mpr (.inl rfl)
    have hstate : { s.write (.putObject ⟨att.storageKey emailID, att.data⟩) with db } =
        s₁.write (.putObject ⟨att.storageKey emailID, att.data⟩) := by
      rw [← hdb]
      rfl
    have hadd : Reaches State.write (Allows m s₀ t op) s s₁ := Reaches.single trivial
    rw [hstate]
    exact hadd.snoc hput

theorem storeAttachments_reaches (r : ReceiveRequest) :
    Reaches State.write (Allows m s₀ t op) s (r.storeAttachments m s) := by
  have hloop (maxSizeMB maxSize : Int) (atts : List InboundAttachment) (acc : State × Nat) :
      Reaches State.write (Allows m s₀ t op) acc.1
        (atts.foldl (processAttachment m maxSizeMB maxSize r.email.newID) acc).1 := by
    induction atts generalizing acc with
    | nil => exact .refl acc.1
    | cons att atts ih =>
      refine .trans ?_ (ih _)
      unfold processAttachment
      split
      · exact .refl acc.1
      have hstore : Reaches State.write (Allows m s₀ t op) acc.1
          (storeAttachment maxSizeMB acc.1 r.email.newID att).2 :=
        storeAttachment_reaches maxSizeMB r.email.newID att
      split
      · rename_i hresult
        rw [hresult] at hstore
        exact hstore
      rename_i hresult
      rw [hresult] at hstore
      exact hstore
  unfold ReceiveRequest.storeAttachments
  split
  · have hstored := hloop (r.attachmentStorer.getD 0) r.settings.resolveMaxAttachmentSize
      r.email.attachments (s, 0)
    simp only
    split
    · exact hstored.trans (.single trivial)
    · exact hstored
  · exact .refl s

theorem process_writes (r : ReceiveRequest) (hle : t.now ≤ t.read) :
    Writes m s t (.process r) (process m s t r).2 := by
  have hlookup := lookupInbox_reaches (m := m) (s := s) r hle
  have hdb := lookupInbox_db s t (normalize m r.email.toAddr)
  have hfound : ∀ inbox, (lookupInbox s t (normalize m r.email.toAddr)).1 = .ok inbox →
      ∃ row ∈ s.db.inboxes, row.id = inbox.id ∧ row.expiresAt = inbox.expiresAt :=
    fun inbox => lookupInbox_eq_ok
  simp only [process]
  generalize lookupInbox s t (normalize m r.email.toAddr) = found at hlookup hdb hfound ⊢
  obtain ⟨result, s₁⟩ := found
  cases result with
  | error err => exact hlookup
  | ok inbox =>
    simp only
    split
    · exact hlookup
    split
    · exact hlookup
    rename_i db hcreate
    have hadd : Allows m s t (.process r) s₁ (.addEmail (r.row inbox)) := by
      obtain ⟨row, hrow, hid, hexpires⟩ := hfound inbox rfl
      rw [← hdb] at hrow
      exact ⟨row, hrow, hid, hexpires.symm⟩
    have hstate : { s₁ with db } = s₁.write (.addEmail (r.row inbox)) := by
      simp [State.write, InboundEmail.create_eq_ok hcreate, Except.toOption]
    rw [hstate]
    exact (hlookup.snoc hadd).trans (storeAttachments_reaches r)

/-! ## Removing mail -/

theorem removeObjects_delete (keys : List StorageKey) (s : State) (d : Db.Deletion) :
    keys.foldl (fun s key => s.write (.removeObject key)) (s.write (.delete d)) =
      (keys.foldl (fun s key => s.write (.removeObject key)) s).write (.delete d) := by
  induction keys generalizing s with
  | nil => rfl
  | cons key keys ih => exact ih (s.write (.removeObject key))

theorem removeObjects_spec (keys : List StorageKey) (s : State) :
    (keys.foldl (fun s key => s.write (.removeObject key)) s).db = s.db ∧
      ∀ object ∈ (keys.foldl (fun s key => s.write (.removeObject key)) s).objects,
        object ∈ s.objects ∧ object.key ∉ keys := by
  induction keys generalizing s with
  | nil => exact ⟨rfl, fun object hobject => ⟨hobject, List.not_mem_nil⟩⟩
  | cons key keys ih =>
    obtain ⟨hdb, hobjects⟩ := ih (s.write (.removeObject key))
    refine ⟨hdb, fun object hobject => ?_⟩
    obtain ⟨hold, hnot⟩ := hobjects object hobject
    obtain ⟨hmem, hne⟩ := List.mem_filter.mp hold
    refine ⟨hmem, ?_⟩
    rw [List.mem_cons, not_or]
    exact ⟨of_decide_eq_true hne, hnot⟩

/-- Seen from its end, the objects are removed before the rows that name them. -/
theorem deleteByEmail_reaches (emailID : UUID) :
    Reaches State.write (Allows m s₀ t op) s (deleteByEmail s emailID) := by
  unfold deleteByEmail
  generalize hkeys : (s.db.attachments.rows.filter fun a => a.emailID = emailID).map
    Attachment.storageKey = keys
  obtain ⟨hdb, hobjects⟩ := removeObjects_spec keys s
  have hremove : ∀ (keys : List StorageKey) (s : State),
      Reaches State.write (Allows m s₀ t op) s
        (keys.foldl (fun s key => s.write (.removeObject key)) s) := by
    intro keys s
    refine (Reaches.foldl (fun _ => True) trivial fun s _ key _ => ⟨?_, trivial⟩).1
    have hallows : Allows m s₀ t op s (.removeObject key) := trivial
    exact .single hallows
  rw [removeObjects_delete]
  refine (hremove keys s).snoc
    ⟨fun _ inbox _ hremoved => ?_, fun _ a ha hremoved object hobject => ?_⟩
  · simp [Db.removesInbox_inboxes] at hremoved
  · rw [hdb] at ha
    have hkey : a.storageKey ∈ keys := by
      rw [← hkeys]
      refine List.mem_map.mpr ⟨a, List.mem_filter.mpr ⟨ha, ?_⟩, rfl⟩
      simpa [Db.removesAttachment_iff, Db.removesEmail_iff, Db.removesInbox_inboxes] using hremoved
    intro heq
    rw [← heq] at hkey
    exact (hobjects object hobject).2 hkey

theorem deleteByEmail_db (s : State) (emailID : UUID) :
    (deleteByEmail s emailID).db = s.db.delete { attachments := fun a => a.emailID = emailID } :=
  (removeObjects_spec _ (s.write (.delete { attachments := fun a => a.emailID = emailID }))).1

/-- The attachments of the message are gone before its row is. -/
theorem not_removes_after_deleteByEmail {emailID : UUID}
    (ha : a ∈ (deleteByEmail s emailID).db.attachments) :
    ¬ (deleteByEmail s emailID).db.removesAttachment { emails := fun e => e.id = emailID } a =
      true := by
  intro hremoved
  have hemail : a.emailID = emailID := by
    simp only [Db.removesAttachment_iff, Db.removesEmail_iff, Db.removesInbox_inboxes,
      decide_eq_true_eq, Bool.false_eq_true, false_and, and_false, exists_false, or_false,
      false_or] at hremoved
    obtain ⟨email, _, hid, hin⟩ := hremoved
    exact hin.symm.trans hid
  rw [deleteByEmail_db, Db.mem_delete_attachments] at ha
  have hgone : s.db.removesAttachment { attachments := fun a => a.emailID = emailID } a = true :=
    Db.removesAttachment_iff.mpr (.inl (decide_eq_true hemail))
  rw [hgone] at ha
  cases ha.2

theorem deleteEmail_writes (emailID userID : UUID) :
    Writes m s t (.deleteEmail emailID userID) (deleteEmail s t emailID userID).2 := by
  unfold deleteEmail
  iterate 3
    split
    · exact .refl s
  have hattachments : Writes m s t (.deleteEmail emailID userID) (deleteByEmail s emailID) :=
    deleteByEmail_reaches emailID
  have hdelete : Allows m s t (.deleteEmail emailID userID) (deleteByEmail s emailID)
      (.delete { emails := fun e => e.id = emailID }) := by
    refine ⟨fun _ inbox _ hremoved => ?_, fun _ a ha hremoved => ?_⟩
    · simp [Db.removesInbox_inboxes] at hremoved
    · exact absurd hremoved (not_removes_after_deleteByEmail ha)
  exact hattachments.snoc hdelete

/-- The rows of one database are among those of another. -/
structure Db.Within (db db₀ : Db) : Prop where
  inboxes : ∀ inbox ∈ db.inboxes, inbox ∈ db₀.inboxes
  emails : ∀ email ∈ db.emails, email ∈ db₀.emails
  attachments : ∀ a ∈ db.attachments, a ∈ db₀.attachments

theorem Db.Within.delete {db₀ : Db} (h : db.Within db₀) (d : Db.Deletion) :
    (db.delete d).Within db₀ where
  inboxes inbox hinbox := h.inboxes inbox (Db.mem_delete_inboxes.mp hinbox).1
  emails email hemail := h.emails email (Db.mem_delete_emails.mp hemail).1
  attachments a ha := h.attachments a (Db.mem_delete_attachments.mp ha).1

theorem Db.Within.refl (db : Db) : db.Within db :=
  ⟨fun _ h => h, fun _ h => h, fun _ h => h⟩

/-- What goes with deleted inboxes in a database goes with them in a larger one. -/
theorem removesAttachment_of_within {db₀ : Db} (h : db.Within db₀) {p : Inbox → Bool}
    {d : Db.Deletion} (hd : ∀ inbox, p inbox = true → d.inboxes inbox = true)
    (hremoved : db.removesAttachment { inboxes := p } a = true) :
    db₀.removesAttachment d a = true := by
  simp only [Db.removesAttachment_iff, Db.removesEmail_iff, Bool.false_eq_true, false_or]
    at hremoved
  obtain ⟨email, hemail, ⟨inbox, hinbox, hgone, hid⟩, hin⟩ := hremoved
  rw [Db.removesInbox_inboxes] at hgone
  have hinboxGone : db₀.removesInbox d inbox = true :=
    Db.removesInbox_iff.mpr (.inl (hd inbox hgone))
  have hemailGone : db₀.removesEmail d email = true :=
    Db.removesEmail_iff.mpr (.inr ⟨inbox, h.inboxes inbox hinbox, hinboxGone, hid⟩)
  exact Db.removesAttachment_iff.mpr (.inr ⟨email, h.emails email hemail, hemailGone, hin⟩)

theorem cleanupJob_writes (hle : t.read ≤ t.set) :
    Writes m s t .cleanupJob (cleanupJob s t) := by
  let s₁ := s.write (.delete { emails := fun email => email.expiresAt < t.now })
  let s₂ := ((expiredEmails s t.now).map Email.id).foldl deleteByEmail s₁
  have hemails : Allows m s t .cleanupJob s
      (.delete { emails := fun email => email.expiresAt < t.now }) := by
    refine ⟨fun _ inbox _ hremoved => ?_, fun hkeeps => leavesObjects_of_keeps fun a ha => ?_⟩
    · simp [Db.removesInbox_inboxes] at hremoved
    · by_contra hremoved
      rw [Bool.not_eq_false] at hremoved
      simp only [Db.removesAttachment_iff, Db.removesEmail_iff, Db.removesInbox_inboxes,
        decide_eq_true_eq, Bool.false_eq_true, false_and, and_false, exists_false, or_false,
        false_or] at hremoved
      obtain ⟨email, hemail, hexpired, hin⟩ := hremoved
      have hemailGone : s.db.removesEmail (Op.deletion s.db t .cleanupJob) email = true :=
        Db.removesEmail_iff.mpr (.inl (decide_eq_true hexpired))
      have hgone := Db.removesAttachment_iff.mpr (.inr ⟨email, hemail, hemailGone, hin⟩)
      rw [hkeeps a ha] at hgone
      cases hgone
  have hloop : Reaches State.write (Allows m s t .cleanupJob) s₁ s₂ ∧ s₂.db.Within s.db := by
    have hfirst : s₁.db.Within s.db := (Db.Within.refl s.db).delete _
    refine Reaches.foldl (fun s' => s'.db.Within s.db) hfirst
      fun s' hwithin id _ => ⟨deleteByEmail_reaches id, ?_⟩
    rw [deleteByEmail_db]
    exact hwithin.delete _
  have hinboxes : Allows m s t .cleanupJob s₂
      (.delete { inboxes := fun inbox => inbox.expiresAt < t.read }) := by
    refine ⟨fun _ inbox _ hremoved hlive => ?_, fun hkeeps => leavesObjects_of_keeps fun a ha => ?_⟩
    · rw [Db.removesInbox_inboxes] at hremoved
      have hexpired : inbox.expiresAt < t.read := of_decide_eq_true hremoved
      simp only [Inbox.live, Bool.and_eq_true, decide_eq_true_eq] at hlive
      omega
    · by_contra hremoved
      rw [Bool.not_eq_false] at hremoved
      have hgone := removesAttachment_of_within (d := Op.deletion s.db t .cleanupJob) hloop.2
        (fun _ hexpired => hexpired) hremoved
      rw [hkeeps a (hloop.2.attachments a ha)] at hgone
      cases hgone
  exact ((Reaches.single hemails).trans hloop.1).snoc hinboxes

/-- What the job takes of the inboxes. -/
theorem mem_inboxes_cleanupJob {inbox : Inbox} : inbox ∈ (cleanupJob s t).db.inboxes ↔
    inbox ∈ s.db.inboxes ∧ expired t.read inbox = false := by
  have hloop (ids : List UUID) (s : State) :
      inbox ∈ (ids.foldl deleteByEmail s).db.inboxes ↔ inbox ∈ s.db.inboxes := by
    induction ids generalizing s with
    | nil => rfl
    | cons id ids ih => simp [ih, deleteByEmail_db, Db.removesInbox_inboxes]
  simp [cleanupJob, State.write, hloop, Db.removesInbox_inboxes]

/-! ## All events -/

/-- Every event is a run of writes that it is allowed. -/
theorem handle_writes (h : s.db.WellFormed) (hnow : t.now ≤ t.read) (hread : t.read ≤ t.set)
    (op : Op) : Writes m s t op (handle m s t op) := by
  cases op with
  | addDomain r => exact addDomain_writes r
  | setupDomain id orgID domainName => exact setupDomain_writes id orgID domainName
  | createTeam team => exact writes_of_allows (.admin (.addTeam team)) trivial
  | assignDomain r => exact assignDomain_writes r
  | updateAssignment teamID domainID accessLevel =>
    exact updateAssignment_writes teamID domainID accessLevel
  | updateDNSStatus domainID mx txt =>
    exact writes_of_allows (.admin (.updateDNSStatus domainID mx txt)) trivial
  | createInbox r => exact createInbox_writes r
  | extendTTL r => exact extendTTL_writes r
  | deleteInbox id userID => exact deleteInbox_writes id userID
  | unassign teamID domainID => exact unassign_writes teamID domainID
  | deleteTeam orgID id => exact deleteTeam_writes orgID id
  | transferTeam orgID teamID targetOrgID => exact transferTeam_writes orgID teamID targetOrgID
  | deleteDomain orgID id => exact deleteDomain_writes h (Int.le_trans hnow hread) orgID id
  | transferDomain orgID domainID targetOrgID =>
    exact transferDomain_writes h orgID domainID targetOrgID
  | deleteOrg orgID => exact delete_writes rfl fun htime => htime
  | deleteUser userID => exact writes_of_allows (.clearCreator userID) trivial
  | process r => exact process_writes r hnow
  | deleteEmail emailID userID => exact deleteEmail_writes emailID userID
  | cleanupJob => exact cleanupJob_writes hread
  | reconcilerJob times =>
    refine reconcile_reaches ?_ (fun _ _ => rfl) ?_
    · intro inbox hinbox
      exact List.mem_filter.mp hinbox
    · exact s.db.inboxes.distinct.sublist (List.filter_sublist.map _)
  | flush => exact writes_of_allows .flush trivial

/-- Inboxes stay well formed, and with them whatever each write keeps. -/
theorem run_keeps {P : State → Prop} {guard : State → Event → Prop} {es : List Event}
    (h : Guarded (step m) (fun s e => InOrder s e ∧ guard s e) .empty es) (hempty : P .empty)
    (hclock : ∀ s clock, P s → P { s with clock })
    (hwrite : ∀ s₀ e s w, guard s₀ e → Allows m s₀ e.times e.op s w → P s → P (s.write w)) :
    P (run (step m) .empty es) := by
  let Inv (s : State) : Prop := s.db.WellFormed ∧ P s
  have hstart : Inv .empty := ⟨fun inbox h => absurd h (UniqueTable.not_mem_empty inbox), hempty⟩
  have hstep (s : State) (e : Event) (hs : Inv s) (he : InOrder s e ∧ guard s e) :
      Inv (step m s e) := by
    obtain ⟨⟨_, hnow, hread⟩, hguard⟩ := he
    have hkept (s' : State) (w : Write) (hs' : Inv s') (hw : Allows m s e.times e.op s' w) :
        Inv (s'.write w) := ⟨hw.wellFormed hs'.1, hwrite s e s' w hguard hw hs'.2⟩
    have hdone := (handle_writes hs.1 hnow hread e.op).invariant hs hkept
    exact ⟨hdone.1, hclock _ _ hdone.2⟩
  exact (h.invariant hstart hstep).2

end

end BurnerByte.Mailbox
