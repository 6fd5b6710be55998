import BurnerByte.Mailbox.MailEffects

/-!
# How long mail and attachments are kept

A message takes its expiry from its inbox when it arrives. Extending the inbox leaves the
messages it holds alone, so the cleanup job may delete them while the inbox lives on.

The key of an object stands only in the row of its attachment. Deleting a message looks the
keys up first. Every other deletion lets the rows go with a cascade, and the objects stay.
-/

namespace BurnerByte.Mailbox

open Go Outcome Sql Trace

/-! ## Mail and its inbox -/

/-- Messages do not expire before their inbox. -/
def Db.Outlives (db : Db) : Prop :=
  ∀ email ∈ db.emails, ∀ inbox ∈ db.inboxes, inbox.id = email.inboxID →
    inbox.expiresAt ≤ email.expiresAt

variable {db db' : Db}

theorem Db.Outlives.of_eq (h : db.Outlives) (hemails : db'.emails = db.emails)
    (hinboxes : db'.inboxes = db.inboxes) : db'.Outlives := by
  unfold Db.Outlives
  rw [hemails, hinboxes]
  exact h

/-- A new inbox has no messages yet. -/
theorem Db.Outlives.insertInbox {new : Inbox} (h : db.Outlives)
    (hinsert : db.insertInbox new = .ok db') : db'.Outlives := by
  obtain ⟨hmem, _, _, hemails, _⟩ := Db.insertInbox_eq_ok hinsert
  intro email hemail inbox hinbox hid
  rw [hemails] at hemail
  -- The inbox of a stored message was there before, so the new one is not it.
  obtain ⟨old, hold, holdID⟩ := db.email_inbox email hemail
  have hsame : inbox = old :=
    UniqueTable.eq_of_key_eq hinbox ((hmem old).mpr (.inr hold)) (hid.trans holdID.symm)
  rw [hsame]
  exact h email hemail old hold holdID

theorem Db.Outlives.insertEmail {new : Email} (h : db.Outlives)
    (hnew : ∃ inbox ∈ db.inboxes, inbox.id = new.inboxID ∧ new.expiresAt = inbox.expiresAt)
    (hinsert : db.insertEmail new = .ok db') : db'.Outlives := by
  obtain ⟨hmem, _, _, hinboxes, _⟩ := Db.insertEmail_eq_ok hinsert
  intro email hemail inbox hinbox hid
  rw [hinboxes] at hinbox
  cases (hmem email).mp hemail with
  | inl heq =>
    obtain ⟨inbox', hinbox', hid', hexpires⟩ := hnew
    rw [heq] at hid ⊢
    have hsame : inbox = inbox' := UniqueTable.eq_of_key_eq hinbox hinbox' (hid.trans hid'.symm)
    rw [hsame]
    exact Int.le_of_eq hexpires.symm
  | inr hold => exact h email hold inbox hinbox hid

/-- An update of inboxes that moves no expiry past that of a message. -/
theorem Db.Outlives.updateInboxes {p : Inbox → Bool} {isActive : Inbox → Bool}
    {expiresAt : Inbox → Int} {createdBy : Inbox → Option UUID} (h : db.Outlives)
    (hexpires : ∀ inbox ∈ db.inboxes, p inbox = true → ∀ email ∈ db.emails,
      inbox.id = email.inboxID → expiresAt inbox ≤ email.expiresAt) :
    (db.updateInboxes p isActive expiresAt createdBy).Outlives := by
  intro email hemail inbox hinbox hid
  obtain ⟨old, hold, rfl⟩ := List.mem_map.mp hinbox
  by_cases hp : p old = true
  · rw [if_pos hp] at hid ⊢
    exact hexpires old hold hp email hemail hid
  · rw [if_neg hp] at hid ⊢
    exact h email hemail old hold hid

variable {m : Casing} {s₀ s : State} {t : Times} {op : Op}

theorem Allows.outlives {w : Write} (hw : Allows m s₀ t op s w) (hmail : WithinMail s₀ t op)
    (h : s.db.Outlives) : (s.write w).db.Outlives := by
  cases w with
  | admin w => exact h.of_eq (Db.kept_admin s.db w).emails (Db.kept_admin s.db w).inboxes
  | delete d =>
    intro email hemail inbox hinbox hid
    exact h email (Db.mem_delete_emails.mp hemail).1 inbox (Db.mem_delete_inboxes.mp hinbox).1 hid
  | addInbox inbox =>
    exact getD_of_ok h fun db hinsert => h.insertInbox hinsert
  | extendTTL id newExpiry =>
    refine h.updateInboxes fun inbox _ hp email hemail hin => ?_
    have hid : inbox.id = id := of_decide_eq_true hp
    exact hw.2 hmail email hemail (hin.symm.trans hid)
  | addEmail email =>
    exact getD_of_ok h fun db hinsert => h.insertEmail hw hinsert
  | setHasAttachments id has =>
    intro email hemail inbox hinbox hid
    obtain ⟨old, hold, rfl⟩ := List.mem_map.mp hemail
    by_cases hp : decide (old.id = id) = true
    · rw [if_pos hp] at hid ⊢
      exact h old hold inbox hinbox hid
    · rw [if_neg hp] at hid ⊢
      exact h old hold inbox hinbox hid
  | addAttachment a =>
    obtain ⟨_, _, hinboxes, hemails⟩ := s.write_addAttachment_frame a
    exact h.of_eq hemails hinboxes
  | redisSet addr id deadline | redisDel addr | flush | putObject object | removeObject key =>
    exact h
  | _ =>
    exact h.updateInboxes fun inbox hinbox _ email hemail hin => h email hemail inbox hinbox hin

/-- An event that is in order and extends no inbox past the expiry of its messages. -/
def Patient (s : State) (e : Event) : Prop := InOrder s e ∧ WithinMail s e.times e.op

/-- Looking up the attachments of deleted messages deletes no message. -/
theorem mem_emails_deleteByEmail {email : Email} (h : email ∈ s.db.emails) (emailID : UUID) :
    email ∈ (deleteByEmail s emailID).db.emails := by
  rw [deleteByEmail_db, Db.mem_delete_emails]
  refine ⟨h, ?_⟩
  rw [← Bool.not_eq_true]
  simp [Db.removesEmail_iff, Db.removesInbox_inboxes]

/-- The cleanup job keeps a message that has not expired and whose inbox has not. -/
theorem mem_cleanupJob {email : Email} {inbox : Inbox} (hemail : email ∈ s.db.emails)
    (hinbox : inbox ∈ s.db.inboxes) (hid : inbox.id = email.inboxID)
    (hmail : t.now ≤ email.expiresAt) (hlive : t.read ≤ inbox.expiresAt) :
    email ∈ (cleanupJob s t).db.emails := by
  let s₁ := s.write (.delete { emails := fun email => email.expiresAt < t.now })
  have hfirst : email ∈ s₁.db.emails ∧ s₁.db.Within s.db := by
    refine ⟨Db.mem_delete_emails.mpr ⟨hemail, ?_⟩, (Db.Within.refl s.db).delete _⟩
    rw [← Bool.not_eq_true]
    simp only [Db.removesEmail_iff, Db.removesInbox_inboxes, decide_eq_true_eq,
      Bool.false_eq_true, false_and, and_false, exists_false, or_false]
    omega
  have hloop : ∀ (ids : List UUID) (s' : State), email ∈ s'.db.emails ∧ s'.db.Within s.db →
      email ∈ (ids.foldl deleteByEmail s').db.emails ∧
        (ids.foldl deleteByEmail s').db.Within s.db := by
    intro ids
    induction ids with
    | nil => exact fun _ h => h
    | cons id ids ih =>
      intro s' h
      refine ih (deleteByEmail s' id) ⟨mem_emails_deleteByEmail h.1 id, ?_⟩
      rw [deleteByEmail_db]
      exact h.2.delete _
  obtain ⟨hkept, hwithin⟩ := hloop ((expiredEmails s t.now).map Email.id) s₁ hfirst
  -- The cascade of the last statement starts at expired inboxes only.
  refine Db.mem_delete_emails.mpr ⟨hkept, ?_⟩
  by_contra hremoved
  rw [Bool.not_eq_false, Db.removesEmail_iff] at hremoved
  cases hremoved with
  | inl hnamed => cases hnamed
  | inr hgone =>
    obtain ⟨inbox', hinbox', hgone, hid'⟩ := hgone
    rw [Db.removesInbox_inboxes] at hgone
    have hexpired : inbox'.expiresAt < t.read := of_decide_eq_true hgone
    have hsame : inbox' = inbox :=
      UniqueTable.eq_of_key_eq (hwithin.inboxes inbox' hinbox') hinbox (hid'.trans hid.symm)
    rw [hsame] at hexpired
    omega

/-- In every run whose extensions stay within the expiry of the messages that are already
there, the cleanup job keeps every message of an inbox that is live at the time. -/
theorem cleanup_keeps_live_mail {es : List Event} (h : Guarded (step m) Patient .empty es)
    (hclean : InOrder (run (step m) .empty es) ⟨t, .cleanupJob⟩) {email : Email}
    (hemail : email ∈ (run (step m) .empty es).db.emails) {inbox : Inbox}
    (hinbox : inbox ∈ (run (step m) .empty es).db.inboxes) (hid : inbox.id = email.inboxID)
    (hlive : inbox.live t.read = true) :
    email ∈ (step m (run (step m) .empty es) ⟨t, .cleanupJob⟩).db.emails := by
  have hretains : (run (step m) .empty es).db.Outlives :=
    run_keeps h (fun email h => absurd h (Table.not_mem_empty email)) (fun _ _ h => h)
      fun _ _ _ _ hmail hw => hw.outlives hmail
  have hnow : t.now ≤ t.read := hclean.2.1
  have houtlives := hretains email hemail inbox hinbox hid
  simp only [Inbox.live, Bool.and_eq_true, decide_eq_true_eq] at hlive
  have hmail : t.now ≤ email.expiresAt := by omega
  exact mem_cleanupJob hemail hinbox hid hmail (Int.le_of_lt hlive.2)

/-- The inbox is extended before its first message arrives. -/
def extendedRun : List Event :=
  sampleRun (lit "ex.am") ++
    [.instant 60 (.extendTTL ⟨4, 7, some (some (2 * hour)), sampleSettings⟩),
      .instant 120 (.process (sampleMessage (lit "joe@ex.am") 5))]

theorem extendedRun_patient : Guarded (step .ascii) Patient .empty extendedRun := by
  refine ⟨⟨by decide, trivial⟩, ⟨by decide, trivial⟩, ⟨by decide, trivial⟩, ⟨by decide, trivial⟩,
    ⟨by decide, trivial⟩, ⟨by decide +kernel, ?_⟩, ⟨by decide +kernel, trivial⟩, trivial⟩
  intro inbox hinbox hid ext hext email hemail
  have hnone : sampleState.db.emails.rows = [] := by decide +kernel
  have hmem : email ∈ sampleState.db.emails.rows := hemail
  rw [hnone] at hmem
  cases hmem

theorem extended_inbox_keeps_mail :
    ∃ email ∈ (run (step .ascii) .empty extendedRun).db.emails, email.inboxID = 4 ∧
      email ∈ (step .ascii (run (step .ascii) .empty extendedRun)
        (.instant (hour + minute) .cleanupJob)).db.emails := by
  let email : Email := ⟨5, 4, lit "joe@ex.am", true, timestamptz (60 + 2 * hour)⟩
  have hemail : email ∈ (run (step .ascii) .empty extendedRun).db.emails := by decide +kernel
  obtain ⟨inbox, hinbox, hid⟩ := (run (step .ascii) .empty extendedRun).db.email_inbox email hemail
  have hlive : ∀ inbox ∈ (run (step .ascii) .empty extendedRun).db.inboxes,
      inbox.live (hour + minute) = true := by decide +kernel
  exact ⟨email, hemail, rfl, cleanup_keeps_live_mail extendedRun_patient (by decide +kernel) hemail
    hinbox hid (hlive inbox hinbox)⟩

/-- A message arrives, and then its inbox is extended. -/
def lateExtensionRun : List Event :=
  deliveredRun ++ [.instant 120 (.extendTTL ⟨4, 7, some (some (2 * hour)), sampleSettings⟩)]

/-- The message keeps its expiry when its inbox is extended, and is deleted while the inbox
is live. -/
theorem extension_loses_mail :
    Guarded (step .ascii) InOrder .empty
        (lateExtensionRun ++ [.instant (hour + minute) .cleanupJob]) ∧
      (run (step .ascii) .empty lateExtensionRun).db.emails.rows.map Email.inboxID = [4] ∧
      (run (step .ascii) .empty
        (lateExtensionRun ++ [.instant (hour + minute) .cleanupJob])).db.emails.rows = [] ∧
      (run (step .ascii) .empty
        (lateExtensionRun ++ [.instant (hour + minute) .cleanupJob])).db.inboxes.rows.map
          (fun inbox => (inbox.id, inbox.live (hour + minute))) = [(4, true)] := by
  decide +kernel

/-! ## Objects and their attachments -/

/-- Every object is named by the row of an attachment. -/
def State.Referenced (s : State) : Prop :=
  ∀ object ∈ s.objects, ∃ a ∈ s.db.attachments, a.storageKey = object.key

theorem State.Referenced.of_mem (h : s.Referenced)
    (hmem : ∀ a ∈ s.db.attachments, a ∈ db.attachments) : State.Referenced { s with db } := by
  intro object hobject
  obtain ⟨a, ha, hkey⟩ := h object hobject
  exact ⟨a, hmem a ha, hkey⟩

theorem State.Referenced.delete {d : Db.Deletion} (h : s.Referenced) (hleaves : LeavesObjects s d) :
    (s.write (.delete d)).Referenced := by
  intro object hobject
  obtain ⟨a, ha, hkey⟩ := h object hobject
  refine ⟨a, Db.mem_delete_attachments.mpr ⟨ha, ?_⟩, hkey⟩
  by_contra hremoved
  rw [Bool.not_eq_false] at hremoved
  exact hleaves a ha hremoved object hobject hkey.symm

theorem Allows.referenced {w : Write} (hw : Allows m s₀ t op s w)
    (hkeeps : KeepsAttachments s₀ t op) (h : s.Referenced) : (s.write w).Referenced := by
  cases w with
  | admin w =>
    refine h.of_mem fun a ha => ?_
    rw [(Db.kept_admin s.db w).attachments]
    exact ha
  | delete d => exact h.delete (hw.2 hkeeps)
  | addInbox inbox =>
    refine h.of_mem fun a ha => ?_
    refine getD_of_ok (P := fun db : Db => a ∈ db.attachments) ha fun db hinsert => ?_
    rw [(Db.insertInbox_eq_ok hinsert).2.2.2.2]
    exact ha
  | addEmail email =>
    refine h.of_mem fun a ha => ?_
    show a ∈ (s.write (.addEmail email)).db.attachments
    rw [(s.write_addEmail_frame email).2.2.2]
    exact ha
  | addAttachment new =>
    refine h.of_mem fun a ha => ?_
    refine getD_of_ok (P := fun db : Db => a ∈ db.attachments) ha fun db hinsert => ?_
    exact ((Db.insertAttachment_eq_ok hinsert).1 a).mpr (.inr ha)
  | putObject new =>
    intro object hobject
    cases List.mem_cons.mp hobject with
    | inl heq =>
      rw [heq]
      exact hw
    | inr hold => exact h object (List.mem_filter.mp hold).1
  | removeObject key => exact fun object hobject => h object (List.mem_filter.mp hobject).1
  | _ => exact h

/-- An event that is in order and whose deletions take no attachment with them. -/
def Careful (s : State) (e : Event) : Prop := InOrder s e ∧ KeepsAttachments s e.times e.op

instance (s : State) (e : Event) : Decidable (Careful s e) :=
  inferInstanceAs (Decidable (_ ∧ ∀ a ∈ s.db.attachments, _ = false))

/-- In every run whose deletions, other than that of a message by its owner, take no
attachment with them, every object is named by the row of an attachment. -/
theorem objects_referenced {es : List Event}
    (h : Guarded (step m) Careful .empty es) : (run (step m) .empty es).Referenced :=
  run_keeps h (fun _ h => absurd h List.not_mem_nil) (fun _ _ h => h)
    fun _ _ _ _ hkeeps hw => hw.referenced hkeeps

/-- The owner deletes the message. -/
theorem deleted_message_leaves_no_object :
    (run (step .ascii) .empty (deliveredRun ++ [.instant 120 (.deleteEmail 5 7)])).Referenced :=
  objects_referenced (by decide +kernel)

/-- The message expires: the job deletes the rows and leaves the object. -/
theorem cleanup_leaves_object :
    Guarded (step .ascii) InOrder .empty (deliveredRun ++ [.instant (2 * hour) .cleanupJob]) ∧
      (run (step .ascii) .empty
        (deliveredRun ++ [.instant (2 * hour) .cleanupJob])).objects.map Object.key =
          [⟨5, 6, lit "a.txt"⟩] ∧
      (run (step .ascii) .empty
        (deliveredRun ++ [.instant (2 * hour) .cleanupJob])).db.attachments.rows = [] := by
  decide +kernel

end BurnerByte.Mailbox
