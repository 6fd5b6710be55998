import BurnerByte.Mailbox.Requests

/-!
# What the reconciler repairs

`ReconcilerJob` caches every live inbox whose address has no entry in the cache, or an empty one.
It takes any other entry for the inbox's own. So an address is repaired exactly if it has no entry,
or one that needs no repair. Here the cache may hold any text, and each iteration has its own times.
-/

namespace BurnerByte.Mailbox

open Go

section

variable (text : UUID → Bytes) (redis : Expiring.Store Bytes Bytes)

/-- The address of the inbox leads to it, and no longer than it lives. -/
def Serves (now : Int) (inbox : Inbox) : Prop :=
  ∃ deadline, redis inbox.fullAddress = some ⟨text inbox.id, some deadline⟩ ∧ now < deadline ∧
    deadline ≤ inbox.expiresAt

/-- The address has no entry, and one that is set at these times ends in time; or its entry is as
it should be. -/
def Repairable (t : Times) (done : Int) (inbox : Inbox) : Prop :=
  if (redis.get t.read inbox.fullAddress).all List.isEmpty then
    ∃ deadline ∈ redisDeadline t.set (inbox.expiresAt - t.read),
      done < deadline ∧ deadline ≤ inbox.expiresAt
  else Serves text redis done inbox

end

section

variable {α : Type} {text : UUID → α} {isEmpty : α → Bool} {times : UUID → Times}
  {redis : Expiring.Store Bytes α} {inbox : Inbox}

theorem reconcileEntry_self {t : Times} (h : t.read < inbox.expiresAt) :
    reconcileEntry t text isEmpty redis inbox inbox.fullAddress =
      if (redis.get t.read inbox.fullAddress).all isEmpty then
        some ⟨text inbox.id, redisDeadline t.set (inbox.expiresAt - t.read)⟩
      else redis inbox.fullAddress := by
  unfold reconcileEntry
  rw [if_neg (by omega)]
  split
  · exact Expiring.Store.set_self ..
  · rfl

/-- Entries of other inboxes do not change the one that is looked at. -/
theorem foldl_reconcileEntry_of_not_mem {others : List Inbox}
    (h : inbox.fullAddress ∉ others.map Inbox.fullAddress) :
    others.foldl (fun redis other =>
      reconcileEntry (times other.id) text isEmpty redis other) redis inbox.fullAddress =
        redis inbox.fullAddress := by
  induction others generalizing redis with
  | nil => rfl
  | cons other others ih =>
    rw [List.map_cons, List.mem_cons, not_or] at h
    rw [List.foldl_cons, ih h.2, reconcileEntry]
    split
    · rfl
    split
    · exact Expiring.Store.set_of_ne redis _ _ h.1
    · rfl

theorem reconcile_of_live {db : Db} {now : Int} (hinbox : inbox ∈ db.inboxes)
    (hlive : inbox.live now = true) (hread : (times inbox.id).read < inbox.expiresAt) :
    reconcile db text isEmpty now times redis inbox.fullAddress =
      if (redis.get (times inbox.id).read inbox.fullAddress).all isEmpty then
        some ⟨text inbox.id,
          redisDeadline (times inbox.id).set (inbox.expiresAt - (times inbox.id).read)⟩
      else redis inbox.fullAddress := by
  have hdistinct : ((db.listActive now).map Inbox.fullAddress).Nodup :=
    db.inboxes.distinct.sublist (List.filter_sublist.map _)
  have hmem : inbox ∈ db.listActive now := List.mem_filter.mpr ⟨hinbox, hlive⟩
  obtain ⟨before, after, hlist⟩ := List.append_of_mem hmem
  rw [hlist, List.map_append, List.map_cons, List.nodup_middle,
    List.nodup_cons, List.mem_append, not_or] at hdistinct
  rw [reconcile, hlist, List.foldl_append, List.foldl_cons,
    foldl_reconcileEntry_of_not_mem hdistinct.1.2, reconcileEntry_self hread]
  -- The iterations before this one have not touched its entry.
  unfold Expiring.Store.get
  rw [foldl_reconcileEntry_of_not_mem hdistinct.1.1]

end

/-- After the job every live inbox is served by the cache exactly if each of them was repairable. -/
theorem reconciled_iff (text : UUID → Bytes) (redis : Expiring.Store Bytes Bytes) (db : Db)
    {now done : Int} {times : UUID → Times}
    (htimes : ∀ id, now ≤ (times id).read ∧ (times id).read ≤ (times id).set ∧
      (times id).set ≤ done) :
    (∀ inbox ∈ db.inboxes, inbox.live done = true →
      Serves text (reconcile db text List.isEmpty now times redis) done inbox) ↔
      ∀ inbox ∈ db.inboxes, inbox.live done = true →
        Repairable text redis (times inbox.id) done inbox := by
  refine forall₂_congr fun inbox hinbox => imp_congr_right fun hlive => ?_
  obtain ⟨hactive, hexpires⟩ : inbox.isActive = true ∧ done < inbox.expiresAt := by
    simpa [Inbox.live] using hlive
  obtain ⟨hread, hset, hdone⟩ := htimes inbox.id
  have hlisted : inbox.live now = true := by
    rw [Inbox.live, hactive, Bool.true_and]
    exact decide_eq_true (by omega)
  unfold Serves Repairable
  rw [reconcile_of_live hinbox hlisted (by omega)]
  split
  · constructor
    · rintro ⟨deadline, hentry, hends⟩
      exact ⟨deadline, (Expiring.Entry.mk.inj (Option.some.inj hentry)).2, hends⟩
    · rintro ⟨deadline, hdeadline, hends⟩
      exact ⟨deadline, by rw [hdeadline], hends⟩
  · rfl

/-- The tables of the small run, with one inbox. -/
def sampleTables : Db := sampleState.db

def sampleText (id : UUID) : Bytes := (toString id).toUTF8.toList

/-- An inbox that is not cached is repaired. -/
theorem uncached_inbox_repaired : sampleTables.inboxes.rows.any (·.live 60) = true ∧
    ∀ inbox ∈ sampleTables.inboxes, inbox.live 60 = true →
      Serves sampleText (reconcile sampleTables sampleText List.isEmpty 60 (fun _ => ⟨60, 60, 60⟩)
        .empty) 60 inbox := by
  have hends : ∀ inbox ∈ sampleTables.inboxes, (redisDeadline 60 (inbox.expiresAt - 60)).any
      (fun deadline => 60 < deadline ∧ deadline ≤ inbox.expiresAt) = true := by
    decide +kernel
  refine ⟨by decide +kernel, (reconciled_iff sampleText .empty sampleTables
    (fun _ => by decide)).mpr fun inbox hinbox _ => ?_⟩
  have hempty : ((Expiring.Store.empty : Expiring.Store Bytes Bytes).get 60
      inbox.fullAddress).all List.isEmpty = true := rfl
  rw [Repairable, if_pos hempty]
  simpa [Option.any_eq_true] using hends inbox hinbox

/-- An entry that names another inbox stays. -/
theorem foreign_entry_kept :
    ∃ inbox ∈ sampleTables.inboxes, inbox.live 60 = true ∧
      (reconcile sampleTables sampleText List.isEmpty 60 (fun _ => ⟨60, 60, 60⟩)
        (Expiring.Store.empty.set inbox.fullAddress (sampleText 77) none)).get 60
          inbox.fullAddress = some (sampleText 77) ∧ sampleText inbox.id ≠ sampleText 77 := by
  decide +kernel

end BurnerByte.Mailbox
