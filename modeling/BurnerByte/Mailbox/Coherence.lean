import BurnerByte.Mailbox.MailEffects

/-!
# The cache and the database

Mail is accepted on the word of the cache and stored by what the database says. The two
agree as long as every key is set to live no longer than its inbox, and no inbox is
removed while it is cached. Extending, deleting and expiring inboxes and deleting a domain
keep them in agreement. Removing an assignment, a team or the owner of a domain does not:
the cascade deletes inboxes and leaves their keys.
-/

namespace BurnerByte.Mailbox

open Go Sql Trace

/-- An address belongs to an inbox until a time. -/
def Db.Serves (db : Db) (addr : Bytes) (id : UUID) (stop : Int) : Prop :=
  ∃ inbox ∈ db.inboxes, inbox.fullAddress = addr ∧ inbox.id = id ∧ inbox.expiresAt = stop

/-- What the cache says at a time is what the database says. -/
structure State.Coherent (now : Int) (s : State) : Prop where
  wellFormed : s.db.WellFormed
  sound : s.redis.Sound s.db.Serves now

def State.CoherentNow (s : State) : Prop := s.Coherent s.clock

theorem coherent_empty : State.empty.CoherentNow where
  wellFormed inbox h := absurd h (UniqueTable.not_mem_empty inbox)
  sound := Expiring.Store.sound_empty

variable {db db' : Db} {redis : Expiring.Store Bytes UUID} {now : Int}

/-- The cache stays sound when every inbox keeps its address and its expiry. -/
theorem sound_of_kept (h : redis.Sound db.Serves now)
    (hkept : ∀ inbox ∈ db.inboxes, ∃ inbox' ∈ db'.inboxes, inbox'.fullAddress = inbox.fullAddress ∧
      inbox'.id = inbox.id ∧ inbox'.expiresAt = inbox.expiresAt) : redis.Sound db'.Serves now := by
  refine h.change fun addr id stop _ _ hserves => ?_
  obtain ⟨inbox, hinbox, hfull, hid, hexpires⟩ := hserves
  obtain ⟨inbox', hinbox', hfull', hid', hexpires'⟩ := hkept inbox hinbox
  exact ⟨stop, Int.le_refl stop, inbox', hinbox', hfull'.trans hfull, hid'.trans hid,
    hexpires'.trans hexpires⟩

theorem sound_of_mem (h : redis.Sound db.Serves now)
    (hmem : ∀ inbox ∈ db.inboxes, inbox ∈ db'.inboxes) : redis.Sound db'.Serves now :=
  sound_of_kept h fun inbox hinbox => ⟨inbox, hmem inbox hinbox, rfl, rfl, rfl⟩

/-- An inbox that is served from the cache at a time is live then. -/
theorem live_of_serves {inbox : Inbox} (h : db.WellFormed) (hinbox : inbox ∈ db.inboxes)
    (hnow : now < inbox.expiresAt) : inbox.live now = true := by
  simp [Inbox.live, (h inbox hinbox).isActive, hnow]

theorem sound_delete {d : Db.Deletion} {s : State} (h : s.Coherent now)
    (hleaves : LeavesCached s now d) : s.redis.Sound (s.db.delete d).Serves now := by
  refine h.sound.change fun addr id stop hget hnow hserves => ?_
  obtain ⟨inbox, hinbox, rfl, rfl, rfl⟩ := hserves
  refine ⟨inbox.expiresAt, Int.le_refl _, inbox, Db.mem_delete_inboxes.mpr ⟨hinbox, ?_⟩,
    rfl, rfl, rfl⟩
  by_contra hremoved
  rw [Bool.not_eq_false] at hremoved
  rw [hleaves inbox hinbox hremoved (live_of_serves h.wellFormed hinbox hnow)] at hget
  cases hget

/-- The expiry of an inbox may change while it is not cached. -/
theorem sound_extendTTL {inbox : Inbox} (h : redis.Sound db.Serves now)
    (hinbox : inbox ∈ db.inboxes) (huncached : redis inbox.fullAddress = none) (newExpiry : Int) :
    redis.Sound (db.extendTTL inbox.id newExpiry).Serves now := by
  refine h.change fun addr id stop hget _ hserves => ?_
  obtain ⟨old, hold, rfl, rfl, rfl⟩ := hserves
  refine ⟨old.expiresAt, Int.le_refl _, old, List.mem_map.mpr ⟨old, hold, ?_⟩, rfl, rfl, rfl⟩
  -- What is cached is another inbox, and its row does not change.
  have hother : old.id ≠ inbox.id := by
    intro hid
    have hsame : old = inbox := UniqueTable.eq_of_key_eq hold hinbox hid
    rw [hsame, Expiring.Store.get, huncached] at hget
    cases hget
  simp [hother]

variable {m : Casing} {s₀ s : State} {t : Times} {op : Op}

/-- Every write of an event that is in time keeps cache and database in agreement. -/
theorem Allows.coherent {w : Write} (hw : Allows m s₀ t op s w) (htime : InTime m s₀ t op)
    (h : s.Coherent t.set) : (s.write w).Coherent t.set := by
  refine ⟨hw.wellFormed h.wellFormed, ?_⟩
  cases w with
  | admin w =>
    refine sound_of_mem h.sound fun inbox hinbox => ?_
    rw [← (Db.kept_admin s.db w).inboxes] at hinbox
    exact hinbox
  | delete d => exact sound_delete h (hw.1 htime)
  | addInbox inbox =>
    refine Outcome.getD_of_ok (P := fun db : Db => s.redis.Sound db.Serves t.set) h.sound ?_
    intro db hinsert
    have hmem := (Db.insertInbox_eq_ok hinsert).1
    exact sound_of_mem h.sound fun old hold => (hmem old).mpr (.inr hold)
  | extendTTL id newExpiry =>
    obtain ⟨⟨inbox, hinbox, rfl, huncached⟩, _⟩ := hw
    exact sound_extendTTL h.sound hinbox huncached newExpiry
  | deactivate domainID =>
    refine sound_of_mem h.sound fun inbox hinbox => List.mem_map.mpr ⟨inbox, hinbox, ?_⟩
    simp [hw inbox hinbox]
  | clearCreator userID =>
    refine sound_of_kept h.sound fun inbox hinbox => ?_
    refine ⟨_, List.mem_map.mpr ⟨inbox, hinbox, rfl⟩, ?_⟩
    split
    · exact ⟨rfl, rfl, rfl⟩
    · exact ⟨rfl, rfl, rfl⟩
  | addEmail email =>
    refine sound_of_mem h.sound fun inbox hinbox => ?_
    rw [(s.write_addEmail_frame email).2.2.1]
    exact hinbox
  | addAttachment a =>
    refine sound_of_mem h.sound fun inbox hinbox => ?_
    rw [(s.write_addAttachment_frame a).2.2.1]
    exact hinbox
  | redisSet addr id deadline =>
    obtain ⟨inbox, hinbox, rfl, rfl, hbefore⟩ := hw
    obtain ⟨d, rfl, hle⟩ := hbefore htime
    exact h.sound.set hle ⟨inbox, hinbox, rfl, rfl, rfl⟩
  | redisDel addr => exact h.sound.del addr
  | flush => exact Expiring.Store.sound_empty
  | _ => exact h.sound

/-- An event that is in order and in time. -/
def Prompt (m : Casing) (s : State) (e : Event) : Prop := InOrder s e ∧ InTime m s e.times e.op

theorem coherent_step {e : Event} (h : s.CoherentNow) (he : Prompt m s e) :
    (step m s e).CoherentNow := by
  obtain ⟨⟨hclock, hnow, hread⟩, htime⟩ := he
  -- The cache is compared at the end of the event, when everything it sets has been set.
  have hset : s.clock ≤ e.times.set := by omega
  have hlater : s.Coherent e.times.set := ⟨h.wellFormed, h.sound.later hset⟩
  have hdone : (handle m s e.times e.op).Coherent e.times.set :=
    (handle_writes h.wellFormed hnow hread e.op).invariant hlater
      fun s' w hinv hw => hw.coherent htime hinv
  exact ⟨hdone.wellFormed, hdone.sound⟩

/-- An accepted address is that of a live inbox, which the cache names if it names any. -/
theorem State.Coherent.live_of_canAccept {rcptTo : Bytes} {id : UUID}
    (h : s.Coherent now) (haccept : canAccept m s now rcptTo = .ok id) :
    ∃ inbox ∈ s.db.inboxes, inbox.id = id ∧ inbox.fullAddress = normalize m rcptTo ∧
      inbox.live now = true ∧
      ∀ id', s.redis.get now inbox.fullAddress = some id' → id' = inbox.id := by
  unfold canAccept at haccept
  simp only at haccept
  split at haccept
  · split at haccept
    · cases haccept
    split at haccept
    · rename_i id' hget
      cases haccept
      obtain ⟨_, stop, _, _, hnow, inbox, hinbox, hfull, hid, rfl⟩ := h.sound.valid_of_get hget
      refine ⟨inbox, hinbox, hid, hfull, live_of_serves h.wellFormed hinbox hnow, ?_⟩
      intro id'' hget'
      rw [hfull, hget] at hget'
      rw [hid]
      exact (Option.some.inj hget').symm
    · rename_i huncached
      split at haccept
      · cases haccept
      rename_i inbox hfound
      obtain ⟨hinbox, hfull, hlive⟩ := Db.getByFullAddress_eq_some.mp hfound
      split at haccept
      · cases haccept
      refine ⟨inbox, hinbox, Except.ok.inj haccept, hfull, hlive, ?_⟩
      intro id' hget
      rw [hfull, huncached] at hget
      cases hget
  · cases haccept

theorem sampleRun_prompt :
    Guarded (step .ascii) (Prompt .ascii) .empty (sampleRun (lit "ex.am")) := by
  refine ⟨⟨by decide, trivial⟩, ⟨by decide, trivial⟩, ⟨by decide, trivial⟩, ⟨by decide, trivial⟩,
    ⟨by decide, ?_⟩, trivial⟩
  intro ttl httl
  cases httl
  exact ⟨_, rfl, by decide⟩

/-- The domain is taken from the team while the inbox is live. -/
def unassignedRun : List Event := sampleRun (lit "ex.am") ++ [.instant 60 (.unassign 2 1)]

end BurnerByte.Mailbox
