import BurnerByte.Go.Ascii
import BurnerByte.Mailbox.MailEffects

/-!
# How addresses are spelled

Addresses are looked up in lower case, and compared byte by byte with what is stored. Mail
for a live inbox therefore arrives exactly if its address is stored in lower case. Aliases
are, and so are the names of domains that were added with `addDomain`. The setup wizard
stores the name of its domain as it was typed in.
-/

namespace BurnerByte.Mailbox

open Go Sql Trace

/-! ## Names and aliases -/

variable {b : UInt8} {s : Bytes}

theorem at_notMem_of_isAliasByte {address : Bytes} (h : ∀ b ∈ address, isAliasByte b = true) :
    64 ∉ address := by
  intro hmem
  have hat := h 64 hmem
  revert hat
  decide

/-- A domain name consists of label bytes and dots. -/
theorem isLabelByte_of_domainNameRe {name : Bytes} (h : domainNameRe name = true) (hb : b ∈ name) :
    b = 46 ∨ isLabelByte b = true := by
  simp only [domainNameRe, Bool.and_eq_true] at h
  obtain ⟨⟨_, hlabels⟩, hlast⟩ := h
  cases mem_of_mem_splitOn 46 hb with
  | inl hdot => exact .inl hdot
  | inr hpart =>
    obtain ⟨part, hmem, hbpart⟩ := hpart
    right
    have hne := List.splitOn_ne_nil 46 name
    have hparts := List.dropLast_concat_getLast hne
    rw [List.getLast?_eq_some_getLast hne, Option.any_some] at hlast
    rw [← hparts, List.mem_append, List.mem_singleton] at hmem
    cases hmem with
    | inl hlabel =>
      have hpart := List.all_eq_true.mp hlabels part hlabel
      simp only [isLabel, Bool.and_eq_true] at hpart
      exact List.all_eq_true.mp hpart.1.1.2 b hbpart
    | inr htop =>
      rw [htop] at hbpart
      simp only [isTopLevel, Bool.and_eq_true] at hlast
      have hletter := List.all_eq_true.mp hlast.2 b hbpart
      simp only [isLabelByte, isAlnum, Bool.or_eq_true] at hletter ⊢
      cases hletter with
      | inl hlower => exact .inl (.inl (.inl hlower))
      | inr hupper => exact .inl (.inr hupper)

/-- The name that `addDomain` stores is its own lower-case form. -/
theorem AddDomainRequest.isPlain_name {m : Casing} {r : AddDomainRequest} {name : Bytes}
    (h : r.name m = .ok name) (hb : b ∈ name) : isPlain b = true := by
  unfold AddDomainRequest.name at h
  split at h
  · cases h
  simp only at h
  split at h
  · cases h
  rename_i hre
  split at h
  · cases h
  cases h
  have hcapital := not_capital_of_mem_toLower hb
  rw [Bool.not_eq_true', Bool.not_eq_false] at hre
  cases isLabelByte_of_domainNameRe hre hb with
  | inl hdot =>
    rw [hdot]
    decide
  | inr hlabel =>
    -- A byte of a name with labels that have no capitals.
    rw [isPlain_iff, isVisible_iff]
    simp only [isLabelByte, isAlnum, Bool.or_eq_true, Bool.and_eq_true, decide_eq_true_eq,
      UInt8.le_iff_toNat_le, ← UInt8.toNat_inj, UInt8.reduceToNat] at hlabel
    omega

theorem normalize_plain (m : Casing) (h : ∀ b ∈ s, isPlain b = true) : normalize m s = s := by
  unfold normalize
  rw [trimSpace_plain h, toLower_plain h]

/-! ## The cache names the inbox of an address -/

/-- What the cache holds for the address of an inbox is its identifier, and the names of
domains have a property. -/
structure State.Addressed (P : Bytes → Prop) (s : State) : Prop where
  wellFormed : s.db.WellFormed
  cached : ∀ inbox ∈ s.db.inboxes, ∀ entry, s.redis inbox.fullAddress = some entry →
    entry.value = inbox.id
  names : ∀ domain ∈ s.db.domains, P domain.domainName

section

variable {P : Bytes → Prop} {s : State}

variable {db : Db} {inbox : Inbox}

/-- Updates of inboxes concern neither their address nor their identifier. -/
theorem exists_of_mem_updateInboxes {p isActive : Inbox → Bool} {expiresAt : Inbox → Int}
    {createdBy : Inbox → Option UUID}
    (h : inbox ∈ (db.updateInboxes p isActive expiresAt createdBy).inboxes) :
    ∃ old ∈ db.inboxes, old.fullAddress = inbox.fullAddress ∧ old.id = inbox.id := by
  obtain ⟨old, hold, rfl⟩ := List.mem_map.mp h
  refine ⟨old, hold, ?_⟩
  split
  · exact ⟨rfl, rfl⟩
  · exact ⟨rfl, rfl⟩

section

variable (h : s.Addressed P)

include h

/-- Writes to the database after which no address has another inbox and no domain another
name. -/
theorem State.Addressed.of_db (hwell : db.WellFormed)
    (hinboxes : ∀ inbox ∈ db.inboxes, ∃ old ∈ s.db.inboxes,
      old.fullAddress = inbox.fullAddress ∧ old.id = inbox.id)
    (hdomains : ∀ domain ∈ db.domains, ∃ old ∈ s.db.domains, old.domainName = domain.domainName) :
    { s with db }.Addressed P where
  wellFormed := hwell
  cached inbox hinbox entry hentry := by
    obtain ⟨old, hold, hfull, hid⟩ := hinboxes inbox hinbox
    rw [← hid]
    rw [← hfull] at hentry
    exact h.cached old hold entry hentry
  names domain hdomain := by
    obtain ⟨old, hold, hname⟩ := hdomains domain hdomain
    rw [← hname]
    exact h.names old hold

/-- Writes that leave both tables alone. -/
theorem State.Addressed.of_eq (hwell : db.WellFormed) (hinboxes : db.inboxes = s.db.inboxes)
    (hdomains : db.domains = s.db.domains) : { s with db }.Addressed P := by
  refine h.of_db hwell (fun inbox hinbox => ?_) fun domain hdomain => ?_
  · rw [hinboxes] at hinbox
    exact ⟨inbox, hinbox, rfl, rfl⟩
  · rw [hdomains] at hdomain
    exact ⟨domain, hdomain, rfl⟩

theorem State.Addressed.flush : { s with redis := .empty }.Addressed P where
  wellFormed := h.wellFormed
  cached _ _ _ hentry := nomatch hentry
  names := h.names

theorem State.Addressed.admin {w : Admin}
    (hnew : ∀ domain, w = .addDomain domain → P domain.domainName) :
    { s with db := s.db.admin w }.Addressed P where
  wellFormed := h.wellFormed.of_kept (Db.kept_admin s.db w)
  cached inbox hinbox := by
    rw [(Db.kept_admin s.db w).inboxes] at hinbox
    exact h.cached inbox hinbox
  names domain hdomain := by
    cases Db.mem_admin_domains hdomain with
    | inl hold =>
      obtain ⟨old, hold, hname⟩ := hold
      rw [← hname]
      exact h.names old hold
    | inr hadd => exact hnew domain hadd

/-- A new inbox that is not cached yet. -/
theorem State.Addressed.insertInbox (hwell : inbox.WellFormed s.db)
    (huncached : s.redis inbox.fullAddress = none) (hinsert : s.db.insertInbox inbox = .ok db) :
    { s with db }.Addressed P where
  wellFormed := h.wellFormed.insertInbox hwell hinsert
  cached x hx entry hentry := by
    cases ((Db.insertInbox_eq_ok hinsert).1 x).mp hx with
    | inl heq =>
      rw [heq, huncached] at hentry
      cases hentry
    | inr hold => exact h.cached x hold entry hentry
  names domain hdomain := by
    rw [(Db.insertInbox_eq_ok hinsert).2.1] at hdomain
    exact h.names domain hdomain

/-- No other inbox has the address whose key is set. -/
theorem State.Addressed.redisSet (hinbox : inbox ∈ s.db.inboxes) (deadline : Option Int) :
    { s with redis := s.redis.set inbox.fullAddress inbox.id deadline }.Addressed P where
  wellFormed := h.wellFormed
  cached other hother entry hentry := by
    change s.redis.set inbox.fullAddress inbox.id deadline other.fullAddress = some entry at hentry
    by_cases hfull : other.fullAddress = inbox.fullAddress
    · have heq : other = inbox := UniqueTable.eq_of_column_eq hother hinbox hfull
      rw [heq, Expiring.Store.set_self] at hentry
      rw [← Option.some.inj hentry, heq]
    · rw [Expiring.Store.set_of_ne _ _ _ hfull] at hentry
      exact h.cached other hother entry hentry
  names := h.names

end

theorem Allows.addressed {m : Casing} {s₀ : State} {t : Times} {op : Op} {w : Write}
    (hw : Allows m s₀ t op s w) (hnames : ∀ name, StoresName m name op → P name)
    (h : s.Addressed P) : (s.write w).Addressed P := by
  have hwell := hw.wellFormed h.wellFormed
  have hsame : ∀ domain ∈ s.db.domains, ∃ old ∈ s.db.domains,
      old.domainName = domain.domainName := fun domain hdomain => ⟨domain, hdomain, rfl⟩
  cases w with
  | admin w =>
    refine h.admin fun domain hadd => ?_
    subst hadd
    exact hnames domain.domainName hw
  | delete d =>
    refine h.of_db hwell (fun inbox hinbox => ?_) fun domain hdomain => ?_
    · exact ⟨inbox, (Db.mem_delete_inboxes.mp hinbox).1, rfl, rfl⟩
    · exact ⟨domain, (Db.mem_delete_domains.mp hdomain).1, rfl⟩
  | addInbox inbox =>
    exact Outcome.getD_of_ok (P := fun db : Db => { s with db }.Addressed P) h
      fun db hinsert => h.insertInbox hw.1 hw.2 hinsert
  | addEmail email =>
    obtain ⟨hdomains, _, hinboxes, _⟩ := s.write_addEmail_frame email
    exact h.of_eq hwell hinboxes hdomains
  | setHasAttachments id has => exact h.of_eq hwell rfl rfl
  | addAttachment a =>
    obtain ⟨hdomains, _, hinboxes, _⟩ := s.write_addAttachment_frame a
    exact h.of_eq hwell hinboxes hdomains
  | redisSet addr id deadline =>
    obtain ⟨inbox, hinbox, rfl, rfl, _⟩ := hw
    exact h.redisSet hinbox deadline
  | redisDel addr =>
    exact ⟨h.wellFormed, fun inbox hinbox entry hentry =>
      h.cached inbox hinbox entry (Expiring.Store.eq_some_of_del hentry), h.names⟩
  | flush => exact h.flush
  | putObject object | removeObject key => exact ⟨h.wellFormed, h.cached, h.names⟩
  | _ => exact h.of_db hwell (fun _ => exists_of_mem_updateInboxes) hsame

end

/-! ## Runs -/

section

variable {m : Casing} {P : Bytes → Prop}

/-- The setup wizard stored the name. -/
def SetUp (es : List Event) (name : Bytes) : Prop :=
  ∃ e ∈ es, ∃ id orgID, e.op = .setupDomain id orgID name

/-- A name comes from the setup wizard or has no capitals. -/
theorem setUp_or_plain {es : List Event} {e : Event} (he : e ∈ es) {name : Bytes}
    (h : StoresName m name e.op) : SetUp es name ∨ ∀ b ∈ name, isPlain b = true := by
  cases h with
  | inl hadd =>
    obtain ⟨r, _, hname⟩ := hadd
    exact .inr fun b hb => r.isPlain_name hname hb
  | inr hsetup =>
    obtain ⟨id, orgID, hop⟩ := hsetup
    exact .inl ⟨e, he, id, orgID, hop⟩

/-- What holds of the names that a run stores holds of the names of the domains. -/
theorem run_addressed {es : List Event} (h : Guarded (step m) InOrder .empty es)
    (hnames : ∀ e ∈ es, ∀ name, StoresName m name e.op → P name) :
    (run (step m) .empty es).Addressed P :=
  run_keeps (h.and_of_mem hnames) ⟨nofun, nofun, nofun⟩
    (fun _ _ h => ⟨h.wellFormed, h.cached, h.names⟩) fun _ _ _ _ hnames hw => hw.addressed hnames

/-! ## Mail for the own address -/

/-- An address is accepted for the inbox, and a message that arrives while the inbox is
live is stored in it. -/
def Delivers (m : Casing) (s : State) (now : Int) (inbox : Inbox) (rcptTo : Bytes) : Prop :=
  canAccept m s now rcptTo = .ok inbox.id ∧
    ∀ t r, r.email.toAddr = rcptTo → inbox.live t.now = true → t.read ≤ inbox.expiresAt →
      s.db.Takes r.email → (process m s t r).1 = .ok () ∧
        ∃ email ∈ (process m s t r).2.db.emails, email.id = r.email.newID ∧ email.inboxID = inbox.id

variable {s : State} {now : Int} {inbox : Inbox} {rcptTo : Bytes}

section

variable (h : s.Addressed P) (hinbox : inbox ∈ s.db.inboxes)

include h hinbox

theorem State.Addressed.id_of_get {id : UUID}
    (hget : s.redis.get now inbox.fullAddress = some id) : id = inbox.id := by
  obtain ⟨entry, hentry, _, rfl⟩ := Expiring.Store.get_eq_some.mp hget
  exact h.cached inbox hinbox entry hentry

/-- A lookup of the address of an inbox finds no other. -/
theorem State.Addressed.id_of_lookupInbox {t : Times} {found : Inbox}
    (hfound : (lookupInbox s t inbox.fullAddress).1 = .ok found) : found.id = inbox.id := by
  unfold lookupInbox at hfound
  split at hfound
  · rename_i hget
    split at hfound
    · cases hfound
    rename_i hfind
    cases hfound
    obtain ⟨_, _, rfl, rfl⟩ := Db.getByID_eq_some.mp hfind
    exact h.id_of_get hinbox hget
  · split at hfound
    · cases hfound
    rename_i hfind
    obtain ⟨hmem, hfull, _⟩ := Db.getByFullAddress_eq_some.mp hfind
    have heq := UniqueTable.eq_of_column_eq hmem hinbox hfull
    simp only at hfound
    split at hfound <;> cases hfound <;> rw [heq]

/-- The router finds a live inbox by the address that is stored. -/
theorem State.Addressed.canAccept_of_live (hlive : inbox.live now = true)
    (hrcpt : normalize m rcptTo = inbox.fullAddress) :
    canAccept m s now rcptTo = .ok inbox.id := by
  obtain ⟨hactive, haddress, ⟨domain, hdomain, _, hfull⟩, _⟩ := h.wellFormed inbox hinbox
  -- An alias has no `@`, so the router cuts the address where it was put together.
  have hsplit : splitN2 inbox.fullAddress (lit "@") = [inbox.address, domain.domainName] := by
    rw [hfull, List.append_assoc]
    exact splitN2_append (at_notMem_of_isAliasByte haddress)
  have hknown : s.db.domains.findBy domain.domainName = some domain :=
    UniqueTable.findBy_eq_some_iff.mpr ⟨hdomain, rfl⟩
  unfold canAccept
  simp only [hrcpt, hsplit, hknown]
  cases hget : s.redis.get now inbox.fullAddress with
  | some id => rw [h.id_of_get hinbox hget]
  | none =>
    have hfound : s.db.getByFullAddress now inbox.fullAddress = some inbox :=
      Db.getByFullAddress_eq_some.mpr ⟨hinbox, rfl, hlive⟩
    have hexpires : ¬ inbox.expiresAt < now := by
      simp only [Inbox.live, Bool.and_eq_true, decide_eq_true_eq] at hlive
      omega
    simp [hfound, hactive, hexpires]

theorem State.Addressed.delivers (hlive : inbox.live now = true)
    (hrcpt : normalize m rcptTo = inbox.fullAddress) : Delivers m s now inbox rcptTo := by
  refine ⟨h.canAccept_of_live hinbox hlive hrcpt, ?_⟩
  intro t r hto hlive' hread htakes
  refine process_of_live r hinbox ?_ hlive' hread (fun id hget => h.id_of_get hinbox hget) htakes
  rw [hto, hrcpt]

end

/-- Without the cache only the stored address is found. -/
theorem fullAddress_of_canAccept (hinbox : inbox ∈ s.db.inboxes)
    (h : canAccept m { s with redis := .empty } now rcptTo = .ok inbox.id) :
    inbox.fullAddress = normalize m rcptTo := by
  unfold canAccept at h
  simp only [Expiring.Store.get, Expiring.Store.empty] at h
  split at h
  · split at h
    · cases h
    split at h
    · cases h
    rename_i found hfound
    obtain ⟨hmem, hfull, _⟩ := Db.getByFullAddress_eq_some.mp hfound
    split at h
    · cases h
    have hsame : found = inbox := UniqueTable.eq_of_key_eq hmem hinbox (Except.ok.inj h)
    rw [← hsame]
    exact hfull
  · cases h

/-- In every run and for every live inbox: mail for its address is delivered however the
sender spells it, with the cache as it is and with an empty one, exactly if the address is
stored in the form in which addresses are looked up. It is, unless the setup wizard stored
the name of the domain. -/
theorem own_address_delivered_iff {es : List Event} (h : Guarded (step m) InOrder .empty es)
    (hinbox : inbox ∈ (run (step m) .empty es).db.inboxes) (hlive : inbox.live now = true) :
    ((∀ rcptTo, normalize m rcptTo = normalize m inbox.fullAddress →
        Delivers m (run (step m) .empty es) now inbox rcptTo ∧
          Delivers m { run (step m) .empty es with redis := .empty } now inbox rcptTo) ↔
      normalize m inbox.fullAddress = inbox.fullAddress) ∧
    ((∀ domain ∈ (run (step m) .empty es).db.domains, domain.id = inbox.domainID →
        ¬ SetUp es domain.domainName) →
      normalize m inbox.fullAddress = inbox.fullAddress) := by
  have hrun : (run (step m) .empty es).Addressed
      fun name => SetUp es name ∨ ∀ b ∈ name, isPlain b = true :=
    run_addressed h fun _ he _ => setUp_or_plain he
  refine ⟨⟨fun hall => ?_, fun hstored rcptTo hrcpt => ?_⟩, fun hnames => ?_⟩
  · -- The address itself, looked up in the database, tells how it is stored.
    exact (fullAddress_of_canAccept hinbox (hall inbox.fullAddress rfl).2.1).symm
  · rw [hstored] at hrcpt
    exact ⟨hrun.delivers hinbox hlive hrcpt, hrun.flush.delivers hinbox hlive hrcpt⟩
  · obtain ⟨_, haddress, ⟨domain, hdomain, hid, hfull⟩, _⟩ := hrun.wellFormed inbox hinbox
    refine normalize_plain m fun b hb => ?_
    rw [hfull, List.mem_append, List.mem_append] at hb
    rcases hb with (haddr | hat) | hname
    · have h := haddress b haddr
      rw [isPlain_iff, isVisible_iff]
      simp only [isAliasByte, isAlnum, Bool.or_eq_true, Bool.and_eq_true, decide_eq_true_eq,
        UInt8.le_iff_toNat_le, ← UInt8.toNat_inj, UInt8.reduceToNat] at h
      omega
    · rw [List.mem_singleton.mp hat]
      decide
    · have hplain := (hrun.names domain hdomain).resolve_left (hnames domain hdomain hid)
      exact hplain b hname

end

/-- Joe's inbox has the address `joe@ex.am`, and mail reaches it in capitals as well. -/
theorem sample_address_delivered :
    ∃ inbox ∈ sampleState.db.inboxes, inbox.fullAddress = lit "joe@ex.am" ∧
      Delivers .ascii sampleState 60 inbox (lit "JOE@EX.AM") ∧
      Delivers .ascii { sampleState with redis := .empty } 60 inbox (lit "JOE@EX.AM") := by
  have horder : Guarded (step .ascii) InOrder .empty (sampleRun (lit "ex.am")) := by decide +kernel
  obtain ⟨inbox, hinbox, hfull, hlive⟩ :
      ∃ inbox ∈ sampleState.db.inboxes, inbox.fullAddress = lit "joe@ex.am" ∧
        inbox.live 60 = true := by decide +kernel
  have hstored : normalize .ascii inbox.fullAddress = inbox.fullAddress := by
    rw [hfull]
    decide
  have hrcpt : normalize .ascii (lit "JOE@EX.AM") = normalize .ascii inbox.fullAddress := by
    rw [hfull]
    decide
  have hdelivered := (own_address_delivered_iff horder hinbox hlive).1.mpr hstored _ hrcpt
  exact ⟨inbox, hinbox, hfull, hdelivered⟩

def capitalState : State := run (step .ascii) .empty (sampleRun (lit "Ex.am"))

/-- A domain that was typed in with a capital: the inbox is live and in the cache, and its
own address is refused. -/
theorem capital_address_refused :
    Guarded (step .ascii) InOrder .empty (sampleRun (lit "Ex.am")) ∧
      (∃ inbox ∈ capitalState.db.inboxes,
        inbox.fullAddress = lit "joe@Ex.am" ∧ inbox.live 60 = true ∧
        capitalState.redis.get 60 inbox.fullAddress = some inbox.id) ∧
      canAccept .ascii capitalState 60 (lit "joe@Ex.am") =
        .error ⟨"unknown domain: %s", [.text (lit "ex.am")]⟩ := by
  decide +kernel

/-- What `process` stores for the address of an inbox is in that inbox. -/
theorem State.Addressed.inboxID_of_process {P : Bytes → Prop} {m : Casing} {s : State}
    {inbox : Inbox} {t : Times} {r : ReceiveRequest} (h : s.Addressed P)
    (hinbox : inbox ∈ s.db.inboxes) (hrcpt : normalize m r.email.toAddr = inbox.fullAddress)
    {email : Email} (hemail : email ∈ (process m s t r).2.db.emails) :
    email.inboxID = inbox.id ∨
      ∃ old ∈ s.db.emails, old.id = email.id ∧ old.inboxID = email.inboxID := by
  have hid (found : Inbox) (hfound : (lookupInbox s t inbox.fullAddress).1 = .ok found) :
      found.id = inbox.id := h.id_of_lookupInbox hinbox hfound
  have hdb := lookupInbox_db s t inbox.fullAddress
  simp only [process, hrcpt] at hemail
  generalize lookupInbox s t inbox.fullAddress = lookup at hid hdb hemail
  obtain ⟨result, s₁⟩ := lookup
  rw [← show s₁.db = s.db from hdb]
  cases result with
  | error err => exact .inr ⟨email, hemail, rfl, rfl⟩
  | ok found =>
    simp only at hemail
    split at hemail
    · exact .inr ⟨email, hemail, rfl, rfl⟩
    split at hemail
    · exact .inr ⟨email, hemail, rfl, rfl⟩
    rename_i db hcreate
    obtain ⟨row, hrow, hrowID, hin⟩ :=
      (exists_mem_storeAttachments_iff r).mp ⟨email, hemail, rfl, rfl⟩
    have hstored := (Db.insertEmail_eq_ok (InboundEmail.create_eq_ok hcreate)).1 row
    rcases hstored.mp hrow with rfl | hold
    · exact .inl (hin.symm.trans (hid found rfl))
    · exact .inr ⟨row, hold, hrowID, hin⟩

/-- In every run each inbox is well formed, and a message whose recipient is looked up under the
address of an inbox is stored in no other inbox, whatever the cache still holds. -/
theorem own_inbox_only {m : Casing} {es : List Event} (h : Guarded (step m) InOrder .empty es) :
    let s := run (step m) .empty es
    s.db.WellFormed ∧
      ∀ inbox ∈ s.db.inboxes, ∀ t r, normalize m r.email.toAddr = inbox.fullAddress →
        ∀ email ∈ (process m s t r).2.db.emails, email.inboxID = inbox.id ∨
          ∃ old ∈ s.db.emails, old.id = email.id ∧ old.inboxID = email.inboxID := by
  have hrun : (run (step m) .empty es).Addressed fun _ => True :=
    run_addressed h fun _ _ _ _ => trivial
  exact ⟨hrun.wellFormed, fun _ hinbox _ _ hrcpt _ => hrun.inboxID_of_process hinbox hrcpt⟩

/-- A message for Joe, in capitals, comes into Joe's inbox. -/
theorem sample_message_in_own_inbox :
    ∃ inbox ∈ sampleState.db.inboxes, inbox.fullAddress = lit "joe@ex.am" ∧
      ∃ email ∈ (process .ascii sampleState ⟨60, 60, 60⟩
        (sampleMessage (lit "JOE@EX.AM") 5)).2.db.emails, email.inboxID = inbox.id := by
  obtain ⟨inbox, hinbox, hfull, email, hemail, hnew⟩ :
      ∃ inbox ∈ sampleState.db.inboxes, inbox.fullAddress = lit "joe@ex.am" ∧
        ∃ email ∈ (process .ascii sampleState ⟨60, 60, 60⟩
          (sampleMessage (lit "JOE@EX.AM") 5)).2.db.emails,
          ∀ old ∈ sampleState.db.emails, old.id ≠ email.id := by decide +kernel
  have hrcpt : normalize .ascii (lit "JOE@EX.AM") = inbox.fullAddress := by
    rw [hfull]
    decide
  have hown := (own_inbox_only (by decide +kernel)).2 inbox hinbox _
    (sampleMessage (lit "JOE@EX.AM") 5) hrcpt email hemail
  refine ⟨inbox, hinbox, hfull, email, hemail, hown.resolve_right ?_⟩
  rintro ⟨old, hold, hid, _⟩
  exact hnew old hold hid

end BurnerByte.Mailbox
