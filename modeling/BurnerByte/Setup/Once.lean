import BurnerByte.Setup.Complete

/-!
# The setup is completed once

A request that commits found the setup open and leaves it closed. Since the requests commit as if
they ran one after the other, no second one commits. Most of this module says what the statements
of one request create, and what they leave alone.
-/

namespace BurnerByte.Setup

open Exclusive Outcome Rbac Sql
open Trace (run run_append run_cons run_nil)

/-! ## What one request creates -/

variable {s s' : Store}

/-- The rows that a request creates besides those of its options. -/
structure Created (r : Request) (s s' : Store) : Prop where
  admin : ∃ user : Account.User, user.isSystemAdmin = true ∧
    s'.svc.accounts.table.rows = ⟨r.draws.userID, user⟩ :: s.svc.accounts.table.rows
  org : ∃ org : Organization, org.id = r.draws.orgID ∧ s'.orgs.rows = org :: s.orgs.rows
  owner : s'.orgMembers.rows =
    ⟨r.draws.userID, r.draws.orgID, "owner", owner_mem_orgRoles⟩ :: s.orgMembers.rows
  domain : ∃ domain : Domain, domain.orgID = r.draws.orgID ∧
    s'.domains.rows = domain :: s.domains.rows

theorem insertOrg_rows {org : Organization}
    {orgs : UniqueTable Organization UUID String Organization.id Organization.slug}
    (h : s.insertOrg org = .ok orgs) :
    ∃ new : Organization, new.id = org.id ∧ orgs.rows = new :: s.orgs.rows := by
  unfold Store.insertOrg at h
  split at h
  · split at h
    · cases h
    rename_i hinsert
    cases h
    refine ⟨_, ?_, UniqueTable.rows_insert hinsert⟩
    rfl
  · cases h

theorem insertOrgMember_rows {userID orgID : UUID}
    {orgMembers : Table OrgMembership (UUID × UUID) Sso.orgMemberKey}
    (h : s.insertOrgMember userID orgID "owner" = .ok orgMembers) :
    orgMembers.rows = ⟨userID, orgID, "owner", owner_mem_orgRoles⟩ :: s.orgMembers.rows := by
  unfold Store.insertOrgMember at h
  rw [dif_pos owner_mem_orgRoles] at h
  split at h
  · split at h
    · cases h
    rename_i hinsert
    cases h
    exact Table.rows_insert hinsert
  · cases h

theorem insertDomain_rows {domain : Domain}
    {domains : UniqueTable Domain UUID String Domain.id Domain.domainName}
    (h : s.insertDomain domain = .ok domains) :
    ∃ new : Domain, new.orgID = domain.orgID ∧ domains.rows = new :: s.domains.rows := by
  unfold Store.insertDomain at h
  split at h
  · cases h
  split at h
  · split at h
    · cases h
    rename_i hinsert
    cases h
    refine ⟨_, ?_, UniqueTable.rows_insert hinsert⟩
    rfl
  · cases h

/-- An update of the newest row leaves the others alone. -/
theorem updateOrg_rows {org old : Organization} {rows : List Organization}
    {orgs : UniqueTable Organization UUID String Organization.id Organization.slug}
    (hrows : s.orgs.rows = old :: rows) (hid : old.id = org.id) (h : s.updateOrg org = .ok orgs) :
    ∃ new : Organization, new.id = org.id ∧ orgs.rows = new :: rows := by
  unfold Store.updateOrg at h
  split at h
  · rename_i name slug _ _
    split at h
    · cases h
    rename_i hupdate
    cases h
    refine ⟨{ old with name, slug, logoURL := org.logoURL }, hid, ?_⟩
    rw [congrArg Table.rows (UniqueTable.tryUpdate_eq_some hupdate)]
    simp only [Table.updateWhere, hrows, List.map_cons, hid, decide_true, if_true]
    refine congrArg _ ((List.map_congr_left fun row hrow => ?_).trans (List.map_id _))
    -- the identifiers of the other rows are different ones
    have hfresh := s.orgs.unique
    rw [hrows, List.map_cons, List.nodup_cons, hid] at hfresh
    rw [if_neg]
    · rfl
    · intro heq
      exact hfresh.1 (of_decide_eq_true heq ▸ List.mem_map_of_mem hrow)
  · cases h

/-! ## What the other writes leave alone -/

/-- The same users, organizations, memberships and domains. -/
structure SameTenants (s s' : Store) : Prop where
  accounts : s'.svc.accounts = s.svc.accounts
  orgs : s'.orgs = s.orgs
  orgMembers : s'.orgMembers = s.orgMembers
  domains : s'.domains = s.domains

theorem SameTenants.refl (s : Store) : SameTenants s s := ⟨rfl, rfl, rfl, rfl⟩

theorem SameTenants.trans {s'' : Store} (h : SameTenants s s') (h' : SameTenants s' s'') :
    SameTenants s s'' where
  accounts := h'.accounts.trans h.accounts
  orgs := h'.orgs.trans h.orgs
  orgMembers := h'.orgMembers.trans h.orgMembers
  domains := h'.domains.trans h.domains

namespace Write

/-- Writes to the other tables. -/
def Plain : Write → Prop
  | user .. | org .. | owner .. | domain .. | branding .. => False
  | _ => True

theorem sameTenants {write : Write} (hplain : write.Plain) (h : write.run s = .ok s') :
    SameTenants s s' := by
  cases write with
  | user id user | org org | owner userID orgID | domain domain | branding org => exact hplain.elim
  | config key value | complete now userID =>
    cases h
    exact ⟨rfl, rfl, rfl, rfl⟩
  | session session =>
    obtain ⟨svc, hinsert, rfl⟩ := map_eq_ok h
    obtain ⟨_, _, rfl⟩ := Account.insertSession_eq_ok (mapError_eq_ok.mp hinsert)
    exact ⟨rfl, rfl, rfl, rfl⟩
  | _ =>
    obtain ⟨_, _, rfl⟩ := map_eq_ok h
    exact ⟨rfl, rfl, rfl, rfl⟩

/-- Execute writes one after the other. -/
abbrev runAll (writes : List Write) (s : Store) : Except RepoError Store :=
  writes.foldlM (fun s write => write.run s) s

variable {writes : List Write}

theorem runAll_sameTenants (hplain : ∀ write ∈ writes, write.Plain) (h : runAll writes s = .ok s') :
    SameTenants s s' := by
  induction writes generalizing s with
  | nil =>
    obtain rfl := Except.ok.inj h
    exact .refl s
  | cons write writes ih =>
    obtain ⟨s₁, hrun, hrest⟩ := bind_eq_ok.mp h
    have hfirst := sameTenants (hplain write List.mem_cons_self) hrun
    exact hfirst.trans (ih (fun w hw => hplain w (List.mem_cons_of_mem write hw)) hrest)

theorem runAll_cons {write : Write} (h : runAll (write :: writes) s = .ok s') :
    ∃ s₁, write.run s = .ok s₁ ∧ runAll writes s₁ = .ok s' :=
  bind_eq_ok.mp h

theorem runAll_append {writes' : List Write} (h : runAll (writes ++ writes') s = .ok s') :
    ∃ s₁, runAll writes s = .ok s₁ ∧ runAll writes' s₁ = .ok s' := by
  rw [runAll, List.foldlM_append] at h
  exact bind_eq_ok.mp h

end Write

/-! ## A request alone -/

namespace Request

variable (r : Request)

theorem plain_of_mem_storageStmts :
    ∀ write ∈ r.storageStmts.filterMap Stmt.write?, write.Plain := by
  unfold storageStmts
  split
  · exact fun _ h => absurd h List.not_mem_nil
  split
  · exact fun _ h => absurd h List.not_mem_nil
  intro write h
  rw [List.mem_singleton.mp h]
  trivial

theorem plain_of_mem_teamStmts : ∀ write ∈ r.teamStmts.filterMap Stmt.write?, write.Plain := by
  unfold teamStmts
  split
  · exact fun _ h => absurd h List.not_mem_nil
  split
  · exact fun _ h => absurd h List.not_mem_nil
  intro write h
  obtain rfl | h := List.mem_cons.mp h
  · trivial
  rw [List.mem_singleton.mp h]
  trivial

theorem plain_of_mem_inviteStmts :
    ∀ write ∈ r.inviteStmts.filterMap Stmt.write?, write.Plain := by
  intro write h
  obtain ⟨stmt, hstmt, hwrite⟩ := List.mem_filterMap.mp h
  obtain ⟨_, _, rfl⟩ := List.mem_map.mp hstmt
  cases hwrite
  trivial

/-- The new organization is still the new row when its logo has been saved. -/
theorem brandingStmts_rows {org : Organization} {rows : List Organization}
    (hrows : s.orgs.rows = org :: rows) (hid : org.id = r.draws.orgID)
    (h : Write.runAll (r.brandingStmts.filterMap Stmt.write?) s = .ok s') :
    (∃ new : Organization, new.id = r.draws.orgID ∧ s'.orgs.rows = new :: rows) ∧
      s'.svc = s.svc ∧ s'.orgMembers = s.orgMembers ∧ s'.domains = s.domains := by
  unfold brandingStmts at h
  split at h
  · cases h
    exact ⟨⟨org, hid, hrows⟩, rfl, rfl, rfl⟩
  obtain ⟨s₁, hrun, hrest⟩ := Write.runAll_cons h
  cases hrest
  obtain ⟨orgs, hupdate, rfl⟩ := map_eq_ok hrun
  exact ⟨updateOrg_rows hrows hid hupdate, rfl, rfl, rfl⟩

theorem stmts_writes (hash : String) :
    (r.stmts hash).filterMap Stmt.write? =
      [.user r.draws.userID (r.account.user hash), .org r.org,
        .owner r.draws.userID r.draws.orgID] ++
      (.config "mailer" (.mailer r.input.smtp) :: r.storageStmts.filterMap Stmt.write?) ++
      [.domain ⟨r.draws.domainID, r.draws.orgID, r.input.domainName⟩] ++
      r.teamStmts.filterMap Stmt.write? ++ r.brandingStmts.filterMap Stmt.write? ++
      r.inviteStmts.filterMap Stmt.write? ++
      [.complete r.draws.now r.draws.userID,
        .session (r.draws.issue.session r.cfg r.draws.userID none)] := by
  simp only [stmts, List.filterMap_append]
  rfl

/-- The user, the organization and its owner. -/
theorem created_tenant {hash : String}
    (h : Write.runAll [.user r.draws.userID (r.account.user hash), .org r.org,
      .owner r.draws.userID r.draws.orgID] s = .ok s') :
    (∃ user : Account.User, user.isSystemAdmin = true ∧
      s'.svc.accounts.table.rows = ⟨r.draws.userID, user⟩ :: s.svc.accounts.table.rows) ∧
    (∃ org : Organization, org.id = r.draws.orgID ∧ s'.orgs.rows = org :: s.orgs.rows) ∧
    s'.orgMembers.rows =
      ⟨r.draws.userID, r.draws.orgID, "owner", owner_mem_orgRoles⟩ :: s.orgMembers.rows ∧
    s'.domains = s.domains := by
  obtain ⟨s₁, huser, h⟩ := Write.runAll_cons h
  obtain ⟨s₂, horg, h⟩ := Write.runAll_cons h
  obtain ⟨s₃, howner, h⟩ := Write.runAll_cons h
  cases h
  obtain ⟨svc, hinsert, rfl⟩ := map_eq_ok huser
  obtain ⟨accounts, hcreate, rfl⟩ := Account.insertUser_eq_ok hinsert
  obtain ⟨orgs, horgs, rfl⟩ := map_eq_ok horg
  obtain ⟨orgMembers, hmembers, rfl⟩ := map_eq_ok howner
  have haccount := Table.rows_insert (Account.Accounts.create_eq_ok hcreate)
  have hrow := insertOrgMember_rows hmembers
  exact ⟨⟨_, rfl, haccount⟩, insertOrg_rows horgs, hrow, rfl⟩

/-- The last two writes close the setup. -/
theorem completed_of_last {now : Nat} {userID : UUID} {session : Account.Session}
    (h : Write.runAll [.complete now userID, .session session] s = .ok s') :
    s'.svc.setupCompleted = true := by
  obtain ⟨s₁, hcomplete, h⟩ := Write.runAll_cons h
  obtain ⟨s₂, hsession, h⟩ := Write.runAll_cons h
  cases h
  cases hcomplete
  obtain ⟨svc, hinsert, rfl⟩ := map_eq_ok hsession
  obtain ⟨_, _, rfl⟩ := Account.insertSession_eq_ok (mapError_eq_ok.mp hinsert)
  rfl

theorem created {hash : String}
    (h : Write.runAll ((r.stmts hash).filterMap Stmt.write?) s = .ok s') :
    Created r s s' ∧ s'.svc.setupCompleted = true := by
  rw [stmts_writes] at h
  obtain ⟨s₆, h, hlast⟩ := Write.runAll_append h
  obtain ⟨s₅, h, hinvites⟩ := Write.runAll_append h
  obtain ⟨s₄, h, hbranding⟩ := Write.runAll_append h
  obtain ⟨s₃, h, hteam⟩ := Write.runAll_append h
  obtain ⟨s₂, h, hdomain⟩ := Write.runAll_append h
  obtain ⟨s₁, htenant, hsettings⟩ := Write.runAll_append h
  refine ⟨?_, completed_of_last hlast⟩
  obtain ⟨hadmin, ⟨org, hid, horgs⟩, howner, hdomains⟩ := r.created_tenant htenant
  have hsame₂ : SameTenants s₁ s₂ := by
    refine Write.runAll_sameTenants (fun write hwrite => ?_) hsettings
    obtain rfl | hwrite := List.mem_cons.mp hwrite
    · trivial
    · exact r.plain_of_mem_storageStmts write hwrite
  obtain ⟨s₃', hrun, hnil⟩ := Write.runAll_cons hdomain
  cases hnil
  obtain ⟨domains, hinsert, rfl⟩ := map_eq_ok hrun
  obtain ⟨domain, hdomainOrg, hnew⟩ := insertDomain_rows hinsert
  have hsame₄ := Write.runAll_sameTenants r.plain_of_mem_teamStmts hteam
  have hrows : s₄.orgs.rows = org :: s.orgs.rows := by
    rw [hsame₄.orgs]
    exact (congrArg (fun orgs => orgs.rows) hsame₂.orgs).trans horgs
  obtain ⟨horg₅, hsvc₅, hmembers₅, hdomains₅⟩ := r.brandingStmts_rows hrows hid hbranding
  have hsame₆ := Write.runAll_sameTenants r.plain_of_mem_inviteStmts hinvites
  have hsame₇ : SameTenants s₆ s' := by
    refine Write.runAll_sameTenants (fun write hwrite => ?_) hlast
    obtain rfl | hwrite := List.mem_cons.mp hwrite
    · trivial
    rw [List.mem_singleton.mp hwrite]
    trivial
  have hsame := hsame₆.trans hsame₇
  refine ⟨?_, ?_, ?_, ⟨domain, hdomainOrg, ?_⟩⟩
  · rw [hsame.accounts, hsvc₅, hsame₄.accounts]
    rw [← hsame₂.accounts] at hadmin
    exact hadmin
  · rw [hsame.orgs]
    exact horg₅
  · rw [hsame.orgMembers, hmembers₅, hsame₄.orgMembers]
    rw [← hsame₂.orgMembers] at howner
    exact howner
  · rw [hsame.domains, hdomains₅, hsame₄.domains, ← hdomains, ← hsame₂.domains]
    exact hnew

/-- A request that commits found the setup open, creates the rows and closes the setup. -/
theorem serial_eq_ok (h : r.complete.serial Write.run Teams.abortedError s = .ok s') :
    s.svc.setupCompleted = false ∧ Created r s s' ∧ s'.svc.setupCompleted = true := by
  obtain ⟨hchecks, hwrites⟩ := Job.serial_eq_ok h
  have hopen : s.svc.setupCompleted = false := by
    have hcheck := hchecks _ (List.mem_append_left _ (List.mem_cons_of_mem _ List.mem_cons_self))
    simpa using (guard_eq_ok.mp hcheck).1
  refine ⟨hopen, ?_⟩
  cases hhash : r.cfg.env.hashPassword r.input.password with
  | error reason =>
    -- the computation that fails is one of the statements
    have hfailed : Stmt.check (.error "failed to hash password") ∈ r.complete.stmts s := by
      simp [complete, hhash]
    cases hchecks _ hfailed
  | ok hash =>
    have hstmts : r.complete.stmts s =
        [r.call .status "failed to check setup status",
          .check (if s.svc.setupCompleted then .error "setup already completed" else .ok ())] ++
        r.stmts hash := by
      simp only [complete, hhash]
    rw [hstmts, List.filterMap_append] at hwrites
    exact r.created hwrites

end Request

/-! ## Requests at the same time -/

section

variable {ι : Type} (requests : ι → Request)

/-- A request executes its next statement. -/
def step [DecidableEq ι] :
    System ι Store Write RepoError String → ι → System ι Store Write RepoError String :=
  System.step Write.run Teams.abortedError fun i => (requests i).complete

/-- Requests that commit one after the other: the first of them closes the setup. -/
theorem serial_cases {order : List ι}
    (h : Serial Write.run Teams.abortedError (fun i => (requests i).complete) s order s') :
    (order = [] ∧ s' = s) ∨
      ∃ i, order = [i] ∧ Created (requests i) s s' ∧ s'.svc.setupCompleted = true := by
  induction h with
  | nil => exact .inl ⟨rfl, rfl⟩
  | snoc _ hrun ih =>
    obtain ⟨hopen, hcreated, hclosed⟩ := (requests _).serial_eq_ok hrun
    obtain ⟨rfl, rfl⟩ | ⟨j, _, _, hbefore⟩ := ih
    · exact .inr ⟨_, rfl, hcreated, hclosed⟩
    rw [hbefore] at hopen
    cases hopen

/-- However the requests are interleaved, at most one of them commits. It creates the administrator,
the organization that they own and its domain. Without a commit nothing is created, and what a
request does that does not commit leaves the database as it is. -/
theorem complete_commits_once [DecidableEq ι] (s : Store) (schedule : List ι) :
    (∀ i j, (run (step requests) (System.start s) schedule).places i = .committed →
      (run (step requests) (System.start s) schedule).places j = .committed → i = j) ∧
    (∀ i, (run (step requests) (System.start s) schedule).places i = .committed →
      Created (requests i) s (run (step requests) (System.start s) schedule).state) ∧
    ((∀ i, (run (step requests) (System.start s) schedule).places i ≠ .committed) →
      (run (step requests) (System.start s) schedule).state = s) ∧
    ∀ before i after, schedule = before ++ i :: after →
      (run (step requests) (System.start s) schedule).places i ≠ .committed →
      (run (step requests) (System.start s) (before ++ [i])).state =
        (run (step requests) (System.start s) before).state := by
  obtain ⟨order, _, hcommitted, hserial⟩ := exists_serial Write.run Teams.abortedError
    (fun i => (requests i).complete) s schedule
  change ∀ i, i ∈ order ↔
    (run (step requests) (System.start s) schedule).places i = .committed at hcommitted
  refine ⟨fun i j hi hj => ?_, fun i hi => ?_, fun hnone => ?_, fun before i after hsplit hi => ?_⟩
  · rw [← hcommitted] at hi hj
    obtain ⟨rfl, _⟩ | ⟨k, rfl, _⟩ := serial_cases requests hserial
    · exact absurd hi List.not_mem_nil
    · rw [List.mem_singleton.mp hi, List.mem_singleton.mp hj]
  · rw [← hcommitted] at hi
    obtain ⟨rfl, _⟩ | ⟨k, rfl, hcreated, _⟩ := serial_cases requests hserial
    · exact absurd hi List.not_mem_nil
    rw [List.mem_singleton.mp hi]
    exact hcreated
  · obtain ⟨_, hsame⟩ | ⟨k, rfl, _⟩ := serial_cases requests hserial
    · exact hsame
    · exact absurd ((hcommitted k).mp (List.mem_singleton_self k)) (hnone k)
  · rw [run_append, run_cons, run_nil]
    refine System.step_state _ i fun hcommit => hi ?_
    rw [hsplit, run_append, run_cons]
    exact System.run_committed _ hcommit after

end

end BurnerByte.Setup
