import BurnerByte.Teams.BulkInvites

/-!
# What an invitation into one organization reveals of others

`BulkInviteMembers` skips an address that has a pending invitation already.
`hasPendingInvite` takes the organization for this check, and does not use it: a pending
invitation of any organization counts. So an address may be skipped because of an
organization that the caller knows nothing of, and the response says so.

Two databases agree on an organization when they differ at most in what belongs to other
ones. On two such databases the function gives the same answer and makes the same changes
to the organization, except where that check tells them apart.
-/

namespace BurnerByte.Teams

open Sql Outcome

/-! ## Databases that agree on an organization -/

def Db.orgInvites (db : Db) (orgID : UUID) : List Invite :=
  db.invites.rows.filter fun inv => inv.orgID = orgID

/-- The teams of an invitation. -/
def Db.teamsOf (db : Db) (inviteID : UUID) : List InviteTeamAssign :=
  db.assignments.rows.filter fun a => a.inviteID = inviteID

/-- The databases have the same users and teams, and the organization has the same members and
invitations in both. -/
structure AgreeOn (orgID : UUID) (db db' : Db) : Prop where
  users : db'.svc.accounts = db.svc.accounts
  org : db'.getOrg orgID = db.getOrg orgID
  members : ∀ userID, db'.getOrgMembership userID orgID = db.getOrgMembership userID orgID
  teams : db'.teams = db.teams
  teamMembers : ∀ team ∈ db.teams, team.orgID = orgID →
    ∀ userID, db'.getMembership userID team.id = db.getMembership userID team.id
  invites : db'.orgInvites orgID = db.orgInvites orgID
  assignments : ∀ inv ∈ db.orgInvites orgID, db'.teamsOf inv.id = db.teamsOf inv.id

variable {orgID : UUID} {db db' db₁ db₁' : Db}

variable {inv : Invite} {new : Db.NewInvite}

theorem mem_orgInvites : inv ∈ db.orgInvites orgID ↔ inv ∈ db.invites ∧ inv.orgID = orgID := by
  unfold Db.orgInvites
  rw [List.mem_filter, decide_eq_true_eq]
  rfl

/-- Both databases keep what is not an invitation. -/
theorem AgreeOn.of_same (h : AgreeOn orgID db db') (hsame : db.SameButInvites db₁)
    (hsame' : db'.SameButInvites db₁') (hinvites : db₁'.orgInvites orgID = db₁.orgInvites orgID)
    (hassignments : ∀ inv ∈ db₁.orgInvites orgID, db₁'.teamsOf inv.id = db₁.teamsOf inv.id) :
    AgreeOn orgID db₁ db₁' where
  users := by rw [hsame.svc, hsame'.svc, h.users]
  org := by
    unfold Db.getOrg
    rw [hsame.orgs, hsame'.orgs]
    exact h.org
  members userID := by
    unfold Db.getOrgMembership
    rw [hsame.orgMembers, hsame'.orgMembers]
    exact h.members userID
  teams := by rw [hsame.teams, hsame'.teams, h.teams]
  teamMembers team hteam horg userID := by
    unfold Db.getMembership
    rw [hsame.teamMembers, hsame'.teamMembers]
    rw [hsame.teams] at hteam
    exact h.teamMembers team hteam horg userID
  invites := hinvites
  assignments := hassignments

theorem orgInvites_deleteInvites (p : Invite → Bool) :
    (db.deleteInvites p).orgInvites orgID = (db.orgInvites orgID).filter fun inv => !p inv :=
  List.filter_comm ..

/-- An invitation that stays keeps its teams. -/
theorem teamsOf_deleteInvites {p : Invite → Bool} (hinv : inv ∈ db.invites) (hp : p inv = false) :
    (db.deleteInvites p).teamsOf inv.id = db.teamsOf inv.id := by
  unfold Db.teamsOf Db.deleteInvites Table.deleteWhere
  rw [List.filter_filter]
  refine List.filter_congr fun a _ => ?_
  by_cases hid : a.inviteID = inv.id
  · have hkept : (db.invites.rows.any fun other => p other && other.id = a.inviteID) = false := by
      rw [List.any_eq_false]
      intro other hother hdeleted
      simp only [Bool.and_eq_true, decide_eq_true_eq] at hdeleted
      obtain rfl : other = inv :=
        UniqueTable.eq_of_key_eq (t := db.invites) hother hinv (hdeleted.2.trans hid)
      rw [hp] at hdeleted
      cases hdeleted.1
    simp [hkept]
  · simp [hid]

theorem AgreeOn.deleteInvites (h : AgreeOn orgID db db') (p : Invite → Bool) :
    AgreeOn orgID (db.deleteInvites p) (db'.deleteInvites p) := by
  refine h.of_same ⟨rfl, rfl, rfl, rfl, rfl⟩ ⟨rfl, rfl, rfl, rfl, rfl⟩ ?_ ?_
  · rw [orgInvites_deleteInvites, orgInvites_deleteInvites, h.invites]
  · intro inv hinv
    rw [orgInvites_deleteInvites, List.mem_filter, Bool.not_eq_true'] at hinv
    have hother : inv ∈ db'.orgInvites orgID := by
      rw [h.invites]
      exact hinv.1
    rw [teamsOf_deleteInvites (mem_orgInvites.mp hother).1 hinv.2,
      teamsOf_deleteInvites (mem_orgInvites.mp hinv.1).1 hinv.2]
    exact h.assignments inv hinv.1

/-- A new invitation of the organization has no teams yet, in either database. -/
theorem AgreeOn.createInvite (h : AgreeOn orgID db db') (hid : ∀ inv ∈ db.invites, inv.id ≠ new.id)
    (hid' : ∀ inv ∈ db'.invites, inv.id ≠ new.id) (hcreate : db.createInvite new = .ok db₁)
    (hcreate' : db'.createInvite new = .ok db₁') : AgreeOn orgID db₁ db₁' := by
  obtain ⟨hsame, _, hassigned, email, hroles, hemail, hrows⟩ := createInvite_eq_ok hcreate
  obtain ⟨hsame', _, hassigned', email', _, hemail', hrows'⟩ := createInvite_eq_ok hcreate'
  obtain rfl := Option.some.inj (hemail.symm.trans hemail')
  have hnone {d : Db} (hunused : ∀ inv ∈ d.invites, inv.id ≠ new.id) : d.teamsOf new.id = [] := by
    refine List.filter_eq_nil_iff.mpr fun a ha hnew => ?_
    obtain ⟨owner, howner, hkey⟩ := d.assignment_invite a ha
    exact hunused owner howner (hkey.trans (of_decide_eq_true hnew))
  have hkeep (id : UUID) : db₁.teamsOf id = db.teamsOf id ∧ db₁'.teamsOf id = db'.teamsOf id := by
    unfold Db.teamsOf
    rw [hassigned, hassigned']
    exact ⟨rfl, rfl⟩
  refine h.of_same hsame hsame' ?_ ?_
  · unfold Db.orgInvites
    rw [hrows, hrows', List.filter_cons, List.filter_cons]
    have hinvites : db'.invites.rows.filter (fun inv => inv.orgID = orgID) =
        db.invites.rows.filter fun inv => inv.orgID = orgID := h.invites
    rw [hinvites]
  · intro old hold
    rw [(hkeep old.id).1, (hkeep old.id).2]
    obtain ⟨hmem, horg⟩ := mem_orgInvites.mp hold
    have hmem : old ∈ (new.row email hroles :: db.invites.rows : List Invite) := hrows ▸ hmem
    rcases List.mem_cons.mp hmem with rfl | hmem
    · exact (hnone hid').trans (hnone hid).symm
    · exact h.assignments old (mem_orgInvites.mpr ⟨hmem, horg⟩)

/-- An invitation of another organization is nothing to this one. -/
theorem agreeOn_createInvite (h : db.createInvite new = .ok db') (horg : new.orgID ≠ orgID) :
    AgreeOn orgID db db' := by
  obtain ⟨hsame, _, hassigned, _, _, _, hrows⟩ := createInvite_eq_ok h
  have hrefl : AgreeOn orgID db db :=
    ⟨rfl, rfl, fun _ => rfl, rfl, fun _ _ _ _ => rfl, rfl, fun _ _ => rfl⟩
  refine hrefl.of_same (.refl db) hsame ?_ fun old _ => ?_
  · unfold Db.orgInvites
    rw [hrows, List.filter_cons_of_neg]
    exact fun heq => horg (of_decide_eq_true heq)
  · unfold Db.teamsOf
    rw [hassigned]

theorem AgreeOn.createInviteTeamAssignments {inviteID : UUID} {assignments : List TeamAssign}
    (h : AgreeOn orgID db db')
    (hcreate : Teams.createInviteTeamAssignments db inviteID assignments = .ok db₁)
    (hcreate' : Teams.createInviteTeamAssignments db' inviteID assignments = .ok db₁') :
    AgreeOn orgID db₁ db₁' := by
  obtain ⟨hsame, hinvites, _, hrows⟩ := createInviteTeamAssignments_eq_ok hcreate
  obtain ⟨hsame', hinvites', _, hrows'⟩ := createInviteTeamAssignments_eq_ok hcreate'
  have horg : db₁.orgInvites orgID = db.orgInvites orgID := by
    unfold Db.orgInvites
    rw [hinvites]
  have horg' : db₁'.orgInvites orgID = db'.orgInvites orgID := by
    unfold Db.orgInvites
    rw [hinvites']
  refine h.of_same hsame hsame' (by rw [horg, horg', h.invites]) fun inv hinv => ?_
  rw [horg] at hinv
  have hold : db'.assignments.rows.filter (fun a => a.inviteID = inv.id) =
      db.assignments.rows.filter fun a => a.inviteID = inv.id := h.assignments inv hinv
  unfold Db.teamsOf
  rw [hrows, hrows', List.filter_append, List.filter_append, hold]

/-! ## The parts of a request -/

/-- The same answer, and databases that agree on the organization afterwards. -/
def SameFor (orgID : UUID) :
    Except String (BulkInviteResult × Db) → Except String (BulkInviteResult × Db) → Prop
  | .ok (result, db), .ok (result', db') => result' = result ∧ AgreeOn orgID db db'
  | .error msg, .error msg' => msg' = msg
  | .ok _, .error _ => False
  | .error _, .ok _ => False

theorem SameFor.result_eq {r r' : Except String (BulkInviteResult × Db)}
    (h : SameFor orgID r r') : r'.toOption.map Prod.fst = r.toOption.map Prod.fst := by
  match r, r', h with
  | .ok (_, _), .ok (_, _), h => exact congrArg some h.1
  | .error _, .error _, _ => rfl

variable {env : Org.Env} {now : Nat} {inviterID : UUID} {input : BulkInviteMemberInput}
  {fresh : String → UUID × String} {email : String} {emails : List String} {s : Screening}

section

variable (h : AgreeOn orgID db db')

include h

theorem AgreeOn.inviteAddress (hdraws : Draws env fresh emails db)
    (hdraws' : Draws env fresh emails db') (hemail : email ∈ emails)
    (hinvite : Teams.inviteAddress env now orgID inviterID input fresh db email = .ok db₁)
    (hinvite' : Teams.inviteAddress env now orgID inviterID input fresh db' email = .ok db₁') :
    AgreeOn orgID db₁ db₁' := by
  obtain ⟨created, hcreate, hteams⟩ := bind_eq_ok.mp hinvite
  obtain ⟨created', hcreate', hteams'⟩ := bind_eq_ok.mp hinvite'
  refine .createInviteTeamAssignments ?_ hteams hteams'
  refine (h.deleteInvites _).createInvite ?_ ?_ hcreate hcreate'
  · exact fun inv hinv => hdraws.id_new email hemail inv (UniqueTable.mem_deleteWhere.mp hinv).1
  · exact fun inv hinv => hdraws'.id_new email hemail inv (UniqueTable.mem_deleteWhere.mp hinv).1

theorem AgreeOn.inviteAddresses (hdraws : Draws env fresh emails db)
    (hdraws' : Draws env fresh emails db') (hnodup : emails.Nodup)
    (hinvite : emails.foldlM (Teams.inviteAddress env now orgID inviterID input fresh) db = .ok db₁)
    (hinvite' : emails.foldlM (Teams.inviteAddress env now orgID inviterID input fresh) db' =
      .ok db₁') : AgreeOn orgID db₁ db₁' := by
  induction emails generalizing db db' with
  | nil =>
    cases hinvite
    cases hinvite'
    exact h
  | cons email emails ih =>
    obtain ⟨hnew, hnodup⟩ := List.nodup_cons.mp hnodup
    obtain ⟨next, hfirst, hrest⟩ := bind_eq_ok.mp hinvite
    obtain ⟨next', hfirst', hrest'⟩ := bind_eq_ok.mp hinvite'
    exact ih (h.inviteAddress hdraws hdraws' List.mem_cons_self hfirst hfirst')
      (hdraws.next hnew hfirst) (hdraws'.next hnew hfirst') hnodup hrest hrest'

theorem AgreeOn.pendingIn_iff : db'.PendingIn now orgID email ↔ db.PendingIn now orgID email := by
  have hmem {d : Db} : d.PendingIn now orgID email ↔ ∃ inv ∈ d.orgInvites orgID,
      inv.email = email ∧ inv.acceptedAt = none ∧ now < inv.expiresAt := by
    simp only [mem_orgInvites, and_assoc]
    rfl
  rw [hmem, hmem, h.invites]

theorem AgreeOn.isOrgMember (email : String) :
    Teams.isOrgMember db' orgID email = Teams.isOrgMember db orgID email := by
  unfold Teams.isOrgMember
  simp only [h.users, h.members]

/-- Two databases give the same screening if they have the same pending invitations of the eligible
addresses. -/
theorem AgreeOn.screening_eq (hpending : ∀ email, Names env db orgID emails email →
        hasPendingInvite now db' email = hasPendingInvite now db email) :
    emails.foldl (Teams.screenEmail env now db' orgID) s =
      emails.foldl (Teams.screenEmail env now db orgID) s := by
  refine List.foldl_ext _ _ _ fun s raw hraw => ?_
  unfold Teams.screenEmail
  dsimp only
  split
  · rfl
  rename_i hnonempty
  split
  · rfl
  split
  · rfl
  rename_i hvalid
  rw [h.isOrgMember]
  split
  · rfl
  rename_i hstranger
  rw [hpending _ ⟨List.mem_map_of_mem hraw, hnonempty, hvalid, Bool.eq_false_iff.mpr hstranger⟩]

theorem AgreeOn.validateTeamAssignments (seen : List UUID) (assignments : List TeamAssign) :
    Teams.validateTeamAssignments env db' orgID seen assignments =
      Teams.validateTeamAssignments env db orgID seen assignments := by
  have hone (a : TeamAssign) :
      validateTeamAssign env db' orgID a = validateTeamAssign env db orgID a := by
    unfold validateTeamAssign Db.getTeam
    rw [h.teams]
  induction assignments generalizing seen with
  | nil => rfl
  | cons a assignments ih => simp only [Teams.validateTeamAssignments, hone, ih]

theorem AgreeOn.refused (hrefused : Refused env db orgID input) :
    SameFor orgID (bulkInviteMembers env now db orgID input inviterID fresh)
      (bulkInviteMembers env now db' orgID input inviterID fresh) := by
  unfold bulkInviteMembers
  rw [h.validateTeamAssignments]
  by_cases hlength : 100 < input.emails.length
  · rw [if_pos hlength, if_pos hlength]
    rfl
  rw [if_neg hlength, if_neg hlength]
  by_cases hrole : (!env.cache.hasRole input.orgRole) = true
  · rw [if_pos hrole, if_pos hrole]
    rfl
  rw [if_neg hrole, if_neg hrole]
  have hrole : env.cache.hasRole input.orgRole ≠ false := by simpa using hrole
  have hchecks := (hrefused.resolve_left hlength).resolve_left hrole
  split
  · rfl
  · rfl
  · rename_i hauth hteams
    exact absurd hchecks (not_or.mpr ⟨not_not.mpr hauth, not_not.mpr hteams⟩)

end

/-! ## The whole request -/

/-- The notes on skipped addresses tell which of them are pending elsewhere. -/
theorem pendingElsewhere_iff_of_skipped {s' : Screening} (hagree : AgreeOn orgID db db')
    (hscreened : Screened env now db orgID input.emails s)
    (hscreened' : Screened env now db' orgID input.emails s')
    (hskipped : s'.result.skipped = s.result.skipped) (hasks : Asks env now db orgID input email) :
    db.PendingElsewhere now orgID email ↔ db'.PendingElsewhere now orgID email := by
  obtain ⟨⟨hmem, heligible⟩, hnot⟩ := hasks
  have heligible' : Eligible env db' orgID email :=
    ⟨heligible.nonempty, heligible.valid, by rw [hagree.isOrgMember, heligible.stranger]⟩
  have hnot' : ¬ db'.PendingIn now orgID email := mt hagree.pendingIn_iff.mp hnot
  have hnote := hscreened.invited email
  have hnote' := hscreened'.invited email
  rw [hskipped, hnote, @hasPendingInvite_iff now orgID db email,
    @hasPendingInvite_iff now orgID db' email] at hnote'
  constructor
  · exact fun h => (hnote'.mp ⟨⟨hmem, heligible⟩, .inr h⟩).2.resolve_left hnot'
  · exact fun h => (hnote'.mpr ⟨⟨hmem, heligible'⟩, .inr h⟩).2.resolve_left hnot

theorem hasPendingInvite_eq_of_agree (hagree : AgreeOn orgID db db')
    (helsewhere : ∀ email, Asks env now db orgID input email →
      (db.PendingElsewhere now orgID email ↔ db'.PendingElsewhere now orgID email))
    (hnames : Names env db orgID input.emails email) :
    hasPendingInvite now db' email = hasPendingInvite now db email := by
  rw [Bool.eq_iff_iff, @hasPendingInvite_iff now orgID db' email,
    @hasPendingInvite_iff now orgID db email, hagree.pendingIn_iff]
  by_cases hpending : db.PendingIn now orgID email
  · exact iff_of_true (.inl hpending) (.inl hpending)
  · rw [helsewhere email ⟨hnames, hpending⟩]

theorem AgreeOn.asks_iff (h : AgreeOn orgID db db') :
    Asks env now db' orgID input email ↔ Asks env now db orgID input email := by
  unfold Asks Names
  rw [eligible_iff, eligible_iff, h.isOrgMember, h.pendingIn_iff]

theorem AgreeOn.spoilt_iff (h : AgreeOn orgID db db')
    (helsewhere : ∀ email, Asks env now db orgID input email →
      (db.PendingElsewhere now orgID email ↔ db'.PendingElsewhere now orgID email)) :
    Spoilt env now db' orgID inviterID input ↔ Spoilt env now db orgID inviterID input := by
  refine exists_congr fun email => ?_
  rw [h.asks_iff, Db.Stores.congr h.users h.org]
  refine and_congr_right fun hasks => ?_
  rw [helsewhere email hasks]

/-- On two databases that agree on the organization, a request to invite addresses gets the same
answer and makes the same changes to the organization exactly if it is refused for its other
parts, or every address that it asks for is pending elsewhere in both databases or in neither, or
in both some invitation cannot be stored and nothing is changed. -/
theorem bulkInviteMembers_same_iff (env : Org.Env) (now : Nat) (orgID inviterID : UUID)
    (input : BulkInviteMemberInput) (fresh : String → UUID × String) (db db' : Db)
    (hagree : AgreeOn orgID db db')
    (hdraws : Draws env fresh (input.emails.map env.normalizeEmail) db)
    (hdraws' : Draws env fresh (input.emails.map env.normalizeEmail) db') :
    SameFor orgID (bulkInviteMembers env now db orgID input inviterID fresh)
        (bulkInviteMembers env now db' orgID input inviterID fresh) ↔
      Refused env db orgID input ∨
        (∀ email, Asks env now db orgID input email →
          (db.PendingElsewhere now orgID email ↔ db'.PendingElsewhere now orgID email)) ∨
        Spoilt env now db orgID inviterID input ∧ Spoilt env now db' orgID inviterID input := by
  by_cases hrefused : Refused env db orgID input
  · exact iff_of_true (hagree.refused hrefused) (.inl hrefused)
  rw [or_iff_right hrefused]
  have hrefused' : ¬ Refused env db' orgID input := by
    unfold Refused at hrefused ⊢
    rwa [hagree.validateTeamAssignments]
  have hscreened := screened_all env now db orgID input.emails
  have hscreened' := screened_all env now db' orgID input.emails
  generalize hscreen : input.emails.foldl (screenEmail env now db orgID) ⟨[], [], ⟨0, [], []⟩⟩ =
    s at hscreened
  generalize hscreen' : input.emails.foldl (screenEmail env now db' orgID) ⟨[], [], ⟨0, [], []⟩⟩ =
    s' at hscreened'
  rcases bulkInviteMembers_cases inviterID hrefused hdraws hscreen with
    ⟨hclean, db₁, hinvite, hok⟩ | ⟨hspoilt, herror⟩
  · rw [hok, or_iff_left fun h => hclean h.1]
    rcases bulkInviteMembers_cases inviterID hrefused' hdraws' hscreen' with
      ⟨_, db₁', hinvite', hok'⟩ | ⟨hspoilt', herror'⟩
    · rw [hok']
      constructor
      · rintro ⟨hresult, _⟩ email hasks
        have hskipped := congrArg BulkInviteResult.skipped hresult
        exact pendingElsewhere_iff_of_skipped hagree hscreened hscreened' hskipped hasks
      · intro helsewhere
        have hsame : s' = s := by
          rw [← hscreen, ← hscreen']
          exact hagree.screening_eq fun email hnames =>
            hasPendingInvite_eq_of_agree hagree helsewhere hnames
        subst hsame
        have hsubset : s'.valid ⊆ input.emails.map env.normalizeEmail :=
          fun email hemail => (hscreened.valid_iff.mp hemail).1.1.1
        exact ⟨rfl, hagree.inviteAddresses (hdraws.subset hsubset) (hdraws'.subset hsubset)
          hscreened.nodup hinvite hinvite'⟩
    · rw [herror']
      exact iff_of_false id fun helsewhere => hclean ((hagree.spoilt_iff helsewhere).mp hspoilt')
  · rw [herror]
    rcases bulkInviteMembers_cases inviterID hrefused' hdraws' hscreen' with
      ⟨hclean', db₁', _, hok'⟩ | ⟨hspoilt', herror'⟩
    · rw [hok']
      refine iff_of_false id ?_
      rintro (helsewhere | ⟨_, hspoilt'⟩)
      · exact hclean' ((hagree.spoilt_iff helsewhere).mpr hspoilt)
      · exact hclean' hspoilt'
    · rw [herror']
      exact iff_of_true rfl (.inr ⟨hspoilt, hspoilt'⟩)

/-- Organization 2 has invited an address. -/
def invitedByRed (email : String) : Except RepoError Db :=
  sampleDb.createInvite ⟨8, 2, none, email, "member", none, ["any"], "red", 3, 100⟩

/-- User 1 invites user 4 into organization 1 at time 50. -/
def inviteFour (db : Db) : Except String (BulkInviteResult × Db) :=
  bulkInviteMembers Org.sampleEnv 50 db 1 ⟨["d@example.com"], "member", [], []⟩ 1 fun _ => (9, "t1")

theorem draws_sampleDb :
    Draws Org.sampleEnv (fun _ => (9, "t1")) ["d@example.com"] sampleDb :=
  ⟨by decide +kernel, by decide +kernel, by decide +kernel, by decide +kernel⟩

/-- There is no other invitation. -/
theorem mem_invitedByRed (h : invitedByRed email = .ok db) (hinv : inv ∈ db.invites) :
    inv.id = 8 ∧ inv.tokenHash = "red" ∧ Sso.varchar 255 email = some inv.email := by
  obtain ⟨_, _, _, _, _, hemail, hrows⟩ := createInvite_eq_ok h
  have hinv : inv ∈ db.invites.rows := hinv
  rw [hrows] at hinv
  obtain rfl := List.mem_singleton.mp hinv
  exact ⟨rfl, rfl, hemail⟩

theorem draws_invitedByRed (h : invitedByRed email = .ok db) :
    Draws Org.sampleEnv (fun _ => (9, "t1")) ["d@example.com"] db := by
  refine ⟨fun _ _ inv hinv => ?_, fun _ _ inv hinv => ?_, by decide +kernel, by decide +kernel⟩
  · rw [(mem_invitedByRed h hinv).1]
    show (8 : UUID) ≠ 9
    decide
  · rw [(mem_invitedByRed h hinv).2.1]
    show "red" ≠ Org.sampleEnv.hashToken "t1"
    decide +kernel

/-- An invitation of another address makes no difference. -/
theorem other_address_undisclosed :
    ∃ db, invitedByRed "e@example.com" = .ok db ∧
      SameFor 1 (inviteFour sampleDb) (inviteFour db) := by
  obtain ⟨db, hred⟩ : ∃ db, invitedByRed "e@example.com" = .ok db := exists_ok (by decide +kernel)
  refine ⟨db, hred, ?_⟩
  refine (bulkInviteMembers_same_iff Org.sampleEnv 50 1 1 _ _ sampleDb db
    (agreeOn_createInvite hred (by decide)) draws_sampleDb (draws_invitedByRed hred)).mpr
    (.inr (.inl ?_))
  rintro email ⟨⟨hmem, _⟩, _⟩
  obtain rfl : email = "d@example.com" := List.mem_singleton.mp hmem
  refine iff_of_false (by decide +kernel) ?_
  rintro ⟨inv, hinv, _, hemail, _⟩
  have hstored := (mem_invitedByRed hred hinv).2.2
  rw [hemail] at hstored
  exact absurd hstored (by decide +kernel)

/-- The owner of organization 1 learns that user 4 is invited elsewhere, and cannot invite them. -/
theorem pending_elsewhere_disclosed :
    ∃ db, invitedByRed "d@example.com" = .ok db ∧ AgreeOn 1 sampleDb db ∧
      Draws Org.sampleEnv (fun _ => (9, "t1")) ["d@example.com"] sampleDb ∧
      Draws Org.sampleEnv (fun _ => (9, "t1")) ["d@example.com"] db ∧
      (inviteFour sampleDb).toOption.map Prod.fst = some ⟨1, [], []⟩ ∧
      (inviteFour db).toOption.map Prod.fst = some ⟨0, [⟨"d@example.com", "already_invited"⟩], []⟩ ∧
      ¬ SameFor 1 (inviteFour sampleDb) (inviteFour db) := by
  have hskipped : ((invitedByRed "d@example.com").toOption.bind fun db =>
      (inviteFour db).toOption.map Prod.fst) =
        some ⟨0, [⟨"d@example.com", "already_invited"⟩], []⟩ := by decide +kernel
  have hinvited : (inviteFour sampleDb).toOption.map Prod.fst = some ⟨1, [], []⟩ := by
    decide +kernel
  obtain ⟨db, hred⟩ : ∃ db, invitedByRed "d@example.com" = .ok db := exists_ok (by decide +kernel)
  rw [hred] at hskipped
  refine ⟨db, hred, agreeOn_createInvite hred (by decide), draws_sampleDb,
    draws_invitedByRed hred, hinvited, hskipped, fun hsame => ?_⟩
  have hresult := hsame.result_eq
  rw [hinvited, show (inviteFour db).toOption.map Prod.fst = _ from hskipped] at hresult
  cases hresult

end BurnerByte.Teams
