import BurnerByte.Teams.Revocation

/-!
# A revoked invitation that grants access

The acceptance does not look at the invitation again before it marks it. An invitation that is
revoked between these two statements still gives its memberships, after the revocation has
returned. If its row is there when it is marked, then it is locked, and no revocation returns before
the commit.
-/

namespace BurnerByte.Teams

open Sql

/-! ## Runs -/

/-- The writes of a transaction that is about to execute a statement. -/
def Phase.Wrote (a : Acceptance) (invite : Invite) (db : Db) (writes : List Write) : Phase → Prop
  | .joiningOrg => writes = []
  | _ => a.Joined invite db writes

variable {a : Acceptance} {invite : Invite} {db : Db} {writes : List Write} {phase : Phase}

theorem Phase.wrote_of_between (h : phase.Between) :
    phase.Wrote a invite db writes ↔ a.Joined invite db writes := by
  cases phase with
  | joiningOrg => exact h.elim
  | _ => exact Iff.rfl

theorem Phase.Wrote.of_same {db' : Db} (h : phase.Wrote a invite db writes)
    (hsame : db.SameButInvites db') : phase.Wrote a invite db' writes := by
  cases phase with
  | joiningOrg => exact h
  | _ => exact .of_same h hsame

theorem Acceptance.Continues.keeps_wrote {writes' : List Write} {phase' : Phase}
    (h : a.Continues db invite writes phase writes' phase')
    (hwrote : phase.Wrote a invite db writes) : phase'.Wrote a invite db writes' := by
  cases h with
  | joined hinsert =>
    obtain rfl : writes = [] := hwrote
    exact ⟨_, [], hinsert, rfl, fun _ hmem => absurd hmem List.not_mem_nil⟩
  | read hphase hphase' =>
    exact (Phase.wrote_of_between hphase').mpr ((Phase.wrote_of_between hphase).mp hwrote)
  | wrote hwrite hphase hphase' =>
    rw [Phase.wrote_of_between hphase] at hwrote
    exact (Phase.wrote_of_between hphase').mpr (hwrote.concat hwrite)
  | marked => exact .concat hwrote id

namespace Race

variable {κ : Type} {a : Acceptance} {race : Race κ}

structure Inv (a : Acceptance) (race : Race κ) : Prop where
  returned : ∀ k orgID inviteID, race.revoking k = .returned (.invite orgID inviteID) →
    ∀ inv ∈ race.shared.db.invites, ¬ (inv.id = inviteID ∧ inv.orgID = orgID)
  org : ∀ invite tx result phase, race.accepting = .inside invite tx result phase →
    ∀ inv ∈ race.shared.db.invites, inv.id = invite.id → inv.orgID = invite.orgID
  wrote : ∀ invite writes result phase,
    race.accepting = .inside invite (.live writes) result phase →
    phase.Wrote a invite race.shared.db writes
  locked : ∀ id, race.shared.locked = some id → ∃ inv ∈ race.shared.db.invites, inv.id = id

theorem inv_start (db : Db) (calls : κ → Revocation) : (start db calls).Inv a where
  returned k orgID inviteID h := by
    have hstart : (calls k).start = .returned (.invite orgID inviteID) := h
    cases hcall : calls k with
    | _ =>
      rw [hcall] at hstart
      cases hstart
  org _ _ _ _ h := nomatch h
  wrote _ _ _ _ h := nomatch h
  locked _ h := nomatch h

variable {invite : Invite}

theorem commits_eq_some (h : race.commits = some invite) :
    ∃ writes result, race.accepting = .inside invite (.live writes) result .committing := by
  unfold commits at h
  split at h
  · rename_i haccepting
    cases h
    exact ⟨_, _, haccepting⟩
  · cases h

/-- An acceptance that is about to commit has locked the row. -/
def Held (race : Race κ) : Prop :=
  ∀ invite writes result, race.accepting = .inside invite (.live writes) result .committing →
    race.shared.locked = some invite.id

theorem Inv.not_revoked (h : race.Inv a) (hheld : race.Held)
    (hcommits : race.commits = some invite) :
    ¬ race.Revoked invite := by
  obtain ⟨writes, result, haccepting⟩ := commits_eq_some hcommits
  obtain ⟨inv, hinv, hid⟩ := h.locked _ (hheld _ _ _ haccepting)
  rintro (hgone | ⟨k, hreturned⟩)
  · exact hgone inv hinv hid
  · have horg := h.org _ _ _ _ haccepting inv hinv hid
    exact h.returned k _ _ hreturned inv hinv ⟨hid, horg⟩

variable [DecidableEq κ]

theorem Inv.acceptor (h : race.Inv a) : (race.step a .acceptor).Inv a where
  returned k orgID inviteID hreturned inv hinv hkey := by
    obtain ⟨old, hold, hid, horg⟩ := Acceptance.effect_invitesFrom _ _ inv hinv
    exact h.returned k orgID inviteID hreturned old hold ⟨hid.trans hkey.1, horg.trans hkey.2⟩
  org invite tx result phase hnext inv hinv hid := by
    obtain ⟨old, hold, hid', horg'⟩ := Acceptance.effect_invitesFrom _ _ inv hinv
    rw [← horg']
    have hnext : a.next race.shared.db race.accepting = .inside invite tx result phase := hnext
    cases haccepting : race.accepting with
    | reading =>
      rw [haccepting] at hnext
      have hread := (Acceptance.read_eq_inside hnext).1
      rw [UniqueTable.eq_of_key_eq hold hread (hid'.trans hid)]
    | inside invite' tx' result' phase' =>
      rw [haccepting] at hnext
      obtain ⟨rfl, _⟩ := Acceptance.execute_eq_inside hnext
      exact h.org _ _ _ _ haccepting old hold (hid'.trans hid)
    | returned answer =>
      rw [haccepting] at hnext
      cases hnext
  wrote invite writes result phase hnext := by
    have hnext : a.next race.shared.db race.accepting =
        .inside invite (.live writes) result phase := hnext
    have hdb : (race.step a .acceptor).shared.db = race.shared.db := Acceptance.effect_db hnext
    rw [hdb]
    cases haccepting : race.accepting with
    | reading =>
      rw [haccepting] at hnext
      obtain ⟨_, hlive, rfl⟩ := Acceptance.read_eq_inside hnext
      cases hlive
      rfl
    | inside invite' tx' result' phase' =>
      rw [haccepting] at hnext
      obtain ⟨rfl, hlive⟩ := Acceptance.execute_eq_inside hnext
      obtain ⟨before, rfl, hcontinues⟩ := hlive writes rfl
      exact hcontinues.keeps_wrote (h.wrote _ _ _ _ haccepting)
    | returned answer =>
      rw [haccepting] at hnext
      cases hnext
  locked id hlocked := Acceptance.effect_locked hlocked (h.locked id)

theorem Inv.revoker (h : race.Inv a) (k : κ) : (race.step a (.revoker k)).Inv a := by
  have hloses := Revoking.execute_loses race.shared (race.revoking k)
  refine ⟨fun k' orgID inviteID hreturned inv hinv => ?_,
    fun invite tx result phase hinside inv hinv =>
      h.org invite tx result phase hinside inv (hloses.fewer inv hinv),
    fun invite writes result phase hinside =>
      (h.wrote invite writes result phase hinside).of_same hloses.same, fun id hlocked => ?_⟩
  · by_cases hk : k' = k
    · subst hk
      have hself : (race.step a (.revoker k')).revoking k' =
          ((race.revoking k').execute race.shared).1 := Function.update_self k' _ race.revoking
      rcases Revoking.execute_returned (hself.symm.trans hreturned) with hbefore | hgone
      · exact h.returned k' orgID inviteID hbefore inv (hloses.fewer inv hinv)
      · exact hgone inv hinv
    · have hother : (race.step a (.revoker k)).revoking k' = race.revoking k' :=
        Function.update_of_ne hk _ race.revoking
      exact h.returned k' orgID inviteID (hother.symm.trans hreturned) inv (hloses.fewer inv hinv)
  · have hbefore : race.shared.locked = some id := hloses.locked.symm.trans hlocked
    obtain ⟨inv, hinv, hid⟩ := h.locked id hbefore
    exact ⟨inv, hloses.kept inv hinv (hid ▸ hbefore), hid⟩

theorem Inv.step (h : race.Inv a) (client : Client κ) : (race.step a client).Inv a := by
  cases client with
  | acceptor => exact h.acceptor
  | revoker k => exact h.revoker k

theorem Held.step (h : race.Held) {client : Client κ} (hrow : race.MarksRow client) :
    (race.step a client).Held := by
  intro invite writes result hinside
  cases client with
  | acceptor =>
    have hnext : a.next race.shared.db race.accepting =
        .inside invite (.live writes) result .committing := hinside
    cases haccepting : race.accepting with
    | reading =>
      rw [haccepting] at hnext
      cases (Acceptance.read_eq_inside hnext).2.2
    | inside invite' tx' result' phase' =>
      rw [haccepting] at hnext
      obtain ⟨rfl, hlive⟩ := Acceptance.execute_eq_inside hnext
      obtain ⟨before, rfl, hcontinues⟩ := hlive writes rfl
      cases hcontinues with
      | read _ hphase | wrote _ _ hphase => exact hphase.elim
      | marked =>
        simp only [MarksRow, haccepting] at hrow
        obtain ⟨inv, hinv, hid⟩ := hrow
        have hany : race.shared.db.invites.rows.any (fun inv => inv.id = invite.id) = true :=
          List.any_eq_true.mpr ⟨inv, hinv, decide_eq_true hid⟩
        simp only [Race.step, haccepting, Acceptance.effect, hany, if_true]
    | returned answer =>
      rw [haccepting] at hnext
      cases hnext
  | revoker k =>
    exact (Revoking.execute_loses race.shared (race.revoking k)).locked.trans
      (h invite writes result hinside)

theorem run_invitesFrom (race : Race κ) (schedule : List (Client κ)) :
    race.shared.db.InvitesFrom (Trace.run (step a) race schedule).shared.db := by
  let from' (s : Race κ) : Prop := race.shared.db.InvitesFrom s.shared.db
  have hfrom : from' (Trace.run (step a) race schedule) := by
    refine Trace.run_induct (fun s client hs => ?_) (.of_eq rfl) schedule
    cases client with
    | acceptor => exact hs.trans (Acceptance.effect_invitesFrom _ _)
    | revoker k =>
      exact hs.trans fun inv hinv =>
        ⟨inv, (Revoking.execute_loses s.shared (s.revoking k)).fewer inv hinv, rfl, rfl⟩
  exact hfrom

/-- If the acceptance does not stay where it is, there is a first statement of it. -/
theorem exists_acceptor {schedule : List (Client κ)}
    (h : (Trace.run (step a) race schedule).accepting ≠ race.accepting) :
    ∃ mid rest, schedule = mid ++ .acceptor :: rest ∧
      (Trace.run (step a) race mid).accepting = race.accepting := by
  induction schedule generalizing race with
  | nil => exact absurd rfl h
  | cons client schedule ih =>
    cases client with
    | acceptor => exact ⟨[], schedule, rfl, rfl⟩
    | revoker k =>
      obtain ⟨mid, rest, rfl, hmid⟩ := ih h
      exact ⟨.revoker k :: mid, rest, rfl, hmid⟩

/-- A commit gives a membership. -/
theorem Inv.acquires (h : race.Inv a) (hcommits : race.commits = some invite) :
    Acquires race.shared.db (race.step a .acceptor).shared.db a.userID := by
  obtain ⟨writes, result, haccepting⟩ := commits_eq_some hcommits
  have hjoined : a.Joined invite race.shared.db writes := h.wrote _ _ _ _ haccepting
  simp only [Race.step, haccepting, Acceptance.effect]
  exact hjoined.acquires

/-- Marking an invitation that is gone is followed by a commit. -/
theorem exists_commit_of_marking {result : AcceptInviteResult}
    (haccepting : race.accepting = .inside invite (.live writes) result .marking)
    (hgone : ∀ inv ∈ race.shared.db.invites, inv.id ≠ invite.id) {rest : List (Client κ)}
    {answer : Except String AcceptInviteResult}
    (hdone : (Trace.run (step a) race (.acceptor :: rest)).accepting = .returned answer) :
    ∃ mid rest', rest = mid ++ .acceptor :: rest' ∧
      (Trace.run (step a) race (.acceptor :: mid)).commits = some invite ∧
      (Trace.run (step a) race (.acceptor :: mid)).Revoked invite := by
  have hmarked : (race.step a .acceptor).accepting =
      .inside invite (.live (writes ++ [.accept invite.id a.now])) result .committing := by
    simp only [Race.step, haccepting]
    rfl
  have hmoves : (Trace.run (step a) (race.step a .acceptor) rest).accepting ≠
      (race.step a .acceptor).accepting := by
    rw [hmarked]
    intro hstays
    cases hdone.symm.trans hstays
  obtain ⟨mid, rest', rfl, hmid⟩ := exists_acceptor hmoves
  refine ⟨mid, rest', rfl, ?_, .inl fun inv hinv hid => ?_⟩
  · rw [hmarked] at hmid
    simp only [commits, Trace.run_cons, hmid]
  · obtain ⟨old, hold, hid', _⟩ := run_invitesFrom race (.acceptor :: mid) inv hinv
    exact hgone old hold (hid'.trans hid)

/-- A commit for an invitation that has been revoked is what must not happen. -/
theorem Inv.not_grantsNothing (h : race.Inv a) {done rest : List (Client κ)}
    (hcommits : (Trace.run (Race.step a) race done).commits = some invite)
    (hrevoked : (Trace.run (Race.step a) race done).Revoked invite) :
    ¬ race.RevokedGrantsNothing a (done ++ .acceptor :: rest) := by
  have hrun := @Trace.run_induct _ _ (Race.step a) (Inv a) (fun _ _ hrace => hrace.step _) _ h done
  exact fun hsafe => hsafe done rest rfl invite hcommits hrevoked (hrun.acquires hcommits)

/-- If each time the acceptance marks its invitation the row is there, then an invitation that has
been revoked grants nothing. In a run in which the acceptance returns, this is necessary too. -/
theorem revoked_grants_nothing_iff (a : Acceptance) (db : Db) (calls : κ → Revocation)
    (schedule : List (Client κ)) :
    (Trace.Guarded (step a) MarksRow (start db calls) schedule →
        (start db calls).RevokedGrantsNothing a schedule) ∧
      ((∃ answer, (Trace.run (step a) (start db calls) schedule).accepting = .returned answer) →
        (start db calls).RevokedGrantsNothing a schedule →
        Trace.Guarded (step a) MarksRow (start db calls) schedule) := by
  constructor
  · rintro hguarded done rest rfl invite hcommits hrevoked
    have hstart : (start db calls).Inv a ∧ (start db calls).Held :=
      ⟨inv_start db calls, fun _ _ _ h => nomatch h⟩
    have hbefore := (hguarded.before hstart fun s client (h : s.Inv a ∧ s.Held) hrow =>
      ⟨h.1.step client, h.2.step hrow⟩).1
    exact absurd hrevoked (hbefore.1.not_revoked hbefore.2 hcommits)
  · rintro ⟨answer, hdone⟩ hsafe
    rw [Trace.Guarded.iff_forall]
    rintro done client rest rfl
    cases client with
    | revoker k => trivial
    | acceptor =>
      dsimp only [MarksRow]
      split
      · rename_i haccepting
        by_contra hno
        rw [Trace.run_append] at hdone
        obtain ⟨mid, rest', rfl, hcommits, hrevoked⟩ := exists_commit_of_marking haccepting
          (fun inv hinv hid => hno ⟨inv, hinv, hid⟩) hdone
        rw [← Trace.run_append] at hcommits hrevoked
        have hsplit : done ++ .acceptor :: (mid ++ .acceptor :: rest') =
            (done ++ .acceptor :: mid) ++ .acceptor :: rest' := by
          rw [List.append_assoc, List.cons_append]
        rw [hsplit] at hsafe
        exact (inv_start db calls).not_grantsNothing hcommits hrevoked hsafe
      · trivial

end Race

/-- User 4 accepts the invitation to organization 1 and team 5. -/
def acceptAsFour : Acceptance := ⟨Org.sampleEnv, 50, "t1", 4, "d@example.com"⟩

def blueRace (call : Revocation) : Race Unit := .start fourInvited fun _ => call

theorem blueRace_inv (call : Revocation) : (blueRace call).Inv acceptAsFour := Race.inv_start _ _

/-- The acceptance reads the invitation, some statements of the revocation follow, and then those
of the acceptance up to its commit. -/
def overtaken (n : Nat) : List (Client Unit) :=
  .acceptor :: (List.replicate n (.revoker ()) ++ List.replicate 4 .acceptor)

/-- The revocation has returned and the invitation is gone, but the acceptance is about to
commit. -/
def Race.commitsRevoked (race : Race Unit) (call : Revocation) : Bool :=
  match race.commits, race.revoking () with
  | some invite, .returned call' =>
    call' = call && race.shared.db.invites.rows.all fun inv => inv.id ≠ invite.id
  | _, _ => false

theorem Race.revoked_of_commitsRevoked {race : Race Unit} {call : Revocation}
    (h : race.commitsRevoked call = true) :
    ∃ invite, race.commits = some invite ∧ race.Revoked invite := by
  unfold commitsRevoked at h
  split at h
  · rename_i invite _ hcommits _
    simp only [Bool.and_eq_true, List.all_eq_true, decide_eq_true_eq] at h
    exact ⟨invite, hcommits, .inl h.2⟩
  · cases h

/-- User 4 becomes a member of organization 1 after `RevokeInvite` has returned, and also after the
revocation of the invitations to team 5 has. -/
theorem revoked_invite_admits :
    ((Trace.run (Race.step acceptAsFour) (blueRace (.invite 1 9)) (overtaken 1)).commitsRevoked
        (.invite 1 9) = true ∧
      ¬ (blueRace (.invite 1 9)).RevokedGrantsNothing acceptAsFour (overtaken 1 ++ [.acceptor])) ∧
    (Trace.run (Race.step acceptAsFour) (blueRace (.team 50 5)) (overtaken 4)).commitsRevoked
        (.team 50 5) = true ∧
      ¬ (blueRace (.team 50 5)).RevokedGrantsNothing acceptAsFour (overtaken 4 ++ [.acceptor]) := by
  have hinvite : (Trace.run (Race.step acceptAsFour) (blueRace (.invite 1 9))
      (overtaken 1)).commitsRevoked (.invite 1 9) = true := by decide +kernel
  have hteam : (Trace.run (Race.step acceptAsFour) (blueRace (.team 50 5))
      (overtaken 4)).commitsRevoked (.team 50 5) = true := by decide +kernel
  obtain ⟨_, hcommits, hrevoked⟩ := Race.revoked_of_commitsRevoked hinvite
  obtain ⟨_, hcommits', hrevoked'⟩ := Race.revoked_of_commitsRevoked hteam
  exact ⟨⟨hinvite, (blueRace_inv _).not_grantsNothing hcommits hrevoked⟩,
    hteam, (blueRace_inv _).not_grantsNothing hcommits' hrevoked'⟩

end BurnerByte.Teams
