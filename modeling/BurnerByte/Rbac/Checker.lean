import BurnerByte.Basic
import BurnerByte.Rbac.Cache

/-!
# Permission and rank checks

The checker decides by the memberships and the teams as the database holds them
at the moment of the check, and by the permission cache. The database restricts
the roles a membership can hold, so a membership carries that restriction.
-/

namespace BurnerByte.Rbac

def orgRoles : List String := ["owner", "admin", "member"]

theorem owner_mem_orgRoles : "owner" ∈ orgRoles := by decide

theorem admin_mem_orgRoles : "admin" ∈ orgRoles := by decide

theorem member_mem_orgRoles : "member" ∈ orgRoles := by decide

def teamRoles : List String := ["lead", "member"]

theorem lead_mem_teamRoles : "lead" ∈ teamRoles := by decide

structure OrgMembership where
  userID : UUID
  orgID : UUID
  role : String
  role_mem : role ∈ orgRoles
  deriving DecidableEq

structure TeamMembership where
  userID : UUID
  teamID : UUID
  role : String
  role_mem : role ∈ teamRoles
  deriving DecidableEq

inductive RbacError where
  | unauthorized
  | notOrgMember
  | notTeamMember
  | insufficientOrg
  | insufficientTeam
  | sameOrHigherRank
  deriving DecidableEq

def RbacError.message : RbacError → String
  | .unauthorized => "unauthorized"
  | .notOrgMember => "not a member of this organization"
  | .notTeamMember => "not a member of this team"
  | .insufficientOrg => "insufficient org permissions"
  | .insufficientTeam => "insufficient team permissions"
  | .sameOrHigherRank => "cannot modify users at the same or higher rank"

/-- The repositories the checks read, and the cache. A lookup that fails answers
`none`: the checks treat every failure as a missing row. -/
structure Checker where
  orgMembership : UUID → UUID → Option OrgMembership
  teamMembership : UUID → UUID → Option TeamMembership
  teamOrgID : UUID → Option UUID
  cache : PermissionCache

namespace Checker

variable (c : Checker)

def orgRoleRank (m : OrgMembership) : Int := c.cache.getRank m.role

def teamRoleRank (m : TeamMembership) : Int := c.cache.getRank m.role

section

variable (uc : Option UserContext)

def requireOrgPermission (orgID : UUID) (permissionKey : String) : Except RbacError Unit :=
  match uc with
  | none => .error .unauthorized
  | some uc =>
    if uc.isSystemAdmin then .ok ()
    else
      match c.orgMembership uc.userID orgID with
      | none => .error .notOrgMember
      | some m =>
        if c.cache.hasPermission m.role permissionKey then .ok () else .error .insufficientOrg

/-- The org-level fallback of `requireTeamPermission`: an org role of rank 2 or
more, or one that holds the team permission itself. -/
def orgFallback (uc : UserContext) (orgID : UUID) (permissionKey : String) : Bool :=
  match c.orgMembership uc.userID orgID with
  | none => false
  | some m => 2 ≤ c.orgRoleRank m || c.cache.hasPermission m.role permissionKey

/-- The team-membership branch of `requireTeamPermission`. -/
def teamMembershipBranch (uc : UserContext) (teamID : UUID) (permissionKey : String) :
    Except RbacError Unit :=
  match c.teamMembership uc.userID teamID with
  | none => .error .notTeamMember
  | some tm =>
    if c.cache.hasPermission tm.role permissionKey then .ok () else .error .insufficientTeam

def requireTeamPermission (orgID teamID : UUID) (permissionKey : String) : Except RbacError Unit :=
  match uc with
  | none => .error .unauthorized
  | some uc =>
    if uc.isSystemAdmin then .ok ()
    else
      -- The route's team is bound to the route's org before anything is granted.
      match c.teamOrgID teamID with
      | none => .error .notTeamMember
      | some teamOrgID =>
        if teamOrgID ≠ orgID then .error .notTeamMember
        else if c.orgFallback uc orgID permissionKey then .ok ()
        else c.teamMembershipBranch uc teamID permissionKey

/-- The actor must rank strictly above the target. -/
def requireRankAbove (orgID targetUserID : UUID) : Except RbacError Unit :=
  match uc with
  | none => .error .unauthorized
  | some uc =>
    if uc.isSystemAdmin then .ok ()
    else
      match c.orgMembership uc.userID orgID, c.orgMembership targetUserID orgID with
      | some actor, some target =>
        if c.orgRoleRank actor ≤ c.orgRoleRank target then .error .sameOrHigherRank else .ok ()
      | _, _ => .error .notOrgMember

end

variable {c}

variable {uc : UserContext} {orgID : UUID} {key : String}

theorem requireOrgPermission_ok_iff :
    c.requireOrgPermission (some uc) orgID key = .ok () ↔
      uc.isSystemAdmin = true ∨ ∃ m, c.orgMembership uc.userID orgID = some m ∧
        c.cache.hasPermission m.role key = true := by
  simp only [requireOrgPermission]
  cases hadmin : uc.isSystemAdmin with
  | true => simp
  | false =>
    cases hm : c.orgMembership uc.userID orgID with
    | none => simp
    | some m =>
      cases hperm : c.cache.hasPermission m.role key <;> simp [hperm]

theorem orgFallback_eq_true_iff :
    c.orgFallback uc orgID key = true ↔
      ∃ m, c.orgMembership uc.userID orgID = some m ∧
        (2 ≤ c.orgRoleRank m ∨ c.cache.hasPermission m.role key = true) := by
  simp only [orgFallback]
  cases c.orgMembership uc.userID orgID with
  | _ => simp

theorem teamMembershipBranch_ok_iff {teamID : UUID} :
    c.teamMembershipBranch uc teamID key = .ok () ↔
      ∃ tm, c.teamMembership uc.userID teamID = some tm ∧
        c.cache.hasPermission tm.role key = true := by
  simp only [teamMembershipBranch]
  cases hm : c.teamMembership uc.userID teamID with
  | none => simp
  | some tm =>
    cases hperm : c.cache.hasPermission tm.role key <;> simp [hperm]

theorem requireTeamPermission_ok_iff {teamID : UUID} :
    c.requireTeamPermission (some uc) orgID teamID key = .ok () ↔
      uc.isSystemAdmin = true ∨ c.teamOrgID teamID = some orgID ∧
        (c.orgFallback uc orgID key = true ∨ c.teamMembershipBranch uc teamID key = .ok ()) := by
  simp only [requireTeamPermission]
  cases hadmin : uc.isSystemAdmin with
  | true => simp
  | false =>
    cases horg : c.teamOrgID teamID with
    | none => simp
    | some teamOrgID =>
      by_cases heq : teamOrgID = orgID
      · cases c.orgFallback uc orgID key <;> simp [heq]
      · simp [heq]

theorem requireRankAbove_ok_iff {targetUserID : UUID} :
    c.requireRankAbove (some uc) orgID targetUserID = .ok () ↔
      uc.isSystemAdmin = true ∨ ∃ m target, c.orgMembership uc.userID orgID = some m ∧
        c.orgMembership targetUserID orgID = some target ∧
        c.orgRoleRank target < c.orgRoleRank m := by
  simp only [requireRankAbove]
  cases hadmin : uc.isSystemAdmin with
  | true => simp
  | false =>
    cases hm : c.orgMembership uc.userID orgID with
    | none => simp
    | some m =>
      cases htarget : c.orgMembership targetUserID orgID with
      | none => simp
      | some target =>
        by_cases hle : c.orgRoleRank m ≤ c.orgRoleRank target
        · simp [hle]
        · simp [hle, Int.not_le.mp hle]

end Checker

end BurnerByte.Rbac
