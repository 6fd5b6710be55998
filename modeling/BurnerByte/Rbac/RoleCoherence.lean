import BurnerByte.Core.Trace
import BurnerByte.Rbac.RoleLoad

/-!
# The cache after a change of the roles

The cache should answer as if it had just been loaded. Requests that set permissions load it again.
The others do not: a role that is created without permissions is not in the cache, and a role that
is deleted is still there, unless another role of the same value hides the difference.
-/

namespace BurnerByte.Rbac

open Handler

/-! ## Requests -/

namespace RoleState

variable {s : RoleState}

/-- The cache answers as if it had just been loaded. -/
def Coherent (s : RoleState) : Prop := s.cache.Agrees s.db.table.cache

theorem coherent_refreshCache (s : RoleState) : s.refreshCache.Coherent := .refl _

theorem coherent_with_db_iff (h : s.Coherent) (db : RoleDb) :
    { s with db }.Coherent ↔ ∀ value, RoleDb.Same s.db db value := by
  rw [← RoleDb.agrees_iff_same]
  exact ⟨fun hnew => h.symm.trans hnew, fun hsame => h.trans hsame⟩

/-- The request loads the cache, or leaves what a load answers alone while the cache is not torn. -/
def Covered (s : RoleState) : RoleRequest → Prop
  | .update _ _ (some input) => input.permissions = none → s.torn = false
  | .create _ _ (some input) => input.permissions = [] → s.torn = false ∧
      ∀ scope, parseScope input.scope = some scope → s.db.CreatesUnseen scope input.value input.rank
  | .delete (some roleID) => s.torn = false ∧ s.db.DeletesUnseen roleID
  | .update _ _ none | .create _ _ none | .delete none => True

/-- What a request does to the tables and the cache. -/
inductive Effect (s : RoleState) : RoleRequest → Except HttpError Unit × RoleState → Prop where
  | failed {request : RoleRequest} (err : HttpError) : Effect s request (.error err, s)
  | torn {request : RoleRequest} (err : HttpError) {db : RoleDb} (hkeeps : s.db.Keeps db) :
      Effect s request (.error err, { s with db, torn := true })
  | refreshed {request : RoleRequest} {db : RoleDb} (hkeeps : s.db.Keeps db)
      (hcovered : ∀ s : RoleState, s.Covered request) :
      Effect s request (.ok (), { s with db }.refreshCache)
  | silent {request : RoleRequest} {db : RoleDb} (hkeeps : s.db.Keeps db)
      (huntorn : s.Covered request → s.torn = false)
      (hunseen : s.torn = false → (s.Covered request ↔ ∀ value, RoleDb.Same s.db db value)) :
      Effect s request (.ok (), { s with db })

theorem updateRole_effect (s : RoleState) (roleID : UUID) (fits : Bool) (input : UpdateRoleInput) :
    s.Effect (.update (some roleID) fits (some input)) (s.updateRole roleID fits input) := by
  have hrenamed : s.db.Keeps (if input.label ≠ "" ∨ input.description ≠ ""
        then s.db.updateRole roleID input.label input.description else s.db) ∧
      ∀ value, RoleDb.Same s.db (if input.label ≠ "" ∨ input.description ≠ ""
        then s.db.updateRole roleID input.label input.description else s.db) value := by
    split
    · exact ⟨s.db.keeps_updateRole roleID input.label input.description,
        s.db.same_updateRole roleID input.label input.description⟩
    · exact ⟨RoleDb.keeps_of_mem fun _ hrow _ => hrow, RoleDb.agrees_iff_same.mp (.refl _)⟩
  unfold updateRole
  generalize (if input.label ≠ "" ∨ input.description ≠ ""
    then s.db.updateRole roleID input.label input.description else s.db) = db at hrenamed ⊢
  obtain ⟨hkeeps, hsame⟩ := hrenamed
  split
  · exact .failed _
  cases hkeys : input.permissions with
  | none =>
    refine .silent hkeeps (fun hcovered => hcovered hkeys) fun huntorn => ?_
    exact iff_of_true (fun _ => huntorn) hsame
  | some keys =>
    have hcovered (s : RoleState) : s.Covered (.update (some roleID) fits (some input)) := by
      intro hnone
      rw [hkeys] at hnone
      cases hnone
    have hkeeps' := hkeeps.trans (db.keeps_setRolePermissions roleID keys)
    dsimp only
    split
    · exact .torn _ hkeeps'
    · exact .refreshed hkeeps' hcovered

theorem createRole_effect (s : RoleState) (roleID : UUID) (fits : Bool) (input : CreateRoleInput) :
    s.Effect (.create roleID fits (some input)) (s.createRole roleID fits input) := by
  unfold createRole
  cases hscope : parseScope input.scope with
  | none => exact .failed _
  | some scope =>
    dsimp only
    split
    · exact .failed _
    split
    · exact .failed _
    rename_i db hcreate
    have hcreated := (Option.ite_none_right_eq_some.mp hcreate).2
    have hkeeps := RoleDb.keeps_of_mem fun old hold _ =>
      ((RoleDb.createRole_eq_some hcreated).1 old).mpr (.inr hold)
    split
    · rename_i hkeys
      refine .silent hkeeps (fun hcovered => (hcovered hkeys).1) fun huntorn => ?_
      rw [RoleDb.same_createRole_iff hcreated]
      constructor
      · intro hcovered
        exact (hcovered hkeys).2 scope hscope
      · intro hunseen _
        refine ⟨huntorn, fun scope' hscope' => ?_⟩
        cases hscope.symm.trans hscope'
        exact hunseen
    · rename_i hkeys
      exact .refreshed (hkeeps.trans (db.keeps_setRolePermissions roleID input.permissions))
        fun _ hnone => absurd hnone hkeys

theorem handle_effect (s : RoleState) (request : RoleRequest) :
    s.Effect request (s.handle request) := by
  cases request with
  | update roleID fits body =>
    cases roleID with
    | none => exact .failed _
    | some roleID =>
      cases body with
      | none => exact .failed _
      | some input => exact s.updateRole_effect roleID fits input
  | create roleID fits body =>
    cases body with
    | none => exact .failed _
    | some input => exact s.createRole_effect roleID fits input
  | delete roleID =>
    cases roleID with
    | none => exact .failed _
    | some roleID =>
      refine .silent (s.db.keeps_deleteRole roleID) And.left fun huntorn => ?_
      rw [RoleDb.same_deleteRole_iff]
      exact and_iff_right huntorn

/-- A successful request leaves the cache coherent exactly if it is covered. -/
theorem coherent_step_iff {request : RoleRequest} (h : s.Coherent) (huntorn : s.torn = false)
    (hok : (s.handle request).1 = .ok ()) : (s.step request).Coherent ↔ s.Covered request := by
  have heffect := s.handle_effect request
  unfold step
  generalize s.handle request = result at heffect hok ⊢
  cases heffect with
  | refreshed _ hcovered => exact iff_of_true (coherent_refreshCache _) (hcovered s)
  | silent _ _ hunseen => exact (coherent_with_db_iff h _).trans (hunseen huntorn).symm
  | _ => cases hok

/-- A cache that is not torn is coherent. -/
def Sound (s : RoleState) : Prop := s.torn = false → s.Coherent

/-- A successful request is covered. -/
def Careful (s : RoleState) (request : RoleRequest) : Prop :=
  (s.handle request).1 = .ok () → s.Covered request

theorem sound_step (s : RoleState) (request : RoleRequest) (h : s.Sound)
    (hcareful : s.Careful request) : (s.step request).Sound ∧
      ((s.handle request).1 = .ok () → (s.step request).Coherent) := by
  have heffect := s.handle_effect request
  have hiff := @coherent_step_iff s request
  unfold Careful at hcareful
  unfold step at hiff ⊢
  generalize s.handle request = result at heffect hcareful hiff ⊢
  cases heffect with
  | failed err => exact ⟨h, nofun⟩
  | torn err _ => exact ⟨nofun, nofun⟩
  | refreshed _ hcovered =>
    exact ⟨fun _ => coherent_refreshCache _, fun _ => coherent_refreshCache _⟩
  | silent _ huntorn _ =>
    have hcovered := hcareful rfl
    have hclean := huntorn hcovered
    have hcoherent := (hiff (h hclean) hclean rfl).mpr hcovered
    exact ⟨fun _ => hcoherent, fun _ => hcoherent⟩

theorem sound_boot (db : RoleDb) : (boot db).Sound := fun _ => .refl _

/-- If every successful request is covered, the cache is coherent after each of them. -/
theorem coherent_after_requests (db : RoleDb) {requests : List RoleRequest}
    (h : Trace.Guarded step Careful (boot db) requests) :
    ∀ done request rest, requests = done ++ request :: rest →
      ((Trace.run step (boot db) done).handle request).1 = .ok () →
      (Trace.run step (boot db) (done ++ [request])).Coherent := by
  rintro done request rest rfl hok
  have hstep (s : RoleState) (e : RoleRequest) (hs : s.Sound) (he : s.Careful e) :
      (s.step e).Sound :=
    (sound_step s e hs he).1
  obtain ⟨hsound, hcareful⟩ := h.before (sound_boot db) hstep
  rw [Trace.run_append]
  exact (sound_step _ request hsound hcareful).2 hok

/-! ## Roles that are created and deleted -/

end RoleState

/-- The built-in roles, with one permission each. -/
def seededRoles : RoleDb where
  roles :=
    { rows := [⟨1, .org, "owner", "Owner", "", 3, true⟩, ⟨2, .org, "admin", "Admin", "", 2, true⟩,
        ⟨3, .org, "member", "Member", "", 1, true⟩, ⟨4, .team, "lead", "Lead", "", 2, true⟩,
        ⟨5, .team, "member", "Member", "", 1, true⟩]
      unique := by decide
      distinct := by decide }
  permissions := ["org.view", "team.emails.view", "team.webhooks.manage"]
  grants :=
    { rows := [⟨1, "org.view"⟩, ⟨2, "org.view"⟩, ⟨3, "org.view"⟩, ⟨4, "team.emails.view"⟩,
        ⟨5, "team.emails.view"⟩]
      unique := by decide }
  references := by decide

/-- An auditor of teams, who may see the emails. -/
def auditor : CreateRoleInput := ⟨"team", "auditor", "Auditor", "", 1, ["team.emails.view"]⟩

namespace RoleState

theorem created_with_permissions_seen :
    ((boot seededRoles).handle (.create 6 true (some auditor))).1 = .ok () ∧
      (Trace.run step (boot seededRoles) [.create 6 true (some auditor)]).Coherent := by
  have hok : ((boot seededRoles).handle (.create 6 true (some auditor))).1 = .ok () := by
    decide +kernel
  have hcareful : Trace.Guarded step Careful (boot seededRoles) [.create 6 true (some auditor)] :=
    ⟨fun _ hnone => (nomatch hnone), trivial⟩
  exact ⟨hok, coherent_after_requests seededRoles hcareful [] _ [] rfl hok⟩

/-- A role without permissions is created, and a role with permissions is deleted: the first is
unknown to the cache, and the second still grants its permission. -/
theorem created_unknown_deleted_known :
    (((boot seededRoles).handle (.create 6 true (some { auditor with permissions := [] }))).1 =
        .ok () ∧
      ((boot seededRoles).step
        (.create 6 true (some { auditor with permissions := [] }))).cache.hasRole
        "auditor" = false ∧
      ¬ ((boot seededRoles).step
        (.create 6 true (some { auditor with permissions := [] }))).Coherent) ∧
    (((boot seededRoles).step (.create 6 true (some auditor))).handle (.delete (some 6))).1 =
        .ok () ∧
      (Trace.run step (boot seededRoles)
        [.create 6 true (some auditor), .delete (some 6)]).cache.hasPermission "auditor"
          "team.emails.view" = true ∧
      ¬ (Trace.run step (boot seededRoles)
        [.create 6 true (some auditor), .delete (some 6)]).Coherent := by
  refine ⟨⟨by decide +kernel, by decide +kernel, fun h => ?_⟩, by decide +kernel, by decide +kernel,
    fun h => ?_⟩
  · exact absurd (h.hasRole "auditor") (by decide +kernel)
  · exact absurd (h.hasRole "auditor") (by decide +kernel)

end RoleState

end BurnerByte.Rbac
