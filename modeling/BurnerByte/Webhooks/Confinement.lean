import BurnerByte.Rbac.Scopes
import BurnerByte.Webhooks.Requests

/-!
# Webhook requests stay within the team

A caller who is authorised for one team only sees and changes rows of that team. For what they
see: an answer with data is the one that a database would give that holds no other team's
webhooks and deliveries. This is so for every request but one: the statistics of a webhook of
another team are given away, as soon as it has deliveries.
-/

namespace BurnerByte.Webhooks

open Sql Rbac Handler Outcome

/-- The webhook belongs to the team. -/
def Db.Owned (db : Db) (teamID webhookID : UUID) : Prop :=
  ∃ w ∈ db.webhooks, w.id = webhookID ∧ w.teamID = teamID
  deriving Decidable

/-- The database without the webhooks and deliveries of other teams. -/
def Db.only (db : Db) (teamID : UUID) : Db := db.deleteWebhooks fun w => w.teamID ≠ teamID

/-- What a request shows and changes belongs to the team. -/
structure Confined (c : Checker) (env : Env) (now : Nat) (db : Db) (teamID : UUID)
    (req : Request) : Prop where
  shown : ∀ reply db', handle c env now db req = .ok (reply, db') →
    ∃ db'', handle c env now (db.only teamID) req = .ok (reply, db'')
  webhooks : ∀ reply db', handle c env now db req = .ok (reply, db') →
    ∀ w, ¬ (w ∈ db'.webhooks ↔ w ∈ db.webhooks) → w.teamID = teamID
  logs : ∀ reply db', handle c env now db req = .ok (reply, db') →
    ∀ log, ¬ (log ∈ db'.logs ↔ log ∈ db.logs) → db.Owned teamID log.webhookID

/-- The webhook whose statistics a request is granted. -/
def Request.statsOf (c : Checker) (req : Request) : Option UUID :=
  match req.op with
  | .webhookStats webhookParam =>
    if (authorize c req.route "team.webhooks.view").toOption.isSome then webhookParam else none
  | _ => none

variable {db db' : Db} {teamID id : UUID} {w : Webhook}

theorem mem_webhooks_only :
    w ∈ (db.only teamID).webhooks ↔ w ∈ db.webhooks ∧ w.teamID = teamID := by
  unfold Db.only Db.deleteWebhooks
  simp

/-- A delivery is dropped with its webhook, unless the webhook belongs to the team. -/
theorem dropped_eq_false_iff {log : DeliveryLog} (hlog : log ∈ db.logs) :
    (db.webhooks.rows.any fun w => decide (w.teamID ≠ teamID) && w.id = log.webhookID) = false ↔
      db.Owned teamID log.webhookID := by
  have hdropped : (db.webhooks.rows.any fun w =>
      decide (w.teamID ≠ teamID) && w.id = log.webhookID) = true ↔
        ∃ w ∈ db.webhooks, w.teamID ≠ teamID ∧ w.id = log.webhookID := by
    simp only [List.any_eq_true, Bool.and_eq_true, decide_eq_true_eq]
    rfl
  rw [Bool.eq_false_iff, Ne, hdropped]
  constructor
  · intro hkept
    obtain ⟨w, hw, hid⟩ := db.log_webhook log hlog
    refine ⟨w, hw, hid, ?_⟩
    by_contra hother
    exact hkept ⟨w, hw, hother, hid⟩
  · rintro ⟨w, hw, hid, hteam⟩ ⟨other, hother, hne, hsame⟩
    obtain rfl := Table.eq_of_key_eq hw hother (hid.trans hsame.symm)
    exact hne hteam

theorem logsOf_only_of_owned (h : db.Owned teamID id) :
    (db.only teamID).logsOf id = db.logsOf id := by
  unfold Db.logsOf Db.only Db.deleteWebhooks Table.deleteWhere
  dsimp only
  rw [List.filter_filter]
  refine List.filter_congr fun log hlog => ?_
  by_cases hid : log.webhookID = id
  · rw [(dropped_eq_false_iff hlog).mpr (hid ▸ h), Bool.not_false, Bool.and_true]
  · rw [decide_eq_false hid, Bool.false_and]

theorem logsOf_only_of_not_owned (h : ¬ db.Owned teamID id) : (db.only teamID).logsOf id = [] := by
  refine List.filter_eq_nil_iff.mpr fun log hlog hid => ?_
  obtain ⟨hmem, hkept⟩ := Table.mem_deleteWhere.mp hlog
  have hid : log.webhookID = id := of_decide_eq_true hid
  exact h (hid ▸ (dropped_eq_false_iff hmem).mp hkept)

theorem getOfTeam_eq_ok : getOfTeam db teamID id = .ok w ↔
    w ∈ db.webhooks ∧ w.id = id ∧ w.teamID = teamID := by
  unfold getOfTeam Db.getByID
  cases hfind : db.webhooks.find? id with
  | none =>
    refine iff_of_false (by simp) ?_
    rintro ⟨hw, hid, _⟩
    rw [Table.find?_eq_some_iff.mpr ⟨hw, hid⟩] at hfind
    cases hfind
  | some found =>
    obtain ⟨hmem, hid⟩ := Table.find?_eq_some_iff.mp hfind
    rw [guard_eq_ok, not_not]
    constructor
    · rintro ⟨hteam, hok⟩
      cases hok
      exact ⟨hmem, hid, hteam⟩
    · rintro ⟨hw, hid', hteam⟩
      obtain rfl := Table.eq_of_key_eq hmem hw (hid.trans hid'.symm)
      exact ⟨hteam, rfl⟩

theorem getOfTeam_only (h : getOfTeam db teamID id = .ok w) :
    getOfTeam (db.only teamID) teamID id = .ok w := by
  obtain ⟨hw, hid, hteam⟩ := getOfTeam_eq_ok.mp h
  exact getOfTeam_eq_ok.mpr ⟨mem_webhooks_only.mpr ⟨hw, hteam⟩, hid, hteam⟩

theorem filter_webhooks_only :
    ((db.only teamID).webhooks.rows.filter fun w => w.teamID = teamID) =
      db.webhooks.rows.filter fun w => w.teamID = teamID := by
  unfold Db.only Db.deleteWebhooks Table.deleteWhere
  rw [List.filter_filter]
  refine List.filter_congr fun w _ => ?_
  by_cases hteam : w.teamID = teamID <;> simp [hteam]

theorem exists_create_iff : (∃ db', db.create w = .ok db') ↔
    (∀ old ∈ db.webhooks, old.id ≠ w.id) ∧ (∃ team ∈ db.teams, team = w.teamID) ∧
      ∀ userID ∈ w.createdBy, ∃ user ∈ db.users, user = userID := by
  unfold Db.create
  split
  · rename_i hnone
    refine iff_of_false (by simp) ?_
    rintro ⟨hfresh, _⟩
    obtain ⟨_, hsome⟩ : ∃ webhooks, db.webhooks.insert w = some webhooks :=
      Table.exists_insert hfresh
    rw [hnone] at hsome
    cases hsome
  · rename_i webhooks hinsert
    have hfresh := (Table.insert_eq_some hinsert).1
    split
    · rename_i hteam
      split
      · rename_i huser
        exact iff_of_true ⟨_, rfl⟩ ⟨hfresh, hteam, huser⟩
      · rename_i huser
        exact iff_of_false (by simp) fun h => huser h.2.2
    · rename_i hteam
      exact iff_of_false (by simp) fun h => hteam h.2.1

theorem create_eq_ok (h : db.create w = .ok db') :
    (∀ x, x ∈ db'.webhooks ↔ x = w ∨ x ∈ db.webhooks) ∧ db'.logs = db.logs := by
  unfold Db.create at h
  split at h
  · cases h
  rename_i webhooks hinsert
  split at h
  · split at h
    · cases h
      exact ⟨(Table.insert_eq_some hinsert).2, rfl⟩
    · cases h
  · cases h

/-- An update writes the row with the id, which keeps its team. -/
theorem teamID_of_update_ne {now : Nat} {old x : Webhook} (hold : old ∈ db.webhooks)
    (hid : old.id = w.id) (hx : ¬ (x ∈ (db.update w now).webhooks ↔ x ∈ db.webhooks)) :
    x.teamID = old.teamID := by
  obtain ⟨row, hrow, hmatch, heq⟩ := Table.exists_of_updateWhere_ne
    (Webhook.edit_id w.url w.events w.active now) hx
  obtain rfl := Table.eq_of_key_eq hrow hold ((of_decide_eq_true hmatch).trans hid.symm)
  rcases heq with rfl | rfl <;> rfl

theorem owned_of_delete_ne {log : DeliveryLog} (hw : w ∈ db.webhooks)
    (hlog : ¬ (log ∈ (db.delete w.id).logs ↔ log ∈ db.logs)) :
    db.Owned w.teamID log.webhookID := by
  obtain ⟨_, hgone⟩ := Table.of_deleteWhere_ne hlog
  obtain ⟨row, hrow, hmatch⟩ := List.any_eq_true.mp hgone
  simp only [Bool.and_eq_true, decide_eq_true_eq] at hmatch
  obtain rfl := Table.eq_of_key_eq hrow hw hmatch.1
  exact ⟨row, hrow, hmatch.2, rfl⟩

/-! ## The requests -/

variable {c : Checker} {env : Env} {now : Nat} {route : Route}

theorem authorize_eq_ok {key : String} {ids : UUID × UUID} (h : authorize c route key = .ok ids) :
    checkTeamPermission c route.uc ids.1 ids.2 key = .ok () := by
  obtain ⟨_, h⟩ := guard_eq_ok.mp h
  split at h
  · cases h
  · cases h
  obtain ⟨_, hcheck, hids⟩ := bind_eq_ok.mp h
  cases hids
  exact hcheck

variable {req : Request} {webhookID : UUID}

theorem confined_of_each
    (h : ∀ reply db', handle c env now db req = .ok (reply, db') →
      (∃ db'', handle c env now (db.only teamID) req = .ok (reply, db'')) ∧
        (∀ w, ¬ (w ∈ db'.webhooks ↔ w ∈ db.webhooks) → w.teamID = teamID) ∧
        ∀ log, ¬ (log ∈ db'.logs ↔ log ∈ db.logs) → db.Owned teamID log.webhookID) :
    Confined c env now db teamID req :=
  ⟨fun reply db' hok => (h reply db' hok).1, fun reply db' hok => (h reply db' hok).2.1,
    fun reply db' hok => (h reply db' hok).2.2⟩

/-- A request that changes nothing and shows only what the team's rows give is confined. -/
theorem confined_of_unchanged
    (h : ∀ reply db', handle c env now db req = .ok (reply, db') →
      db' = db ∧ ∃ db'', handle c env now (db.only teamID) req = .ok (reply, db'')) :
    Confined c env now db teamID req := by
  refine confined_of_each fun reply db' hok => ?_
  obtain ⟨rfl, hshown⟩ := h reply db' hok
  exact ⟨hshown, fun _ hw => absurd Iff.rfl hw, fun _ hlog => absurd Iff.rfl hlog⟩

/-- What a new webhook needs, the database without other teams' rows has as well. -/
theorem create_only {userID : UUID} {input : CreateWebhookInput} {secret : String}
    (h : create env now db teamID userID input id secret = .ok (w, db')) :
    ∃ stored, stored.teamID = teamID ∧ db.create stored = .ok db' ∧
      ∃ db'', create env now (db.only teamID) teamID userID input id secret = .ok (w, db'') := by
  unfold create at h ⊢
  split at h
  · cases h
  · cases h
  dsimp only at h ⊢
  split at h
  · cases h
  rename_i created hcreate
  obtain ⟨rfl, rfl⟩ := Prod.mk.inj (Except.ok.inj h)
  obtain ⟨hfresh, hteam, huser⟩ := exists_create_iff.mp ⟨created, hcreate⟩
  obtain ⟨db'', hcreate'⟩ := (@exists_create_iff (db.only teamID) _).mpr
    ⟨fun old hold => hfresh old (mem_webhooks_only.mp hold).1, hteam, huser⟩
  refine ⟨_, rfl, hcreate, db'', ?_⟩
  rw [hcreate']

theorem list_only (page perPage : Int) :
    list (db.only teamID) teamID page perPage = list db teamID page perPage := by
  unfold list Db.listByTeam
  rw [filter_webhooks_only]

theorem getByID_only (h : ∃ w, getOfTeam db teamID id = .ok w) :
    getByID (db.only teamID) teamID id = getByID db teamID id := by
  obtain ⟨w, hw⟩ := h
  unfold getByID
  rw [hw, getOfTeam_only hw]

theorem update_only {input : UpdateWebhookInput}
    (h : update env now db teamID id input = .ok (w, db')) :
    ∃ old, getOfTeam db teamID id = .ok old ∧
      (∃ new, db' = db.update new now ∧ new.id = old.id) ∧
      ∃ db'', update env now (db.only teamID) teamID id input = .ok (w, db'') := by
  unfold update at h ⊢
  split at h
  · cases h
  rename_i old hold
  rw [getOfTeam_only hold]
  dsimp only
  split at h
  · cases h
  dsimp only at h
  split at h
  · cases h
  cases h
  exact ⟨old, hold, ⟨_, rfl, rfl⟩, _, rfl⟩

theorem delete_only (h : delete db teamID id = .ok db') :
    ∃ old, getOfTeam db teamID id = .ok old ∧ db' = db.delete old.id ∧
      ∃ db'', delete (db.only teamID) teamID id = .ok db'' := by
  unfold delete at h ⊢
  split at h
  · cases h
  rename_i old hold
  cases h
  rw [getOfTeam_only hold]
  exact ⟨old, hold, by rw [(getOfTeam_eq_ok.mp hold).2.1], _, rfl⟩

theorem listDeliveryLogs_only {page perPage : Int} {logs : List DeliveryLog × Int}
    (h : listDeliveryLogs db teamID webhookID page perPage = .ok logs) :
    listDeliveryLogs (db.only teamID) teamID webhookID page perPage = .ok logs := by
  unfold listDeliveryLogs at h ⊢
  split at h
  · cases h
  rename_i w hw
  obtain ⟨hmem, hid, hteam⟩ := getOfTeam_eq_ok.mp hw
  rw [getOfTeam_only hw]
  unfold Db.listDeliveryLogs at h ⊢
  rw [logsOf_only_of_owned ⟨w, hmem, hid, hteam⟩]
  exact h

/-- The numbers tell whether there were any deliveries. -/
theorem getWebhookStats_only_iff :
    getWebhookStats (db.only teamID) webhookID = getWebhookStats db webhookID ↔
      ∀ log ∈ db.logs, log.webhookID = webhookID → db.Owned teamID webhookID := by
  by_cases howned : db.Owned teamID webhookID
  · refine iff_of_true ?_ fun _ _ _ => howned
    unfold getWebhookStats Db.getWebhookStats
    rw [logsOf_only_of_owned howned]
  have hempty : (∀ log ∈ db.logs, log.webhookID = webhookID → db.Owned teamID webhookID) ↔
      db.logsOf webhookID = [] := by
    unfold Db.logsOf
    rw [List.filter_eq_nil_iff]
    refine forall₂_congr fun log _ => ?_
    rw [decide_eq_true_eq]
    exact ⟨fun h hid => howned (h hid), fun h hid => absurd hid h⟩
  rw [hempty]
  unfold getWebhookStats Db.getWebhookStats
  rw [logsOf_only_of_not_owned howned]
  constructor
  · intro hsame
    have htotal : 0 = (db.logsOf webhookID).length := congrArg WebhookStats.totalDeliveries hsame
    exact List.eq_nil_of_length_eq_zero htotal.symm
  · intro hnil
    rw [hnil]

theorem handle_webhookStats_eq_ok {webhookParam : Option UUID} {reply : Reply} :
    handle c env now db ⟨route, .webhookStats webhookParam⟩ = .ok (reply, db') ↔
      ∃ webhookID, Request.statsOf c ⟨route, .webhookStats webhookParam⟩ = some webhookID ∧
        ⟨.stats (getWebhookStats db webhookID), none⟩ = reply ∧ db = db' := by
  unfold handle handleWebhookStats Request.statsOf
  cases authorize c route "team.webhooks.view" with
  | error err => simp [Except.toOption]
  | ok ids => cases webhookParam <;> simp [parseWebhookID, Except.toOption]

theorem confined_webhookStats_iff {webhookParam : Option UUID} :
    Confined c env now db teamID ⟨route, .webhookStats webhookParam⟩ ↔
      ∀ webhookID, Request.statsOf c ⟨route, .webhookStats webhookParam⟩ = some webhookID →
        getWebhookStats (db.only teamID) webhookID = getWebhookStats db webhookID := by
  constructor
  · intro hconfined webhookID hid
    obtain ⟨db'', hshown⟩ :=
      hconfined.shown _ _ (handle_webhookStats_eq_ok.mpr ⟨webhookID, hid, rfl, rfl⟩)
    obtain ⟨shownID, hid', hreply, _⟩ := handle_webhookStats_eq_ok.mp hshown
    cases hid.symm.trans hid'
    exact Answer.stats.inj (congrArg Reply.answer hreply)
  · intro hsame
    refine confined_of_unchanged fun reply db' hok => ?_
    obtain ⟨webhookID, hid, rfl, rfl⟩ := handle_webhookStats_eq_ok.mp hok
    exact ⟨rfl, _, handle_webhookStats_eq_ok.mpr ⟨webhookID, hid, by rw [hsame _ hid], rfl⟩⟩

section

variable
  (hteam : ∀ orgID other key, checkTeamPermission c route.uc orgID other key = .ok () →
    other = teamID)

include hteam

/-- A handler goes on with the team that the caller is authorised for. -/
theorem authorize_bind_eq_ok {α : Type} {key : String} {a : α}
    {f : UUID × UUID → Except HttpError α} (h : (authorize c route key).bind f = .ok a) :
    ∃ orgID, authorize c route key = .ok (orgID, teamID) ∧ f (orgID, teamID) = .ok a := by
  obtain ⟨⟨orgID, other⟩, hauth, hrest⟩ := bind_eq_ok.mp h
  obtain rfl := hteam orgID other key (authorize_eq_ok hauth)
  exact ⟨orgID, hauth, hrest⟩

theorem confined_create (body : Option CreateWebhookInput) (id : UUID) (secret : String) :
    Confined c env now db teamID ⟨route, .create body id secret⟩ := by
  refine confined_of_each fun reply db' hok => ?_
  obtain ⟨orgID, hauth, hrest⟩ := authorize_bind_eq_ok hteam hok
  dsimp only [handle, handleCreate] at hrest ⊢
  rw [hauth]
  split at hrest
  · cases hrest
  split at hrest
  · cases hrest
  rename_i w created hcreated
  cases hrest
  obtain ⟨stored, hstored, hinsert, db'', hcreated'⟩ := create_only hcreated
  obtain ⟨hmem, hlogs⟩ := create_eq_ok hinsert
  refine ⟨⟨db'', by simp only [ok_bind, hcreated']⟩, fun x hx => ?_, fun log hlog => ?_⟩
  · rw [hmem, or_iff_right_iff_imp, Classical.not_imp] at hx
    rw [hx.1, hstored]
  · rw [hlogs] at hlog
    exact absurd Iff.rfl hlog

theorem confined_list (params : PageParams) :
    Confined c env now db teamID ⟨route, .list params⟩ := by
  refine confined_of_unchanged fun reply db' hok => ?_
  obtain ⟨orgID, hauth, hrest⟩ := authorize_bind_eq_ok hteam hok
  show _ ∧ ∃ db'', handleList c (db.only teamID) route params = .ok (reply, db'')
  unfold handleList
  rw [hauth]
  dsimp only [ok_bind] at hrest ⊢
  split at hrest
  · cases hrest
  rename_i webhooks total hlist
  cases hrest
  rw [← list_only] at hlist
  refine ⟨rfl, db.only teamID, ?_⟩
  simp only [hlist]

theorem confined_update (webhookParam : Option UUID) (body : Option UpdateWebhookInput) :
    Confined c env now db teamID ⟨route, .update webhookParam body⟩ := by
  refine confined_of_each fun reply db' hok => ?_
  obtain ⟨orgID, hauth, hrest⟩ := authorize_bind_eq_ok hteam hok
  obtain ⟨id, hid, hrest⟩ := bind_eq_ok.mp hrest
  dsimp only [handle, handleUpdate] at hid hrest ⊢
  rw [hauth, ok_bind, hid]
  split at hrest
  · cases hrest
  split at hrest
  · cases hrest
  rename_i w updated hupdated
  cases hrest
  obtain ⟨old, hold, ⟨new, rfl, hnew⟩, db'', hupdated'⟩ := update_only hupdated
  obtain ⟨hmem, _, holdTeam⟩ := getOfTeam_eq_ok.mp hold
  refine ⟨⟨db'', ?_⟩, fun x hx => ?_, fun log hlog => absurd Iff.rfl hlog⟩
  · simp only [ok_bind, hupdated', getByID_only ⟨old, hold⟩]
  · rw [teamID_of_update_ne hmem hnew.symm hx, holdTeam]

theorem confined_delete (webhookParam : Option UUID) :
    Confined c env now db teamID ⟨route, .delete webhookParam⟩ := by
  refine confined_of_each fun reply db' hok => ?_
  obtain ⟨orgID, hauth, hrest⟩ := authorize_bind_eq_ok hteam hok
  obtain ⟨id, hid, hrest⟩ := bind_eq_ok.mp hrest
  dsimp only [handle, handleDelete] at hid hrest ⊢
  rw [hauth, ok_bind, hid]
  split at hrest
  · cases hrest
  rename_i deleted hdeleted
  cases hrest
  obtain ⟨old, hold, rfl, db'', hdeleted'⟩ := delete_only hdeleted
  obtain ⟨hmem, _, holdTeam⟩ := getOfTeam_eq_ok.mp hold
  refine ⟨⟨db'', ?_⟩, fun x hx => ?_, fun log hlog => ?_⟩
  · simp only [ok_bind, hdeleted', getByID_only ⟨old, hold⟩]
  · obtain ⟨hrow, hid⟩ := Table.of_deleteWhere_ne hx
    rw [Table.eq_of_key_eq hrow hmem (of_decide_eq_true hid), holdTeam]
  · exact holdTeam ▸ owned_of_delete_ne hmem hlog

theorem confined_listDeliveryLogs (webhookParam : Option UUID) (params : PageParams) :
    Confined c env now db teamID ⟨route, .listDeliveryLogs webhookParam params⟩ := by
  refine confined_of_unchanged fun reply db' hok => ?_
  obtain ⟨orgID, hauth, hrest⟩ := authorize_bind_eq_ok hteam hok
  obtain ⟨id, hid, hrest⟩ := bind_eq_ok.mp hrest
  show _ ∧ ∃ db'', handleListDeliveryLogs c (db.only teamID) route webhookParam params =
    .ok (reply, db'')
  unfold handleListDeliveryLogs
  rw [hauth]
  dsimp only [ok_bind] at hrest ⊢
  rw [hid]
  split at hrest
  · cases hrest
  rename_i logs total hlogs
  cases hrest
  refine ⟨rfl, db.only teamID, ?_⟩
  simp only [ok_bind, listDeliveryLogs_only hlogs]

end

/-- Whatever webhook a caller names who is authorised for one team only, the request shows and
changes rows of that team alone exactly if it does not ask for the statistics of a webhook of
another team that has deliveries. -/
theorem webhook_rows_confined_iff (c : Checker) (env : Env) (now : Nat) (db : Db) (teamID : UUID)
    (req : Request)
    (hteam : ∀ orgID other key, checkTeamPermission c req.route.uc orgID other key = .ok () →
      other = teamID) :
    Confined c env now db teamID req ↔
      ∀ webhookID, req.statsOf c = some webhookID →
        ∀ log ∈ db.logs, log.webhookID = webhookID → db.Owned teamID webhookID := by
  obtain ⟨route, op⟩ := req
  cases op with
  | webhookStats webhookParam =>
    simp only [← getWebhookStats_only_iff]
    exact confined_webhookStats_iff
  | create body id secret =>
    exact iff_of_true (confined_create hteam body id secret) fun _ h => nomatch h
  | list params => exact iff_of_true (confined_list hteam params) fun _ h => nomatch h
  | update webhookParam body =>
    exact iff_of_true (confined_update hteam webhookParam body) fun _ h => nomatch h
  | delete webhookParam =>
    exact iff_of_true (confined_delete hteam webhookParam) fun _ h => nomatch h
  | listDeliveryLogs webhookParam params =>
    exact iff_of_true (confined_listDeliveryLogs hteam webhookParam params) fun _ h => nomatch h

/-- Team 1 has webhook 10, and team 2 has webhook 20. Each webhook has one delivery. -/
def sampleDb : Db where
  teams := ⟨[1, 2], by decide⟩
  users := ⟨[1, 2], by decide⟩
  webhooks := ⟨[⟨10, 1, some 1, "https://one.example.com/hook", "s1", ["email.received"], true,
      some 200, some 5, 0, 1, 1⟩,
    ⟨20, 2, some 2, "https://two.example.com/hook", "s2", ["inbox.created"], true,
      some 200, some 7, 0, 2, 2⟩], by decide⟩
  logs := ⟨[⟨11, 10, "email.received", some 200, some 120, true, 1, 5⟩,
    ⟨21, 20, "inbox.created", some 200, some 250, true, 1, 7⟩], by decide⟩
  webhook_team := by decide
  log_webhook := by decide

/-- User 1 leads team 1 of org 1, and user 2 leads team 2 of org 2. -/
def sampleChecker : Checker where
  orgMembership _ _ := none
  teamMembership
    | 1, 1 => some ⟨1, 1, "lead", lead_mem_teamRoles⟩
    | 2, 2 => some ⟨2, 2, "lead", lead_mem_teamRoles⟩
    | _, _ => none
  teamOrgID
    | 1 => some 1
    | 2 => some 2
    | _ => none
  cache := shippedRoles.cache

/-- URLs and events are as good as they come. -/
def sampleEnv : Env := ⟨fun _ => none, fun _ => none⟩

/-- User 1 asks for the statistics of a webhook. -/
def askStats (webhookID : UUID) : Request where
  route := ⟨some (plainUser 1), some 1, some 1⟩
  op := .webhookStats (some webhookID)

theorem permitted_in_one_team (orgID other : UUID) (key : String)
    (h : checkTeamPermission sampleChecker (some (plainUser 1)) orgID other key = .ok ()) :
    other = 1 := by
  obtain ⟨_, _, hrbac⟩ := bind_eq_ok.mp h
  rcases Checker.requireTeamPermission_ok_iff.mp (rbacError_ok hrbac) with
    hadmin | ⟨_, hfallback | hmember⟩
  · cases hadmin
  · cases hfallback
  · obtain ⟨tm, hfind, _⟩ := Checker.teamMembershipBranch_ok_iff.mp hmember
    unfold sampleChecker plainUser at hfind
    dsimp only at hfind
    split at hfind
    · rfl
    · cases (by assumption : (1 : UUID) = 2)
    · cases hfind

/-- The statistics of the own webhook. -/
theorem own_stats_confined :
    Confined sampleChecker sampleEnv 9 sampleDb 1 (askStats 10) := by
  refine (webhook_rows_confined_iff _ sampleEnv 9 sampleDb 1 (askStats 10)
    permitted_in_one_team).mpr ?_
  intro webhookID hid log _ _
  have hstats : (askStats 10).statsOf sampleChecker = some 10 := by decide +kernel
  cases hstats.symm.trans hid
  decide

/-- The lead of team 1 learns how many deliveries the webhook of team 2 has had, how they went and
when the last one was. -/
theorem foreign_stats_shown :
    (∀ orgID other key, checkTeamPermission sampleChecker (some (plainUser 1)) orgID other key =
        .ok () → other = 1) ∧
      ¬ sampleDb.Owned 1 20 ∧
      (handle sampleChecker sampleEnv 9 sampleDb (askStats 20)).toOption.map (fun r => r.1.answer) =
        some (.stats ⟨1, 1, 0, 1000, 250, some 7⟩) ∧
      ¬ Confined sampleChecker sampleEnv 9 sampleDb 1 (askStats 20) := by
  refine ⟨permitted_in_one_team, by decide, by decide +kernel, fun hconfined => ?_⟩
  have hsame := confined_webhookStats_iff.mp hconfined 20 (by decide +kernel)
  exact absurd hsame (by decide)

end BurnerByte.Webhooks
