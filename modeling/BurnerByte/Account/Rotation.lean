import BurnerByte.Account.Sessions
import BurnerByte.Core.Interleaving

/-!
# Concurrent refreshes

A family should have one unrevoked session at any time, so that one refresh token
cannot be exchanged for two live ones. A call that has revoked its session and not
yet created the next one stands for the session that is missing meanwhile. If every
call revokes a session that is still unrevoked then, a family never has two of
these, whatever the interleaving. The code does not see to this: the lookup that
checks the flag and the statement that sets it are apart.
-/

namespace BurnerByte.Account

open Sql Interleaving
open Function (update update_of_ne update_self)

universe u

variable {ι : Type u}

/-- Calls of `Refresh` on one database. -/
abbrev Calls (ι : Type u) := System ι Refresh Sessions

def Calls.start (inputs : ι → RefreshInput) (db : Sessions) : Calls ι :=
  ⟨fun i => .lookup (inputs i), db⟩

/-- At most one unrevoked session in each family. -/
def Sessions.OneLive (db : Sessions) : Prop :=
  ∀ s ∈ db.sessions, ∀ s' ∈ db.sessions, s.revoked = false → s'.revoked = false →
    s.tokenFamily = s'.tokenFamily → s = s'
  deriving Decidable

/-- No session has been exchanged for two live ones. -/
def Calls.ExchangedOnce (sys : Calls ι) : Prop :=
  ∀ i j a b, sys.procs i = .done (.ok a) → sys.procs j = .done (.ok b) → a.old.id = b.old.id →
    a.new ∈ sys.shared.sessions → b.new ∈ sys.shared.sessions → a.new = b.new

/-- If the call revokes its session next, then the session is still unrevoked. -/
def Refresh.RevokesLive (db : Sessions) : Refresh → Prop
  | .revoke _ session => ∀ s ∈ db.sessions, s.id = session.id → s.revoked = false
  | _ => True

instance (db : Sessions) : (call : Refresh) → Decidable (call.RevokesLive db)
  | .revoke _ session =>
    inferInstanceAs (Decidable (∀ s ∈ db.sessions, s.id = session.id → s.revoked = false))
  | .lookup _ | .revokeFamily _ | .getUser _ _ | .revokeAgain _ _ | .create _ _ | .done _ =>
    .isTrue trivial

/-! ## Calls between two sessions -/

/-- The session that a call has looked up. -/
def Refresh.session : Refresh → Option Session
  | .lookup _ => none
  | .revokeFamily session => some session
  | .revoke _ session => some session
  | .getUser _ session => some session
  | .revokeAgain session _ => some session
  | .create _ session => some session
  | .done (.ok exchange) => some exchange.old
  | .done (.error _) => none

/-- The call has revoked its session and may still create the next one of the family. -/
def Refresh.Pending (family : UUID) : Refresh → Prop
  | .getUser _ session => session.tokenFamily = family
  | .create _ session => session.tokenFamily = family
  | _ => False

/-- In each family there is at most one unrevoked session or pending call, and the
session that a call has looked up keeps its row. -/
structure Rotating (sys : Calls ι) : Prop where
  oneLive : sys.shared.OneLive
  onePending : ∀ family i j, (sys.procs i).Pending family → (sys.procs j).Pending family → i = j
  notBoth : ∀ family i, (sys.procs i).Pending family → ∀ s ∈ sys.shared.sessions,
    s.tokenFamily = family → s.revoked = true
  row : ∀ i session, (sys.procs i).session = some session →
    ∃ s ∈ sys.shared.sessions, s.id = session.id ∧ s.tokenFamily = session.tokenFamily

variable {db : Sessions} {sys : Calls ι}

/-- A session of a pending call's family is not live. -/
theorem Rotating.not_live (h : Rotating sys) {family : UUID} {i : ι}
    (hpending : (sys.procs i).Pending family) {s : Session} (hs : s ∈ sys.shared.sessions)
    (hfamily : s.tokenFamily = family) : s.revoked ≠ false := by
  rw [h.notBoth family i hpending s hs hfamily]
  exact Bool.noConfusion

theorem Rotating.exchangedOnce (h : Rotating sys) : sys.ExchangedOnce := by
  intro i j a b hi hj hold hnew hnew'
  obtain ⟨row, hrow, hid, hfamily⟩ := h.row i a.old (by rw [hi, Refresh.session])
  obtain ⟨row', hrow', hid', hfamily'⟩ := h.row j b.old (by rw [hj, Refresh.session])
  have hsame : row = row' := Table.eq_of_key_eq hrow hrow' (hid.trans (hold.trans hid'.symm))
  refine h.oneLive a.new hnew b.new hnew' rfl rfl ?_
  calc a.new.tokenFamily = row.tokenFamily := hfamily.symm
    _ = row'.tokenFamily := by rw [hsame]
    _ = b.new.tokenFamily := hfamily'

/-- The rows of `db` are in `db'`, with the same id and family. -/
def Sessions.RowsKept (db db' : Sessions) : Prop :=
  ∀ s ∈ db.sessions, ∃ s' ∈ db'.sessions, s'.id = s.id ∧ s'.tokenFamily = s.tokenFamily

theorem rowsKept_revokeWhere (db : Sessions) (p : Session → Bool) :
    db.RowsKept (db.revokeWhere p) := by
  intro s hs
  refine ⟨_, mem_revokeWhere.mpr ⟨s, hs, rfl⟩, ?_⟩
  split <;> exact ⟨rfl, rfl⟩

theorem oneLive_revokeWhere (h : db.OneLive) (p : Session → Bool) : (db.revokeWhere p).OneLive := by
  intro s hs s' hs' hlive hlive' hfamily
  exact h s (unrevoked_of_revokeWhere hs hlive).1 s' (unrevoked_of_revokeWhere hs' hlive').1 hlive
    hlive' hfamily

/-- A family without unrevoked sessions stays so when sessions are revoked. -/
theorem revoked_revokeWhere {p : Session → Bool} {family : UUID}
    (h : ∀ s ∈ db.sessions, s.tokenFamily = family → s.revoked = true) :
    ∀ s ∈ (db.revokeWhere p).sessions, s.tokenFamily = family → s.revoked = true := by
  intro s hs hfamily
  by_contra hlive
  rw [Bool.not_eq_true] at hlive
  have hold := h s (unrevoked_of_revokeWhere hs hlive).1 hfamily
  rw [hlive] at hold
  cases hold

variable [DecidableEq ι]

namespace Rotating

variable {sys : Calls ι}

variable {i : ι} {call : Refresh} {session : Session}

variable {input : RefreshInput}

section

variable (h : Rotating sys)

include h

/-- What a statement of one call has to respect. -/
theorem next (hlive : db.OneLive) (hrows : sys.shared.RowsKept db)
    (hpending : ∀ family, call.Pending family → (∀ j, j ≠ i → ¬ (sys.procs j).Pending family) ∧
      ∀ s ∈ db.sessions, s.tokenFamily = family → s.revoked = true)
    (hothers : ∀ family j, j ≠ i → (sys.procs j).Pending family → ∀ s ∈ db.sessions,
      s.tokenFamily = family → s.revoked = true)
    (hrow : ∀ session, call.session = some session →
      ∃ s ∈ db.sessions, s.id = session.id ∧ s.tokenFamily = session.tokenFamily) :
    Rotating (⟨update sys.procs i call, db⟩ : Calls ι) where
  oneLive := hlive
  onePending := by
    intro family j k hj hk
    dsimp only at hj hk
    by_cases hji : j = i <;> by_cases hki : k = i
    · rw [hji, hki]
    · rw [hji, update_self] at hj
      rw [update_of_ne hki] at hk
      exact absurd hk ((hpending family hj).1 k hki)
    · rw [hki, update_self] at hk
      rw [update_of_ne hji] at hj
      exact absurd hj ((hpending family hk).1 j hji)
    rw [update_of_ne hji] at hj
    rw [update_of_ne hki] at hk
    exact h.onePending family j k hj hk
  notBoth := by
    intro family j hj
    dsimp only at hj ⊢
    by_cases hji : j = i
    · rw [hji, update_self] at hj
      exact (hpending family hj).2
    · rw [update_of_ne hji] at hj
      exact hothers family j hji hj
  row := by
    intro j session hsession
    dsimp only at hsession ⊢
    by_cases hji : j = i
    · rw [hji, update_self] at hsession
      exact hrow session hsession
    rw [update_of_ne hji] at hsession
    obtain ⟨s, hs, hid, hfamily⟩ := h.row j session hsession
    obtain ⟨s', hs', hid', hfamily'⟩ := hrows s hs
    exact ⟨s', hs', hid'.trans hid, hfamily'.trans hfamily⟩

/-- A statement that changes no session, and after which the call is pending only if
it was before. -/
theorem local_step (hpending : ∀ family, call.Pending family → (sys.procs i).Pending family)
    (hrow : ∀ session, call.session = some session →
      ∃ s ∈ sys.shared.sessions, s.id = session.id ∧ s.tokenFamily = session.tokenFamily) :
    Rotating (⟨update sys.procs i call, sys.shared⟩ : Calls ι) := by
  refine h.next h.oneLive (fun s hs => ⟨s, hs, rfl, rfl⟩) ?_
    (fun family j _ => h.notBoth family j) hrow
  intro family hcall
  have hbefore := hpending family hcall
  constructor
  · intro j hj hother
    exact hj (h.onePending family j i hother hbefore)
  · exact h.notBoth family i hbefore

/-- A call that ends with an error and changes no session. -/
theorem fail_step (i : ι) (err : String) :
    Rotating (⟨update sys.procs i (.done (.error err)), sys.shared⟩ : Calls ι) := by
  apply h.local_step
  · intro family hpending
    exact hpending.elim
  · intro session hsession
    cases hsession

/-- A call that goes on with a session that has its row. -/
theorem continue_step (hpending : ∀ family, call.Pending family → (sys.procs i).Pending family)
    (hsession : call.session = some session)
    (hrow : ∃ s ∈ sys.shared.sessions, s.id = session.id ∧ s.tokenFamily = session.tokenFamily) :
    Rotating (⟨update sys.procs i call, sys.shared⟩ : Calls ι) := by
  apply h.local_step hpending
  intro session' hsession'
  rw [hsession] at hsession'
  cases hsession'
  exact hrow

/-- A call that ends with an error by revoking sessions. -/
theorem revoke_step (i : ι) (p : Session → Bool) (err : String) :
    Rotating (⟨update sys.procs i (.done (.error err)), sys.shared.revokeWhere p⟩ : Calls ι) :=
  h.next (oneLive_revokeWhere h.oneLive p) (rowsKept_revokeWhere sys.shared p)
    (fun _ hpending => hpending.elim)
    (fun family j _ hpending => revoked_revokeWhere (h.notBoth family j hpending))
    (fun _ hsession => by cases hsession)

/-- A call that revokes an unrevoked session: it was the only one of its family, and no
other call was pending. -/
theorem revoke_live (hproc : sys.procs i = .revoke input session)
    (hguard : ∀ s ∈ sys.shared.sessions, s.id = session.id → s.revoked = false) :
    Rotating (⟨update sys.procs i (.getUser input session),
      sys.shared.revoke session.id⟩ : Calls ι) := by
  obtain ⟨row, hrow, hid, hfamily⟩ := h.row i session (by rw [hproc, Refresh.session])
  have hlive := hguard row hrow hid
  refine h.next (oneLive_revokeWhere h.oneLive _) (rowsKept_revokeWhere sys.shared _)
    ?_ (fun family j _ hpending => revoked_revokeWhere (h.notBoth family j hpending)) ?_
  · intro family hpending
    obtain rfl : session.tokenFamily = family := hpending
    constructor
    · intro j _ hother
      exact absurd hlive (h.not_live hother hrow hfamily)
    · intro s hs hsfamily
      by_contra hnot
      rw [Bool.not_eq_true] at hnot
      obtain ⟨hmem, hne⟩ := unrevoked_of_revokeWhere hs hnot
      have hsame := h.oneLive s hmem row hrow hnot hlive (hsfamily.trans hfamily.symm)
      rw [hsame, hid] at hne
      simp at hne
  · intro session' hsession'
    cases hsession'
    obtain ⟨s, hs, hid', hfamily'⟩ := rowsKept_revokeWhere sys.shared
      (fun s => s.id = session.id) row hrow
    exact ⟨s, hs, hid'.trans hid, hfamily'.trans hfamily⟩

/-- A call that creates the next session: its family had no unrevoked one. -/
theorem create_step {sessions : _} (hproc : sys.procs i = .create input session)
    (hinsert : sys.shared.sessions.insert (input.newSession session) = some sessions) :
    Rotating (⟨update sys.procs i (.done (.ok ⟨session, input⟩)),
      { sys.shared with sessions }⟩ : Calls ι) := by
  obtain ⟨hfresh, hmem⟩ := Table.insert_eq_some hinsert
  have hpending : (sys.procs i).Pending session.tokenFamily := by
    rw [hproc]
    exact rfl
  refine h.next ?_ ?_ (fun _ hcall => hcall.elim) ?_ ?_
  · intro s hs s' hs' hlive hlive' hsame
    rcases (hmem s).mp hs with rfl | hold <;> rcases (hmem s').mp hs' with rfl | hold'
    · rfl
    · exact absurd hlive' (h.not_live hpending hold' hsame.symm)
    · exact absurd hlive (h.not_live hpending hold hsame)
    · exact h.oneLive s hold s' hold' hlive hlive' hsame
  · intro s hs
    exact ⟨s, (hmem s).mpr (.inr hs), rfl, rfl⟩
  · intro family j hj hother s hs hfamily
    rcases (hmem s).mp hs with rfl | hold
    · obtain rfl : session.tokenFamily = family := hfamily
      exact absurd (h.onePending _ j i hother hpending) hj
    · exact h.notBoth family j hother s hold hfamily
  · intro session' hsession'
    cases hsession'
    obtain ⟨row, hrow, hid, hfamily⟩ := h.row i session (by rw [hproc, Refresh.session])
    exact ⟨row, (hmem row).mpr (.inr hrow), hid, hfamily⟩

end

end Rotating

/-! ## Schedules -/

theorem lookup_step (h : Rotating sys) (i : ι) (input : RefreshInput) :
    Rotating (⟨update sys.procs i
      (.afterLookup input (sys.shared.getByTokenHash input.tokenHash)), sys.shared⟩ : Calls ι) := by
  unfold Refresh.afterLookup
  split
  · exact h.fail_step i _
  rename_i session hfind
  have hmem : session ∈ sys.shared.sessions := List.mem_of_find?_eq_some hfind
  split
  · exact h.continue_step (fun _ hpending => hpending.elim) rfl ⟨session, hmem, rfl, rfl⟩
  split
  · exact h.fail_step i _
  · exact h.continue_step (fun _ hpending => hpending.elim) rfl ⟨session, hmem, rfl, rfl⟩

theorem getUser_step (h : Rotating sys) {i : ι} {input : RefreshInput} {session : Session}
    (hproc : sys.procs i = .getUser input session) :
    Rotating (⟨update sys.procs i
      (.afterGetUser input session (sys.shared.users session.userID)), sys.shared⟩ : Calls ι) := by
  have hrow := h.row i session (by rw [hproc, Refresh.session])
  unfold Refresh.afterGetUser
  split
  · exact h.fail_step i _
  split
  · exact h.continue_step (fun _ hpending => hpending.elim) rfl hrow
  refine h.continue_step ?_ rfl hrow
  -- The call was pending for the family before it read the user.
  intro family hpending
  rw [hproc]
  exact hpending

theorem step_rotating (sys : Calls ι) (i : ι) (h : Rotating sys)
    (hguard : (sys.procs i).RevokesLive sys.shared) : Rotating (sys.step Refresh.stmt i) := by
  unfold System.step
  cases hproc : sys.procs i with
  | lookup input => exact lookup_step h i input
  | revokeFamily session => exact h.revoke_step i _ _
  | revoke input session =>
    rw [hproc] at hguard
    exact h.revoke_live hproc hguard
  | getUser input session => exact getUser_step h hproc
  | revokeAgain session err => exact h.revoke_step i _ err
  | create input session =>
    simp only [Refresh.stmt]
    split
    · exact h.fail_step i _
    rename_i sessions hinsert
    exact h.create_step hproc hinsert
  | done result =>
    apply h.local_step
    · intro family hpending
      exact hpending.elim
    · intro session hsession
      apply h.row i session
      rw [hproc]
      exact hsession

/-- In every interleaving of any number of calls in which each call revokes its session
while that is still unrevoked, each family has at most one unrevoked session, and no
session has been exchanged for two live ones. -/
theorem families_oneLive (inputs : ι → RefreshInput) (db : Sessions) (hdb : db.OneLive)
    (schedule : List ι) (h : Trace.Guarded (System.step Refresh.stmt)
      (fun sys i => (sys.procs i).RevokesLive sys.shared) (Calls.start inputs db) schedule) :
    (Trace.run (System.step Refresh.stmt) (Calls.start inputs db) schedule).shared.OneLive ∧
      Calls.ExchangedOnce
        (Trace.run (System.step Refresh.stmt) (Calls.start inputs db) schedule) := by
  have hstart : Rotating (Calls.start inputs db) :=
    ⟨hdb, fun _ _ _ hpending => hpending.elim, fun _ _ hpending => hpending.elim, nofun⟩
  have hrotating := h.invariant hstart step_rotating
  exact ⟨hrotating.oneLive, hrotating.exchangedOnce⟩

/-! ## Two calls with one token -/

/-- Both calls present the token of the session. -/
def sampleInputs : Bool → RefreshInput
  | false => ⟨"h1", 10, 2, "h2", 2000⟩
  | true => ⟨"h1", 10, 3, "h3", 2000⟩

/-- One after the other, the second call finds the session revoked and revokes the
family. -/
theorem families_oneLive_sequential :
    (Trace.run (System.step Refresh.stmt) (Calls.start sampleInputs sampleSessions)
      [false, false, false, false, true, true]).shared.OneLive :=
  (families_oneLive sampleInputs sampleSessions (by decide) _ (by decide +kernel)).1

/-- Both calls look the session up before either revokes it: each then creates a
session, and the family has two live ones. -/
theorem families_two_live :
    sampleSessions.OneLive ∧
      ¬ (Trace.run (System.step Refresh.stmt) (Calls.start sampleInputs sampleSessions)
        [false, true, false, true, false, true, false, true]).shared.OneLive := by
  decide +kernel

end BurnerByte.Account
