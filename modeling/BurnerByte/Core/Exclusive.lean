import BurnerByte.Core.ReadCommitted
import BurnerByte.Core.Trace
import Mathlib.Logic.Function.Basic

/-!
# Transactions under one lock

Any number of processes run a transaction each. The first statement of every transaction locks the
same row until the transaction ends, and a process waits there while another one holds the lock. All
other statements may be interleaved in any way.

Nobody else commits while a process holds the lock. So what it sees is the state that it found,
with its own writes, and the processes that commit do so as if they ran one after the other.
-/

namespace Exclusive

open Outcome Sql
open Function (update update_eq_self update_of_ne update_self)

universe u

/-- A statement: one whose error is answered, one whose error is ignored, or a computation that
leaves the database alone. A write may fail for reasons of its own. -/
inductive Stmt (ω ε α : Type) where
  | exec (write : ω) (fault : Option ε) (refuse : ε → α)
  | attempt (write : ω) (fault : Option ε)
  | check (outcome : Except α Unit)

/-- What a process does: its checks before the transaction begins, and the statements that follow
once it holds the lock. -/
structure Job (σ ω ε α : Type) where
  check : Except α Unit
  stmts : σ → List (Stmt ω ε α)
  /-- The answer if the transaction turns out to be aborted. -/
  aborted : α

inductive Place (ω ε α : Type) where
  | arriving
  | waiting
  | inside (tx : Tx (List ω)) (todo : List (Stmt ω ε α))
  | refused (answer : α)
  | committed

structure System (ι : Type u) (σ ω ε α : Type) where
  state : σ
  locked : Bool
  places : ι → Place ω ε α

variable {ι : Type u} {σ ω ε α : Type} (run : ω → σ → Except ε σ) (err : ε)

/-! ## Statements -/

namespace Stmt

def write (s : σ) (tx : Tx (List ω)) (write : ω) (fault : Option ε) :
    Except ε Unit × Tx (List ω) :=
  match fault with
  | none => tx.write run err s write
  | some reason => tx.exec err fun _ => .error reason

def execute (s : σ) (tx : Tx (List ω)) : Stmt ω ε α → Except α (Tx (List ω))
  | .exec write fault refuse =>
    match Stmt.write run err s tx write fault with
    | (.error reason, _) => .error (refuse reason)
    | (.ok (), tx) => .ok tx
  | .attempt write fault => .ok (Stmt.write run err s tx write fault).2
  | .check outcome => outcome.map fun _ => tx

end Stmt

def executeAll (s : σ) (stmts : List (Stmt ω ε α)) (tx : Tx (List ω)) :
    Except α (Tx (List ω)) :=
  stmts.foldlM (Stmt.execute run err s) tx

namespace Job

variable (job : Job σ ω ε α)

/-- Execute the rest of the statements and commit. -/
def finish (s : σ) (todo : List (Stmt ω ε α)) (tx : Tx (List ω)) : Except α σ :=
  executeAll run err s todo tx >>= fun tx =>
    match tx.commit with
    | none => .error job.aborted
    | some writes => .ok (replay run s writes)

/-- Run without being interrupted. -/
def serial (s : σ) : Except α σ :=
  job.check >>= fun _ => job.finish run err s (job.stmts s) (.live [])

end Job

/-! ## Interleavings -/

namespace System

variable (jobs : ι → Job σ ω ε α)

def start (s : σ) : System ι σ ω ε α := ⟨s, false, fun _ => .arriving⟩

/-- A process executes its next statement. -/
def next (sys : System ι σ ω ε α) (job : Job σ ω ε α) :
    Place ω ε α → Place ω ε α × σ × Bool
  | .arriving =>
    match job.check with
    | .error answer => (.refused answer, sys.state, sys.locked)
    | .ok _ => (.waiting, sys.state, sys.locked)
  | .waiting =>
    if sys.locked then (.waiting, sys.state, true)
    else (.inside (.live []) (job.stmts sys.state), sys.state, true)
  | .inside tx (stmt :: todo) =>
    match stmt.execute run err sys.state tx with
    | .error answer => (.refused answer, sys.state, false)
    | .ok tx => (.inside tx todo, sys.state, sys.locked)
  | .inside tx [] =>
    match tx.commit with
    | none => (.refused job.aborted, sys.state, false)
    | some writes => (.committed, replay run sys.state writes, false)
  | .refused answer => (.refused answer, sys.state, sys.locked)
  | .committed => (.committed, sys.state, sys.locked)

variable [DecidableEq ι]

def step (sys : System ι σ ω ε α) (i : ι) : System ι σ ω ε α :=
  let r := sys.next run err (jobs i) (sys.places i)
  ⟨r.2.1, r.2.2, update sys.places i r.1⟩

end System

/-! ## One after the other -/

/-- Processes commit in the given order, each of them run without being interrupted. -/
inductive Serial (jobs : ι → Job σ ω ε α) (s : σ) : List ι → σ → Prop
  | nil : Serial jobs s [] s
  | snoc {order : List ι} {before after : σ} {i : ι} (h : Serial jobs s order before)
      (hrun : (jobs i).serial run err before = .ok after) : Serial jobs s (order ++ [i]) after

variable {run err} {jobs : ι → Job σ ω ε α} {s₀ : σ} {sys : System ι σ ω ε α}

/-- What a process will do with the rest of its statements is what it does alone. -/
structure System.Inv (run : ω → σ → Except ε σ) (err : ε) (jobs : ι → Job σ ω ε α) (s₀ : σ)
    (sys : System ι σ ω ε α) : Prop where
  waiting : ∀ i, sys.places i = .waiting → (jobs i).check = .ok ()
  inside : ∀ i tx todo, sys.places i = .inside tx todo → sys.locked = true ∧
    (jobs i).finish run err sys.state todo tx = (jobs i).serial run err sys.state
  alone : ∀ i tx todo, sys.places i = .inside tx todo → ∀ j tx' todo',
    sys.places j = .inside tx' todo' → j = i
  serial : ∃ order : List ι, order.Nodup ∧ (∀ i, i ∈ order ↔ sys.places i = .committed) ∧
    Serial run err jobs s₀ order sys.state

theorem System.inv_start (s : σ) : (start s : System ι σ ω ε α).Inv run err jobs s where
  waiting _ h := nomatch h
  inside _ _ _ h := nomatch h
  alone _ _ _ h := nomatch h
  serial := ⟨[], List.nodup_nil, fun _ => iff_of_false List.not_mem_nil nofun, .nil⟩

namespace System.Inv

variable [DecidableEq ι] {i : ι}

/-- A process changes its place. If another one is inside, then nothing else changes, and this one
does not enter. -/
theorem moves (h : sys.Inv run err jobs s₀) {place : Place ω ε α} {s : σ} {locked : Bool}
    (hold : sys.places i ≠ .committed) (hwaiting : place = .waiting → (jobs i).check = .ok ())
    (hinside : ∀ tx todo, place = .inside tx todo → locked = true ∧
      (jobs i).finish run err s todo tx = (jobs i).serial run err s)
    (hothers : ∀ j tx todo, j ≠ i → sys.places j = .inside tx todo →
      locked = true ∧ s = sys.state ∧ ∀ tx todo, place ≠ .inside tx todo)
    (hserial : (place ≠ .committed ∧ s = sys.state) ∨
      (place = .committed ∧ (jobs i).serial run err sys.state = .ok s)) :
    System.Inv run err jobs s₀ ⟨s, locked, update sys.places i place⟩ := by
  have hself : update sys.places i place i = place := update_self ..
  have hother : ∀ j, j ≠ i → update sys.places i place j = sys.places j :=
    fun j hj => update_of_ne hj ..
  refine ⟨fun j hj => ?_, fun j tx todo hj => ?_, fun j tx todo hj k tx' todo' hk => ?_, ?_⟩
  · by_cases hji : j = i
    · subst hji
      exact hwaiting (hself.symm.trans hj)
    · exact h.waiting j ((hother j hji).symm.trans hj)
  · by_cases hji : j = i
    · subst hji
      exact hinside tx todo (hself.symm.trans hj)
    have hbefore := (hother j hji).symm.trans hj
    obtain ⟨hlocked, rfl, -⟩ := hothers j tx todo hji hbefore
    exact ⟨hlocked, (h.inside j tx todo hbefore).2⟩
  · by_cases hji : j = i
    · subst hji
      by_contra hkj
      exact (hothers k tx' todo' hkj ((hother k hkj).symm.trans hk)).2.2 tx todo
        (hself.symm.trans hj)
    have hbefore := (hother j hji).symm.trans hj
    have hki : k ≠ i := by
      rintro rfl
      exact (hothers j tx todo hji hbefore).2.2 tx' todo' (hself.symm.trans hk)
    exact h.alone j tx todo hbefore k tx' todo' ((hother k hki).symm.trans hk)
  · obtain ⟨order, hnodup, hcommitted, hbefore⟩ := h.serial
    rcases hserial with ⟨hplace, rfl⟩ | ⟨rfl, hrun⟩
    · refine ⟨order, hnodup, fun j => ?_, hbefore⟩
      rw [hcommitted]
      by_cases hji : j = i
      · subst hji
        exact iff_of_false hold fun hcommit => hplace (hself.symm.trans hcommit)
      · exact iff_of_eq (congrArg (· = Place.committed) (hother j hji).symm)
    · have hfresh : i ∉ order := by rwa [hcommitted]
      refine ⟨order ++ [i], ?_, fun j => ?_, hbefore.snoc hrun⟩
      · refine List.nodup_append.mpr ⟨hnodup, by simp, fun j hj k hk heq => hfresh ?_⟩
        rwa [← List.mem_singleton.mp hk, ← heq]
      · rw [List.mem_append, List.mem_singleton, hcommitted]
        by_cases hji : j = i
        · subst hji
          exact iff_of_true (.inr rfl) hself
        dsimp only
        rw [hother j hji]
        exact or_iff_left hji

theorem step (h : sys.Inv run err jobs s₀) (i : ι) :
    (sys.step run err jobs i).Inv run err jobs s₀ := by
  by_cases hold : sys.places i = .committed
  · have hsame : update sys.places i .committed = sys.places := by
      rw [← hold, update_eq_self]
    simp only [System.step, System.next, hold, hsame]
    exact h
  have hkept {place : Place ω ε α} (hplace : ∀ tx todo, place ≠ .inside tx todo) : ∀ j tx todo,
      j ≠ i → sys.places j = .inside tx todo →
        sys.locked = true ∧ sys.state = sys.state ∧ ∀ tx todo, place ≠ .inside tx todo :=
    fun j tx todo _ hj => ⟨(h.inside j tx todo hj).1, rfl, hplace⟩
  cases hplace : sys.places i with
  | arriving =>
    cases hcheck : (jobs i).check with
    | error answer =>
      simp only [System.step, System.next, hplace, hcheck]
      exact h.moves hold nofun nofun (hkept nofun) (.inl ⟨nofun, rfl⟩)
    | ok _ =>
      simp only [System.step, System.next, hplace, hcheck]
      exact h.moves hold (fun _ => hcheck) nofun (hkept nofun) (.inl ⟨nofun, rfl⟩)
  | waiting =>
    have hcheck := h.waiting i hplace
    cases hlocked : sys.locked with
    | true =>
      simp only [System.step, System.next, hplace, hlocked, if_true]
      exact h.moves hold (fun _ => hcheck) nofun (fun _ _ _ _ _ => ⟨rfl, rfl, nofun⟩)
        (.inl ⟨nofun, rfl⟩)
    | false =>
      simp only [System.step, System.next, hplace, hlocked, Bool.false_eq_true, if_false]
      refine h.moves hold nofun (fun tx todo heq => ?_) (fun j tx todo _ hj => ?_)
        (.inl ⟨nofun, rfl⟩)
      · cases heq
        simp only [Job.serial, hcheck, ok_bind, true_and]
      · cases hlocked.symm.trans (h.inside j tx todo hj).1
  | inside tx todo =>
    obtain ⟨hlocked, hfinish⟩ := h.inside i tx todo hplace
    have halone {P : Prop} : ∀ j tx' todo', j ≠ i → sys.places j = .inside tx' todo' → P :=
      fun j tx' todo' hji hj => absurd (h.alone i tx todo hplace j tx' todo' hj) hji
    cases todo with
    | cons stmt todo =>
      cases hstmt : stmt.execute run err sys.state tx with
      | error answer =>
        simp only [System.step, System.next, hplace, hstmt]
        exact h.moves hold nofun nofun halone (.inl ⟨nofun, rfl⟩)
      | ok tx' =>
        simp only [System.step, System.next, hplace, hstmt, hlocked]
        refine h.moves hold nofun (fun _ _ heq => ?_) halone (.inl ⟨nofun, rfl⟩)
        cases heq
        refine ⟨rfl, Eq.trans ?_ hfinish⟩
        simp only [Job.finish, executeAll, List.foldlM_cons, hstmt, ok_bind]
    | nil =>
      cases htx : tx.commit with
      | none =>
        simp only [System.step, System.next, hplace, htx]
        exact h.moves hold nofun nofun halone (.inl ⟨nofun, rfl⟩)
      | some writes =>
        simp only [System.step, System.next, hplace, htx]
        refine h.moves hold nofun nofun halone (.inr ⟨rfl, hfinish.symm.trans ?_⟩)
        simp only [Job.finish, executeAll, List.foldlM_nil, pure, Except.pure, ok_bind, htx]
  | refused answer =>
    simp only [System.step, System.next, hplace]
    exact h.moves hold nofun nofun (hkept nofun) (.inl ⟨nofun, rfl⟩)
  | committed => exact absurd hplace hold

end System.Inv

/-- The processes that have committed did so as if they had run one after the other. -/
theorem exists_serial [DecidableEq ι] (run : ω → σ → Except ε σ) (err : ε)
    (jobs : ι → Job σ ω ε α) (s : σ) (schedule : List ι) :
    ∃ order : List ι, order.Nodup ∧
      (∀ i, i ∈ order ↔ (Trace.run (System.step run err jobs) (System.start s) schedule).places i =
        .committed) ∧
      Serial run err jobs s order
        (Trace.run (System.step run err jobs) (System.start s) schedule).state :=
  (@Trace.run_induct _ _ (System.step run err jobs) (System.Inv run err jobs s)
    (fun _ i hsys => hsys.step i) _ (System.inv_start s) schedule).serial

/-- Only a commit changes the state that others see. -/
theorem System.step_state [DecidableEq ι] (sys : System ι σ ω ε α) (i : ι)
    (h : (sys.step run err jobs i).places i ≠ .committed) :
    (sys.step run err jobs i).state = sys.state := by
  have hself : (sys.step run err jobs i).places i =
      (sys.next run err (jobs i) (sys.places i)).1 := update_self ..
  rw [hself] at h
  change (sys.next run err (jobs i) (sys.places i)).2.1 = sys.state
  generalize sys.places i = place at h ⊢
  cases place with
  | inside tx todo =>
    cases todo with
    | cons stmt todo =>
      dsimp only [System.next]
      split <;> rfl
    | nil =>
      dsimp only [System.next] at h ⊢
      split at h
      · rfl
      · exact absurd rfl h
  | refused answer | committed => rfl
  | _ =>
    dsimp only [System.next]
    split <;> rfl

/-- A process that has committed is done. -/
theorem System.run_committed [DecidableEq ι] (sys : System ι σ ω ε α) {i : ι}
    (h : sys.places i = .committed) (schedule : List ι) :
    (Trace.run (System.step run err jobs) sys schedule).places i = .committed := by
  refine @Trace.run_induct _ _ (System.step run err jobs) (fun sys => sys.places i = .committed)
    (fun sys j hi => ?_) _ h schedule
  by_cases hij : i = j
  · subst hij
    refine (update_self ..).trans ?_
    rw [hi]
    rfl
  · exact (update_of_ne hij ..).trans hi

/-! ## What a job does alone -/

/-- The write of a statement. -/
def Stmt.write? : Stmt ω ε α → Option ω
  | .exec write _ _ => some write
  | .attempt write _ => some write
  | .check _ => none

variable {s : σ} {tx : Tx (List ω)}

variable {writes : List ω} {stmts : List (Stmt ω ε α)}

theorem Stmt.execute_eq_live {stmt : Stmt ω ε α}
    (h : stmt.execute run err s tx = .ok (.live writes)) :
    ∃ before, tx = .live before ∧
      stmt.write?.toList.foldlM (fun s write => run write s) (replay run s before) =
        .ok (replay run s writes) := by
  have hwrite : ∀ write fault, (Stmt.write run err s tx write fault).2 = .live writes →
      ∃ before, tx = .live before ∧ [write].foldlM (fun s write => run write s)
        (replay run s before) = .ok (replay run s writes) := by
    intro write fault hlive
    cases fault with
    | some reason =>
      obtain ⟨_, _, herror⟩ := Tx.exec_eq_live.mp hlive
      cases herror
    | none =>
      obtain ⟨before, s', rfl, hrun, rfl⟩ := Tx.write_eq_live.mp hlive
      refine ⟨before, rfl, ?_⟩
      rw [replay_concat_ok hrun, List.foldlM_cons, hrun]
      rfl
  cases stmt with
  | exec write fault refuse =>
    dsimp only [execute] at h
    split at h
    · cases h
    rename_i hstmt
    cases h
    exact hwrite write fault (congrArg Prod.snd hstmt)
  | attempt write fault => exact hwrite write fault (Except.ok.inj h)
  | check outcome =>
    obtain ⟨_, _, rfl⟩ := map_eq_ok h
    exact ⟨writes, rfl, rfl⟩

theorem executeAll_eq_live (h : executeAll run err s stmts tx = .ok (.live writes)) :
    ∃ before, tx = .live before ∧
      (stmts.filterMap Stmt.write?).foldlM (fun s write => run write s) (replay run s before) =
        .ok (replay run s writes) := by
  induction stmts generalizing tx with
  | nil =>
    cases h
    exact ⟨writes, rfl, rfl⟩
  | cons stmt stmts ih =>
    obtain ⟨tx', hstmt, hrest⟩ := bind_eq_ok.mp h
    obtain ⟨mid, rfl, hmid⟩ := ih hrest
    obtain ⟨before, rfl, hbefore⟩ := Stmt.execute_eq_live hstmt
    refine ⟨before, rfl, ?_⟩
    have hsplit : (stmt :: stmts).filterMap Stmt.write? =
        stmt.write?.toList ++ stmts.filterMap Stmt.write? := by
      cases stmt <;> rfl
    rw [hsplit, List.foldlM_append, hbefore]
    exact hmid

theorem check_eq_ok {tx' : Tx (List ω)} (h : executeAll run err s stmts tx = .ok tx')
    {outcome : Except α Unit} (hmem : .check outcome ∈ stmts) : outcome = .ok () := by
  induction stmts generalizing tx with
  | nil => cases hmem
  | cons stmt stmts ih =>
    obtain ⟨tx₁, hstmt, hrest⟩ := bind_eq_ok.mp h
    rcases List.mem_cons.mp hmem with rfl | hmem
    · obtain ⟨_, houtcome, _⟩ := map_eq_ok hstmt
      exact houtcome
    · exact ih hrest hmem

/-- A job that commits has passed its checks, and all its writes have succeeded. -/
theorem Job.serial_eq_ok {job : Job σ ω ε α} {s' : σ} (h : job.serial run err s = .ok s') :
    (∀ outcome, .check outcome ∈ job.stmts s → outcome = .ok ()) ∧
      ((job.stmts s).filterMap Stmt.write?).foldlM (fun s write => run write s) s = .ok s' := by
  obtain ⟨_, _, hfinish⟩ := bind_eq_ok.mp h
  obtain ⟨tx, hall, hcommit⟩ := bind_eq_ok.mp hfinish
  refine ⟨fun outcome hmem => check_eq_ok hall hmem, ?_⟩
  split at hcommit
  · cases hcommit
  rename_i writes htx
  cases hcommit
  obtain rfl := Tx.commit_eq_some.mp htx
  obtain ⟨before, hlive, hwrites⟩ := executeAll_eq_live hall
  cases hlive
  exact hwrites

end Exclusive
