/-!
# Transactions that a failure aborts

A statement that fails aborts its transaction: every later statement of the transaction
fails too, whatever the caller makes of the first failure, and so does the commit. So a
transaction commits exactly if all its statements have succeeded, and with the state that
they lead to.
-/

namespace Sql

universe u v w

/-- A transaction with the state that its statements see, or an aborted one. -/
inductive Tx (σ : Type u) where
  | live (state : σ)
  | aborted

namespace Tx

variable {σ : Type u} {ε : Type v} {α : Type w}

/-- Execute a statement. The error is the one of an aborted transaction. -/
def exec (tx : Tx σ) (err : ε) (stmt : σ → Except ε σ) : Except ε Unit × Tx σ :=
  match tx with
  | .aborted => (.error err, .aborted)
  | .live s =>
    match stmt s with
    | .ok s' => (.ok (), .live s')
    | .error e => (.error e, .aborted)

/-- A query. One without a result does not abort the transaction. -/
def query (tx : Tx σ) (err : ε) (q : σ → Except ε α) : Except ε α :=
  match tx with
  | .aborted => .error err
  | .live s => q s

def commit : Tx σ → Option σ
  | .live s => some s
  | .aborted => none

variable {s : σ} {stmt : σ → Except ε σ}

@[simp] theorem commit_eq_some {tx : Tx σ} : tx.commit = some s ↔ tx = .live s := by
  cases tx <;> simp [commit]

@[simp] theorem exec_aborted (err : ε) (stmt : σ → Except ε σ) :
    (aborted : Tx σ).exec err stmt = (.error err, .aborted) := rfl

theorem exec_live_ok {s' : σ} (err : ε) (h : stmt s = .ok s') :
    (live s).exec err stmt = (.ok (), .live s') := by simp only [exec, h]

theorem exec_live_error (err : ε) {e : ε} (h : stmt s = .error e) :
    (live s).exec err stmt = (.error e, .aborted) := by
  simp only [exec, h]

/-- After a statement the transaction is live only if it was before and the statement has
succeeded. -/
theorem exec_eq_live {tx : Tx σ} {err : ε} {s' : σ} :
    (tx.exec err stmt).2 = .live s' ↔ ∃ s, tx = .live s ∧ stmt s = .ok s' := by
  cases tx with
  | aborted => simp
  | live s =>
    cases hstmt : stmt s with
    | ok t => simp [exec_live_ok err hstmt, hstmt]
    | error e => simp [exec_live_error err hstmt, hstmt]

end Tx

end Sql
