import BurnerByte.Realtime.Bridge
import BurnerByte.Worker.Cleanup

/-!
# Notifications about expired inboxes

The cleanup job publishes `inbox.expired` before it deletes an inbox, and the subscribers
write a notification for its owner that refers to the inbox. A notification that is written
before the deletion goes with the inbox, and one that is written after it is refused. In
either order the owner is left without the notification.
-/

namespace BurnerByte.Worker

open Go Sql Trace
open Mailbox (Inbox expired)
open Realtime (Notification Statement MessageType inboxExpired)

universe u

section

variable {ι : Type u} [DecidableEq ι] (m : Casing)

section

variable (s : Realtime.State ι) (meanwhile : List (Realtime.Event ι))

/-- The job has listed the expired inboxes and published an event for each of them. -/
def published : Realtime.State ι :=
  run (Realtime.step m) s ((listExpired s.shared.db.mail s.shared.now).map .announce)

/-- The job deletes the inboxes that have expired by now. -/
def deletion : Realtime.Event ι := .remove (expired s.shared.now)

/-- The state in which the job deletes, after what happened since the list. -/
def beforeDeletion : Realtime.State ι :=
  run (Realtime.step m) (published m s) meanwhile

/-- A run of the job, with what happens between its statements and afterwards. -/
def cleanedUp (afterwards : List (Realtime.Event ι)) : Realtime.State ι :=
  run (Realtime.step m) (beforeDeletion m s meanwhile)
    (deletion (beforeDeletion m s meanwhile) :: afterwards)

end

end

/-- The user has been notified that the inbox has expired. -/
def Notified (db : Realtime.Db) (userID : UUID) (inbox : Inbox) : Prop :=
  ∃ n ∈ db.notifications, n.userID = userID ∧ n.type = MessageType.inboxExpired.text ∧
    n.inboxID = some inbox.id

/-- An inbox that exists nowhere has no notifications. -/
theorem not_notified_of_removed {db : Realtime.Db} {inbox : Inbox}
    (h : ∀ other ∈ db.mail.inboxes, other.id ≠ inbox.id) (userID : UUID) :
    ¬ Notified db userID inbox := by
  rintro ⟨n, hn, _, _, hid⟩
  obtain ⟨other, hother, hsame⟩ := db.notification_inbox n hn inbox.id hid
  exact h other hother hsame

section

variable {ι : Type u} [DecidableEq ι] {m : Casing}

/-- No step of the bridge creates an inbox. -/
theorem inboxes_step {s : Realtime.State ι} {e : Realtime.Event ι} {inbox : Inbox}
    (h : inbox ∈ (Realtime.step m s e).shared.db.mail.inboxes) :
    inbox ∈ s.shared.db.mail.inboxes := by
  cases e with
  | receive inboxID r =>
    rw [Realtime.step] at h
    split at h
    · exact h
    · exact h
  | execute i =>
    rw [Realtime.step, Interleaving.System.step_shared] at h
    cases hpending : s.procs i with
    | nil =>
      rw [hpending] at h
      exact h
    | cons stmt pending =>
      have hmail := (Statement.run_spec (.org 0) (.refl s.shared.db) s.shared.today stmt).1.mail
      rw [hpending] at h
      simp only [Realtime.subscriber, hmail] at h
      exact h
  | fail i =>
    rw [Realtime.step, Interleaving.System.step_shared] at h
    cases hpending : s.procs i with
    | _ =>
      rw [hpending] at h
      exact h
  | remove p => exact (Mailbox.Db.mem_delete_inboxes.mp h).1
  | _ => exact h

theorem removed_step {id : UUID} (s : Realtime.State ι) (e : Realtime.Event ι)
    (h : ∀ other ∈ s.shared.db.mail.inboxes, other.id ≠ id) :
    ∀ other ∈ (Realtime.step m s e).shared.db.mail.inboxes, other.id ≠ id :=
  fun other hother => h other (inboxes_step hother)

/-- The deletion removes the inbox for good. -/
theorem removed_by_deletion {s : Realtime.State ι} {inbox : Inbox}
    (hinbox : inbox ∈ s.shared.db.mail.inboxes) (hexpired : expired s.shared.now inbox = true) :
    ∀ other ∈ (Realtime.step m s (deletion s)).shared.db.mail.inboxes, other.id ≠ inbox.id := by
  intro other hother hid
  obtain ⟨hmem, hkept⟩ := Mailbox.Db.mem_delete_inboxes.mp hother
  obtain rfl : other = inbox := UniqueTable.eq_of_key_eq hmem hinbox hid
  rw [Mailbox.Db.removesInbox_inboxes, hexpired] at hkept
  cases hkept

end

/-- Whatever the subscribers execute before the job deletes an inbox and whatever they execute
afterwards, nobody is left with the notification that the inbox has expired. -/
theorem never_notified_of_expiry {ι : Type u} [DecidableEq ι] (m : Casing) (s : Realtime.State ι)
    (meanwhile afterwards : List (Realtime.Event ι)) (inbox : Inbox)
    (hinbox : inbox ∈ (beforeDeletion m s meanwhile).shared.db.mail.inboxes)
    (hexpired : expired (beforeDeletion m s meanwhile).shared.now inbox = true) (userID : UUID) :
    ¬ Notified (cleanedUp m s meanwhile afterwards).shared.db userID inbox := by
  refine not_notified_of_removed ?_ userID
  exact Trace.run_induct removed_step (removed_by_deletion hinbox hexpired) afterwards

def sampleStart : Realtime.State Unit := Realtime.start Realtime.sampleDb 60

/-- The inbox of user 3, with one subscriber that writes before the deletion. -/
theorem notified_until_deleted :
    Notified (beforeDeletion .ascii sampleStart [.execute ()]).shared.db 3
        ⟨6, 5, 4, some 3, lit "a", lit "a@b.io", true, 50, 0, none⟩ ∧
      ¬ Notified (cleanedUp .ascii sampleStart [.execute ()] []).shared.db 3
        ⟨6, 5, 4, some 3, lit "a", lit "a@b.io", true, 50, 0, none⟩ := by
  refine ⟨?_, never_notified_of_expiry .ascii _ [.execute ()] [] _ (by decide +kernel)
    (by decide +kernel) 3⟩
  unfold Notified
  decide +kernel

/-- The subscriber writes the notification before the deletion or tries to after it. Both are done,
the inbox is gone, and there is no notification. -/
theorem no_notification_in_either_order :
    ((beforeDeletion .ascii sampleStart [.execute ()]).shared.db.notifications.length = 1 ∧
        (cleanedUp .ascii sampleStart [.execute ()] []).procs () = [] ∧
        (cleanedUp .ascii sampleStart [.execute ()] []).shared.db.mail.inboxes.rows = [] ∧
        (cleanedUp .ascii sampleStart [.execute ()] []).shared.db.notifications = []) ∧
      (((beforeDeletion .ascii sampleStart []).procs ()).length = 1 ∧
        (cleanedUp .ascii sampleStart [] [.execute ()]).procs () = [] ∧
        (cleanedUp .ascii sampleStart [] [.execute ()]).shared.db.mail.inboxes.rows = [] ∧
        (cleanedUp .ascii sampleStart [] [.execute ()]).shared.db.notifications = []) := by
  decide +kernel

end BurnerByte.Worker
