import Turnstile.Outbox
namespace Turnstile

def Write.isPlain : Write → Bool
  | .window .. | .attempt _ => true
  | .ban _ | .release .. => false

namespace Outbox

def sendAll (o : Outbox) (writes : List Write) : Outbox := writes.foldl send o

theorem send_cases (o : Outbox) (w : Write) :
    o.send w = { o with pending := o.pending ++ [w] } ∨ o.send w = { o with dropped := o.dropped + 1 } := by
  unfold send submit
  split
  · exact .inl rfl
  · exact .inr rfl

theorem send_room {o : Outbox} (room : o.pending.length < o.capacity) (w : Write) :
    o.send w = { o with pending := o.pending ++ [w] } := by
  unfold send submit
  rw [if_pos room]

theorem dropped_send_room {o : Outbox} (room : o.pending.length < o.capacity) (w : Write) : (o.send w).dropped = o.dropped := by
  rw [send_room room]

theorem dropped_send (o : Outbox) (w : Write) : o.dropped ≤ (o.send w).dropped := by
  rcases send_cases o w with queued | full
  · exact Nat.le_of_eq (by rw [queued])
  · rw [full]; exact Nat.le_succ _

theorem dropped_sendAll (o : Outbox) (writes : List Write) : o.dropped ≤ (o.sendAll writes).dropped := by
  induction writes generalizing o with
  | nil => exact Nat.le_refl _
  | cons w rest ih => exact Nat.le_trans (dropped_send o w) (ih (o.send w))

-- Whether a write was dropped can be told from the counter afterwards.
theorem send_kept {o : Outbox} {w : Write} (kept : (o.send w).dropped = o.dropped) :
    o.send w = { o with pending := o.pending ++ [w] } := by
  rcases send_cases o w with queued | full
  · exact queued
  · rw [full] at kept; exact absurd kept (Nat.succ_ne_self _)

theorem sendAll_kept {o : Outbox} {writes : List Write} (kept : (o.sendAll writes).dropped = o.dropped) :
    o.sendAll writes = { o with pending := o.pending ++ writes } := by
  induction writes generalizing o with
  | nil => simp only [sendAll, List.foldl_nil, List.append_nil]
  | cons w rest ih =>
    have step := dropped_send o w
    have later := dropped_sendAll (o.send w) rest
    change ((o.send w).sendAll rest).dropped = o.dropped at kept
    have first := send_kept (o := o) (w := w) (by omega)
    show (o.send w).sendAll rest = _
    rw [ih (by omega), first]
    simp only [List.append_assoc, List.singleton_append]

theorem pending_send (o : Outbox) (w : Write) : ∃ taken, taken.Sublist [w] ∧
    (o.send w).pending = o.pending ++ taken := by
  rcases send_cases o w with queued | full
  · exact ⟨[w], .refl _, by rw [queued]⟩
  · exact ⟨[], List.nil_sublist _, by rw [full, List.append_nil]⟩

theorem pending_sendAll (o : Outbox) (writes : List Write) : ∃ taken, taken.Sublist writes ∧
    (o.sendAll writes).pending = o.pending ++ taken := by
  induction writes generalizing o with
  | nil => exact ⟨[], .refl _, (List.append_nil _).symm⟩
  | cons w rest ih =>
    obtain ⟨first, short, queued⟩ := pending_send o w
    obtain ⟨later, rest_short, rest_queued⟩ := ih (o.send w)
    exact ⟨first ++ later, short.append rest_short, by
      show ((o.send w).sendAll rest).pending = _
      rw [rest_queued, queued, List.append_assoc]⟩

end Outbox

end Turnstile
