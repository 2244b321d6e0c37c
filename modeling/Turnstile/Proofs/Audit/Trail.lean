import Turnstile.Audit.Trail
namespace Turnstile

namespace Trail

variable {t : Trail} {e : Event} {events : List Event}

theorem dropped_emit (t : Trail) (e : Event) : t.dropped ≤ (t.emit e).dropped := by
  unfold emit
  split
  · exact Nat.le_refl _
  · exact Nat.le_succ _

theorem dropped_emitAll (t : Trail) (events : List Event) : t.dropped ≤ (t.emitAll events).dropped := by
  induction events generalizing t with
  | nil => exact Nat.le_refl _
  | cons e rest ih => exact Nat.le_trans (dropped_emit t e) (ih (t.emit e))

-- Whether an event was dropped can be told from the counter afterwards.
theorem emit_kept (kept : (t.emit e).dropped = t.dropped) : (t.emit e).pending = t.pending ++ [e] := by
  unfold emit at kept ⊢
  split at kept
  · rename_i room
    rw [if_pos room]
  · exact absurd kept (Nat.succ_ne_self _)

theorem emitAll_kept (kept : (t.emitAll events).dropped = t.dropped) : (t.emitAll events).pending = t.pending ++ events := by
  induction events generalizing t with
  | nil => exact (List.append_nil _).symm
  | cons e rest ih =>
    have step := dropped_emit t e
    have later := dropped_emitAll (t.emit e) rest
    change ((t.emit e).emitAll rest).dropped = t.dropped at kept
    have first := emit_kept (t := t) (e := e) (by omega)
    show ((t.emit e).emitAll rest).pending = _
    rw [ih (by omega), first, List.append_assoc, List.singleton_append]

end Trail

namespace Sink

variable {s : Sink}

structure Recording (s : Sink) : Prop where
  medium : s.medium = .memory s.events
  unfailing : s.failing = []

theorem Recording.record (recording : s.Recording) (e : Event) :
    (s.record e).2.Recording ∧ (s.record e).2.events = s.events ++ [e] := by
  have taken : (s.record e).2 = ⟨.memory (s.events ++ [e]), [], s.calls + 1⟩ := by
    unfold Sink.record Sink.write
    rw [recording.medium, recording.unfailing]
    rfl
  rw [taken]
  exact ⟨⟨rfl, rfl⟩, rfl⟩

theorem Recording.drain (recording : s.Recording) (t : Trail) :
    (s.drain t).1.Recording ∧ (s.drain t).1.events = s.events ++ t.pending := by
  unfold Sink.drain
  dsimp only
  generalize t.pending = events
  induction events generalizing s with
  | nil => exact ⟨recording, (List.append_nil _).symm⟩
  | cons e rest ih =>
    obtain ⟨still, taken⟩ := recording.record e
    obtain ⟨after, all⟩ := ih still
    refine ⟨after, ?_⟩
    show (rest.foldl (fun s e => (s.record e).2) (s.record e).2).events = _
    rw [all, taken, List.append_assoc, List.singleton_append]

end Sink

end Turnstile
