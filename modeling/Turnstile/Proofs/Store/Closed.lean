import Mathlib.Data.List.Basic
import Turnstile.Proofs.Store.History
namespace Turnstile

def Call.purges (b : Ban) : Call → Bool
  | .purgeBans cutoff => Memory.releasedBefore cutoff b
  | _ => false

def Retained (deleted : Ban → Bool) (before after : List Ban) : Prop :=
  (before.filter fun b => !b.isUnreleased && !deleted b).Sublist after

namespace Retained

variable {deleted other : Ban → Bool} {before between after : List Ban}

theorem refl (deleted : Ban → Bool) (rows : List Ban) : Retained deleted rows rows := List.filter_sublist

theorem of_eq (same : after = before) : Retained deleted before after := same ▸ refl deleted before

theorem trans (first : Retained deleted before between) (rest : Retained other between after) :
    Retained (fun b => deleted b || other b) before after := by
  have still := List.Sublist.filter (fun b : Ban => !b.isUnreleased && !other b) first
  rw [List.filter_filter] at still
  have same : (fun b : Ban => !b.isUnreleased && !(deleted b || other b)) =
      fun b => (!b.isUnreleased && !other b) && (!b.isUnreleased && !deleted b) := by
    funext b
    cases b.isUnreleased <;> cases deleted b <;> cases other b <;> rfl
  unfold Retained
  rw [same]
  exact still.trans rest

theorem weaken (kept : Retained deleted before after) (more : ∀ b, deleted b = true → other b = true) :
    Retained other before after := by
  refine List.Sublist.trans ?_ kept
  refine List.monotone_filter_right _ fun b there => ?_
  simp only [Bool.and_eq_true, Bool.not_eq_true'] at there ⊢
  exact ⟨there.1, Bool.eq_false_iff.2 fun gone => Bool.false_ne_true (there.2.symm.trans (more b gone))⟩

theorem mem {b : Ban} (kept : Retained deleted before after) (member : b ∈ before) (released : b.isUnreleased = false)
    (spared : deleted b = false) : b ∈ after :=
  kept.subset (List.mem_filter.2 ⟨member, by rw [released, spared]; rfl⟩)

end Retained

-- Rows that keep their places keep what is released of them.
theorem Carried.retained {cutoffs : List Nat} {before after : List Ban} (carried : Carried cutoffs before after) :
    Retained (fun b => cutoffs.any (Memory.releasedBefore · b)) before after := by
  unfold Retained
  induction carried with
  | added => exact List.nil_sublist _
  | @kept old new _ _ same unchanged rest ih =>
    rw [List.filter_cons]
    split
    · rename_i there
      have released : old.isUnreleased = false := by simpa using (Bool.and_eq_true_iff.1 there).1
      rw [unchanged released]
      exact ih.cons_cons old
    · exact ih.cons new
  | @purged old _ _ cutoff asked due rest ih =>
    have gone : (!old.isUnreleased && !cutoffs.any (Memory.releasedBefore · old)) = false := by
      cases released : old.releasedAt with
      | none => simp [Ban.isUnreleased, released]
      | some reading =>
        have old : cutoffs.any (Memory.releasedBefore · old) = true :=
          List.any_eq_true.2 ⟨cutoff, asked, by simpa [Memory.releasedBefore, released] using due reading released⟩
        rw [old]
        exact Bool.and_false _
    rw [List.filter_cons, gone]
    exact ih

-- No call but the one that deletes rows for their age touches a row that was released.
theorem Memory.retained_answer (c : Call) (m : Memory) : Retained (c.purges ·) m.bans (m.answer c).2.bans := by
  refine (carried_answer c m).retained.weaken fun b gone => ?_
  cases c with
  | purgeBans cutoff => simpa [Call.cutoff?, Call.purges] using gone
  | _ => cases gone

def changed (before after : List Ban) : List Ban := ((before.zip after).filter fun (old, new) => old ≠ new).map Prod.snd

theorem changed_self (rows : List Ban) : changed rows rows = [] := by
  induction rows with
  | nil => rfl
  | cons first rest ih =>
    unfold changed at ih ⊢
    rw [List.zip_cons_cons, List.filter_cons_of_neg (by simp)]
    exact ih

structure Ban.Ended (b : Ban) (reading : Nat) : Prop where
  actor : b.releasedBy = some systemActor
  released : b.releasedAt = some reading
  due : b.bannedUntil ≤ reading
  automatic : b.autoReleased = true

theorem Ban.Ended.closed {b : Ban} {reading : Nat} (ended : b.Ended reading) : b.isUnreleased = false := by
  unfold Ban.isUnreleased
  rw [ended.released]
  rfl

namespace Memory

theorem expire_of_overdue {now : Nat} {b : Ban} (overdue : b.isOverdue now = true) :
    (expire now b).Ended now ∧ expire now b ≠ b := by
  obtain ⟨unreleased, due⟩ := (Ban.isOverdue_iff _ _).1 overdue
  have released : expire now b = { b with releasedAt := some now, releasedBy := some systemActor, autoReleased := true } := by
    unfold expire Ban.release Ban.isUnreleased
    rw [if_pos overdue, unreleased]
    rfl
  rw [released]
  refine ⟨⟨rfl, rfl, due, rfl⟩, fun same => ?_⟩
  cases (congrArg Ban.releasedAt same).trans unreleased

-- What the store answers to the call are the rows that it has changed.
theorem changed_expire (now : Nat) (rows : List Ban) :
    changed rows (rows.map (expire now)) = (rows.filter (·.isOverdue now)).map (expire now) := by
  induction rows with
  | nil => rfl
  | cons first rest ih =>
    unfold changed at ih ⊢
    rw [List.map_cons, List.zip_cons_cons]
    cases overdue : first.isOverdue now with
    | true =>
      have different := (expire_of_overdue overdue).2
      rw [List.filter_cons_of_pos (by simpa using different.symm), List.filter_cons_of_pos (by simpa using overdue)]
      rw [List.map_cons, List.map_cons, ih]
    | false =>
      have same : expire now first = first := if_neg (by simp [overdue])
      rw [List.filter_cons_of_neg (by simp [same]), List.filter_cons_of_neg (by simp [overdue])]
      exact ih

end Memory

end Turnstile
