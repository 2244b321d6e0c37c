import Mathlib.Data.List.Induction
import Turnstile.Proofs.Registry.Standing
namespace Turnstile

-- A ban that is asked for: when, why, for how long, for how many failures, and by whom.
structure Sentence where
  reading : Nat
  reason : String
  length : Duration
  failures : Nat
  actor : String
deriving DecidableEq, Repr

namespace Sentence

variable {client : String} {a first : Sentence} {asked later : List Sentence} {b : Ban}

def deadline (a : Sentence) : Nat := Registry.deadline a.reading a.length

theorem deadline_eq (a : Sentence) :
    a.deadline = max (min (a.reading + a.length.millis) wordMax) (a.reading + 1) := rfl

def onto (client : String) (previous : Option Ban) (a : Sentence) : Ban :=
  Registry.banned previous a.reading client a.reason a.length a.failures a.actor

def combined (client : String) (asked : List Sentence) : Option Ban :=
  asked.foldl (fun previous a => some (a.onto client previous)) none

theorem combined_snoc (client : String) (asked : List Sentence) (a : Sentence) :
    combined client (asked ++ [a]) = some (a.onto client (combined client asked)) := by
  simp [combined]

theorem lt_deadline (a : Sentence) : a.reading < a.deadline := by
  rw [deadline_eq]
  omega

-- The first one of which the deadline is the latest.
def Decides (asked : List Sentence) (a : Sentence) : Prop :=
  ∃ before after, asked = before ++ a :: after ∧ (∀ x ∈ before, x.deadline < a.deadline) ∧ ∀ x ∈ after, x.deadline ≤ a.deadline

structure Sums (client : String) (first : Sentence) (later : List Sentence) (b : Ban) : Prop where
  address : b.address = client
  bannedAt : b.bannedAt = first.reading
  bannedBy : b.bannedBy = first.actor
  bannedUntil : ((first :: later).map deadline).max? = some b.bannedUntil
  failures : ((first :: later).map failures).max? = some b.failedAttempts
  reason : ∃ a, Decides (first :: later) a ∧ a.deadline = b.bannedUntil ∧ a.reason = b.reason
  unreleased : b.releasedAt = none ∧ b.releasedBy = none ∧ b.autoReleased = false

theorem sums_first (client : String) (first : Sentence) : Sums client first [] (first.onto client none) where
  address := rfl
  bannedAt := rfl
  bannedBy := rfl
  bannedUntil := rfl
  failures := rfl
  reason := ⟨first, ⟨[], [], rfl, nofun, nofun⟩, rfl, rfl⟩
  unreleased := ⟨rfl, rfl, rfl⟩

theorem Sums.ahead (sums : Sums client first later b) : b.bannedAt < b.bannedUntil := by
  have latest := (List.max?_eq_some_iff.1 sums.bannedUntil).2
  rw [sums.bannedAt]
  exact Nat.lt_of_lt_of_le first.lt_deadline (latest first.deadline (by simp))

theorem max_snoc (values : List Nat) (last : Nat) {most : Nat} (max : values.max? = some most) :
    (values ++ [last]).max? = some (Nat.max most last) := by
  cases values with
  | nil => cases max
  | cons value rest =>
    rw [List.max?_cons', Option.some_inj] at max
    rw [List.cons_append, List.max?_cons', List.foldl_append, max]
    rfl

theorem onto_later (longer : b.bannedUntil < a.deadline) : a.onto client (some b) =
    { b with bannedUntil := a.deadline, reason := a.reason, failedAttempts := max b.failedAttempts a.failures } := by
  change Registry.extend b a.deadline a.reason a.failures = _
  simp only [Registry.extend, longer, if_true]

theorem onto_sooner (sooner : a.deadline ≤ b.bannedUntil) :
    a.onto client (some b) = { b with failedAttempts := max b.failedAttempts a.failures } := by
  change Registry.extend b a.deadline a.reason a.failures = _
  simp only [Registry.extend, Nat.not_lt.2 sooner, if_false]

-- A later deadline decides anew; the same one leaves the decision with the call that asked for it first.
theorem Sums.onto (sums : Sums client first later b) (a : Sentence) :
    Sums client first (later ++ [a]) (a.onto client (some b)) := by
  have latest : ∀ x ∈ first :: later, x.deadline ≤ b.bannedUntil := by
    have most := (List.max?_eq_some_iff.1 sums.bannedUntil).2
    simpa using most
  have ends := max_snoc _ a.deadline sums.bannedUntil
  have most := max_snoc _ a.failures sums.failures
  obtain ⟨x, ⟨before, after, split, early, late⟩, reaches, reason⟩ := sums.reason
  rcases Nat.lt_or_ge b.bannedUntil a.deadline with longer | sooner
  · rw [onto_later longer]
    refine ⟨sums.address, sums.bannedAt, sums.bannedBy, ?_, ?_, ⟨a, ⟨first :: later, [], rfl, ?_, nofun⟩, rfl, rfl⟩,
      sums.unreleased⟩
    · rw [← Nat.max_eq_right (Nat.le_of_lt longer)]
      simpa using ends
    · simpa using most
    · exact fun x member => Nat.lt_of_le_of_lt (latest x member) longer
  · rw [onto_sooner sooner]
    refine ⟨sums.address, sums.bannedAt, sums.bannedBy, ?_, ?_, ⟨x, ⟨before, after ++ [a], ?_, early, ?_⟩, reaches, reason⟩,
      sums.unreleased⟩
    · rw [← Nat.max_eq_left sooner]
      simpa using ends
    · simpa using most
    · rw [← List.cons_append, split]
      simp
    · intro y member
      rcases List.mem_append.1 member with old | new
      · exact late y old
      · rw [List.mem_singleton.1 new, reaches]
        exact sooner

theorem combined_cons (client : String) (first : Sentence) (later : List Sentence) :
    ∃ b, combined client (first :: later) = some b ∧ Sums client first later b := by
  induction later using List.reverseRecOn with
  | nil => exact ⟨_, rfl, sums_first client first⟩
  | append_singleton before a ih =>
    obtain ⟨b, same, sums⟩ := ih
    refine ⟨a.onto client (some b), ?_, sums.onto a⟩
    rw [← List.cons_append, combined_snoc, same]

theorem combined_ends (client : String) (asked : List Sentence) :
    (combined client asked).map (·.bannedUntil) = (asked.map deadline).max? ∧
      (combined client asked).map (·.failedAttempts) = (asked.map failures).max? := by
  cases asked with
  | nil => exact ⟨rfl, rfl⟩
  | cons first later =>
    obtain ⟨b, same, sums⟩ := combined_cons client first later
    rw [same]
    exact ⟨sums.bannedUntil.symm, sums.failures.symm⟩

theorem max_perm {values others : List Nat} (perm : values.Perm others) : values.max? = others.max? := by
  apply Option.ext
  intro most
  simp only [List.max?_eq_some_iff, perm.mem_iff]

-- When a ban ends and what it counts does not depend on the order of the calls.
theorem combined_perm {other : List Sentence} (client : String) (perm : asked.Perm other) :
    (combined client asked).map (·.bannedUntil) = (combined client other).map (·.bannedUntil) ∧
      (combined client asked).map (·.failedAttempts) = (combined client other).map (·.failedAttempts) := by
  obtain ⟨ends, counts⟩ := combined_ends client asked
  obtain ⟨ends', counts'⟩ := combined_ends client other
  rw [ends, counts, ends', counts']
  exact ⟨max_perm (perm.map _), max_perm (perm.map _)⟩

end Sentence

end Turnstile
