import Turnstile.Proofs.Store.Calls
namespace Turnstile

def Write.hits (client endpoint : String) (since : Nat) : Write → Bool
  | .window c e start .failed => c == client && e == endpoint && since ≤ start
  | _ => false

namespace Memory

variable {client endpoint : String} {since : Nat}

def failures (rows : List WindowRow) (client endpoint : String) (since : Nat) : Nat :=
  (rows.filter (·.isSince client endpoint since)).foldr (fun row sum => row.failures + sum) 0

theorem foldl_failures (rows : List WindowRow) (sum : Counts) :
    (rows.foldl (fun sum row => sum.add row.counts) sum).failures =
      sum.failures + rows.foldr (fun row sum => row.failures + sum) 0 := by
  induction rows generalizing sum with
  | nil => rfl
  | cons row rest ih =>
    rw [List.foldl_cons, ih, List.foldr_cons]
    simp only [Counts.add, WindowRow.counts]
    omega

theorem total_failures (rows : List WindowRow) (client endpoint : String) (since : Nat) :
    (total rows client endpoint since).failures = failures rows client endpoint since := by
  unfold total failures
  rw [foldl_failures]
  exact Nat.zero_add _

def share (row : WindowRow) (client endpoint : String) (since : Nat) : Nat :=
  if row.isSince client endpoint since then row.failures else 0

theorem failures_cons (row : WindowRow) (rest : List WindowRow) :
    failures (row :: rest) client endpoint since =
      share row client endpoint since + failures rest client endpoint since := by
  unfold failures share
  rw [List.filter_cons]
  split
  · rw [List.foldr_cons]
  · exact (Nat.zero_add _).symm

theorem isAt_fresh (client endpoint : String) (start : Nat) :
    (WindowRow.fresh client endpoint start).isAt client endpoint start = true := by
  simp only [WindowRow.isAt, WindowRow.fresh, beq_self_eq_true, Bool.and_self]

theorem share_fresh (c e : String) (start : Nat) :
    share (.fresh c e start) client endpoint since = 0 := by
  unfold share
  split <;> rfl

theorem isSince_count (row : WindowRow) (outcome : Outcome) :
    (row.count outcome).isSince client endpoint since = row.isSince client endpoint since := by
  cases outcome <;> rfl

section
variable {row : WindowRow} {c e : String} {start : Nat} (found : row.isAt c e start = true)
include found

-- A row that a write is for counts where the write does.
theorem isSince_of_isAt :
    row.isSince client endpoint since = (Write.window c e start .failed).hits client endpoint since := by
  simp only [WindowRow.isAt, Bool.and_eq_true, beq_iff_eq] at found
  obtain ⟨⟨rfl, rfl⟩, rfl⟩ := found
  rfl

theorem share_count_le (client endpoint : String) (since : Nat) (outcome : Outcome) : share (row.count outcome) client endpoint since ≤
    share row client endpoint since +
      ((Write.window c e start outcome).hits client endpoint since).toNat := by
  unfold share
  rw [isSince_count]
  cases outcome with
  | failed =>
    rw [isSince_of_isAt found]
    cases (Write.window c e start .failed).hits client endpoint since with
    | true => exact Nat.min_le_left ..
    | false => exact Nat.le_refl _
  | succeeded => exact Nat.le_refl _
  | throttled => exact Nat.le_refl _

theorem le_share_count (client endpoint : String) (since : Nat) (outcome : Outcome) : min (share row client endpoint since +
      ((Write.window c e start outcome).hits client endpoint since).toNat) wordMax ≤
    share (row.count outcome) client endpoint since := by
  unfold share
  rw [isSince_count]
  cases outcome with
  | failed =>
    rw [isSince_of_isAt found]
    cases (Write.window c e start .failed).hits client endpoint since with
    | true => exact Nat.le_refl _
    | false => exact Nat.min_le_left ..
  | succeeded => exact Nat.min_le_left ..
  | throttled => exact Nat.min_le_left ..

end

theorem failures_tally_le (client endpoint : String) (since : Nat) (c e : String) (start : Nat)
    (outcome : Outcome) (rows : List WindowRow) :
    failures (tally c e start outcome rows) client endpoint since ≤
      failures rows client endpoint since +
        ((Write.window c e start outcome).hits client endpoint since).toNat := by
  induction rows with
  | nil =>
    have added := share_count_le (isAt_fresh c e start) client endpoint since outcome
    rw [share_fresh] at added
    have nothing : failures [] client endpoint since = 0 := rfl
    rw [tally, failures_cons]
    omega
  | cons row rest ih =>
    unfold tally
    split
    · rename_i found
      have added := share_count_le found client endpoint since outcome
      rw [failures_cons, failures_cons]
      omega
    · rw [failures_cons, failures_cons]
      omega

theorem le_failures_tally (client endpoint : String) (since : Nat) (c e : String) (start : Nat)
    (outcome : Outcome) (rows : List WindowRow) :
    min (failures rows client endpoint since +
        ((Write.window c e start outcome).hits client endpoint since).toNat) wordMax ≤
      failures (tally c e start outcome rows) client endpoint since := by
  induction rows with
  | nil =>
    have added := le_share_count (isAt_fresh c e start) client endpoint since outcome
    rw [share_fresh] at added
    rw [tally, failures_cons]
    exact added
  | cons row rest ih =>
    unfold tally
    split
    · rename_i found
      have added := le_share_count found client endpoint since outcome
      rw [failures_cons, failures_cons]
      omega
    · rw [failures_cons, failures_cons]
      omega

theorem failures_applied_le (client endpoint : String) (since : Nat) (w : Write) (m : Memory) :
    failures (m.answer w.call).2.windows client endpoint since ≤
      failures m.windows client endpoint since + (w.hits client endpoint since).toNat := by
  cases w with
  | window c e start outcome => exact failures_tally_le client endpoint since c e start outcome m.windows
  | attempt a => exact Nat.le_refl _
  | ban b => exact Nat.le_refl _
  | release address reading actor automatic => exact Nat.le_refl _

theorem le_failures_applied (client endpoint : String) (since : Nat) (w : Write) (m : Memory) :
    min (failures m.windows client endpoint since + (w.hits client endpoint since).toNat) wordMax ≤
      failures (m.answer w.call).2.windows client endpoint since := by
  cases w with
  | window c e start outcome => exact le_failures_tally client endpoint since c e start outcome m.windows
  | attempt a => exact Nat.min_le_left ..
  | ban b => exact Nat.min_le_left ..
  | release address reading actor automatic => exact Nat.min_le_left ..

theorem failures_filter_le (keep : WindowRow → Bool) (rows : List WindowRow) :
    failures (rows.filter keep) client endpoint since ≤ failures rows client endpoint since := by
  induction rows with
  | nil => exact Nat.le_refl _
  | cons row rest ih =>
    rw [List.filter_cons]
    split
    · rw [failures_cons, failures_cons]
      omega
    · rw [failures_cons]
      omega

-- The archive takes no row that is counted.
theorem failures_archived {cutoff : Nat} (early : cutoff ≤ since) (rows : List WindowRow) :
    failures (rows.filter (cutoff ≤ ·.start)) client endpoint since = failures rows client endpoint since := by
  unfold failures
  rw [WindowRow.filter_isSince early]

end Memory

end Turnstile
