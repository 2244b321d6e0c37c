import Mathlib.Algebra.BigOperators.Group.List.Basic
import Mathlib.Algebra.Group.Pi.Basic
import Mathlib.Tactic.Abel
import Turnstile.Proofs.Store.Archive
import Turnstile.Proofs.Store.Refinement
namespace Turnstile

attribute [ext] Counts

namespace Counts

instance : Zero Counts := ⟨.zero⟩

instance : Add Counts := ⟨.add⟩

@[simp] theorem requests_zero : (0 : Counts).requests = 0 := rfl
@[simp] theorem failures_zero : (0 : Counts).failures = 0 := rfl
@[simp] theorem throttled_zero : (0 : Counts).throttled = 0 := rfl
@[simp] theorem requests_add (a b : Counts) : (a + b).requests = a.requests + b.requests := rfl
@[simp] theorem failures_add (a b : Counts) : (a + b).failures = a.failures + b.failures := rfl
@[simp] theorem throttled_add (a b : Counts) : (a + b).throttled = a.throttled + b.throttled := rfl

instance : AddCommMonoid Counts where
  add_assoc a b c := by ext <;> simp [Nat.add_assoc]
  zero_add a := by ext <;> simp
  add_zero a := by ext <;> simp
  add_comm a b := by ext <;> simp [Nat.add_comm]
  nsmul := nsmulRec

end Counts

abbrev Totals := String → String → Counts

namespace Totals

def entry (client endpoint : String) (counts : Counts) : Totals :=
  fun c e => if c = client ∧ e = endpoint then counts else 0

variable {client endpoint : String}

theorem entry_add (a b : Counts) : entry client endpoint (a + b) = entry client endpoint a + entry client endpoint b := by
  funext c e
  simp only [entry, Pi.add_apply]
  split <;> simp

@[simp] theorem entry_zero : entry client endpoint 0 = 0 := by
  funext c e
  simp [entry]

@[simp] theorem entry_self (counts : Counts) : entry client endpoint counts client endpoint = counts := by simp [entry]

end Totals

def Outcome.counts : Outcome → Counts
  | .succeeded => ⟨1, 0, 0⟩
  | .failed => ⟨1, 1, 0⟩
  | .throttled => ⟨1, 0, 1⟩

namespace WindowRow

def totals (row : WindowRow) : Totals := .entry row.client row.endpoint row.counts

-- Who failed was not throttled, and both have made a request.
def Honest (row : WindowRow) : Prop := row.failures + row.throttled ≤ row.requests

variable {row : WindowRow}

theorem counts_count (honest : row.Honest) (room : row.requests < wordMax) (outcome : Outcome) :
    (row.count outcome).counts = row.counts + outcome.counts := by
  have requests : satAdd row.requests 1 = row.requests + 1 := satAdd_eq room
  have failures : satAdd row.failures 1 = row.failures + 1 := satAdd_eq (by unfold Honest at honest; omega)
  have throttled : satAdd row.throttled 1 = row.throttled + 1 := satAdd_eq (by unfold Honest at honest; omega)
  cases outcome <;> ext <;> simp [count, counts, Outcome.counts, requests, failures, throttled]

theorem Honest.count (honest : row.Honest) (room : row.requests < wordMax) (outcome : Outcome) : (row.count outcome).Honest := by
  have counted := counts_count honest room outcome
  have requests := congrArg Counts.requests counted
  have failures := congrArg Counts.failures counted
  have throttled := congrArg Counts.throttled counted
  simp only [WindowRow.counts, Counts.requests_add, Counts.failures_add, Counts.throttled_add] at requests failures throttled
  unfold Honest at honest ⊢
  cases outcome <;> simp only [Outcome.counts] at requests failures throttled <;> omega

theorem totals_count (honest : row.Honest) (room : row.requests < wordMax) (outcome : Outcome) :
    (row.count outcome).totals = row.totals + .entry row.client row.endpoint outcome.counts := by
  have same : (row.count outcome).client = row.client ∧ (row.count outcome).endpoint = row.endpoint := by
    cases outcome <;> exact ⟨rfl, rfl⟩
  unfold totals
  rw [same.1, same.2, counts_count honest room, Totals.entry_add]

theorem honest_fresh (client endpoint : String) (start : Nat) : (fresh client endpoint start).Honest := Nat.le_refl 0

theorem room_fresh (client endpoint : String) (start : Nat) : (fresh client endpoint start).requests < wordMax :=
  show 0 < wordMax by decide

theorem totals_fresh (client endpoint : String) (start : Nat) : (fresh client endpoint start).totals = 0 :=
  Totals.entry_zero

end WindowRow

namespace Memory

def booked (rows : List WindowRow) : Totals := (rows.map WindowRow.totals).sum

@[simp] theorem booked_nil : booked [] = 0 := rfl

@[simp] theorem booked_cons (row : WindowRow) (rest : List WindowRow) : booked (row :: rest) = row.totals + booked rest := by
  simp [booked]

@[simp] theorem booked_append (first second : List WindowRow) : booked (first ++ second) = booked first + booked second := by
  simp [booked]

theorem booked_perm {first second : List WindowRow} (same : first.Perm second) : booked first = booked second :=
  (same.map _).sum_eq

theorem booked_recent_cons (since : Nat) (row : WindowRow) (rest : List WindowRow) :
    booked (recent since (row :: rest)) = (if since ≤ row.start then row.totals else 0) + booked (recent since rest) := by
  unfold recent
  rw [List.filter_cons]
  split
  · rename_i late
    rw [if_pos (of_decide_eq_true late), booked_cons]
  · rename_i early
    rw [if_neg (by simpa using early), zero_add]

theorem total_booked (rows : List WindowRow) (client endpoint : String) : total rows client endpoint 0 = booked rows client endpoint := by
  have summed (rows : List WindowRow) (sum : Counts) :
      rows.foldl (fun sum row => sum.add row.counts) sum = sum + (rows.map WindowRow.counts).sum := by
    induction rows generalizing sum with
    | nil => simp
    | cons row rest ih =>
      rw [List.foldl_cons, ih, List.map_cons, List.sum_cons, ← add_assoc]
      rfl
  unfold total
  rw [summed]
  change 0 + _ = _
  rw [zero_add]
  induction rows with
  | nil => rfl
  | cons row rest ih =>
    rw [booked_cons, Pi.add_apply, Pi.add_apply, ← ih, List.filter_cons]
    by_cases own : client = row.client ∧ endpoint = row.endpoint
    · obtain ⟨rfl, rfl⟩ := own
      simp [WindowRow.isSince, WindowRow.totals]
    · have other : row.isSince client endpoint 0 = false := by
        simp only [WindowRow.isSince, Nat.zero_le, decide_true, Bool.and_true, Bool.and_eq_false_iff, beq_eq_false_iff_ne]
        by_contra both
        simp only [not_or, not_not] at both
        exact own ⟨both.1.symm, both.2.symm⟩
      simp [other, WindowRow.totals, Totals.entry, own]

theorem requests_le_booked {rows : List WindowRow} {row : WindowRow} (member : row ∈ rows) :
    row.requests ≤ (booked rows row.client row.endpoint).requests := by
  induction rows with
  | nil => cases member
  | cons first rest ih =>
    rw [booked_cons, Pi.add_apply, Pi.add_apply, Counts.requests_add]
    rcases List.mem_cons.1 member with rfl | later
    · simp [WindowRow.totals, WindowRow.counts]
    · exact Nat.le_add_left_of_le (ih later)

section
variable {client endpoint : String} {start : Nat} {rows : List WindowRow}

-- What is counted adds to the windows that are looked at if its own is one of them.
theorem booked_recent_tally (honest : ∀ row ∈ rows, row.Honest)
    (room : ∀ row ∈ rows, row.client = client → row.endpoint = endpoint → row.requests < wordMax) (since start : Nat)
    (outcome : Outcome) : booked (recent since (tally client endpoint start outcome rows)) =
      booked (recent since rows) + if since ≤ start then .entry client endpoint outcome.counts else 0 := by
  induction rows with
  | nil =>
    have added := WindowRow.totals_count (WindowRow.honest_fresh client endpoint start) (WindowRow.room_fresh ..) outcome
    have begun : ((WindowRow.fresh client endpoint start).count outcome).start = start := start_count ..
    rw [tally, booked_recent_cons, begun, added, WindowRow.totals_fresh, zero_add]
    exact add_comm ..
  | cons row rest ih =>
    unfold tally
    split
    · rename_i found
      obtain ⟨rfl, rfl, rfl⟩ := isAt_iff.1 found
      have added := WindowRow.totals_count (honest row List.mem_cons_self) (room row List.mem_cons_self rfl rfl) outcome
      rw [booked_recent_cons, booked_recent_cons, start_count, added]
      split <;> abel
    · rw [booked_recent_cons, booked_recent_cons, ih (fun later member => honest later (List.mem_cons_of_mem _ member))
        (fun later member => room later (List.mem_cons_of_mem _ member))]
      abel

theorem booked_tally (honest : ∀ row ∈ rows, row.Honest)
    (room : ∀ row ∈ rows, row.client = client → row.endpoint = endpoint → row.requests < wordMax) (outcome : Outcome) :
    booked (tally client endpoint start outcome rows) = booked rows + .entry client endpoint outcome.counts := by
  have added := booked_recent_tally honest room 0 start outcome
  rw [recent_zero, recent_zero, if_pos (Nat.zero_le start)] at added
  exact added

theorem honest_tally (honest : ∀ row ∈ rows, row.Honest)
    (room : ∀ row ∈ rows, row.client = client → row.endpoint = endpoint → row.requests < wordMax) (outcome : Outcome) :
    ∀ row ∈ tally client endpoint start outcome rows, row.Honest := by
  induction rows with
  | nil =>
    intro row member
    rw [List.mem_singleton.1 member]
    exact (WindowRow.honest_fresh client endpoint start).count (WindowRow.room_fresh ..) outcome
  | cons first rest ih =>
    intro row member
    unfold tally at member
    split at member
    · rename_i found
      obtain ⟨rfl, rfl, rfl⟩ := isAt_iff.1 found
      rcases List.mem_cons.1 member with rfl | old
      · exact (honest first List.mem_cons_self).count (room first List.mem_cons_self rfl rfl) outcome
      · exact honest row (List.mem_cons_of_mem _ old)
    · rcases List.mem_cons.1 member with rfl | new
      · exact honest row List.mem_cons_self
      · exact ih (fun later member => honest later (List.mem_cons_of_mem _ member))
          (fun later member => room later (List.mem_cons_of_mem _ member)) row new

end

-- The tables are in order, and their rows add up to an account.
structure Books (m : Memory) (account : Totals) : Prop where
  sum : booked (m.windows ++ m.archived) = account
  once : ∀ client endpoint start, (m.windows.filter (·.isAt client endpoint start)).length ≤ 1
  honest : ∀ row ∈ m.windows ++ m.archived, row.Honest

theorem books_empty : Memory.empty.Books 0 := ⟨rfl, fun _ _ _ => Nat.zero_le _, nofun⟩

namespace Books

variable {m : Memory} {account : Totals} {client endpoint : String} {start : Nat} {outcome : Outcome}

-- To archive moves rows from one table to the other; every other call leaves both as they are.
theorem answer (books : m.Books account) {c : Call} (counts : ∀ client endpoint start outcome, c ≠ .increment client endpoint start outcome) :
    (m.answer c).2.Books account := by
  have once := once_answer books.once c
  cases c with
  | increment client endpoint start outcome => exact absurd rfl (counts client endpoint start outcome)
  | archive cutoff =>
    have moved : (m.windows.filter (cutoff ≤ ·.start) ++ (m.archived ++ m.windows.filter (·.start < cutoff))).Perm
        (m.windows ++ m.archived) := by
      have late : (fun row : WindowRow => decide (row.start < cutoff)) = fun row => !decide (cutoff ≤ row.start) := by
        funext row
        by_cases early : cutoff ≤ row.start
        · simp [early]
        · simp [early, Nat.lt_of_not_le early]
      rw [late]
      have parted := List.filter_append_perm (fun row : WindowRow => decide (cutoff ≤ row.start)) m.windows
      refine (List.perm_append_comm.append_left _).trans ?_
      rw [← List.append_assoc]
      exact parted.append_right _
    exact ⟨(booked_perm moved).trans books.sum, once, fun row member => books.honest row (moved.subset member)⟩
  | _ => exact ⟨books.sum, once, books.honest⟩

theorem room (books : m.Books account) (least : (account client endpoint).requests < wordMax) :
    ∀ row ∈ m.windows, row.client = client → row.endpoint = endpoint → row.requests < wordMax := by
  rintro row member rfl rfl
  have below := requests_le_booked (List.mem_append_left m.archived member)
  rw [books.sum] at below
  exact Nat.lt_of_le_of_lt below least

-- A request is added to its account as long as the account does not outgrow a word.
theorem increment (books : m.Books account) (room : (account client endpoint).requests < wordMax) :
    (m.answer (.increment client endpoint start outcome)).2.Books (account + .entry client endpoint outcome.counts) := by
  have least := books.room room
  have honest : ∀ row ∈ m.windows, row.Honest := fun row member => books.honest row (List.mem_append_left _ member)
  have sum : booked (tally client endpoint start outcome m.windows ++ m.archived) =
      account + .entry client endpoint outcome.counts := by
    rw [booked_append, booked_tally honest least, ← books.sum, booked_append]
    abel
  refine ⟨sum, once_answer books.once _, fun row member => ?_⟩
  rcases List.mem_append.1 member with live | archived
  · exact honest_tally honest least outcome row live
  · exact books.honest row (List.mem_append_right _ archived)

end Books

end Memory

end Turnstile
