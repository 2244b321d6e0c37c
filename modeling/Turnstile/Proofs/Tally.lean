import Mathlib.Data.List.Basic
import Turnstile.Proofs.Outbox.Delivery
import Turnstile.Proofs.Outbox.Queue
import Turnstile.Proofs.Store.Archive
import Turnstile.Proofs.Store.Booked
import Turnstile.Proofs.Window
namespace Turnstile

namespace Memory

theorem total_eq_booked (rows : List WindowRow) (client endpoint : String) (since : Nat) :
    total rows client endpoint since = booked (recent since rows) client endpoint := by
  have parted (row : WindowRow) :
      row.isSince client endpoint since = (row.isSince client endpoint 0 && decide (since ≤ row.start)) := by
    simp [WindowRow.isSince]
  rw [← total_booked]
  unfold total recent
  rw [List.filter_filter]
  simp only [parted]

end Memory

namespace Tally

structure Record where
  reading : Nat
  client : String
  endpoint : String
  outcome : Outcome
deriving DecidableEq

-- The queue hands on one write at a time, so that a flush is as many steps as there are writes.
inductive Step where
  | record (r : Record)
  | deliver
  | archive (cutoff : Nat)
deriving DecidableEq

def Step.perform : Step → Tally × Backend → Tally × Backend
  | .record r, (t, b) => (t.record r.reading r.client r.endpoint r.outcome, b)
  | .deliver, (t, b) =>
    let (_, outbox, b) := Outbox.deliver.run t.outbox b
    ({ t with outbox }, b)
  | .archive cutoff, (t, b) => (t, (b.call (.archive cutoff) none).2)

def run (steps : List Step) (s : Tally × Backend) : Tally × Backend := steps.foldl (fun s step => step.perform s) s

@[simp] theorem run_cons (step : Step) (later : List Step) (s : Tally × Backend) :
    run (step :: later) s = run later (step.perform s) := rfl

def Step.recorded? : Step → Option Record
  | .record r => some r
  | _ => none

def records (steps : List Step) : List Record := steps.filterMap Step.recorded?

inductive Arrival where
  | record (r : Record)
  | archive (cutoff : Nat)
deriving DecidableEq

-- What reaches the store while these steps are made, with these records queued before.
def arrivals : List Record → List Step → List Arrival
  | _, [] => []
  | queued, .record r :: later => arrivals (queued ++ [r]) later
  | first :: queued, .deliver :: later => .record first :: arrivals queued later
  | [], .deliver :: later => arrivals [] later
  | queued, .archive cutoff :: later => .archive cutoff :: arrivals queued later

def Arrival.recorded? : Arrival → Option Record
  | .record r => some r
  | .archive _ => none

def arrived (past : List Arrival) : List Record := past.filterMap Arrival.recorded?

def Arrival.takes (granularity : Duration) (r : Record) : Arrival → Bool
  | .record _ => false
  | .archive cutoff => windowStart r.reading granularity < cutoff

-- The records whose rows have not been archived since they arrived.
def unarchived (granularity : Duration) : List Arrival → List Record
  | [] => []
  | .record r :: later =>
    if later.any (Arrival.takes granularity r) then unarchived granularity later else r :: unarchived granularity later
  | .archive _ :: later => unarchived granularity later

namespace Record

def write (granularity : Duration) (r : Record) : Write :=
  .window r.client r.endpoint (windowStart r.reading granularity) r.outcome

def worth (r : Record) : Totals := .entry r.client r.endpoint r.outcome.counts

def isOf (client endpoint : String) (r : Record) : Bool := r.client == client && r.endpoint == endpoint

def isSince (client endpoint : String) (since : Nat) (r : Record) : Bool := r.isOf client endpoint && since ≤ r.reading

end Record

def countsOf (records : List Record) : Counts :=
  ⟨records.length, records.countP (·.outcome == .failed), records.countP (·.outcome == .throttled)⟩

def worthOf (records : List Record) : Totals := (records.map Record.worth).sum

@[simp] theorem worthOf_append (first later : List Record) : worthOf (first ++ later) = worthOf first + worthOf later := by
  simp [worthOf]

@[simp] theorem worthOf_singleton (r : Record) : worthOf [r] = r.worth := by
  simp [worthOf]

theorem isOf_iff {r : Record} {client endpoint : String} :
    r.isOf client endpoint = true ↔ client = r.client ∧ endpoint = r.endpoint := by
  simp only [Record.isOf, Bool.and_eq_true, beq_iff_eq]
  exact ⟨fun ⟨c, e⟩ => ⟨c.symm, e.symm⟩, fun ⟨c, e⟩ => ⟨c.symm, e.symm⟩⟩

theorem worthOf_apply (records : List Record) (client endpoint : String) :
    worthOf records client endpoint = countsOf (records.filter (·.isOf client endpoint)) := by
  induction records with
  | nil => rfl
  | cons r rest ih =>
    have first : worthOf (r :: rest) client endpoint = r.worth client endpoint + worthOf rest client endpoint := by
      simp [worthOf]
    rw [first, ih]
    cases own : r.isOf client endpoint with
    | true =>
      obtain ⟨rfl, rfl⟩ := isOf_iff.1 own
      rw [List.filter_cons_of_pos own, Record.worth, Totals.entry_self]
      ext <;> cases kind : r.outcome <;> simp [Outcome.counts, countsOf, kind, Nat.add_comm]
    | false =>
      have other : ¬(client = r.client ∧ endpoint = r.endpoint) := by simp [← isOf_iff, own]
      rw [List.filter_cons_of_neg (by simp [own]), Record.worth, Totals.entry, if_neg other, zero_add]

section
variable {granularity : Duration}

@[simp] theorem records_record (r : Record) (later : List Step) : records (.record r :: later) = r :: records later := rfl

@[simp] theorem records_deliver (later : List Step) : records (.deliver :: later) = records later := rfl

@[simp] theorem records_archive (cutoff : Nat) (later : List Step) : records (.archive cutoff :: later) = records later := rfl

@[simp] theorem arrived_record (past : List Arrival) (r : Record) : arrived (past ++ [.record r]) = arrived past ++ [r] :=
  List.filterMap_append

@[simp] theorem arrived_archive (past : List Arrival) (cutoff : Nat) : arrived (past ++ [.archive cutoff]) = arrived past := by
  simp [arrived, Arrival.recorded?]

theorem unarchived_record (past : List Arrival) (r : Record) :
    unarchived granularity (past ++ [.record r]) = unarchived granularity past ++ [r] := by
  induction past with
  | nil => rfl
  | cons first later ih =>
    cases first with
    | archive cutoff => exact ih
    | record s =>
      have same : (later ++ [Arrival.record r]).any (Arrival.takes granularity s) = later.any (Arrival.takes granularity s) := by
        simp [Arrival.takes]
      rw [List.cons_append, unarchived, unarchived, same, ih]
      split <;> rfl

-- The archive takes the records of earlier windows that still stand.
theorem unarchived_archive (past : List Arrival) (cutoff : Nat) :
    unarchived granularity (past ++ [.archive cutoff]) =
      (unarchived granularity past).filter fun r => cutoff ≤ windowStart r.reading granularity := by
  induction past with
  | nil => rfl
  | cons first later ih =>
    cases first with
    | archive earlier => exact ih
    | record r =>
      have reached : (later ++ [Arrival.archive cutoff]).any (Arrival.takes granularity r) =
          (later.any (Arrival.takes granularity r) || decide (windowStart r.reading granularity < cutoff)) := by
        simp [Arrival.takes]
      rw [List.cons_append, unarchived, unarchived, reached, ih]
      cases later.any (Arrival.takes granularity r) with
      | true => rfl
      | false =>
        by_cases old : windowStart r.reading granularity < cutoff
        · simp [old]
        · simp [old, Nat.le_of_not_lt old]

theorem unarchived_of_forall {past : List Arrival} (spared : ∀ cutoff, .archive cutoff ∉ past) :
    unarchived granularity past = arrived past := by
  induction past with
  | nil => rfl
  | cons first later ih =>
    have rest := ih fun cutoff member => spared cutoff (List.mem_cons_of_mem _ member)
    cases first with
    | archive cutoff => exact absurd List.mem_cons_self (spared cutoff)
    | record r =>
      have untaken : later.any (Arrival.takes granularity r) = false := by
        rw [List.any_eq_false]
        intro arrival member
        cases arrival with
        | record s => simp [Arrival.takes]
        | archive cutoff => exact absurd (List.mem_cons_of_mem _ member) (spared cutoff)
      simp [unarchived, untaken, rest, arrived, Arrival.recorded?]

theorem archive_mem_arrivals {queued : List Record} {steps : List Step} {cutoff : Nat}
    (member : .archive cutoff ∈ arrivals queued steps) : .archive cutoff ∈ steps := by
  induction queued, steps using arrivals.induct with
  | case1 queued => cases member
  | case2 queued r later ih => exact List.mem_cons_of_mem _ (ih member)
  | case3 first queued later ih =>
    rcases List.mem_cons.1 member with same | later
    · cases same
    · exact List.mem_cons_of_mem _ (ih later)
  | case4 later ih => exact List.mem_cons_of_mem _ (ih member)
  | case5 queued earlier later ih =>
    rw [arrivals] at member
    rcases List.mem_cons.1 member with same | later
    · cases same
      exact List.mem_cons_self
    · exact List.mem_cons_of_mem _ (ih later)

end

-- The rows of live windows add up to the records that stand, and all rows to the records that arrived.
structure Summed (granularity : Duration) (past : List Arrival) (m : Memory) : Prop where
  books : m.Books (worthOf (arrived past))
  live : ∀ since, Memory.booked (Memory.recent since m.windows) =
    worthOf ((unarchived granularity past).filter fun r => since ≤ windowStart r.reading granularity)

section
variable {granularity : Duration} {past : List Arrival} {m : Memory}

theorem summed_empty (granularity : Duration) : Summed granularity [] .empty := ⟨Memory.books_empty, fun _ => rfl⟩

theorem Summed.record (summed : Summed granularity past m) (few : (arrived past).length < wordMax) (r : Record) :
    Summed granularity (past ++ [.record r]) (m.answer (r.write granularity).call).2 := by
  have room : (worthOf (arrived past) r.client r.endpoint).requests < wordMax := by
    rw [worthOf_apply]
    exact Nat.lt_of_le_of_lt (List.length_filter_le ..) few
  refine ⟨?_, fun since => ?_⟩
  · rw [arrived_record, worthOf_append, worthOf_singleton]
    exact summed.books.increment room
  · have honest : ∀ row ∈ m.windows, row.Honest := fun row member => summed.books.honest row (List.mem_append_left _ member)
    have added := Memory.booked_recent_tally honest (summed.books.room room) since (windowStart r.reading granularity) r.outcome
    show Memory.booked (Memory.recent since (Memory.tally ..)) = _
    rw [added, unarchived_record, List.filter_append, worthOf_append, summed.live]
    by_cases late : since ≤ windowStart r.reading granularity
    · simp [late, Record.worth]
    · simp [late, worthOf]

theorem Summed.archive (summed : Summed granularity past m) (cutoff : Nat) :
    Summed granularity (past ++ [.archive cutoff]) (m.answer (.archive cutoff)).2 := by
  refine ⟨?_, fun since => ?_⟩
  · rw [arrived_archive]
    exact summed.books.answer nofun
  · have later (start : Nat) : decide (max since cutoff ≤ start) = (decide (since ≤ start) && decide (cutoff ≤ start)) := by
      simp only [Nat.max_le, Bool.decide_and]
    have both := summed.live (max since cutoff)
    simp only [Memory.recent, later] at both
    show Memory.booked (Memory.recent since (m.windows.filter (cutoff ≤ ·.start))) = _
    rw [unarchived_archive, List.filter_filter, ← both, Memory.recent, List.filter_filter]

end

structure InStep (granularity : Duration) (past : List Arrival) (queued : List Record) (s : Tally × Backend) : Prop where
  width : s.1.granularity = granularity
  waiting : s.1.outbox.pending = queued.map (Record.write granularity)
  healthy : s.2.Healthy
  tables : ∃ m, s.2.store = .memory m ∧ Summed granularity past m

section
variable {granularity : Duration} {past : List Arrival} {queued : List Record} {s : Tally × Backend}

theorem InStep.record (kept : InStep granularity past queued s) (r : Record)
    (lossless : ((Step.record r).perform s).1.outbox.dropped = s.1.outbox.dropped) :
    InStep granularity past (queued ++ [r]) ((Step.record r).perform s) := by
  obtain ⟨t, b⟩ := s
  obtain ⟨rfl, waiting, healthy, tables⟩ := kept
  refine ⟨rfl, ?_, healthy, tables⟩
  have sent : t.outbox.send (r.write t.granularity) =
      { t.outbox with pending := t.outbox.pending ++ [r.write t.granularity] } := Outbox.send_kept lossless
  show (t.outbox.send (r.write t.granularity)).pending = _
  rw [sent, List.map_append, ← waiting]
  rfl

theorem InStep.deliver_first {first : Record} (kept : InStep granularity past (first :: queued) s)
    (few : (arrived past).length < wordMax) : InStep granularity (past ++ [.record first]) queued (Step.deliver.perform s) := by
  obtain ⟨t, b⟩ := s
  obtain ⟨width, waiting, healthy, m, store, summed⟩ := kept
  have answered : b.store.answer (first.write granularity).call =
      (.ok (m.answer (first.write granularity).call).1, .memory (m.answer (first.write granularity).call).2) :=
    store ▸ Store.answer_memory _ m
  obtain ⟨after, ran, stays, written⟩ := Outbox.attempt_healthy healthy answered t.outbox.retry
    { t.outbox with pending := queued.map (Record.write granularity) }
  have delivered := Outbox.run_deliver_of_cons (b := b) waiting
  dsimp only at delivered
  rw [ran] at delivered
  simp only [Step.perform, delivered]
  exact ⟨width, rfl, stays, _, written, summed.record few first⟩

theorem deliver_idle (kept : InStep granularity past [] s) : Step.deliver.perform s = s := by
  obtain ⟨t, b⟩ := s
  simp only [Step.perform, Outbox.run_deliver_of_nil kept.waiting]

theorem InStep.archive (kept : InStep granularity past queued s) (cutoff : Nat) :
    InStep granularity (past ++ [.archive cutoff]) queued ((Step.archive cutoff).perform s) := by
  obtain ⟨t, b⟩ := s
  obtain ⟨width, waiting, healthy, m, store, summed⟩ := kept
  have answered : b.store.answer (.archive cutoff) = (.ok (m.answer (.archive cutoff)).1, .memory (m.answer (.archive cutoff)).2) :=
    store ▸ Store.answer_memory _ m
  obtain ⟨after, called, stays, moved⟩ := healthy.call answered
  simp only [Step.perform, called]
  exact ⟨width, waiting, stays, _, moved, summed.archive cutoff⟩

theorem dropped_perform (step : Step) (s : Tally × Backend) : s.1.outbox.dropped ≤ (step.perform s).1.outbox.dropped := by
  obtain ⟨t, b⟩ := s
  cases step with
  | record r => exact Outbox.dropped_send ..
  | deliver =>
    show t.outbox.dropped ≤ (Outbox.deliver.run t.outbox b).2.1.dropped
    cases queued : t.outbox.pending with
    | nil => simp [Outbox.run_deliver_of_nil queued]
    | cons first rest =>
      obtain ⟨⟨result, after⟩, ran, -⟩ := Outbox.tried_attempt t.outbox.retry first { t.outbox with pending := rest } b
      rw [Outbox.run_deliver_of_cons queued, ran]
      cases result <;> exact Nat.le_refl _
  | archive cutoff => exact Nat.le_refl _

theorem dropped_run (steps : List Step) (s : Tally × Backend) : s.1.outbox.dropped ≤ (run steps s).1.outbox.dropped := by
  induction steps generalizing s with
  | nil => exact Nat.le_refl _
  | cons step later ih => exact Nat.le_trans (dropped_perform step s) (ih (step.perform s))

-- The queue keeps the order: what has reached the store and what is still queued are all records in turn.
theorem InStep.run (kept : InStep granularity past queued s) (steps : List Step)
    (few : (arrived past ++ queued ++ records steps).length ≤ wordMax)
    (lossless : (Tally.run steps s).1.outbox.dropped = s.1.outbox.dropped) :
    ∃ left, InStep granularity (past ++ arrivals queued steps) left (Tally.run steps s) ∧
      arrived (past ++ arrivals queued steps) ++ left = arrived past ++ queued ++ records steps := by
  induction queued, steps using arrivals.induct generalizing past s with
  | case1 queued => exact ⟨queued, by simpa [arrivals, Tally.run] using kept, by simp [arrivals, records]⟩
  | case2 queued r later ih =>
    have first := dropped_perform (.record r) s
    have rest := dropped_run later ((Step.record r).perform s)
    rw [run_cons] at lossless
    obtain ⟨left, ends, order⟩ := ih (kept.record r (by omega)) (by simpa using few) (by omega)
    exact ⟨left, ends, by simpa [arrivals] using order⟩
  | case3 first queued later ih =>
    have same := dropped_perform .deliver s
    have rest := dropped_run later (Step.deliver.perform s)
    rw [run_cons] at lossless
    have room : (arrived past).length < wordMax := by
      simp only [List.length_append, List.length_cons] at few
      omega
    obtain ⟨left, ends, order⟩ := ih (kept.deliver_first room) (by simpa using few) (by omega)
    exact ⟨left, by simpa [arrivals] using ends, by simpa [arrivals] using order⟩
  | case4 later ih =>
    rw [run_cons, deliver_idle kept] at lossless ⊢
    exact ih kept few lossless
  | case5 queued cutoff later ih =>
    obtain ⟨left, ends, order⟩ := ih (kept.archive cutoff) (by simpa using few) lossless
    exact ⟨left, by simpa [arrivals] using ends, by simpa [arrivals] using order⟩

def start (granularity : Duration) (capacity : Nat) (retry : Retry) : Tally × Backend :=
  (⟨granularity, .make capacity retry⟩, .memory)

theorem inStep_start (granularity : Duration) (capacity : Nat) (retry : Retry) :
    InStep granularity [] [] (start granularity capacity retry) :=
  ⟨rfl, rfl, (by decide : Backend.memory.Healthy), .empty, rfl, summed_empty granularity⟩

theorem readings_run {σ : Type} {t : Tally} {b : Backend} {m : Memory} (healthy : b.Healthy) (tables : b.store = .memory m)
    (client endpoint : String) (since : Nat) (s : σ) :
    let total := Memory.total m.windows client endpoint (windowStart since t.granularity)
    ((t.readings client endpoint since).run s b).1 = ⟨.ok total, .ok total.requests, .ok total.failures⟩ := by
  have answered {b : Backend} (healthy : b.Healthy) (tables : b.store = .memory m) :
      ∃ after, b.call (t.since client endpoint since) none =
        (.ok (Memory.total m.windows client endpoint (windowStart since t.granularity)), after) ∧
        after.Healthy ∧ after.store = .memory m := by
    apply healthy.call
    rw [tables]
    rfl
  obtain ⟨first, called, well, same⟩ := answered healthy tables
  obtain ⟨second, asked, sound, kept⟩ := answered well same
  obtain ⟨third, again, -, -⟩ := answered sound kept
  simp only [readings, Routine.run_bind, Routine.run_call, Routine.run_pure, called, asked, again]
  rfl

theorem isSince_windowStart (granularity : Duration) (client endpoint : String) (since : Nat) (r : Record) :
    r.isSince client endpoint (windowStart since granularity) =
      (r.isOf client endpoint && decide (windowStart since granularity ≤ windowStart r.reading granularity)) := by
  simp only [Record.isSince, start_le_windowStart (windowStart_windowStart since granularity)]

-- Nothing recorded since is missed, and nothing is counted that was recorded a whole window before.
theorem within_one_window (granularity : Duration) (client endpoint : String) (since : Nat) (r : Record) :
    (r.isSince client endpoint since = true → r.isSince client endpoint (windowStart since granularity) = true) ∧
    (r.isSince client endpoint (windowStart since granularity) = true →
      (r.isOf client endpoint && since < r.reading + windowWidth granularity) = true) := by
  have start := windowStart_le since granularity
  have next := lt_windowStart_add since granularity
  simp only [Record.isSince, Bool.and_eq_true, decide_eq_true_eq]
  exact ⟨fun ⟨mine, late⟩ => ⟨mine, by omega⟩, fun ⟨mine, late⟩ => ⟨mine, by omega⟩⟩

end

-- Every record counts once, in the reads that reach its window, until its row is archived, and in the archive from then on.
theorem counts_exact (granularity : Duration) (capacity : Nat) (retry : Retry) (steps : List Step)
    (few : (records steps).length ≤ wordMax)
    (lossless : (run steps (start granularity capacity retry)).1.outbox.dropped = 0)
    (flushed : (run steps (start granularity capacity retry)).1.outbox.pending = []) (client endpoint : String) (since : Nat) :
    let ended := run steps (start granularity capacity retry)
    let made := (records steps).filter (·.isOf client endpoint)
    let seen := (unarchived granularity (arrivals [] steps)).filter (·.isSince client endpoint (windowStart since granularity))
    ((ended.1.readings client endpoint since).run () ended.2).1 =
        ⟨.ok (countsOf seen), .ok (countsOf seen).requests, .ok (countsOf seen).failures⟩ ∧
      arrived (arrivals [] steps) = records steps ∧
      ((∀ cutoff, .archive cutoff ∉ steps) → (made.filter (since ≤ ·.reading)).Sublist seen ∧
        seen.Sublist (made.filter (since < ·.reading + windowWidth granularity))) ∧
      ∃ m, ended.2.store = .memory m ∧
        (Memory.total m.windows client endpoint 0).add (Memory.total m.archived client endpoint 0) = countsOf made := by
  have begun := inStep_start granularity capacity retry
  obtain ⟨left, kept, order⟩ := begun.run steps (by simpa [arrived] using few) lossless
  have nothing : left = [] := List.map_eq_nil_iff.1 (kept.waiting.symm.trans flushed)
  have all : arrived (arrivals [] steps) = records steps := by simpa [nothing, arrived] using order
  obtain ⟨width, -, healthy, m, tables, summed⟩ := kept
  simp only [List.nil_append] at summed
  refine ⟨?_, all, fun spared => ?_, m, tables, ?_⟩
  · rw [readings_run healthy tables, width, Memory.total_eq_booked, summed.live, worthOf_apply, List.filter_filter]
    simp only [isSince_windowStart]
  · have untaken : ∀ cutoff, Arrival.archive cutoff ∉ arrivals [] steps :=
      fun cutoff member => spared cutoff (archive_mem_arrivals member)
    rw [unarchived_of_forall untaken, all, List.filter_filter, List.filter_filter]
    constructor
    · apply List.monotone_filter_right
      intro r late
      refine (within_one_window granularity client endpoint since r).1 ?_
      simpa [Record.isSince, and_comm] using late
    · apply List.monotone_filter_right
      intro r counts
      have close := (within_one_window granularity client endpoint since r).2 counts
      simpa [and_comm] using close
  · rw [Memory.total_booked, Memory.total_booked, ← all, ← worthOf_apply, ← summed.books.sum, Memory.booked_append]
    rfl

-- The clock goes back into a window that was archived: its row starts over, and the archive keeps what it had.
theorem archived_window_recounts :
    let t : Nat → Outcome → Step := fun reading outcome => .record ⟨reading, "c", "/login", outcome⟩
    let steps := [t 25 .failed, t 31 .succeeded, .deliver, .deliver, .archive 30, t 21 .throttled, .deliver]
    let ended := run steps (start (.ofMillis 10) 4 (.make 1 .zero none))
    ((ended.1.readings "c" "/login" 27).run () ended.2).1 = ⟨.ok ⟨2, 0, 1⟩, .ok 2, .ok 0⟩ ∧
      ∃ m, ended.2.store = .memory m ∧
        (Memory.total m.windows "c" "/login" 0).add (Memory.total m.archived "c" "/login" 0) = ⟨3, 1, 1⟩ := by
  intro t steps ended
  obtain ⟨seen, -, -, m, tables, total⟩ := counts_exact (.ofMillis 10) 4 (.make 1 .zero none) steps (by decide)
    (by decide +kernel) (by decide +kernel) "c" "/login" 27
  exact ⟨seen, m, tables, total⟩

end Tally

end Turnstile
