import Turnstile.Audit.Trail
import Turnstile.Proofs.Records
namespace Turnstile

open Json

namespace Event

variable {e : Event} {events : List Event}

def paragraph (events : List Event) : List Char := events.flatMap (·.line.toList ++ ['\n'])

theorem newline_not_mem_line (plain : e.Plain) : '\n' ∉ e.line.toList := by
  intro member
  have printable := Value.printable_write (whole_toValue plain)
  rw [line, Value.render, String.toList_ofList] at member
  exact absurd (printable _ member) (by decide)

theorem decode?_line (fits : e.Fits) (plain : e.Plain) : codec.decode? e.line = some e := by
  have written : e.line = codec.encode e := rfl
  rw [written]
  exact lawful.back e fits plain

theorem splitOn_paragraph (plain : ∀ e ∈ events, e.Plain) :
    (paragraph events).splitOn '\n' = events.map (·.line.toList) ++ [[]] := by
  induction events with
  | nil => rfl
  | cons e rest ih =>
    have first := newline_not_mem_line (plain e List.mem_cons_self)
    have later := ih fun other member => plain other (List.mem_cons_of_mem _ member)
    have joined : paragraph (e :: rest) = e.line.toList ++ '\n' :: paragraph rest := by simp [paragraph]
    rw [joined, List.splitOn_append_cons_self_of_not_mem first, later]
    rfl

end Event

namespace Sink

variable {s : Sink} {events : List Event}

structure Filing (s : Sink) (events : List Event) : Prop where
  medium : s.medium = .lines (String.ofList (Event.paragraph events))
  unfailing : s.failing = []

theorem Filing.file (filing : s.Filing events) : s.file.toList = Event.paragraph events := by
  unfold Sink.file
  rw [filing.medium]
  exact String.toList_ofList

theorem Filing.record (filing : s.Filing events) (e : Event) : (s.record e).1 = true ∧ (s.record e).2.Filing (events ++ [e]) := by
  have appended : String.ofList (Event.paragraph events) ++ e.line ++ "\n" = String.ofList (Event.paragraph (events ++ [e])) := by
    simp [Event.paragraph, String.ofList_append, String.append_assoc]
  have taken : s.record e = (true, ⟨.lines (String.ofList (Event.paragraph (events ++ [e]))), [], s.calls + 1⟩) := by
    unfold Sink.record Sink.write
    rw [filing.medium, filing.unfailing, ← appended]
    rfl
  rw [taken]
  exact ⟨rfl, rfl, rfl⟩

theorem Filing.drain (filing : s.Filing events) (t : Trail) : (s.drain t).1.Filing (events ++ t.pending) := by
  unfold Sink.drain
  dsimp only
  generalize t.pending = pending
  induction pending generalizing s events with
  | nil => rwa [List.append_nil]
  | cons e rest ih =>
    have later := ih (filing.record e).2
    rwa [List.append_assoc, List.singleton_append] at later

end Sink

namespace Journal

inductive Origin where
  | queue
  | caller
deriving DecidableEq

-- What callers do, and what the worker does at any time in between.
inductive Errand where
  | emit (e : Event)
  | record (e : Event)
  | flush
  | take
  | deliver

def Errand.emitted? : Errand → Option Event
  | .emit e => some e
  | _ => none

def Errand.recorded? : Errand → Option Event
  | .record e => some e
  | _ => none

end Journal

-- A queue with its worker and its sink, what was handed in to the queue, and whether it was taken, and what came to the sink.
structure Journal where
  trail : Trail
  -- It has left the queue and has not come to the sink.
  carried : Option Event
  sink : Sink
  emitted : List (Event × Bool)
  arrivals : List (Journal.Origin × Event)

namespace Journal

def start (capacity : Nat) : Journal := ⟨.make capacity, none, .ofMedium (.lines ""), [], []⟩

def hand (j : Journal) (origin : Origin) (e : Event) : Journal :=
  { j with
    sink := (j.sink.record e).2
    arrivals := if (j.sink.record e).1 then j.arrivals ++ [(origin, e)] else j.arrivals }

def emit (j : Journal) (e : Event) : Journal :=
  { j with trail := j.trail.emit e, emitted := j.emitted ++ [(e, (j.trail.emit e).dropped == j.trail.dropped)] }

def take (j : Journal) : Journal :=
  match j.carried, j.trail.pending with
  | none, e :: rest => { j with trail := { j.trail with pending := rest }, carried := some e }
  | _, _ => j

def deliver (j : Journal) : Journal :=
  match j.carried with
  | none => j
  | some e => { j.hand .queue e with carried := none }

def flush (j : Journal) : Journal :=
  let j := j.deliver
  { j with
    trail := (j.sink.drain j.trail).2
    sink := (j.sink.drain j.trail).1
    arrivals := j.arrivals ++ j.trail.pending.map ((.queue, ·)) }

def step (j : Journal) : Errand → Journal
  | .emit e => j.emit e
  | .record e => j.hand .caller e
  | .flush => j.flush
  | .take => j.take
  | .deliver => j.deliver

def run (j : Journal) (errands : List Errand) : Journal := errands.foldl step j

def accepted (emitted : List (Event × Bool)) : List Event := (emitted.filter (·.2)).map (·.1)

def refused (emitted : List (Event × Bool)) : List Event := (emitted.filter (!·.2)).map (·.1)

def arrivedFrom (origin : Origin) (arrivals : List (Origin × Event)) : List Event := (arrivals.filter (·.1 == origin)).map (·.2)

@[simp] theorem arrivedFrom_append (origin : Origin) (first rest : List (Origin × Event)) :
    arrivedFrom origin (first ++ rest) = arrivedFrom origin first ++ arrivedFrom origin rest := by
  simp [arrivedFrom]

@[simp] theorem arrivedFrom_queued (events : List Event) : arrivedFrom .queue (events.map ((.queue, ·))) = events := by
  simp [arrivedFrom, List.filter_map, Function.comp_def]

@[simp] theorem arrivedFrom_not_queued (events : List Event) : arrivedFrom .caller (events.map ((.queue, ·))) = [] := by
  simp [arrivedFrom, List.filter_map, Function.comp_def]

-- The file tells what came to the sink. What the queue took has come there, is carried, or waits behind that.
structure Consistent (j : Journal) (errands : List Errand) : Prop where
  filing : j.sink.Filing (j.arrivals.map (·.2))
  recorded : arrivedFrom .caller j.arrivals = errands.filterMap Errand.recorded?
  emitted : j.emitted.map (·.1) = errands.filterMap Errand.emitted?
  accepted : accepted j.emitted = arrivedFrom .queue j.arrivals ++ j.carried.toList ++ j.trail.pending
  refused : (refused j.emitted).length = j.trail.dropped

variable {j : Journal} {errands : List Errand}

theorem consistent_start (capacity : Nat) : (start capacity).Consistent [] := ⟨⟨rfl, rfl⟩, rfl, rfl, rfl, rfl⟩

theorem hand_eq {events : List Event} (filing : j.sink.Filing events) (origin : Origin) (e : Event) :
    j.hand origin e = { j with sink := (j.sink.record e).2, arrivals := j.arrivals ++ [(origin, e)] } := by
  unfold hand
  rw [(filing.record e).1]
  rfl

theorem Consistent.emit (kept : j.Consistent errands) (e : Event) : (j.emit e).Consistent (errands ++ [.emit e]) := by
  have recorded : arrivedFrom .caller j.arrivals = (errands ++ [Errand.emit e]).filterMap Errand.recorded? := by
    simp [kept.recorded, Errand.recorded?]
  have accepted := kept.accepted
  have refused := kept.refused
  by_cases room : j.trail.pending.length < j.trail.capacity
  · have emitted : j.emit e =
        { j with trail := { j.trail with pending := j.trail.pending ++ [e] }, emitted := j.emitted ++ [(e, true)] } := by
      simp [Journal.emit, Trail.emit, room]
    rw [emitted]
    refine ⟨kept.filing, recorded, ?_, ?_, ?_⟩
    · simp [kept.emitted, Errand.emitted?]
    · unfold Journal.accepted at accepted ⊢
      simp [accepted]
    · simpa [Journal.refused] using refused
  · have emitted : j.emit e =
        { j with trail := { j.trail with dropped := j.trail.dropped + 1 }, emitted := j.emitted ++ [(e, false)] } := by
      simp [Journal.emit, Trail.emit, room]
    rw [emitted]
    refine ⟨kept.filing, recorded, ?_, ?_, ?_⟩
    · simp [kept.emitted, Errand.emitted?]
    · simpa [Journal.accepted] using accepted
    · simpa [Journal.refused] using refused

theorem Consistent.record (kept : j.Consistent errands) (e : Event) : (j.hand .caller e).Consistent (errands ++ [.record e]) := by
  have filed := (kept.filing.record e).2
  rw [hand_eq kept.filing]
  refine ⟨by simpa using filed, ?_, ?_, ?_, kept.refused⟩
  · have before := kept.recorded
    unfold arrivedFrom at before ⊢
    simp [before, Errand.recorded?]
  · simp [kept.emitted, Errand.emitted?]
  · simpa [arrivedFrom] using kept.accepted

theorem Consistent.take (kept : j.Consistent errands) : j.take.Consistent errands := by
  unfold Journal.take
  split
  · rename_i e rest idle waiting
    have accepted := kept.accepted
    rw [idle, waiting] at accepted
    exact ⟨kept.filing, kept.recorded, kept.emitted, by simpa using accepted, kept.refused⟩
  · exact kept

theorem Consistent.deliver (kept : j.Consistent errands) : j.deliver.Consistent errands ∧ j.deliver.carried = none := by
  unfold Journal.deliver
  split
  · rename_i idle
    exact ⟨kept, idle⟩
  · rename_i e carried
    have filed := (kept.filing.record e).2
    have accepted := kept.accepted
    rw [carried] at accepted
    rw [hand_eq kept.filing]
    refine ⟨⟨by simpa using filed, ?_, kept.emitted, ?_, kept.refused⟩, rfl⟩
    · simpa [arrivedFrom] using kept.recorded
    · simpa [arrivedFrom] using accepted

theorem Consistent.flush (kept : j.Consistent errands) : j.flush.Consistent errands ∧ j.flush.carried = none ∧ j.flush.trail.pending = [] := by
  obtain ⟨kept, idle⟩ := kept.deliver
  have filed := kept.filing.drain j.deliver.trail
  have accepted := kept.accepted
  rw [idle, Option.toList_none, List.append_nil] at accepted
  refine ⟨⟨?_, ?_, kept.emitted, ?_, kept.refused⟩, idle, rfl⟩
  · simpa [Journal.flush, Function.comp_def] using filed
  · simpa [Journal.flush] using kept.recorded
  · simpa [Journal.flush, Sink.drain, idle] using accepted

-- The worker and a flush hand in nothing.
theorem Consistent.alone (kept : j.Consistent errands) {errand : Errand} (emits : errand.emitted? = none) (records : errand.recorded? = none) :
    j.Consistent (errands ++ [errand]) := by
  refine ⟨kept.filing, ?_, ?_, kept.accepted, kept.refused⟩
  · simp [kept.recorded, records]
  · simp [kept.emitted, emits]

theorem Consistent.step (kept : j.Consistent errands) (errand : Errand) : (j.step errand).Consistent (errands ++ [errand]) := by
  cases errand with
  | emit e => exact kept.emit e
  | record e => exact kept.record e
  | flush => exact kept.flush.1.alone rfl rfl
  | take => exact kept.take.alone rfl rfl
  | deliver => exact kept.deliver.1.alone rfl rfl

theorem Consistent.run (kept : j.Consistent errands) (later : List Errand) : (j.run later).Consistent (errands ++ later) := by
  induction later generalizing j errands with
  | nil => rwa [List.append_nil]
  | cons errand rest ih =>
    have next := ih (kept.step errand)
    rwa [List.append_assoc, List.singleton_append] at next

theorem Consistent.handed (kept : j.Consistent errands) {origin : Origin} {e : Event} (came : (origin, e) ∈ j.arrivals) :
    Errand.emit e ∈ errands ∨ Errand.record e ∈ errands := by
  have there : e ∈ arrivedFrom origin j.arrivals := List.mem_map.2 ⟨_, List.mem_filter.2 ⟨came, beq_self_eq_true origin⟩, rfl⟩
  cases origin with
  | caller =>
    rw [kept.recorded] at there
    obtain ⟨errand, member, same⟩ := List.mem_filterMap.1 there
    cases errand <;> cases same
    exact .inr member
  | queue =>
    have taken : e ∈ Journal.accepted j.emitted := by
      rw [kept.accepted, List.append_assoc]
      exact List.mem_append_left _ there
    obtain ⟨pair, member, rfl⟩ := List.mem_map.1 taken
    have emitted : pair.1 ∈ j.emitted.map (·.1) := List.mem_map_of_mem (List.mem_filter.1 member).1
    rw [kept.emitted] at emitted
    obtain ⟨errand, member, same⟩ := List.mem_filterMap.1 emitted
    cases errand <;> cases same
    exact .inl member

theorem file_reads_back (capacity : Nat) (errands : List Errand)
    (tellable : ∀ e, Errand.emit e ∈ errands ∨ Errand.record e ∈ errands → e.Fits ∧ e.Plain) :
    let j := ((start capacity).run errands).flush
    j.sink.file.toList = j.arrivals.flatMap (fun a => a.2.line.toList ++ ['\n']) ∧
    (∀ a ∈ j.arrivals, '\n' ∉ a.2.line.toList) ∧
    j.sink.file.toList.splitOn '\n' = j.arrivals.map (fun a => a.2.line.toList) ++ [[]] ∧
    (j.sink.file.toList.splitOn '\n').dropLast.map (fun line => Event.codec.decode? (String.ofList line)) =
      j.arrivals.map (fun a => some a.2) ∧
    arrivedFrom .caller j.arrivals = errands.filterMap Errand.recorded? ∧
    arrivedFrom .queue j.arrivals = accepted j.emitted ∧
    j.emitted.map (·.1) = errands.filterMap Errand.emitted? ∧
    (refused j.emitted).length = j.trail.dropped := by
  intro j
  obtain ⟨kept, idle, empty⟩ := ((consistent_start capacity).run errands).flush
  change j.Consistent errands at kept
  have file := kept.filing.file
  have told (a : Origin × Event) (came : a ∈ j.arrivals) : a.2.Fits ∧ a.2.Plain := tellable a.2 (kept.handed came)
  have plain : ∀ e ∈ j.arrivals.map (·.2), e.Plain := by
    intro e member
    obtain ⟨a, came, rfl⟩ := List.mem_map.1 member
    exact (told a came).2
  have lines := Event.splitOn_paragraph plain
  rw [← file, List.map_map] at lines
  refine ⟨?_, fun a came => Event.newline_not_mem_line (told a came).2, lines, ?_, kept.recorded, ?_, kept.emitted, kept.refused⟩
  · rw [file, Event.paragraph, List.flatMap_map]
  · rw [lines, List.dropLast_concat, List.map_map]
    refine List.map_congr_left fun a came => ?_
    obtain ⟨fits, plain⟩ := told a came
    simp only [Function.comp_apply, String.ofList_toList]
    exact Event.decode?_line fits plain
  · have accepted := kept.accepted
    rw [idle, empty] at accepted
    simpa using accepted.symm

-- The queue has room for one event. The second is refused, the third comes after the one that a caller hands in meanwhile.
theorem file_reads_back_full :
    let told (text : String) : Event := ⟨text, "a", "b", "c", none, some (.object [(text, .array [.number (.negSucc 0)])]), some text, 7⟩
    let errands := [.emit (told "\n\"\\😀"), .emit (told "lost"), .record (told "\r\n"), .take, .emit (told "")]
    let j := ((start 1).run errands).flush
    (∀ e, Errand.emit e ∈ errands ∨ Errand.record e ∈ errands → e.Fits ∧ e.Plain) ∧
    (j.sink.file.toList.splitOn '\n').dropLast.map (fun line => Event.codec.decode? (String.ofList line)) =
      [some (told "\r\n"), some (told "\n\"\\😀"), some (told "")] ∧
    j.trail.dropped = 1 := by
  intro told errands j
  have fine (text : String) : (told text).Fits ∧ (told text).Plain := by
    have held : (Value.object [(text, .array [.number (.negSucc 0)])]).Held Event.freeDepth :=
      .object (List.pairwise_singleton ..) (List.forall_mem_singleton.2 (.array (List.forall_mem_singleton.2 (.number (Nat.zero_le _)))))
    have whole : (Value.object [(text, .array [.number (.negSucc 0)])]).Whole :=
      .object (List.forall_mem_singleton.2 (.array (List.forall_mem_singleton.2 (.negSucc 0))))
    refine ⟨⟨(by decide : 7 ≤ wordMax), nofun, ?_⟩, ⟨nofun, ?_⟩⟩
    · rintro v ⟨⟩
      exact ⟨nofun, held⟩
    · rintro v ⟨⟩
      exact whole
  have tellable : ∀ e, Errand.emit e ∈ errands ∨ Errand.record e ∈ errands → e.Fits ∧ e.Plain := by
    intro e handed
    simp only [errands, List.mem_cons, Errand.emit.injEq, Errand.record.injEq, reduceCtorEq, List.not_mem_nil, or_false,
      false_or] at handed
    obtain (rfl | rfl | rfl) | rfl := handed <;> exact fine _
  obtain ⟨-, -, -, read, -⟩ := file_reads_back 1 errands tellable
  exact ⟨tellable, read, rfl⟩

end Journal

end Turnstile
