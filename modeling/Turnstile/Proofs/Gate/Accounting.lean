import Turnstile.Proofs.World.Accounts
namespace Turnstile

variable {ν : Type}

namespace Request

variable {client endpoint : String} {critical : Bool}

theorem charge_banned {reason : String} (own : ¬Admission.Reserved reason) (left : Duration) :
    Request.charge ⟨client, endpoint, critical, .banned left reason⟩ = 0 := by
  simp [charge, Admission.outcome?, Admission.denial_banned own]

theorem charge_limited (wait : Duration) : Request.charge ⟨client, endpoint, critical, .rateLimited wait⟩ =
    .entry client endpoint Outcome.throttled.counts := by
  simp [charge, Admission.outcome?]

theorem charge_admitted : Request.charge ⟨client, endpoint, critical, .admitted⟩ =
    if critical then 0 else .entry client endpoint Outcome.succeeded.counts := by
  cases critical <;> simp [charge, Admission.outcome?]

end Request

namespace World

variable [Quantity ν] {w u : World ν} {account : Totals}

namespace Accounts

theorem owed_window (client endpoint : String) (start : Nat) (outcome : Outcome) :
    owed [.window client endpoint start outcome] = .entry client endpoint outcome.counts := by simp [owed, Write.charge]

-- A request is queued for counting just as its answer says.
theorem entered {client endpoint : String} {critical : Bool} {a : Admission} (few : account.Fits) (telling : w.Telling)
    (entered : Entered w client endpoint critical (.ok a, u)) (before : w.Accounts account) :
    u.Accounts (account + Request.charge ⟨client, endpoint, critical, a⟩) := by
  have later := telling.entered entered
  generalize result : (Except.ok a, u) = r at entered
  cases entered with
  | unsound => cases result
  | answered sound screened =>
    cases result
    have screening := w.gate.screen_cases client endpoint critical
    rw [screened] at screening
    cases screening with
    | banned active =>
      rw [Request.charge_banned (telling.known.active _ active), add_zero]
      exact before.kept rfl rfl
    | limited wait limiter free =>
      rw [Request.charge_limited, ← owed_window client endpoint (windowStart w.gate.now w.gate.tally.granularity)]
      exact before.grow rfl rfl
    | admitted limiter free harmless =>
      rw [Request.charge_admitted, harmless, ← owed_window client endpoint (windowStart w.gate.now w.gate.tally.granularity)]
      exact before.grow rfl rfl
  | @judged g n v reading sound screened waited read =>
    cases result
    obtain ⟨severe, taken⟩ := Gate.screen_undecided screened
    have asked : v.Accounts account := by
      have arrived : ({ w with gate := g, backend := w.backend.arrive.2 } : World ν).Accounts account := by
        rw [taken]
        exact before.kept (Backend.store_arrive w.backend) rfl
      rw [waited]
      exact arrived.deliverMany few n
    have judged := v.gate.judge_cases client endpoint reading
    generalize v.gate.judge client endpoint reading = outcome at judged later
    cases judged with
    | admitted =>
      rw [Request.charge_admitted, severe]
      exact asked.kept rfl rfl
    | @banned counts tier made g' reached ban event =>
      have own := later.known.active made (ban_blocks ban).1
      have after := asked.ban client v.gate.policy.reason tier.duration (Gate.toHalf counts.failures) systemActor
      rw [ban] at after
      rw [Request.charge_banned own, add_zero]
      exact after.kept rfl rfl

theorem waits {c : Command} (asks : c.asks = true) (meanwhile : List Nat)
    (other : (Move.command c meanwhile).enters = false) (few : account.Fits) (before : w.Accounts account) :
    (w.step (.command c meanwhile)).2.Accounts account := by
  have stands := Accounts.withstands (w := w) few
  cases c with
  | restore =>
    exact (stands.restore.map (R := fun _ v => SameFrame w v ∧ v.Accounts account) (fun _ _ so => so) meanwhile w ⟨.refl w, before⟩).2
  | maintain force =>
    exact ((stands.maintain force).map (R := fun _ v => SameFrame w v ∧ v.Accounts account) (fun _ _ so => so) meanwhile w
      ⟨.refl w, before⟩).2
  | counts client endpoint since =>
    have leads : Leads (fun v => SameFrame w v ∧ v.Accounts account) (Command.routine (.counts client endpoint since))
        (fun _ v => SameFrame w v ∧ v.Accounts account) :=
      .read fun v _ => (stands.readings v.gate.tally client endpoint since).map fun _ _ so => so
    exact (leads meanwhile w ⟨.refl w, before⟩).2
  | enter | serve => cases other
  | _ => cases asks

end Accounts

end World

namespace Move

def isRecord : Move → Bool
  | .command (.record ..) _ => true
  | _ => false

end Move

namespace World

variable [Quantity ν] {w : World ν} {past : List (Visit ν)}

theorem accounts_step {m : Move} (own : m.isOwn = true) (direct : m.isRecord = false) (telling : w.Telling) (few : (due past).Fits)
    (before : w.Accounts (due past)) : (w.step m).2.Accounts (due (past ++ [⟨w, m⟩])) := by
  rw [due_snoc]
  have still (none : Visit.requests ⟨w, m⟩ = []) (silent : Visit.feedback ⟨w, m⟩ = []) (kept : (w.step m).2.Accounts (due past)) :
      (w.step m).2.Accounts (due past + (((Visit.requests ⟨w, m⟩).map Request.charge).sum +
        ((Visit.feedback ⟨w, m⟩).map Feedback.charge).sum)) := by
    rw [none, silent]
    simpa using kept
  cases m with
  | command c meanwhile =>
    cases enters : (Move.command c meanwhile).enters with
    | true =>
      have silent : Visit.feedback (⟨w, .command c meanwhile⟩ : Visit ν) = [] := by
        cases c <;> first | rfl | cases enters
      rcases Visit.request_cases (v := ⟨w, .command c meanwhile⟩) enters with ⟨none, same⟩ | ⟨r, only, entered⟩
      · apply still none silent
        change (w.step (.command c meanwhile)).2 = w at same
        rw [same]
        exact before
      · rw [only, silent]
        simp only [List.map_cons, List.map_nil, List.sum_cons, List.sum_nil, add_zero]
        exact before.entered few telling entered
    | false =>
      have none := Visit.requests_of_other (v := ⟨w, .command c meanwhile⟩) enters
      cases asks : c.asks with
      | true =>
        apply still none
        · cases c <;> first | rfl | cases asks
        · exact before.waits asks meanwhile enters few
      | false =>
        have reported : owed (c.writes w.gate) = (c.feedback.map Feedback.charge).sum :=
          owed_writes (by rintro a b o rfl; cases direct) w.gate
        have queue := congrArg Tally.outbox (Command.tally_update asks w.gate)
        have grown := before.grow (u := { w with gate := c.update w.gate }) rfl queue
        rw [reported] at grown
        rw [none, Command.step_plain asks]
        simpa [Visit.feedback] using grown
  | call | restart => cases own
  | deliver => exact still rfl rfl (before.deliver few)
  | handOver => exact still rfl rfl (before.kept rfl rfl)
  | flush => exact still rfl rfl ((before.deliverMany few _).kept rfl rfl)
  | faults | reach | slow => exact still rfl rfl (before.kept rfl rfl)

-- A move is due one count at most.
theorem due_visit_le (v : Visit ν) (client endpoint : String) :
    (((v.requests.map Request.charge).sum + (v.feedback.map Feedback.charge).sum) client endpoint).requests ≤ 1 := by
  have single (c e : String) (outcome : Outcome) : (Totals.entry c e outcome.counts client endpoint).requests ≤ 1 := by
    unfold Totals.entry
    split
    · cases outcome <;> exact Nat.le_refl 1
    · exact Nat.zero_le 1
  cases enters : v.move.enters with
  | true =>
    have silent : v.feedback = [] := by
      obtain ⟨w, m⟩ := v
      cases m with
      | command c meanwhile => cases c <;> first | rfl | cases enters
      | _ => rfl
    rw [silent]
    rcases v.request_cases enters with ⟨none, _⟩ | ⟨r, only, _⟩
    · rw [none]
      exact Nat.zero_le 1
    · rw [only]
      simp only [List.map_cons, List.map_nil, List.sum_cons, List.sum_nil, add_zero]
      unfold Request.charge
      cases r.answer.outcome? r.critical with
      | none => exact Nat.zero_le 1
      | some outcome => exact single _ _ _
  | false =>
    rw [v.requests_of_other enters]
    unfold Visit.feedback
    split
    · unfold Command.feedback
      split
      · split
        · simpa [Feedback.charge] using single _ _ _
        · simp
      · split
        · simpa [Feedback.charge] using single _ _ _
        · simp
      · simp
    · simp

theorem due_le (past : List (Visit ν)) (client endpoint : String) : (due past client endpoint).requests ≤ past.length := by
  induction past using List.reverseRecOn with
  | nil => exact Nat.zero_le _
  | append_singleton past v ih =>
    have last := due_visit_le v client endpoint
    rw [due_snoc, Pi.add_apply, Pi.add_apply, Counts.requests_add, List.length_append]
    exact Nat.add_le_add ih last

theorem accounts_run (telling : w.Telling) (before : w.Accounts 0) (moves : List Move)
    (alone : ∀ v ∈ w.visits moves, v.move.isOwn = true ∧ v.move.isRecord = false) (few : (w.visits moves).length ≤ wordMax) :
    (w.run moves).Accounts (due (w.visits moves)) := by
  have both := run_keeps (I := fun past u => u.Telling ∧ (past.length ≤ wordMax → u.Accounts (due past)))
    ⟨telling, fun _ => before⟩ ?_ moves alone
  · exact both.2 few
  · rintro past u m ⟨telling, before⟩ ⟨own, direct⟩
    refine ⟨telling.step ?_, fun few => ?_⟩
    · intro b stores
      cases m with
      | call => cases own
      | _ => cases stores
    · rw [List.length_append] at few
      have fewer : past.length ≤ wordMax := by omega
      exact accounts_step own direct telling (fun client endpoint => Nat.le_trans (due_le past client endpoint) fewer) (before fewer)

end World

namespace Admission

def byBucket (a : Admission) : Bool :=
  match a.denial with
  | some (.rateLimited _) => true
  | _ => false

def byBan (a : Admission) : Bool :=
  match a.denial with
  | some (.banned ..) => true
  | _ => false

end Admission

def Request.isBy (client endpoint : String) (r : Request) : Bool := r.client == client && r.endpoint == endpoint

def Feedback.isBy (client endpoint : String) (f : Feedback) : Bool := f.client == client && f.endpoint == endpoint

section
variable (client endpoint : String)

theorem sum_requests (all : List Request) : (all.map Request.charge).sum client endpoint =
    ⟨(all.filter (·.isBy client endpoint)).countP (fun r => !r.critical && !r.answer.byBan) +
        (all.filter (·.isBy client endpoint)).countP (fun r => r.critical && r.answer.byBucket),
      0, (all.filter (·.isBy client endpoint)).countP (·.answer.byBucket)⟩ := by
  induction all with
  | nil => rfl
  | cons r rest ih =>
    rw [List.map_cons, List.sum_cons, Pi.add_apply, Pi.add_apply, ih, List.filter_cons]
    cases own : r.isBy client endpoint with
    | false =>
      have other : ¬(client = r.client ∧ endpoint = r.endpoint) := by
        rintro ⟨rfl, rfl⟩
        simp [Request.isBy] at own
      unfold Request.charge
      cases r.answer.outcome? r.critical <;> ext <;> simp [Totals.entry, other]
    | true =>
      simp only [Request.isBy, Bool.and_eq_true, beq_iff_eq] at own
      obtain ⟨rfl, rfl⟩ := own
      unfold Request.charge Admission.outcome?
      cases denial : r.answer.denial with
      | none =>
        cases critical : r.critical <;> ext <;> simp [Outcome.counts, Admission.byBan, Admission.byBucket, denial, critical]
        omega
      | some d =>
        cases d <;> cases critical : r.critical <;> ext <;>
          simp [Outcome.counts, Admission.byBan, Admission.byBucket, denial, critical] <;> omega

theorem sum_feedback (all : List Feedback) : (all.map Feedback.charge).sum client endpoint =
    ⟨(all.filter (·.isBy client endpoint)).length, (all.filter (·.isBy client endpoint)).countP (!·.success), 0⟩ := by
  induction all with
  | nil => rfl
  | cons f rest ih =>
    rw [List.map_cons, List.sum_cons, Pi.add_apply, Pi.add_apply, ih, List.filter_cons]
    cases own : f.isBy client endpoint with
    | false =>
      have other : ¬(client = f.client ∧ endpoint = f.endpoint) := by
        rintro ⟨rfl, rfl⟩
        simp [Feedback.isBy] at own
      ext <;> simp [Feedback.charge, Totals.entry, other]
    | true =>
      simp only [Feedback.isBy, Bool.and_eq_true, beq_iff_eq] at own
      obtain ⟨rfl, rfl⟩ := own
      cases success : f.success <;> ext <;>
        simp [Feedback.charge, Outcome.ofSuccess, Outcome.counts, success] <;> omega

end

namespace World

variable [Quantity ν] {w : World ν}

-- Only the bucket answers with its reason.
theorem byBucket_iff {v : Visit ν} {r : Request} (member : r ∈ v.requests) :
    r.answer.byBucket = true ↔ r.answer.reason = Admission.limitedReason := by
  have entered : r.answer.allowed = true → r.answer = .admitted := (v.entered_of_mem member).admitted
  unfold Admission.byBucket Admission.denial
  cases allowed : r.answer.allowed with
  | true =>
    rw [entered allowed]
    simp [Admission.admitted, Admission.okReason, Admission.limitedReason]
  | false =>
    by_cases limited : r.answer.reason = Admission.limitedReason
    · simp [limited]
    · simp [limited]

-- One gate that has the store to itself, and of whose writes none was lost; other calls may fail, and the clock may jump.
theorem requests_accounted {b : Blueprint} {start : Nat} {backend : Backend} {sink : Sink}
    (made : World.build b start backend sink = .ok w) (empty : backend.store = .memory .empty) (moves : List Move)
    (few : moves.length < 2 ^ 64) (alone : ∀ m ∈ moves, m.isOwn = true ∧ m.isRecord = false)
    (lossless : (w.run (moves ++ [.flush])).NoneLost) :
    ∃ m, (w.run (moves ++ [.flush])).backend.store = .memory m ∧
      (∀ client endpoint,
        let admits := (requests (w.visits moves)).filter (·.isBy client endpoint)
        let reports := (feedback (w.visits moves)).filter (·.isBy client endpoint)
        let counted := (Memory.total m.windows client endpoint 0).add (Memory.total m.archived client endpoint 0)
        counted.requests = admits.countP (fun r => !r.critical && !r.answer.byBan) +
            admits.countP (fun r => r.critical && r.answer.byBucket) + reports.length ∧
          counted.throttled = admits.countP (·.answer.reason = Admission.limitedReason) ∧
          counted.failures = reports.countP (!·.success)) ∧
      (∀ client endpoint start, (m.windows.filter (·.isAt client endpoint start)).length ≤ 1) ∧
      ∀ row ∈ m.windows ++ m.archived, row.failures + row.throttled ≤ row.requests := by
  have fresh := World.built made
  have telling : w.Telling := fresh.telling (by rw [empty]; exact nofun)
  have opened : w.Accounts 0 := by
    refine fun _ => ⟨.empty, 0, by rw [fresh.backend, empty], Memory.books_empty, ?_⟩
    rw [fresh.pending]
    rfl
  have length : (w.visits moves).length = moves.length := by
    rw [← List.length_map (f := Visit.move), map_move_visits]
  have short : (w.visits moves).length ≤ wordMax := by
    unfold wordMax
    omega
  have ran := accounts_run telling opened moves (fun v member => alone v.move (by
    rw [← map_move_visits w moves]
    exact List.mem_map_of_mem member)) short
  have fits : (due (w.visits moves)).Fits := fun client endpoint => Nat.le_trans (due_le _ client endpoint) short
  have flushed : (w.run moves).flush.Accounts (due (w.visits moves)) := (ran.deliverMany fits _).kept rfl rfl
  rw [run_snoc] at lossless ⊢
  obtain ⟨m, booked, tables, books, sum⟩ := flushed lossless
  rw [pending_flush] at sum
  change booked + 0 = _ at sum
  rw [add_zero] at sum
  refine ⟨m, tables, fun client endpoint => ?_, books.once, books.honest⟩
  have counted : (Memory.total m.windows client endpoint 0).add (Memory.total m.archived client endpoint 0) =
      due (w.visits moves) client endpoint := by
    rw [Memory.total_booked, Memory.total_booked, ← sum, ← books.sum, Memory.booked_append]
    rfl
  have named : ((requests (w.visits moves)).filter (·.isBy client endpoint)).countP (·.answer.byBucket) =
      ((requests (w.visits moves)).filter (·.isBy client endpoint)).countP (·.answer.reason = Admission.limitedReason) := by
    apply List.countP_congr
    intro r member
    obtain ⟨v, _, asked⟩ := List.mem_flatMap.1 (List.mem_filter.1 member).1
    simpa using byBucket_iff asked
  dsimp only
  rw [counted, due, Pi.add_apply, Pi.add_apply, sum_requests, sum_feedback, ← named]
  refine ⟨rfl, rfl, ?_⟩
  simp

-- A bucket runs empty, a login fails, a ban denies, and a week later the windows go to the archive.
def busyWeek : List Move :=
  List.replicate 21 (.command (.enter "d" "list" false) []) ++
    [.command (.enter "c" "login" true) [], .command (.login "c" "login" "root" false (some "bad password")) [],
      .command (.outcome "c" "login" true) [], .command (.ban "e" "abuse" (.ofSecs 100) 0 "admin") [],
      .command (.enter "e" "list" false) [], .command (.refused "e" "root" (.banned (.ofSecs 100) "abuse")) [],
      .command (.clock 700000000) [], .command (.maintain false) [2], .command (.enter "d" "list" false) []]

theorem busyWeek_accounted : ∃ m, (strict.run (busyWeek ++ [.flush])).backend.store = .memory m ∧
    (Memory.total m.windows "d" "list" 0).add (Memory.total m.archived "d" "list" 0) = ⟨22, 0, 1⟩ ∧
    (Memory.total m.windows "c" "login" 0).add (Memory.total m.archived "c" "login" 0) = ⟨2, 1, 0⟩ ∧
    (Memory.total m.windows "e" "list" 0).add (Memory.total m.archived "e" "list" 0) = .zero := by
  obtain ⟨m, tables, each, _⟩ := requests_accounted build_strict rfl busyWeek (by decide) (by decide) (by decide +kernel)
  have told (client endpoint : String) : (Memory.total m.windows client endpoint 0).add (Memory.total m.archived client endpoint 0) =
      ⟨((requests (strict.visits busyWeek)).filter (·.isBy client endpoint)).countP (fun r => !r.critical && !r.answer.byBan) +
          ((requests (strict.visits busyWeek)).filter (·.isBy client endpoint)).countP (fun r => r.critical && r.answer.byBucket) +
          ((feedback (strict.visits busyWeek)).filter (·.isBy client endpoint)).length,
        ((feedback (strict.visits busyWeek)).filter (·.isBy client endpoint)).countP (!·.success),
        ((requests (strict.visits busyWeek)).filter (·.isBy client endpoint)).countP (·.answer.reason = Admission.limitedReason)⟩ := by
    obtain ⟨requests, throttled, failures⟩ := each client endpoint
    exact Counts.ext requests failures throttled
  refine ⟨m, tables, ?_, ?_, ?_⟩
  · rw [told]
    decide +kernel
  · rw [told]
    decide +kernel
  · rw [told]
    decide +kernel

end World

end Turnstile
