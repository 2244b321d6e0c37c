import Mathlib.Data.List.Sort
import Turnstile.Proofs.World.Chronicle
namespace Turnstile

-- What a listing says of a ban besides the address.
structure Entry where
  reason : String
  failedAttempts : Nat
  bannedAt : Nat
  bannedUntil : Nat
  bannedBy : String
deriving DecidableEq

def Ban.entry (b : Ban) : Entry := ⟨b.reason, b.failedAttempts, b.bannedAt, b.bannedUntil, b.bannedBy⟩

namespace Json.Value

def member? (key : String) : Value → Option Value
  | .object members => members.lookup key
  | _ => none

def textAt? (key : String) (v : Value) : Option String :=
  match v.member? key with
  | some (.text s) => some s
  | _ => none

def natAt? (key : String) (v : Value) : Option Nat :=
  match v.member? key with
  | some (.number (.natural n)) => some n
  | _ => none

end Json.Value

def Entry.read? (v : Json.Value) : Option Entry := do
  return {
    reason := ← v.textAt? "reason"
    failedAttempts := ← v.natAt? "failedAttempts"
    bannedAt := ← v.natAt? "bannedAt"
    bannedUntil := ← v.natAt? "bannedUntil"
    bannedBy := ← v.textAt? "bannedBy" }

theorem Entry.read_summary (b : Ban) : Entry.read? b.summary = some b.entry := rfl

namespace Event

-- One event more. Only bans and releases by hand count.
def apply (t : Table Entry) (e : Event) : Table Entry :=
  if e.action = bannedAction then
    match e.newValues.bind Entry.read? with
    | some entry => t.insert e.entity entry
    | none => t
  else if e.action = unbannedAction then t.erase e.entity
  else t

def replay (events : List Event) : Table Entry := events.foldl apply .empty

-- Who is banned at a reading as far as events tell, by address.
def replayed (now : Nat) (events : List Event) : List (String × Entry) :=
  ((replay events).entries.filter fun entry => now < entry.2.bannedUntil).mergeSort fun a b => decide (a.1 ≤ b.1)

theorem replay_append (events more : List Event) : replay (events ++ more) = more.foldl apply (replay events) := List.foldl_append

theorem apply_banned (t : Table Entry) (previous : Option Ban) (b : Ban) (actor : String) (now : Nat) :
    apply t (.banned previous b actor now) = t.insert b.address b.entry := by
  have own : (Event.banned previous b actor now).action = bannedAction := rfl
  unfold apply
  rw [if_pos own]
  rfl

theorem apply_unbanned (t : Table Entry) (before after : Ban) (actor : String) (note : Option String) (now : Nat) :
    apply t (.unbanned before after actor note now) = t.erase before.address := by
  have other : (Event.unbanned before after actor note now).action ≠ bannedAction := show unbannedAction ≠ bannedAction by decide
  have own : (Event.unbanned before after actor note now).action = unbannedAction := rfl
  unfold apply
  rw [if_neg other, if_pos own]
  rfl

theorem apply_other {t : Table Entry} {e : Event} (unbanned : e.action ≠ unbannedAction) (banned : e.action ≠ bannedAction) :
    apply t e = t := by
  unfold apply
  rw [if_neg banned, if_neg unbanned]

theorem apply_released (t : Table Entry) (rows : List Ban) (now : Nat) :
    (rows.map (Event.autoReleased · now)).foldl apply t = t := by
  induction rows with
  | nil => rfl
  | cons b rest ih =>
    have unbanned : (Event.autoReleased b now).action ≠ unbannedAction := show autoReleasedAction ≠ unbannedAction by decide
    have banned : (Event.autoReleased b now).action ≠ bannedAction := show autoReleasedAction ≠ bannedAction by decide
    rw [List.map_cons, List.foldl_cons, apply_other unbanned banned]
    exact ih

theorem mem_replayed {now : Nat} {events : List Event} {client : String} {entry : Entry} :
    (client, entry) ∈ replayed now events ↔ (replay events).get? client = some entry ∧ now < entry.bannedUntil := by
  unfold replayed
  rw [List.mem_mergeSort, List.mem_filter, Table.mem_entries_iff, decide_eq_true_iff]

theorem replayed_ascending (now : Nat) (events : List Event) : (replayed now events).Pairwise (·.1 < ·.1) := by
  have sorted : (replayed now events).Pairwise (·.1 ≤ ·.1) := by
    refine (List.pairwise_mergeSort (fun a b c first rest => ?_) (fun a b => ?_) _).imp fun before => of_decide_eq_true before
    · exact decide_eq_true (String.le_trans (of_decide_eq_true first) (of_decide_eq_true rest))
    · rw [Bool.or_eq_true]
      exact (String.le_total a.1 b.1).imp decide_eq_true decide_eq_true
  have distinct : (replayed now events).Pairwise (·.1 ≠ ·.1) := by
    have kept := (List.pairwise_map.1 (replay events).nodup).sublist
      (List.filter_sublist (p := fun entry => now < entry.2.bannedUntil))
    exact (List.mergeSort_perm ..).symm.pairwise kept fun other => other.symm
  exact (sorted.and distinct).imp fun ⟨before, other⟩ => Std.lt_of_le_of_ne before other

end Event

namespace Chronicle

variable {s t : Chronicle} {sweeping : Prop}

def Live (s : Chronicle) : Prop := ∀ client b, s.active client = some b → b.address = client ∧ s.now < b.bannedUntil

-- Events tell of each address what is known of it.
def Replays (s : Chronicle) : Prop :=
  ∀ client, ((Event.replay s.events).get? client).filter (s.now < ·.bannedUntil) = (s.active client).map Ban.entry

theorem Live.address_made (live : s.Live) (client reason actor : String) (d : Duration) (failures : Nat) :
    (s.made client reason actor d failures).address = client :=
  Registry.address_banned (fun b active => (live client b active).1) ..

theorem now_lt_made (s : Chronicle) (client reason actor : String) (d : Duration) (failures : Nat) :
    s.now < (s.made client reason actor d failures).bannedUntil := by
  have later := Registry.lt_deadline s.now d
  unfold made Registry.banned
  cases active : s.active client with
  | none => exact later
  | some b =>
    show s.now < (Registry.extend b (Registry.deadline s.now d) reason failures).bannedUntil
    rw [Registry.bannedUntil_extend]
    exact Nat.lt_of_lt_of_le later (Nat.le_max_right ..)

theorem Replays.ban (replays : s.Replays) (live : s.Live) (client reason actor : String) (d : Duration) (failures : Nat) :
    (s.ban client reason actor d failures).Replays := by
  intro other
  show ((Event.replay (s.events ++ _)).get? other).filter _ = _
  rw [Event.replay_append, List.foldl_cons, List.foldl_nil, Event.apply_banned, live.address_made, Table.get?_insert]
  show _ = (Function.update s.active client _ other).map _
  rw [Function.update_apply]
  split
  · exact Option.filter_some_pos (decide_eq_true (now_lt_made s client reason actor d failures))
  · exact replays other

theorem Replays.note (replays : s.Replays) {e : Event} (unbanned : e.action ≠ Event.unbannedAction)
    (banned : e.action ≠ Event.bannedAction) : (s.note e).Replays := by
  intro client
  show ((Event.replay (s.events ++ _)).get? client).filter _ = _
  rw [Event.replay_append, List.foldl_cons, List.foldl_nil, Event.apply_other unbanned banned]
  exact replays client

theorem Replays.oneMove (replays : s.Replays) (live : s.Live) (turn : OneMove sweeping s t) : t.Replays := by
  cases turn with
  | drifted drifts =>
    clear live
    induction drifts with
    | refl => exact replays
    | tail _ drift ih =>
      cases drift with
      | still => exact ih
      | released =>
        intro client
        show ((Event.replay (_ ++ _)).get? client).filter _ = _
        rw [Event.replay_append, Event.apply_released]
        exact ih client
      | purged => exact ih
  | @passed reading forward =>
    intro client
    show ((Event.replay s.events).get? client).filter (reading < ·.bannedUntil) = ((s.active client).filter _).map _
    have before := congrArg (Option.filter (reading < ·.bannedUntil)) (replays client)
    have narrowed : (fun entry : Entry => decide (s.now < entry.bannedUntil) && decide (reading < entry.bannedUntil)) =
        fun entry => decide (reading < entry.bannedUntil) := by
      funext entry
      rw [Bool.eq_iff_iff]
      simp only [Bool.and_eq_true, decide_eq_true_eq]
      omega
    rw [Option.filter_filter, narrowed] at before
    rw [before]
    cases s.active client with
    | none => rfl
    | some b =>
      show (if decide (reading < b.bannedUntil) then some b.entry else none) =
        (if decide (reading < b.bannedUntil) then some b else none).map _
      split <;> rfl
  | banned client reason actor d failures => exact replays.ban live client reason actor d failures
  | @unbanned client actor note before active =>
    intro other
    show ((Event.replay (s.events ++ _)).get? other).filter _ = (Function.update s.active client none other).map _
    rw [Event.replay_append, List.foldl_cons, List.foldl_nil, Event.apply_unbanned, (live client before active).1, Table.get?_erase,
      Function.update_apply]
    split
    · rfl
    · exact replays other
  | @denied client endpoint reason actor d failures free =>
    exact (replays.ban live client reason actor d failures).note (show Event.deniedAction ≠ Event.unbannedAction by decide)
      (show Event.deniedAction ≠ Event.bannedAction by decide)

-- A ban is reported with the one that it extends, if there is one, and as it is from then on.
theorem Live.reported (live : s.Live) (client reason actor : String) (d : Duration) (failures : Nat) {e : Event}
    (banned : e = .banned (s.active client) (s.made client reason actor d failures) actor s.now) :
    e.oldValues = (s.active e.entity).map Ban.summary ∧
      e.newValues = ((s.ban client reason actor d failures).active e.entity).map Ban.summary := by
  have own : e.entity = client := by
    rw [banned]
    exact live.address_made client reason actor d failures
  have active : (s.ban client reason actor d failures).active client = some (s.made client reason actor d failures) :=
    Function.update_self ..
  rw [own, active, banned]
  exact ⟨rfl, rfl⟩

theorem Drifts.told (drifts : Drifts sweeping s t) :
    ∃ told, t.events = s.events ++ told ∧ ∀ e ∈ told, e.action = Event.autoReleasedAction := by
  induction drifts with
  | refl => exact ⟨[], (List.append_nil _).symm, nofun⟩
  | tail _ drift ih =>
    obtain ⟨told, listed, quiet⟩ := ih
    cases drift with
    | still => exact ⟨told, listed, quiet⟩
    | purged => exact ⟨told, listed, quiet⟩
    | released =>
      refine ⟨_, (congrArg (· ++ _) listed).trans (List.append_assoc ..), fun e member => ?_⟩
      rcases List.mem_append.1 member with old | new
      · exact quiet e old
      · obtain ⟨b, _, rfl⟩ := List.mem_map.1 new
        rfl

theorem OneMove.told (turn : OneMove sweeping s t) (live : s.Live) : ∃ told, t.events = s.events ++ told ∧
    ∀ e ∈ told, e.action = Event.bannedAction →
      e.oldValues = (s.active e.entity).map Ban.summary ∧ e.newValues = (t.active e.entity).map Ban.summary := by
  cases turn with
  | drifted drifts =>
    obtain ⟨told, listed, quiet⟩ := drifts.told
    refine ⟨told, listed, fun e member action => ?_⟩
    exact absurd ((quiet e member).symm.trans action) (by decide)
  | passed => exact ⟨[], (List.append_nil _).symm, nofun⟩
  | banned client reason actor d failures =>
    exact ⟨_, rfl, fun e member _ => live.reported client reason actor d failures (List.mem_singleton.1 member)⟩
  | unbanned =>
    refine ⟨_, rfl, fun e member action => ?_⟩
    rw [List.mem_singleton.1 member] at action
    exact absurd (show Event.unbannedAction = Event.bannedAction from action) (by decide)
  | @denied client endpoint reason actor d failures free =>
    refine ⟨_, List.append_assoc .., fun e member action => ?_⟩
    rcases List.mem_cons.1 member with first | rest
    · exact live.reported client reason actor d failures first
    · rw [List.mem_singleton.1 rest] at action
      exact absurd (show Event.deniedAction = Event.bannedAction from action) (by decide)

end Chronicle

namespace World

variable {ν : Type} [Quantity ν] {w u : World ν}

omit [Quantity ν] in
theorem Logged.live (logged : w.Logged) : w.chronicle.Live := by
  obtain ⟨m, agreement⟩ := logged.agreement
  intro client b active
  obtain ⟨known, ahead⟩ := Option.filter_eq_some_iff.1 active
  exact ⟨agreement.addressed client b known, (b.isActive_iff w.gate.now).1 ahead |>.2⟩

omit [Quantity ν] in
theorem Logged.replayed (logged : w.Logged) (replays : w.chronicle.Replays) :
    Event.replayed w.gate.now w.audited = w.gate.bannedClients.map fun b => (b.address, b.entry) := by
  obtain ⟨m, agreement⟩ := logged.agreement
  have ascending : (w.gate.bannedClients.map fun b => (b.address, b.entry)).Pairwise (·.1 < ·.1) :=
    List.pairwise_map.2 (Registry.list_ascending agreement.addressed w.gate.now)
  refine List.Pairwise.eq_of_mem_iff (Event.replayed_ascending ..) ascending fun (client, entry) => ?_
  have told : (client, entry) ∈ Event.replayed w.gate.now w.audited ↔ (w.gate.activeBan client).map Ban.entry = some entry := by
    rw [Event.mem_replayed, ← show _ = (w.gate.activeBan client).map Ban.entry from replays client, Option.filter_eq_some_iff,
      decide_eq_true_iff]
    rfl
  rw [told, Option.map_eq_some_iff, List.mem_map]
  constructor
  · rintro ⟨b, active, rfl⟩
    have own := (logged.live client b active).1
    exact ⟨b, (Registry.mem_list agreement.addressed).2 (own ▸ active), Prod.ext own rfl⟩
  · rintro ⟨b, listed, same⟩
    obtain ⟨rfl, rfl⟩ := Prod.mk.inj same
    exact ⟨b, (Registry.mem_list agreement.addressed).1 listed, rfl⟩

theorem Logged.told {v : Visit ν} (logged : v.world.Logged) (recorded : v.Recorded) {e : Event} (reported : e ∈ v.told)
    (banned : e.action = Event.bannedAction) :
    e.oldValues = (v.world.gate.activeBan e.entity).map Ban.summary ∧
      e.newValues = (v.after.gate.activeBan e.entity).map Ban.summary := by
  obtain ⟨told, listed, values⟩ := (logged.step recorded).2.told logged.live
  have same : v.told = told := (congrArg (List.drop _) listed).trans List.drop_left
  exact values e (same ▸ reported) banned

theorem replays_run (logged : w.Logged) (replays : w.chronicle.Replays) (moves : List Move)
    (recorded : ∀ v ∈ w.visits moves, v.Recorded) :
    (w.run moves).Logged ∧ (w.run moves).chronicle.Replays :=
  run_keeps (I := fun _ u => u.Logged ∧ u.chronicle.Replays) ⟨logged, replays⟩
    (fun _ u m ⟨before, told⟩ allowed =>
      have step := before.step (v := ⟨u, m⟩) allowed
      ⟨step.1, told.oneMove before.live step.2⟩) moves recorded

-- As long as nothing fails and nothing is dropped, what the sink holds replays to the list of bans, and each report of a ban holds
-- the ban that it extends, exactly if there is one, and the ban as it is from then on.
theorem audit_replays {b : Blueprint} {start : Nat} (built : World.build b start .memory (.ofMedium (.memory [])) = .ok w)
    (moves : List Move) (recorded : ∀ v ∈ w.visits moves, v.Recorded) (reached : w.run moves = u)
    (handed : u.gate.trail.pending = []) :
    Event.replayed u.gate.now u.sink.events = u.gate.bannedClients.map (fun b => (b.address, b.entry)) ∧
      u.sink.events = (w.visits moves).flatMap Visit.told ∧
      ∀ v ∈ w.visits moves, ∀ e ∈ v.told, e.action = Event.bannedAction →
        e.oldValues = (v.world.gate.activeBan e.entity).map Ban.summary ∧
          e.newValues = (v.after.gate.activeBan e.entity).map Ban.summary := by
  subst reached
  obtain ⟨logged, fresh⟩ := logged_built built
  have none : w.audited = [] := congrArg Chronicle.events fresh
  have replays : w.chronicle.Replays := by
    rw [fresh]
    exact fun client => rfl
  obtain ⟨still, told⟩ := replays_run logged replays moves recorded
  have all : (w.run moves).audited = (w.run moves).sink.events := by
    unfold World.audited
    rw [handed, List.append_nil]
  refine ⟨all ▸ still.replayed told, ?_, fun v member e reported banned => ?_⟩
  · rw [← all, (audited_run logged moves recorded).2, none, List.nil_append]
  · exact (logged_visits logged moves recorded v member).told (recorded v member) reported banned

-- One ban runs out and is followed by another, and a second one is extended and then released by hand.
def banHistory : List Move :=
  [.command (.ban "a" "manual" (.ofSecs 1) 0 "admin") [], .flush, .command (.ban "b" "manual" (.ofSecs 100) 0 "admin") [], .flush,
    .command (.clock 2000) [], .command (.ban "a" "again" (.ofSecs 5) 0 "admin") [], .flush,
    .command (.ban "b" "abuse" (.ofSecs 300) 2 "admin") [], .flush, .command (.unban "b" "admin" none) [], .flush,
    .command (.maintain true) [], .flush]

theorem history_replays : (recorder.run banHistory).sink.events.length = 5 ∧
    Event.replayed 2000 (recorder.run banHistory).sink.events = [("a", ⟨"again", 0, 2000, 7000, "admin"⟩)] := by
  have listed : (recorder.run banHistory).gate.bannedClients.map (fun b => (b.address, b.entry)) =
      [("a", ⟨"again", 0, 2000, 7000, "admin"⟩)] := by decide +kernel
  have now : (recorder.run banHistory).gate.now = 2000 := by decide +kernel
  have replayed := (audit_replays build_recorder banHistory (by decide +kernel) rfl (by decide +kernel)).1
  rw [now, listed] at replayed
  exact ⟨by decide +kernel, replayed⟩

end World

end Turnstile
