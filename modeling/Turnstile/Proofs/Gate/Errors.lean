import Turnstile.Proofs.Policy
import Turnstile.Proofs.World.Requests
namespace Turnstile

variable {ν α : Type}

def Reply.error? : Reply → Option GateError
  | .admission (.error e) | .served (.error (.gate e)) | .reported (.error e) | .banned (.error e)
  | .unbanned (.error e) => some e
  | _ => none

def Command.WellFormed : Command → Prop
  | .enter client .. | .login client .. | .refused client .. | .outcome client .. | .unban client ..
  | .release client .. => Client.Valid client
  -- A service that takes no requests does not ask the gate.
  | .serve client _ _ inner => inner = .notReady ∨ Client.Valid client
  | .ban client reason length .. => Client.Valid client ∧ length.nanos ≠ 0 ∧ ¬Admission.Reserved reason
  | .reconfigure config => config.Valid
  | _ => True

-- There is an error exactly if not everything was proper, and an error leaves all as it was.
def Clean (proper : Prop) (error : Option GateError) (before after : α) : Prop :=
  (error = none ↔ proper) ∧ (error ≠ none → after = before)

theorem clean_ok {proper : Prop} (good : proper) (before after : α) : Clean proper none before after :=
  ⟨iff_of_true rfl good, fun some => absurd rfl some⟩

theorem clean_error {proper : Prop} (bad : ¬proper) (e : GateError) (before : α) : Clean proper (some e) before before :=
  ⟨iff_of_false nofun bad, fun _ => rfl⟩

theorem Client.not_valid {client : String} {fault : ClientFault} (faulty : Client.fault? client = some fault) :
    ¬Client.Valid client := fun valid => by cases valid.symm.trans faulty

namespace Gate

theorem forClient_clean (g : Gate ν) (client : String) (f : Gate ν → Gate ν) :
    Clean (Client.Valid client) (Reply.reported (g.forClient client f).1).error? g (g.forClient client f).2 := by
  unfold forClient
  cases sound : Client.fault? client with
  | some fault => exact clean_error (Client.not_valid sound) _ g
  | none => exact clean_ok sound g _

theorem ban_clean (g : Gate ν) (client reason : String) (d : Duration) (failures : Nat) (actor : String) :
    Clean (Client.Valid client ∧ d.nanos ≠ 0 ∧ ¬Admission.Reserved reason)
      (Reply.banned (g.ban client reason d failures actor).1).error? g (g.ban client reason d failures actor).2 := by
  have cases := g.ban_cases client reason d failures actor
  generalize g.ban client reason d failures actor = result at cases
  cases cases with
  | refused faulty =>
    refine clean_error (fun proper => ?_) _ g
    cases (banFault?_eq_none.2 proper).symm.trans faulty
  | made sound event => exact clean_ok (banFault?_eq_none.1 sound) g _

theorem unban_clean (g : Gate ν) (client actor : String) (note : Option String) :
    Clean (Client.Valid client) (Reply.unbanned (g.unban client actor note).1).error? g (g.unban client actor note).2 := by
  unfold unban
  cases sound : Client.fault? client with
  | some fault => exact clean_error (Client.not_valid sound) _ g
  | none =>
    cases g.bans.unban g.now client with
    | mk before bans => cases before <;> exact clean_ok sound g _

theorem release_clean (g : Gate ν) (client actor reason : String) :
    Clean (Client.Valid client) (Reply.reported (g.release client actor reason).1).error? g
      (g.release client actor reason).2 := by
  have clean := g.unban_clean client actor (some reason)
  unfold release
  generalize g.unban client actor (some reason) = result at clean
  obtain ⟨answer, after⟩ := result
  cases answer <;> exact clean

variable [Quantity ν]

def inForce (g : Gate ν) (c : Config) : Gate ν :=
  { g with
    limiter := { g.limiter with rate := Quantity.ofDouble c.rate, burst := Quantity.ofNat c.burst }
    policy := ⟨[⟨c.loginMaxAttempts, c.banDuration⟩], c.loginWindow, Policy.loginReason⟩
    config := c }

theorem reconfigure_valid (g : Gate ν) {c : Config} (valid : c.Valid) : g.reconfigure c = (.ok (), g.inForce c) := by
  rw [reconfigure_eq, (Config.fault?_eq_none_iff c).2 valid, Policy.ofConfig_valid valid]
  rfl

theorem reconfigure_fault (g : Gate ν) {c : Config} {fault : ConfigError} (faulty : c.fault? = some fault) :
    g.reconfigure c = (.error (.config fault), g) := by
  rw [reconfigure_eq, faulty]

theorem reconfigure_clean (g : Gate ν) (c : Config) :
    Clean c.Valid (Reply.reported (g.reconfigure c).1).error? g (g.reconfigure c).2 := by
  cases faulty : c.fault? with
  | some fault =>
    rw [g.reconfigure_fault faulty]
    refine clean_error (fun valid => ?_) _ g
    cases ((Config.fault?_eq_none_iff c).2 valid).symm.trans faulty
  | none =>
    have valid := (Config.fault?_eq_none_iff c).1 faulty
    rw [g.reconfigure_valid valid]
    exact clean_ok valid g _

end Gate

namespace World

variable [Quantity ν] {w u : World ν}

theorem Entered.clean {client endpoint : String} {critical : Bool} {answer : Except GateError Admission}
    (entered : Entered w client endpoint critical (answer, u)) :
    Clean (Client.Valid client) (Reply.admission answer).error? w u := by
  generalize result : (answer, u) = r at entered
  cases entered with
  | unsound faulty =>
    cases result
    exact clean_error (Client.not_valid faulty) _ w
  | answered sound screened =>
    cases result
    exact clean_ok sound w _
  | judged sound screened waited read =>
    cases result
    exact clean_ok sound w _

theorem error_served (inner : Gate.Inner) (endpoint : String) (answer : Except GateError Admission) :
    (Reply.served (Gate.served inner endpoint answer)).error? = (Reply.admission answer).error? := by
  cases answer with
  | error e => rfl
  | ok a =>
    simp only [Gate.served]
    split
    · split <;> rfl
    · rfl

theorem step_serve_clean (client endpoint : String) (critical : Bool) (inner : Gate.Inner) (meanwhile : List Nat)
    (w : World ν) : Clean (inner = .notReady ∨ Client.Valid client)
      (w.step (.command (.serve client endpoint critical inner) meanwhile)).1.error? w
      (w.step (.command (.serve client endpoint critical inner) meanwhile)).2 := by
  have mapped := perform_map Reply.served (Gate.serve client endpoint critical inner) meanwhile w
  change w.step (.command (.serve client endpoint critical inner) meanwhile) = _ at mapped
  rw [mapped]
  by_cases ready : inner = .notReady
  · unfold Gate.serve
    rw [if_pos ready]
    exact clean_ok (.inl ready) w _
  · obtain ⟨told, kept⟩ := (enter_cases client endpoint critical meanwhile w).clean
    rw [perform_served ready]
    refine ⟨?_, ?_⟩
    · rw [error_served, told]
      exact ⟨.inr, fun proper => proper.resolve_left ready⟩
    · rw [error_served]
      exact kept

theorem step_clean (c : Command) (meanwhile : List Nat) (w : World ν) :
    Clean c.WellFormed (w.step (.command c meanwhile)).1.error? w (w.step (.command c meanwhile)).2 := by
  have whole {proper : Prop} {error : Option GateError} {g : Gate ν} (clean : Clean proper error w.gate g) :
      Clean proper error w { w with gate := g } := ⟨clean.1, fun failed => by rw [clean.2 failed]⟩
  cases c with
  | enter client endpoint critical =>
    obtain ⟨answer, replied, entered⟩ := step_enter client endpoint critical meanwhile w
    rw [replied]
    exact entered.clean
  | serve client endpoint critical inner => exact step_serve_clean client endpoint critical inner meanwhile w
  | login client endpoint username success why => exact whole (w.gate.forClient_clean client _)
  | refused client username admission => exact whole (w.gate.forClient_clean client _)
  | outcome client endpoint success => exact whole (w.gate.forClient_clean client _)
  | ban client reason length failures actor => exact whole (w.gate.ban_clean client reason length failures actor)
  | unban client actor note => exact whole (w.gate.unban_clean client actor note)
  | release client actor reason => exact whole (w.gate.release_clean client actor reason)
  | reconfigure config => exact whole (w.gate.reconfigure_clean config)
  | restore =>
    have mapped := perform_map Reply.restored Gate.restore meanwhile w
    change w.step (.command .restore meanwhile) = _ at mapped
    rw [mapped]
    exact clean_ok trivial w _
  | maintain force =>
    have mapped := perform_map Reply.report (Gate.maintain force) meanwhile w
    change w.step (.command (.maintain force) meanwhile) = _ at mapped
    rw [mapped]
    exact clean_ok trivial w _
  | counts client endpoint since =>
    have mapped := perform_map Reply.counted (w.gate.tally.readings client endpoint since) meanwhile w
    change w.step (.command (.counts client endpoint since) meanwhile) = _ at mapped
    rw [mapped]
    exact clean_ok trivial w _
  | expire | prune | acquire | record | append | clock => exact clean_ok trivial w _

-- A command has an error exactly if something that it names is out of range, and then all is as it was. A configuration is
-- refused for its own first fault and for nothing else: without one, the policy can be made and the second look finds nothing
-- either, and limits, policy and visible configuration are those that it describes.
theorem errors_change_nothing (w : World ν) (meanwhile : List Nat) :
    (∀ c : Command, ((w.step (.command c meanwhile)).1.error? = none ↔ c.WellFormed) ∧
      ((w.step (.command c meanwhile)).1.error? ≠ none → (w.step (.command c meanwhile)).2 = w)) ∧
    ∀ c : Config, (w.step (.command (.reconfigure c) meanwhile)).1.error? = c.fault?.map .config ∧
      (c.fault? = none → Policy.ofConfig c = .ok (w.gate.inForce c).policy ∧
        (∀ live : LiveConfig, live.set c = (none, ⟨c⟩)) ∧
        (w.step (.command (.reconfigure c) meanwhile)).2 = { w with gate := w.gate.inForce c }) := by
  refine ⟨fun c => step_clean c meanwhile w, fun c => ⟨?_, fun faultless => ⟨?_, ?_, ?_⟩⟩⟩
  · change (Reply.reported (w.gate.reconfigure c).1).error? = _
    cases faulty : c.fault? with
    | some fault =>
      rw [w.gate.reconfigure_fault faulty]
      rfl
    | none =>
      rw [w.gate.reconfigure_valid ((Config.fault?_eq_none_iff c).1 faulty)]
      rfl
  · exact Policy.ofConfig_valid ((Config.fault?_eq_none_iff c).1 faultless)
  · intro live
    rw [LiveConfig.set, faultless]
  · change ({ w with gate := (w.gate.reconfigure c).2 } : World ν) = _
    rw [w.gate.reconfigure_valid ((Config.fault?_eq_none_iff c).1 faultless)]

-- A ban may not state that all is well, and a gate without tokens is none; one token and one failure are enough.
theorem strict_unharmed :
    (strict.step (.command (.ban "a" Admission.okReason (.ofSecs 60) 0 "admin") [])).2 = strict ∧
    (strict.step (.command (.reconfigure { Config.standard with burst := 0 }) [])).2 = strict ∧
    (strict.step (.command (.reconfigure { Config.standard with burst := 1, loginMaxAttempts := 1 }) [])).2 =
      { strict with gate := strict.gate.inForce { Config.standard with burst := 1, loginMaxAttempts := 1 } } := by
  obtain ⟨commands, configs⟩ := errors_change_nothing strict []
  have reserved := commands (.ban "a" Admission.okReason (.ofSecs 60) 0 "admin")
  have empty := commands (.reconfigure { Config.standard with burst := 0 })
  have least := (configs { Config.standard with burst := 1, loginMaxAttempts := 1 }).2
  refine ⟨reserved.2 fun none => ?_, empty.2 fun none => ?_, (least ?_).2.2⟩
  · exact (reserved.1.1 none).2.2 (by decide)
  · exact absurd ((empty.1.1 none).2 ("globalBurst", 0) (.head _)) (by decide)
  · exact (Config.fault?_eq_none_iff _).2 ⟨by decide +kernel, by decide +kernel⟩

end World

end Turnstile
