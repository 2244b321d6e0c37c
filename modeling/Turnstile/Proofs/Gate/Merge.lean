import Turnstile.Proofs.Registry.Merge
import Turnstile.Proofs.Store.Columns
import Turnstile.Proofs.World.History
namespace Turnstile.World

variable {ν : Type} {w u : World ν}

theorem deliver_store {I : Store → Prop} (keeps : ∀ (s : Store) (c : Call), I s → I (s.answer c).2) (so : I w.backend.store) :
    I w.deliver.backend.store := by
  have told := deliver_cases w
  generalize w.deliver = after at told
  cases told with
  | idle => exact so
  | @applied first rest a backend queued answered =>
    have kept := keeps _ first.call so
    rwa [answered] at kept
  | lost queued untouched => exact untouched ▸ so

inductive Restored (origin : Gate ν) (u : World ν) : Except StoreError Nat → Prop where
  | failed {e : StoreError} (same : u.gate.bans = origin.bans) : Restored origin u (.error e)
  | merged {rows : List Ban} {n : Nat}
      (listed : u.backend.store.answer (.active origin.now) = (.ok rows, u.backend.store))
      (bans : origin.bans.merge origin.now rows = (n, u.gate.bans)) : Restored origin u (.ok n)

theorem leads_restored (origin : Gate ν) {I : Store → Prop} (keeps : ∀ (s : Store) (c : Call), I s → I (s.answer c).2) :
    Leads (fun u : World ν => u.gate.bans = origin.bans ∧ u.gate.now = origin.now ∧ I u.backend.store) Gate.restore
      fun answer u => u.gate.now = origin.now ∧ I u.backend.store ∧ Restored origin u answer := by
  unfold Gate.restore
  apply Leads.read
  rintro w ⟨-, now, -⟩
  rw [now]
  have asked : Leads (fun u : World ν => u.gate.bans = origin.bans ∧ u.gate.now = origin.now ∧ I u.backend.store)
      (Routine.call (.active origin.now)) fun answer u =>
        (u.gate.bans = origin.bans ∧ u.gate.now = origin.now ∧ I u.backend.store) ∧
          ∀ rows, answer = .ok rows → u.backend.store.answer (.active origin.now) = (.ok rows, u.backend.store) := by
    apply Leads.ask
    · intro u ⟨bans, now, so⟩
      exact ⟨bans, now, Backend.store_arrive u.backend ▸ so⟩
    · intro u ⟨bans, now, so⟩
      rw [gate_deliver]
      exact ⟨bans, now, deliver_store keeps so⟩
    · intro u same
      have looked := Backend.finish_reading (Store.answer_active origin.now) u.backend none
      rw [looked]
      exact ⟨same, fun rows answered => Backend.finish_ok (Prod.ext answered looked)⟩
    · exact fun _ _ same => ⟨same, nofun⟩
  refine asked.bind fun answer => ?_
  cases answer with
  | error e => exact .pure _ fun _ ⟨⟨bans, now, so⟩, _⟩ => ⟨now, so, .failed bans⟩
  | ok rows =>
    refine .bind (.update (Q := fun n u => u.gate.now = origin.now ∧ I u.backend.store ∧ Restored origin u (.ok n)) ?_)
      fun n => .pure _ fun _ merged => merged
    rintro u ⟨⟨bans, now, so⟩, answered⟩
    refine ⟨now, so, .merged (answered rows rfl) ?_⟩
    rw [← bans]
    rfl

variable [Quantity ν]

theorem restored (fits : w.backend.store.Fits) (meanwhile : List Nat) :
    ∃ answer u, w.step (.command .restore meanwhile) = (.restored answer, u) ∧ u.gate.now = w.gate.now ∧
      u.backend.store.Fits ∧ Restored w.gate u answer := by
  refine ⟨_, _, perform_map Reply.restored (Gate.restore : Routine (Gate ν) _) meanwhile w, ?_⟩
  exact leads_restored (I := Store.Fits) w.gate (fun _ c so => so.answer c) meanwhile w ⟨rfl, rfl, fits⟩

-- A reload that fails changes no ban. One that is answered merges the list of active bans, and until the clock or the list changes
-- the next one has nothing to do.
theorem restore_merges (fits : w.backend.store.Fits) (meanwhile : List Nat) :
    ∃ answer u, w.step (.command .restore meanwhile) = (.restored answer, u) ∧ u.gate.now = w.gate.now ∧
      (∀ e, answer = .error e → u.gate.bans = w.gate.bans) ∧
      ∀ n, answer = .ok n → ∃ rows, u.backend.store.answer (.active w.gate.now) = (.ok rows, u.backend.store) ∧
        w.gate.bans.Merged w.gate.now rows n u.gate.bans ∧
        ∀ later m v, u.step (.command .restore later) = (.restored (.ok m), v) →
          v.backend.store.answer (.active v.gate.now) = (.ok rows, v.backend.store) → m = 0 ∧ v.gate.bans = u.gate.bans := by
  obtain ⟨answer, u, step, now, fits', ends⟩ := restored fits meanwhile
  refine ⟨answer, u, step, now, ?_, ?_⟩
  · rintro e rfl
    cases ends with
    | failed same => exact same
  · rintro n rfl
    cases ends with
    | @merged rows _ listed bans =>
      have merged := w.gate.bans.merged (fits'.live listed)
      rw [bans] at merged
      refine ⟨rows, listed, merged, ?_⟩
      intro later m v again same
      obtain ⟨answer, v', step', now', -, ends'⟩ := restored fits' later
      rw [again, Prod.mk.injEq, Reply.restored.injEq] at step'
      obtain ⟨rfl, rfl⟩ := step'
      cases ends' with
      | @merged rows' _ listed' bans' =>
        rw [now'] at same
        cases Except.ok.inj (Prod.mk.inj (listed'.symm.trans same)).1
        rw [now, merged.again, Prod.mk.injEq] at bans'
        exact ⟨bans'.1.symm, bans'.2.symm⟩

def succession : List Move :=
  [.command (.ban "c" "abuse" (.ofSecs 100) 0 "admin") [], .command (.ban "d" "abuse" (.ofSecs 100) 0 "admin") [], .flush,
    .restart ⟨.standard, some .strict, none⟩, .command (.ban "c" "spam" (.ofSecs 10) 0 "admin") []]

-- One ban is added and one extended, and the same reload then finds nothing to do.
theorem succession_merges : (strict.run succession).backend.store.Fits ∧
    ∃ u v rows, (strict.run succession).step (.command .restore []) = (.restored (.ok 2), u) ∧
      u.step (.command .restore []) = (.restored (.ok 0), v) ∧ v.gate.bans = u.gate.bans ∧
      (strict.run succession).gate.bans.Merged 0 rows 2 u.gate.bans ∧
      ∃ ends, 10000 ≤ ends ∧ u.gate.bans.active.get? "c" = some (Registry.fresh "c" 0 ends "spam" 0 "admin") := by
  have fits : (strict.run succession).backend.store.Fits := by decide +kernel
  obtain ⟨answer, u, step, -, -, merges⟩ := restore_merges fits []
  have answered : ((strict.run succession).step (.command .restore [])).1 = .restored (.ok 2) := by rfl
  rw [step, Reply.restored.injEq] at answered
  obtain ⟨rows, listed, merged, again⟩ := merges 2 answered
  have reached : u = ((strict.run succession).step (.command .restore [])).2 := (congrArg Prod.snd step).symm
  have next : u.step (.command .restore []) = (.restored (.ok 0), (u.step (.command .restore [])).2) := by
    rw [reached]
    rfl
  have same : (u.step (.command .restore [])).2.backend.store.answer (.active (u.step (.command .restore [])).2.gate.now) =
      (.ok rows, (u.step (.command .restore [])).2.backend.store) := by
    rw [reached] at listed ⊢
    exact listed
  refine ⟨fits, u, _, rows, answered ▸ step, next, (again [] 0 _ next same).2, merged, ?_⟩
  exact merged.kept "c" (Registry.fresh "c" 0 10000 "spam" 0 "admin") (by decide +kernel)

end Turnstile.World
