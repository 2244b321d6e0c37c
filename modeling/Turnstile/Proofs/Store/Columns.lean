import Turnstile.Proofs.Store.OpenRows
namespace Turnstile

namespace Store

variable {s s' : Store} {c : Call} {now : Nat}

def Fits (s : Store) : Prop := ∀ b ∈ s.bans, s.keeps b.bannedUntil = b.bannedUntil

instance (s : Store) : Decidable s.Fits := inferInstanceAs (Decidable (∀ b ∈ s.bans, _))

theorem fits_memory (m : Memory) : (Store.memory m).Fits := fun _ _ => rfl

theorem column_column (n : Nat) : Relational.column (Relational.column n) = Relational.column n :=
  Nat.min_eq_left (Nat.min_le_right ..)

theorem Fits.putRow {r : Relational} (fits : (Store.relational r).Fits) (b : Ban) :
    (Store.relational { r with bans := Relational.putRow b r.bans }).Fits := by
  intro row member
  rcases Relational.mem_putRow member with old | ⟨old, there, rfl⟩ | rfl
  · exact fits row old
  · exact column_column b.bannedUntil
  · exact column_column b.bannedUntil

theorem Fits.updateRows {r : Relational} (fits : (Store.relational r).Fits) (test : Ban → Bool) (reading : Nat) (actor : String)
    (automatic : Bool) : (Store.relational { r with
      bans := (Relational.updateRows test (Relational.releaseRow reading actor automatic) r.bans).2 }).Fits := by
  intro row member
  obtain ⟨old, there, rfl⟩ := List.mem_map.1 member
  have held := fits old there
  split
  · exact held
  · exact held

theorem Fits.answer (fits : s.Fits) (c : Call) : (s.answer c).2.Fits := by
  cases s with
  | memory m => exact fits_memory _
  | relational r =>
    cases c with
    | upsert b =>
      simp only [Store.answer, Relational.answer]
      split
      · exact fits.putRow b
      · exact fits
    | release address reading actor automatic => exact fits.updateRows _ reading actor automatic
    | releaseExpired now => exact fits.updateRows _ now systemActor true
    | purgeBans cutoff => exact fun row member => fits row (List.mem_filter.1 member).1
    | _ => exact fits

theorem Fits.live (fits : s.Fits) {rows : List Ban} (answered : s.answer (.active now) = (.ok rows, s')) :
    ∀ row ∈ rows, row.isActive now = true := by
  cases s with
  | memory m =>
    have same : m.bans.filter (·.isActive now) = rows := Except.ok.inj (Prod.mk.inj answered).1
    intro row member
    rw [← same] at member
    exact (List.mem_filter.1 member).2
  | relational r =>
    have same : (r.bans.filter (·.isActive (Relational.column now))).mergeSort Ban.byAddress = rows :=
      Except.ok.inj (Prod.mk.inj answered).1
    intro row member
    rw [← same, List.mem_mergeSort, List.mem_filter, Ban.isActive_iff] at member
    obtain ⟨there, unreleased, later⟩ := member
    refine (Ban.isActive_iff _ _).2 ⟨unreleased, ?_⟩
    -- A reading that no column holds lies behind every deadline.
    have held : min row.bannedUntil signedMax = row.bannedUntil := fits row there
    change min now signedMax < row.bannedUntil at later
    omega

end Store

namespace Backend

variable {b : Backend}

theorem finish_fits (fits : b.store.Fits) (c : Call) (limit : Option Duration) : (b.finish c limit).2.store.Fits :=
  finish_keeps (fun _ so => so.answer c) fits limit

theorem call_fits (fits : b.store.Fits) (c : Call) (limit : Option Duration) : (b.call c limit).2.store.Fits :=
  call_keeps (fun _ so => so.answer c) fits limit

end Backend

end Turnstile
