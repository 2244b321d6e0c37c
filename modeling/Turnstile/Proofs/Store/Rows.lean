import Turnstile.Store.Relational
namespace Turnstile

namespace Rows

variable {α : Type}

def updateFirst (test : α → Bool) (update : α → α) (new : α) : List α → List α
  | [] => [new]
  | row :: rest => if test row then update row :: rest else row :: updateFirst test update new rest

def updateAll (test : α → Bool) (update : α → α) (new : α) (rows : List α) : List α :=
  if rows.any test then rows.map fun row => if test row then update row else row else rows ++ [new]

variable {test own : α → Bool} {update : α → α} {new row : α} {rows : List α}

theorem updateAll_cons_of_neg (failed : test row = false) :
    updateAll test update new (row :: rows) = row :: updateAll test update new rows := by
  unfold updateAll
  rw [List.any_cons, failed, Bool.false_or, List.map_cons, failed]
  simp only [Bool.false_eq_true, if_false]
  split <;> rfl

-- Where at most one row passes the test, to update the first is to update all.
theorem updateFirst_eq_updateAll (once : (rows.filter test).length ≤ 1) :
    updateFirst test update new rows = updateAll test update new rows := by
  induction rows with
  | nil => rfl
  | cons row rest ih =>
    unfold updateFirst
    cases tested : test row with
    | true =>
      have none : ∀ other ∈ rest, ¬test other = true := by
        rw [List.filter_cons_of_pos tested, List.length_cons] at once
        exact List.filter_eq_nil_iff.1 (List.length_eq_zero_iff.1 (by omega))
      have kept : (rest.map fun row => if test row then update row else row) = rest := by
        refine (List.map_congr_left ?_).trans (List.map_id _)
        intro other member
        exact if_neg (none other member)
      simp [updateAll, tested, kept]
    | false =>
      rw [List.filter_cons_of_neg (by simp [tested])] at once
      rw [updateAll_cons_of_neg tested, ih once]
      rfl

-- Whatever is looked for stays single, if a new row is found only with what it would have updated.
theorem once_updateAll (single : (rows.filter own).length ≤ 1) (stable : ∀ row, test row = true → own (update row) = own row)
    (fresh : ∀ row, own new = true → own row = true → test row = true) :
    ((updateAll test update new rows).filter own).length ≤ 1 := by
  unfold updateAll
  split
  · have same : (own ∘ fun row => if test row then update row else row) = own := by
      funext row
      simp only [Function.comp_apply]
      split
      · rename_i tested
        exact stable row tested
      · rfl
    rw [List.filter_map, List.length_map, same]
    exact single
  · rename_i missing
    rw [List.filter_append, List.length_append]
    cases found : own new with
    | false => simpa [found] using single
    | true =>
      have none : rows.filter own = [] := by
        rw [List.filter_eq_nil_iff]
        intro row member probed
        exact missing (List.any_eq_true.2 ⟨row, member, fresh row found probed⟩)
      simp [none, found]

-- A change that is the same, as far as own rows go, among own rows alone.
def Local (own : α → Bool) (change : List α → List α) : Prop :=
  ∀ rows, (change rows).filter own = (change (rows.filter own)).filter own

def Foreign (own : α → Bool) (change : List α → List α) : Prop := ∀ rows, (change rows).filter own = rows.filter own

theorem filter_idem (own : α → Bool) (rows : List α) : (rows.filter own).filter own = rows.filter own :=
  List.filter_eq_self.2 fun _ member => (List.mem_filter.1 member).2

theorem local_filter (keep : α → Bool) : Local own (List.filter keep) := by
  intro rows
  rw [List.filter_filter, List.filter_filter, List.filter_filter]
  apply List.filter_congr
  intro row _
  cases own row <;> simp

theorem local_map {f : α → α} (stable : ∀ row, own (f row) = own row) : Local own (List.map f) := by
  intro rows
  have same : own ∘ f = own := funext stable
  rw [List.filter_map, List.filter_map, same, filter_idem]

theorem foreign_map {f : α → α} (stable : ∀ row, own (f row) = own row) (spared : ∀ row, own row = true → f row = row) :
    Foreign own (List.map f) := by
  intro rows
  have same : own ∘ f = own := funext stable
  rw [List.filter_map, same]
  exact (List.map_congr_left fun row member => spared row (List.mem_filter.1 member).2).trans (List.map_id _)

theorem local_updateFirst (tested : ∀ row, test row = true → own row = true) : Local own (updateFirst test update new) := by
  intro rows
  induction rows with
  | nil => rfl
  | cons row rest ih =>
    cases found : test row with
    | true =>
      rw [List.filter_cons_of_pos (tested row found)]
      simp only [updateFirst, found, if_true, List.filter_cons, filter_idem]
    | false =>
      cases mine : own row with
      | true =>
        rw [List.filter_cons_of_pos mine]
        simp only [updateFirst, found, Bool.false_eq_true, if_false, List.filter_cons, mine, if_true, ih]
      | false =>
        rw [List.filter_cons_of_neg (by simp [mine])]
        simp only [updateFirst, found, Bool.false_eq_true, if_false]
        rw [List.filter_cons_of_neg (by simp [mine]), ih]

theorem foreign_updateFirst (away : ∀ row, test row = true → own row = false ∧ own (update row) = false)
    (new_away : own new = false) : Foreign own (updateFirst test update new) := by
  intro rows
  induction rows with
  | nil => simp [updateFirst, new_away]
  | cons row rest ih =>
    unfold updateFirst
    split
    · rename_i found
      obtain ⟨before, after⟩ := away row found
      simp [before, after]
    · rw [List.filter_cons, List.filter_cons, ih]

-- Only own rows pass the test, so that among own rows as many pass it.
theorem any_filter (tested : ∀ row, test row = true → own row = true) (rows : List α) :
    (rows.filter own).any test = rows.any test := by
  rw [List.any_filter]
  congr 1
  funext row
  cases found : test row with
  | true => simp [tested row found]
  | false => simp

theorem local_updateAll (tested : ∀ row, test row = true → own row = true)
    (stable : ∀ row, test row = true → own (update row) = true) : Local own (updateAll test update new) := by
  intro rows
  unfold updateAll
  rw [any_filter tested]
  split
  · apply local_map
    intro row
    split
    · rename_i found
      rw [stable row found, tested row found]
    · rfl
  · rw [List.filter_append, List.filter_append, filter_idem]

theorem foreign_updateAll (away : ∀ row, test row = true → own row = false ∧ own (update row) = false)
    (new_away : own new = false) : Foreign own (updateAll test update new) := by
  intro rows
  unfold updateAll
  split
  · refine foreign_map ?_ ?_ rows
    · intro row
      split
      · rename_i found
        rw [(away row found).1, (away row found).2]
      · rfl
    · intro row mine
      refine if_neg fun found => ?_
      rw [(away row found).1] at mine
      cases mine
  · simp [new_away]

end Rows

namespace Memory

theorem tally_eq (client endpoint : String) (start : Nat) (outcome : Outcome) :
    tally client endpoint start outcome = Rows.updateFirst (·.isAt client endpoint start) (·.count outcome)
      ((WindowRow.fresh client endpoint start).count outcome) := by
  funext rows
  induction rows with
  | nil => rfl
  | cons row rest ih => rw [tally, Rows.updateFirst, ih]

theorem putBan_eq (ban : Ban) : putBan ban = Rows.updateFirst (holds ban.address) (fun _ => ban) ban := by
  funext rows
  induction rows with
  | nil => rfl
  | cons row rest ih => rw [putBan, Rows.updateFirst, ih]

end Memory

namespace Relational

theorem countRow_def (client endpoint : String) (start : Nat) (outcome : Outcome) :
    countRow client endpoint start outcome = Rows.updateAll (·.isAt client endpoint (column start)) (·.count outcome)
      ((WindowRow.fresh client endpoint (column start)).count outcome) := rfl

theorem putRow_def (ban : Ban) :
    putRow ban = Rows.updateAll (Memory.holds ban.address) (fun row => overwrite row ban) (newRow ban) := rfl

end Relational

end Turnstile
