import Turnstile.Json.Record
import Turnstile.Proofs.Json.Values
namespace Turnstile.Json

variable {α : Type} {t : Tree} {read : Tree → Option α} {fields : Fields} {place : Nat} {name : String}

theorem Tree.nat?_tree {n bound : Nat} (fits : n ≤ bound) (word : bound ≤ wordMax) : (Value.nat n).tree.nat? bound = some n := by
  have written := Numeral.number?_ofNat (Nat.le_trans fits word)
  simp [Value.nat, Value.tree, Number.tree, Tree.nat?, Tree.number?, written, Number.natural?, fits]

theorem Tree.le_of_nat? {n bound : Nat} (read : t.nat? bound = some n) : n ≤ bound := by
  obtain ⟨x, -, natural⟩ := Option.bind_eq_some_iff.1 read
  cases x with
  | natural m =>
    obtain ⟨fits, same⟩ := Option.ite_none_right_eq_some.1 natural
    exact Option.some.inj same ▸ fits
  | negSucc m => cases natural
  | double f => cases natural

theorem Tree.nullable?_of_ne_null (solid : t ≠ .null) (read : Tree → Option α) : t.nullable? read = (read t).map some := by
  unfold nullable?
  split
  · contradiction
  · rfl

theorem Tree.nullable?_ofOption {toValue : α → Value} {o : Option α} (back : ∀ a ∈ o, read (toValue a).tree = some a)
    (solid : ∀ a ∈ o, (toValue a).tree ≠ .null) : (Value.ofOption toValue o).tree.nullable? read = some o := by
  cases o with
  | none => rfl
  | some a =>
    show (toValue a).tree.nullable? read = some (some a)
    rw [nullable?_of_ne_null (solid a rfl), back a rfl]
    rfl

theorem Tree.source_of_nullable? {o : Option α} (found : t.nullable? read = some o) :
    ∀ a ∈ o, ∃ t : Tree, t ≠ .null ∧ read t = some a := by
  intro a member
  by_cases null : t = .null
  · subst null
    cases found
    cases member
  · rw [nullable?_of_ne_null null] at found
    obtain ⟨b, source, rfl⟩ := Option.map_eq_some_iff.1 found
    cases member
    exact ⟨t, null, source⟩

theorem Fields.source_of_required {a : α} (found : fields.required place name read = some a) : ∃ t, read t = some a := by
  unfold required at found
  split at found
  · exact ⟨_, found⟩
  · cases found

theorem Fields.source_of_nullable {o : Option α} (found : fields.nullable place name read = some o) :
    ∀ a ∈ o, ∃ t : Tree, t ≠ .null ∧ read t = some a := by
  unfold nullable at found
  split at found
  · exact Tree.source_of_nullable? found
  · cases found
    simp
  · cases found

theorem Fields.source_of_defaulted {names : List String} {o : Option α}
    (found : fields.defaulted place names none (·.nullable? read) = some o) :
    ∀ a ∈ o, ∃ t : Tree, t ≠ .null ∧ read t = some a := by
  unfold defaulted at found
  split at found
  · exact Tree.source_of_nullable? found
  · cases found
    simp
  · cases found

theorem Fields.required_nat_le {n bound : Nat} (found : fields.required place name (·.nat? bound) = some n) : n ≤ bound := by
  obtain ⟨t, source⟩ := source_of_required found
  exact Tree.le_of_nat? source

theorem Value.whole_ofOption {toValue : α → Value} (whole : ∀ a, (toValue a).Whole) (o : Option α) : (ofOption toValue o).Whole := by
  cases o with
  | none => exact .null
  | some a => exact whole a

theorem Value.tree_ne_null {v : Value} (whole : v.Whole) (solid : v ≠ .null) : v.tree ≠ .null := by
  cases whole with
  | null => contradiction
  | bool b | natural n | negSucc n | text s | array _ | object _ => nofun

theorem Value.eq_null_of_ofTree? {depth : Nat} (found : ofTree? depth t = some .null) : t = .null := by
  cases t with
  | null => rfl
  | bool b => cases found
  | numeral n | text s => simp [ofTree?] at found
  | array items | object members => simp [ofTree?] at found

theorem Fields.defaulted_nat_le {names : List String} {default n bound : Nat} (least : default ≤ bound)
    (found : fields.defaulted place names default (·.nat? bound) = some n) : n ≤ bound := by
  unfold defaulted at found
  split at found
  · exact Tree.le_of_nat? found
  · cases found
    exact least
  · cases found

-- Opens a reader step by step, the outermost step first.
theorem bind_eq_some {α β : Type} {first : Option α} {rest : α → Option β} {b : β} :
    (first >>= rest) = some b ↔ ∃ a, first = some a ∧ rest a = some b :=
  Option.bind_eq_some_iff

end Turnstile.Json
