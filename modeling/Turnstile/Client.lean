import Turnstile.Text.Blank
namespace Turnstile

inductive ClientFault where
  | empty
  | tooLong
  | blank
deriving DecidableEq, Repr

def ClientFault.message : ClientFault → String
  | .empty => "empty"
  | .tooLong => "longer than 256 bytes"
  | .blank => "contains whitespace or control characters"

namespace Client

def maxBytes : Nat := 256

-- The first condition that fails is the one reported.
def fault? (id : String) : Option ClientFault :=
  if id.utf8ByteSize = 0 then some .empty
  else if id.utf8ByteSize > maxBytes then some .tooLong
  else if id.toList.any Text.isBlank then some .blank
  else none

def Valid (id : String) : Prop := fault? id = none

instance (id : String) : Decidable (Valid id) := inferInstanceAs (Decidable (_ = _))

theorem valid_iff {id : String} :
    Valid id ↔ id.utf8ByteSize ≠ 0 ∧ id.utf8ByteSize ≤ maxBytes ∧
      ∀ c ∈ id.toList, Text.isBlank c = false := by
  unfold Valid fault?
  split
  · simp [*]
  · split
    · simp only [reduceCtorEq, false_iff]; omega
    · split
      · rename_i bad
        simp only [List.any_eq_true] at bad
        obtain ⟨c, member, blank⟩ := bad
        simp only [reduceCtorEq, false_iff, not_and]
        intro _ _ good
        simp [good c member] at blank
      · rename_i none
        simp only [List.any_eq_true, not_exists, not_and, Bool.not_eq_true] at none
        simp only [true_iff]
        exact ⟨by assumption, by omega, none⟩

end Client

end Turnstile
