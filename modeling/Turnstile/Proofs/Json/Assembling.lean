import Turnstile.Json.Tree
namespace Turnstile.Json

-- What holds of an array holds first of its items, and of an object first of what its members hold.
theorem Tree.induction {P : Tree → Prop} (null : P .null) (bool : ∀ b, P (.bool b)) (numeral : ∀ n, P (.numeral n))
    (text : ∀ s, P (.text s)) (array : ∀ items, (∀ item ∈ items, P item) → P (.array items))
    (object : ∀ members : List Member, (∀ m ∈ members, P m.2) → P (.object members)) (t : Tree) : P t := by
  refine Tree.rec (motive_1 := P) (motive_2 := fun items => ∀ item ∈ items, P item)
    (motive_3 := fun members => ∀ m ∈ members, P m.2) (motive_4 := fun m => P m.2)
    null bool numeral text array object ?_ ?_ ?_ ?_ ?_ t
  · simp
  · intro item rest first later other member
    rcases List.mem_cons.1 member with rfl | member
    · exact first
    · exact later other member
  · simp
  · intro m rest first later other member
    rcases List.mem_cons.1 member with rfl | member
    · exact first
    · exact later other member
  · exact fun _ _ value => value

mutual

def Tree.tokens : Tree → List Token
  | .null => [.null]
  | .bool b => [.bool b]
  | .numeral n => [.numeral n]
  | .text s => [.text s]
  | .array items => .openBracket :: itemTokens items
  | .object members => .openBrace :: memberTokens members

def itemTokens : List Tree → List Token
  | [] => [.closeBracket]
  | [item] => item.tokens ++ [.closeBracket]
  | item :: next :: rest => item.tokens ++ .comma :: itemTokens (next :: rest)

def memberTokens : List (Option String × Tree) → List Token
  | [] => [.closeBrace]
  | [(key, value)] => .text key :: .colon :: (value.tokens ++ [.closeBrace])
  | (key, value) :: next :: rest => .text key :: .colon :: (value.tokens ++ .comma :: memberTokens (next :: rest))

end

namespace Assembler

-- The tokens of a value put it where a value is expected, whatever is open around it.
def Assembles (t : Tree) : Prop := ∀ stack, t.tokens.foldlM step ⟨stack, .value⟩ = some (place stack t)

theorem run_items {stack : List Frame} (done : List Tree) (item : Tree) (rest : List Tree) (reads : ∀ t ∈ item :: rest, Assembles t) :
    (itemTokens (item :: rest)).foldlM step ⟨.array done :: stack, .value⟩ =
      some (place stack (.array (done.reverse ++ item :: rest))) := by
  induction rest generalizing done item with
  | nil =>
    rw [itemTokens, List.foldlM_append, reads item (by simp)]
    simp [place, step]
  | cons next rest ih =>
    rw [itemTokens, List.foldlM_append, reads item (by simp)]
    have later := ih (item :: done) next (fun t member => reads t (by simp_all))
    simpa [place, step] using later

theorem run_members {stack : List Frame} (done : List Member) (m : Member) (rest : List Member)
    (reads : ∀ other ∈ m :: rest, Assembles other.2) :
    (memberTokens (m :: rest)).foldlM step ⟨stack, .key done⟩ =
      some (place stack (.object (done.reverse ++ m :: rest))) := by
  induction rest generalizing done m with
  | nil =>
    obtain ⟨key, value⟩ := m
    have first := reads (key, value) (by simp) (.object done key :: stack)
    simp [memberTokens, step, first, place]
  | cons next rest ih =>
    obtain ⟨key, value⟩ := m
    have first := reads (key, value) (by simp) (.object done key :: stack)
    have later := ih ((key, value) :: done) next (fun other member => reads other (by simp_all))
    simpa [memberTokens, step, first, place] using later

-- The first item or member is read like those after it. Only an empty container ends at once.
theorem run_first_item (stack : List Frame) (item : Tree) (rest : List Tree) :
    (itemTokens (item :: rest)).foldlM step ⟨stack, .firstValue⟩ = (itemTokens (item :: rest)).foldlM step ⟨stack, .value⟩ := by
  cases rest <;> cases item <;> rfl

theorem run_first_member (stack : List Frame) (m : Member) (rest : List Member) :
    (memberTokens (m :: rest)).foldlM step ⟨stack, .firstKey⟩ = (memberTokens (m :: rest)).foldlM step ⟨stack, .key []⟩ := by
  obtain ⟨key, value⟩ := m
  cases rest <;> rfl

theorem assembles (t : Tree) : Assembles t := by
  induction t using Tree.induction with
  | null | bool b | numeral n | text s => intro stack; rfl
  | array items ih =>
    intro stack
    cases items with
    | nil => rfl
    | cons item rest =>
      show (itemTokens (item :: rest)).foldlM step ⟨.array [] :: stack, .firstValue⟩ = _
      rw [run_first_item, run_items [] item rest ih]
      rfl
  | object members ih =>
    intro stack
    cases members with
    | nil => rfl
    | cons m rest =>
      show (memberTokens (m :: rest)).foldlM step ⟨stack, .firstKey⟩ = _
      rw [run_first_member, run_members [] m rest ih]
      rfl

end Assembler

theorem treeOfTokens?_tokens (t : Tree) : treeOfTokens? t.tokens = some t := by
  unfold treeOfTokens? Assembler.start
  rw [Assembler.assembles t []]
  rfl

end Turnstile.Json
