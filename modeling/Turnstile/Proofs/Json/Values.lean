import Turnstile.Proofs.Json.Assembling
import Turnstile.Proofs.Json.Writing
namespace Turnstile.Json

def Number.Fits : Number → Prop
  | .natural n => n ≤ wordMax
  | .negSucc n => n ≤ signedMax
  | .double _ => True

-- The document that a number is written as. Doubles are not asked for.
def Number.tree : Number → Tree
  | .natural n => .numeral (.ofNat false n)
  | .negSucc n => .numeral (.ofNat true (n + 1))
  | .double _ => .null

theorem Numeral.fits_of_number? {n : Numeral} {x : Number} (read : n.number? = some x) : x.Fits := by
  unfold number? at read
  dsimp only at read
  split at read
  · rename_i word
    cases read
    simp only [Bool.and_eq_true, decide_eq_true_eq] at word
    exact word.2
  · split at read
    · rename_i signed
      cases read
      simp only [Bool.and_eq_true, decide_eq_true_eq] at signed
      show _ ≤ signedMax
      omega
    · obtain ⟨f, -, rfl⟩ := Option.map_eq_some_iff.1 read
      trivial

namespace Value

-- What a reader that allows so many containers inside one another can find.
inductive Held : Nat → Value → Prop where
  | null {depth : Nat} : Held depth .null
  | bool {depth : Nat} (b : Bool) : Held depth (.bool b)
  | number {depth : Nat} {n : Number} (fits : n.Fits) : Held depth (.number n)
  | text {depth : Nat} (s : String) : Held depth (.text s)
  | array {depth : Nat} {items : List Value} (held : ∀ v ∈ items, Held depth v) : Held (depth + 1) (.array items)
  | object {depth : Nat} {members : List (String × Value)} (ascending : members.Pairwise (·.1 < ·.1))
      (held : ∀ m ∈ members, Held depth m.2) : Held (depth + 1) (.object members)

-- All numbers in it are integers.
inductive Whole : Value → Prop where
  | null : Whole .null
  | bool (b : Bool) : Whole (.bool b)
  | natural (n : Nat) : Whole (.number (.natural n))
  | negSucc (n : Nat) : Whole (.number (.negSucc n))
  | text (s : String) : Whole (.text s)
  | array {items : List Value} (whole : ∀ v ∈ items, Whole v) : Whole (.array items)
  | object {members : List (String × Value)} (whole : ∀ m ∈ members, Whole m.2) : Whole (.object members)

mutual

def tree : Value → Tree
  | .null => .null
  | .bool b => .bool b
  | .number n => n.tree
  | .text s => .text (some s)
  | .array items => .array (treesOf items)
  | .object members => .object (membersOf members)

def treesOf : List Value → List Tree
  | [] => []
  | v :: rest => v.tree :: treesOf rest

def membersOf : List (String × Value) → List Member
  | [] => []
  | (key, v) :: rest => (some key, v.tree) :: membersOf rest

end

theorem tree_array (items : List Value) : (array items).tree = .array (items.map tree) := by
  have mapped (items : List Value) : treesOf items = items.map tree := by
    induction items with
    | nil => rfl
    | cons v rest ih => rw [treesOf, ih, List.map_cons]
  rw [tree, mapped]

theorem tree_object (members : List (String × Value)) :
    (object members).tree = .object (members.map fun m => (some m.1, m.2.tree)) := by
  have mapped (members : List (String × Value)) : membersOf members = members.map fun m => (some m.1, m.2.tree) := by
    induction members with
    | nil => rfl
    | cons m rest ih => rw [membersOf, ih, List.map_cons]
  rw [tree, mapped]

theorem tokens?_writeItems {items : List Value} (written : ∀ v ∈ items, tokens? v.write = some v.tree.tokens) :
    tokens? (writeItems items) = some (itemTokens (items.map tree)) := by
  induction items with
  | nil => rfl
  | cons v rest ih =>
    have first := written v (by simp)
    cases rest with
    | nil => exact tokens?_closed .closeBracket first
    | cons next rest =>
      have later := tokens?_cut .comma first (ih fun other member => written other (List.mem_cons_of_mem _ member))
      simpa [writeItems, itemTokens] using later

theorem tokens?_writeMembers {members : List (String × Value)} (written : ∀ m ∈ members, tokens? m.2.write = some m.2.tree.tokens) :
    tokens? (writeMembers members) = some (memberTokens (members.map fun m => (some m.1, m.2.tree))) := by
  induction members with
  | nil => rfl
  | cons m rest ih =>
    obtain ⟨key, v⟩ := m
    have first := written (key, v) (by simp)
    cases rest with
    | nil => exact tokens?_cut .colon (tokens?_quote key) (tokens?_closed .closeBrace first)
    | cons next rest =>
      have later := tokens?_cut .comma first (ih fun other member => written other (List.mem_cons_of_mem _ member))
      simpa [writeMembers, memberTokens] using tokens?_cut .colon (tokens?_quote key) later

variable {depth : Nat} {v : Value}

theorem tokens?_write (whole : v.Whole) : tokens? v.write = some v.tree.tokens := by
  induction whole with
  | null => rfl
  | bool b => cases b <;> rfl
  | natural n => exact tokens?_digits n
  | negSucc n => exact tokens?_minus_digits (n + 1)
  | text s => exact tokens?_quote s
  | array _ ih =>
    rw [tree_array]
    exact tokens?_opened .openBracket (tokens?_writeItems ih)
  | object _ ih =>
    rw [tree_object]
    exact tokens?_opened .openBrace (tokens?_writeMembers ih)

theorem tree?_write (whole : v.Whole) : tree? v.write = some v.tree := by
  unfold tree?
  rw [tokens?_write whole]
  exact treeOfTokens?_tokens v.tree

theorem tree?_render (whole : v.Whole) : tree? v.render.toList = some v.tree := by
  rw [render, String.toList_ofList]
  exact tree?_write whole

-- No controls, and so no line breaks.
def Printable (cs : List Char) : Prop := ∀ c ∈ cs, 0x20 ≤ c.toNat

theorem Printable.append {cs ds : List Char} (first : Printable cs) (rest : Printable ds) : Printable (cs ++ ds) := by
  intro c member
  exact (List.mem_append.1 member).elim (first c) (rest c)

theorem Printable.cons {c : Char} {cs : List Char} (first : 0x20 ≤ c.toNat) (rest : Printable cs) : Printable (c :: cs) :=
  fun _ member => (List.mem_cons.1 member).elim (fun same => same ▸ first) (rest _)

theorem printable_digits (n : Nat) : Printable (Decimal.digits n) := by
  intro c member
  have digit := Nat.isDigit_of_mem_toDigits (by decide) (by decide) member
  simp only [Char.isDigit, Bool.and_eq_true, decide_eq_true_eq] at digit
  have low : 48 ≤ c.toNat := UInt32.le_iff_toNat_le.1 digit.1
  omega

theorem printable_hexChar {d : Nat} (small : d < 16) : 0x20 ≤ (hexChar d).toNat := by
  interval_cases d <;> decide

theorem printable_escapeChar (c : Char) : Printable (escapeChar c) := by
  unfold escapeChar
  iterate 7
    split
    · simp [Printable]
  split
  · rename_i control
    have high := printable_hexChar (d := c.toNat / 16) (by omega)
    have low := printable_hexChar (d := c.toNat % 16) (by omega)
    simpa [Printable] using ⟨high, low⟩
  · rename_i plain
    exact .cons (Nat.le_of_not_lt plain) (by simp [Printable])

theorem printable_quote (s : List Char) : Printable (quote s) := by
  refine .cons (by decide) (.append ?_ (.cons (by decide) (by simp [Printable])))
  intro c member
  obtain ⟨d, -, inside⟩ := List.mem_flatMap.1 member
  exact printable_escapeChar d c inside

theorem printable_writeItems {items : List Value} (printable : ∀ v ∈ items, Printable v.write) : Printable (writeItems items) := by
  induction items with
  | nil => exact .cons (by decide) (by simp [Printable])
  | cons v rest ih =>
    have first := printable v List.mem_cons_self
    have later := ih fun other member => printable other (List.mem_cons_of_mem _ member)
    cases rest with
    | nil => exact first.append later
    | cons next rest => exact first.append (.cons (by decide) later)

theorem printable_writeMembers {members : List (String × Value)} (printable : ∀ m ∈ members, Printable m.2.write) :
    Printable (writeMembers members) := by
  induction members with
  | nil => exact .cons (by decide) (by simp [Printable])
  | cons m rest ih =>
    obtain ⟨key, v⟩ := m
    have first := printable (key, v) List.mem_cons_self
    have later := ih fun other member => printable other (List.mem_cons_of_mem _ member)
    have called := printable_quote key.toList
    cases rest with
    | nil => exact called.append (.cons (by decide) (first.append later))
    | cons next rest => exact called.append (.cons (by decide) (first.append (.cons (by decide) later)))

theorem printable_write (whole : v.Whole) : Printable v.write := by
  induction whole with
  | null => exact by simp [Printable, write]
  | bool b => cases b <;> simp [Printable, write]
  | natural n => exact printable_digits n
  | negSucc n => exact .cons (by decide : 0x20 ≤ '-'.toNat) (printable_digits (n + 1))
  | text s => exact printable_quote s.toList
  | array _ ih => exact .cons (by decide : 0x20 ≤ '['.toNat) (printable_writeItems ih)
  | object _ ih => exact .cons (by decide : 0x20 ≤ '{'.toNat) (printable_writeMembers ih)

theorem insertMember_last {found : List (String × Value)} {key : String} (last : ∀ m ∈ found, m.1 < key) (value : Value) :
    insertMember key value found = found ++ [(key, value)] := by
  induction found with
  | nil => rfl
  | cons m rest ih =>
    have before := last m (by simp)
    have other : key ≠ m.1 := fun same => String.lt_irrefl key (same ▸ before)
    rw [insertMember, if_neg other, if_neg (String.lt_asymm before), ih fun m member => last m (List.mem_cons_of_mem _ member)]
    rfl

theorem mem_insertMember {found : List (String × Value)} {key : String} {value : Value} {m : String × Value}
    (member : m ∈ insertMember key value found) : m = (key, value) ∨ m ∈ found := by
  induction found with
  | nil => exact .inl (List.mem_singleton.1 member)
  | cons other rest ih =>
    unfold insertMember at member
    split at member
    · exact (List.mem_cons.1 member).imp_right (List.mem_cons_of_mem _)
    split at member
    · exact List.mem_cons.1 member
    · rcases List.mem_cons.1 member with rfl | member
      · exact .inr List.mem_cons_self
      · exact (ih member).imp_right (List.mem_cons_of_mem _)

theorem ascending_insertMember {found : List (String × Value)} (ascending : found.Pairwise (·.1 < ·.1)) (key : String) (value : Value) :
    (insertMember key value found).Pairwise (·.1 < ·.1) := by
  induction ascending with
  | nil => exact List.pairwise_singleton ..
  | @cons m rest first rest_ascending ih =>
    unfold insertMember
    split
    · rename_i same
      exact .cons (fun later member => same ▸ first later member) rest_ascending
    split
    · rename_i before
      refine .cons (fun later member => ?_) (.cons first rest_ascending)
      rcases List.mem_cons.1 member with rfl | member
      · exact before
      · exact String.lt_trans before (first later member)
    · rename_i other after
      refine .cons (fun later member => ?_) ih
      rcases mem_insertMember member with rfl | member
      · exact Std.lt_of_le_of_ne (String.not_lt.1 after) (Ne.symm other)
      · exact first later member

theorem ofTrees?_map {items : List Value} (read : ∀ v ∈ items, ofTree? depth v.tree = some v) :
    ofTrees? depth (items.map tree) = some items := by
  induction items with
  | nil => rfl
  | cons v rest ih =>
    rw [List.map_cons, ofTrees?, read v (by simp), ih fun other member => read other (List.mem_cons_of_mem _ member)]
    rfl

-- Members that ascend are each put behind those found before.
theorem ofMembers?_map (found : List (String × Value)) {members : List (String × Value)}
    (ascending : (found ++ members).Pairwise (·.1 < ·.1)) (read : ∀ m ∈ members, ofTree? depth m.2.tree = some m.2) :
    ofMembers? depth found (members.map fun m => (some m.1, m.2.tree)) = some (found ++ members) := by
  induction members generalizing found with
  | nil => simp [ofMembers?]
  | cons m rest ih =>
    have last := (List.pairwise_append.1 ascending).2.2
    rw [List.map_cons, ofMembers?, read m (by simp)]
    show ofMembers? depth (insertMember m.1 m.2 found) _ = _
    rw [insertMember_last (fun other member => last other member m List.mem_cons_self)]
    have later := ih (found ++ [m]) (by simpa using ascending) fun other member => read other (List.mem_cons_of_mem _ member)
    simpa using later

theorem ofTree?_tree (held : v.Held depth) (whole : v.Whole) : ofTree? depth v.tree = some v := by
  induction held with
  | null | bool b | text s => rfl
  | number fits =>
    cases whole with
    | natural n => simp [tree, Number.tree, ofTree?, Numeral.number?_ofNat fits]
    | negSucc n => simp [tree, Number.tree, ofTree?, Numeral.number?_ofNat_negative fits]
  | array _ ih =>
    cases whole with | array whole =>
    rw [tree_array, ofTree?, if_neg (Nat.succ_ne_zero _), Nat.add_sub_cancel]
    rw [ofTrees?_map fun v member => ih v member (whole v member), Option.map_some]
  | object ascending _ ih =>
    cases whole with | object whole =>
    rw [tree_object, ofTree?, if_neg (Nat.succ_ne_zero _), Nat.add_sub_cancel]
    rw [ofMembers?_map [] ascending fun m member => ih m member (whole m member), Option.map_some, List.nil_append]

theorem held_of_ofTrees? {trees : List Tree} {items : List Value}
    (held : ∀ t ∈ trees, ∀ v, ofTree? depth t = some v → v.Held depth) (read : ofTrees? depth trees = some items) :
    ∀ v ∈ items, v.Held depth := by
  induction trees generalizing items with
  | nil => cases read; simp
  | cons t rest ih =>
    simp only [ofTrees?, Option.bind_eq_bind, Option.bind_eq_some_iff] at read
    obtain ⟨v, first, later, others, same⟩ := read
    cases same
    intro other member
    rcases List.mem_cons.1 member with rfl | member
    · exact held t List.mem_cons_self other first
    · exact ih (fun t member => held t (List.mem_cons_of_mem _ member)) others other member

theorem held_of_ofMembers? {trees : List Member} {found members : List (String × Value)}
    (held : ∀ m ∈ trees, ∀ v, ofTree? depth m.2 = some v → v.Held depth) (before : found.Pairwise (·.1 < ·.1))
    (sound : ∀ m ∈ found, m.2.Held depth) (read : ofMembers? depth found trees = some members) :
    members.Pairwise (·.1 < ·.1) ∧ ∀ m ∈ members, m.2.Held depth := by
  induction trees generalizing found with
  | nil => cases read; exact ⟨before, sound⟩
  | cons m rest ih =>
    obtain ⟨key, t⟩ := m
    simp only [ofMembers?, Option.bind_eq_bind, Option.bind_eq_some_iff] at read
    obtain ⟨key, rfl, v, first, others⟩ := read
    refine ih (fun m member => held m (List.mem_cons_of_mem _ member)) (ascending_insertMember before key v) ?_ others
    intro m member
    rcases mem_insertMember member with rfl | member
    · exact held _ List.mem_cons_self v first
    · exact sound m member

theorem held_of_ofTree? {t : Tree} (read : ofTree? depth t = some v) : v.Held depth := by
  induction t using Tree.induction generalizing depth v with
  | null => cases read; exact .null
  | bool b => cases read; exact .bool b
  | numeral n =>
    obtain ⟨x, value, rfl⟩ := Option.map_eq_some_iff.1 read
    exact .number (Numeral.fits_of_number? value)
  | text s =>
    obtain ⟨s, -, rfl⟩ := Option.map_eq_some_iff.1 read
    exact .text s
  | array items ih =>
    cases depth with
    | zero => cases read
    | succ depth =>
      obtain ⟨values, found, rfl⟩ := Option.map_eq_some_iff.1 read
      exact .array (held_of_ofTrees? (fun t member v => ih t member) found)
  | object members ih =>
    cases depth with
    | zero => cases read
    | succ depth =>
      obtain ⟨values, found, rfl⟩ := Option.map_eq_some_iff.1 read
      obtain ⟨ascending, held⟩ := held_of_ofMembers? (fun m member v => ih m member) .nil (by simp) found
      exact .object ascending held

end Value

end Turnstile.Json
