import Turnstile.Json.Value
namespace Turnstile.Json

-- A character that stands outside of words, strings and numerals, with the tokens that it stands for.
inductive Separator : Char → List Token → Prop where
  | blank {c : Char} (white : isSpace c = true) : Separator c []
  | openBrace : Separator '{' [.openBrace]
  | closeBrace : Separator '}' [.closeBrace]
  | openBracket : Separator '[' [.openBracket]
  | closeBracket : Separator ']' [.closeBracket]
  | comma : Separator ',' [.comma]
  | colon : Separator ':' [.colon]

variable {cs ds : List Char} {c : Char} {ts us marks : List Token}

theorem Separator.foreign (separator : Separator c marks) :
    c.isAlpha = false ∧ digit? c = none ∧ c ∉ ['.', 'e', 'E', '+', '-'] := by
  cases separator with
  | blank white =>
    simp only [isSpace, Bool.or_eq_true, beq_iff_eq] at white
    obtain ((rfl | rfl) | rfl) | rfl := white <;> decide
  | _ => decide

theorem OpenNumeral.step_separator (separator : Separator c marks) (n : OpenNumeral) : n.step c = none := by
  obtain ⟨-, digitless, signs⟩ := separator.foreign
  simp only [List.mem_cons, List.not_mem_nil, or_false, not_or] at signs
  obtain ⟨point, small, large, plus, minus⟩ := signs
  unfold step
  rw [digitless]
  cases n.stage <;> simp [point, small, large, plus, minus]

namespace Scanner

variable {s : Scanner}

def after (before : List Token) (s : Scanner) : Scanner := ⟨s.tokens ++ before, s.reading⟩

theorem outside_after (before tokens : List Token) (c : Char) :
    outside (tokens ++ before) c = (outside tokens c).map (after before) := by
  unfold outside
  simp only [apply_ite (Option.map (after before)), Option.map_map]
  rfl

theorem step_after (before : List Token) (s : Scanner) (c : Char) :
    (s.after before).step c = (s.step c).map (after before) := by
  obtain ⟨tokens, reading⟩ := s
  cases reading with
  | nothing => exact outside_after before tokens c
  | word letters =>
    simp only [step, after]
    split
    · rfl
    · cases wordToken? letters.reverse with
      | none => rfl
      | some token => exact outside_after before (token :: tokens) c
  | text t =>
    simp only [step, after]
    split
    · rfl
    · simp [after, Function.comp_def]
  | numeral n =>
    simp only [step, after]
    cases n.step c with
    | some n => rfl
    | none =>
      dsimp only
      split
      · exact outside_after before (.numeral n.finish :: tokens) c
      · rfl

theorem run_after (before : List Token) (s : Scanner) (cs : List Char) :
    cs.foldlM step (s.after before) = (cs.foldlM step s).map (after before) := by
  induction cs generalizing s with
  | nil => rfl
  | cons c cs ih =>
    rw [List.foldlM_cons, List.foldlM_cons, step_after]
    cases s.step c with
    | none => rfl
    | some next => exact ih next

theorem finish_after (before : List Token) (s : Scanner) :
    (s.after before).finish = s.finish.map (before.reverse ++ ·) := by
  obtain ⟨tokens, reading⟩ := s
  cases reading with
  | nothing => simp [finish, after]
  | word letters => simp [finish, after, Function.comp_def]
  | text t => rfl
  | numeral n =>
    simp only [finish, after]
    split <;> simp

theorem outside_separator (separator : Separator c marks) (tokens : List Token) :
    outside tokens c = some ⟨marks ++ tokens, .nothing⟩ := by
  cases separator with
  | blank white => exact if_pos white
  | _ => rfl

-- A separator ends what could also end with the text. A string could not.
theorem step_separator (separator : Separator c marks) (ended : s.finish = some ts) :
    s.step c = some ⟨marks ++ ts.reverse, .nothing⟩ := by
  obtain ⟨tokens, reading⟩ := s
  cases reading with
  | nothing =>
    simp only [finish, Option.some.injEq] at ended
    subst ended
    simpa [step] using outside_separator separator tokens
  | word letters =>
    simp only [finish, Option.map_eq_some_iff] at ended
    obtain ⟨token, word, rfl⟩ := ended
    simpa [step, separator.foreign.1, word] using outside_separator separator (token :: tokens)
  | text t => cases ended
  | numeral n =>
    simp only [finish] at ended
    split at ended
    · rename_i complete
      cases ended
      simpa [step, OpenNumeral.step_separator separator, complete] using
        outside_separator separator (.numeral n.finish :: tokens)
    · cases ended

end Scanner

open Scanner

theorem tokens?_eq_some : tokens? cs = some ts ↔ ∃ s, cs.foldlM step start = some s ∧ s.finish = some ts :=
  Option.bind_eq_some_iff

theorem tokens?_cut (separator : Separator c marks) (first : tokens? cs = some ts) (rest : tokens? ds = some us) :
    tokens? (cs ++ c :: ds) = some (ts ++ marks.reverse ++ us) := by
  obtain ⟨s, read, ended⟩ := tokens?_eq_some.1 first
  obtain ⟨r, further, finished⟩ := tokens?_eq_some.1 rest
  have joined : (cs ++ c :: ds).foldlM step start = some (r.after (marks ++ ts.reverse)) := by
    have later := run_after (marks ++ ts.reverse) start ds
    rw [further] at later
    rw [List.foldlM_append, read]
    show (s.step c >>= fun next => ds.foldlM step next) = _
    rw [step_separator separator ended]
    exact later
  refine tokens?_eq_some.2 ⟨_, joined, ?_⟩
  rw [finish_after, finished]
  simp

theorem tokens?_closed (separator : Separator c marks) (first : tokens? cs = some ts) :
    tokens? (cs ++ [c]) = some (ts ++ marks.reverse) := by
  have nothing : tokens? [] = some [] := rfl
  simpa using tokens?_cut separator first nothing

theorem tokens?_opened (separator : Separator c marks) (rest : tokens? ds = some us) :
    tokens? (c :: ds) = some (marks.reverse ++ us) := by
  have nothing : tokens? [] = some [] := rfl
  simpa using tokens?_cut separator nothing rest

end Turnstile.Json
