import Mathlib.Tactic.Common

/-!
# Separators

A part that does not hold a separator ends where the first separator stands. So parts that are each
ended by a separator which none of them holds can be told from their concatenation. Fields end at a
quote and lines at a newline, neither of which is escaped.
-/

namespace MacAccess.Separator

theorem ne_of_mem {separator : Char} {part : List Char} (h : separator ∉ part) :
    ∀ c ∈ part, (c != separator) = true := by
  intro c hc
  exact bne_iff_ne.mpr fun heq => h (heq ▸ hc)

theorem takeWhile_part {separator : Char} {part : List Char} (h : separator ∉ part)
    (rest : List Char) : (part ++ separator :: rest).takeWhile (· != separator) = part := by
  rw [List.takeWhile_append_of_pos (ne_of_mem h), List.takeWhile_cons_of_neg (by simp),
    List.append_nil]

theorem dropWhile_part {separator : Char} {part : List Char} (h : separator ∉ part)
    (rest : List Char) :
    (part ++ separator :: rest).dropWhile (· != separator) = separator :: rest := by
  rw [List.dropWhile_append_of_pos (ne_of_mem h), List.dropWhile_cons_of_neg (by simp)]

theorem notMem_takeWhile (separator : Char) (cs : List Char) :
    separator ∉ cs.takeWhile (· != separator) := by
  intro hmem
  have hother := List.all_eq_true.mp List.all_takeWhile separator hmem
  exact bne_iff_ne.mp hother rfl

/-- Where the first separator stands, the whole is what is before it and what follows it. -/
theorem eq_append_of_dropWhile {separator c : Char} {cs rest : List Char}
    (h : cs.dropWhile (· != separator) = c :: rest) :
    cs = cs.takeWhile (· != separator) ++ separator :: rest := by
  have hc : c = separator := by
    have hhead := List.head?_dropWhile_not (· != separator) cs
    rw [h] at hhead
    simpa using hhead
  rw [← hc, ← h]
  subst hc
  exact List.takeWhile_append_dropWhile.symm

/-- The part before the first separator and what follows it are told from the whole. -/
theorem part_inj {separator : Char} {part part' rest rest' : List Char}
    (h : separator ∉ part) (h' : separator ∉ part')
    (heq : part ++ separator :: rest = part' ++ separator :: rest') :
    part = part' ∧ rest = rest' := by
  constructor
  · rw [← takeWhile_part h rest, heq, takeWhile_part h' rest']
  · have hdrop := congrArg (List.dropWhile (· != separator)) heq
    rw [dropWhile_part h, dropWhile_part h'] at hdrop
    exact (List.cons.inj hdrop).2

/-- **Lines are told apart.** Texts without a newline, each ended by one, are the only such texts
with their concatenation. -/
theorem lines_inj : ∀ {ls ls' : List String},
    (∀ l ∈ ls, '\n' ∉ l.toList) → (∀ l ∈ ls', '\n' ∉ l.toList) →
    String.join (ls.map (· ++ "\n")) = String.join (ls'.map (· ++ "\n")) → ls = ls'
  | [], [], _, _, _ => rfl
  | [], l :: ls, _, _, heq => by
      have hlist := congrArg String.toList heq
      simp at hlist
  | l :: ls, [], _, _, heq => by
      have hlist := congrArg String.toList heq
      simp at hlist
  | l :: ls, l' :: ls', h, h', heq => by
      have hlist := congrArg String.toList heq
      simp only [List.map_cons, String.join_cons, String.toList_append, List.append_assoc] at hlist
      obtain ⟨hl, hrest⟩ := part_inj (h l List.mem_cons_self) (h' l' List.mem_cons_self) hlist
      have hls := lines_inj (fun x hx => h x (List.mem_cons_of_mem _ hx))
        (fun x hx => h' x (List.mem_cons_of_mem _ hx)) (String.toList_inj.mp hrest)
      rw [String.toList_inj.mp hl, hls]

end MacAccess.Separator
