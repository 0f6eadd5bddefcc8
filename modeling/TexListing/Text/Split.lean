/-!
# Splitting

A text cut at every occurrence, or at the first occurrence, of a character.

* `split`: the pieces between the separators, one more than there are separators.
* `cutFirst`: the parts before and after the first separator.
* `join`: the pieces with the separator between them, which undoes `split` (`join_split`) and is
  undone by it (`split_join`).
-/

namespace TexListing.Text

/-- The pieces of a text with one more character in front: a separator closes off an empty piece,
another character goes to the first piece. -/
def extend (sep c : Char) : List (List Char) → List (List Char)
  | [] => [[c]]
  | piece :: pieces => if c = sep then [] :: piece :: pieces else (c :: piece) :: pieces

/-- The pieces of the text between the occurrences of the separator. -/
def split (sep : Char) (s : List Char) : List (List Char) :=
  s.foldr (extend sep) [[]]

/-- The parts before and after the first separator, if there is one. -/
def cutFirst (sep : Char) (s : List Char) : Option (List Char × List Char) :=
  match s.dropWhile (· != sep) with
  | [] => none
  | _ :: after => some (s.takeWhile (· != sep), after)

/-- The pieces one after the other, with the separator between them. -/
def join (sep : Char) : List (List Char) → List Char
  | [] => []
  | [piece] => piece
  | piece :: pieces => piece ++ sep :: join sep pieces

@[simp] theorem split_nil (sep : Char) : split sep [] = [[]] := rfl

@[simp] theorem split_cons (sep c : Char) (s : List Char) :
    split sep (c :: s) = extend sep c (split sep s) := rfl

theorem extend_ne_nil (sep c : Char) (pieces : List (List Char)) : extend sep c pieces ≠ [] := by
  cases pieces with
  | nil => simp [extend]
  | cons piece pieces =>
    simp only [extend]
    split <;> simp

theorem split_ne_nil (sep : Char) (s : List Char) : split sep s ≠ [] := by
  cases s with
  | nil => simp
  | cons c rest => exact extend_ne_nil sep c (split sep rest)

theorem join_extend (sep c : Char) {pieces : List (List Char)} (h : pieces ≠ []) :
    join sep (extend sep c pieces) = c :: join sep pieces := by
  obtain ⟨piece, others, rfl⟩ := List.exists_cons_of_ne_nil h
  by_cases hc : c = sep
  · simp [extend, hc, join]
  · cases others <;> simp [extend, hc, join]

theorem join_split (sep : Char) (s : List Char) : join sep (split sep s) = s := by
  induction s with
  | nil => rfl
  | cons c rest ih => rw [split_cons, join_extend sep c (split_ne_nil sep rest), ih]

theorem split_of_notMem {sep : Char} {s : List Char} (h : sep ∉ s) : split sep s = [s] := by
  induction s with
  | nil => rfl
  | cons c rest ih =>
    simp only [List.mem_cons, not_or] at h
    rw [split_cons, ih h.2, extend, if_neg (Ne.symm h.1)]

/-- The pieces of two texts with a separator between them are the pieces of each. -/
theorem split_append (sep : Char) (s rest : List Char) :
    split sep (s ++ sep :: rest) = split sep s ++ split sep rest := by
  induction s with
  | nil =>
    obtain ⟨piece, others, hp⟩ := List.exists_cons_of_ne_nil (split_ne_nil sep rest)
    rw [List.nil_append, split_cons, hp, extend, if_pos rfl, split_nil, List.singleton_append]
  | cons c s ih =>
    obtain ⟨piece, others, hp⟩ := List.exists_cons_of_ne_nil (split_ne_nil sep s)
    rw [List.cons_append, split_cons, split_cons, ih, hp, List.cons_append, extend, extend]
    split <;> rfl

theorem split_append_cons {sep : Char} {s : List Char} (h : sep ∉ s) (rest : List Char) :
    split sep (s ++ sep :: rest) = s :: split sep rest := by
  rw [split_append, split_of_notMem h, List.singleton_append]

/-- Pieces without the separator are the pieces between its occurrences, if there is any piece. -/
theorem split_join {sep : Char} {pieces : List (List Char)} (hne : pieces ≠ [])
    (h : ∀ piece ∈ pieces, sep ∉ piece) : split sep (join sep pieces) = pieces := by
  induction pieces with
  | nil => exact absurd rfl hne
  | cons piece others ih =>
    obtain ⟨hpiece, hothers⟩ := List.forall_mem_cons.1 h
    cases others with
    | nil => exact split_of_notMem hpiece
    | cons next rest => rw [join, split_append_cons hpiece, ih (by simp) hothers]; simp

theorem notMem_of_mem_split {sep : Char} {s piece : List Char} (h : piece ∈ split sep s) :
    sep ∉ piece := by
  induction s generalizing piece with
  | nil => simp_all
  | cons c rest ih =>
    obtain ⟨first, others, hsplit⟩ := List.exists_cons_of_ne_nil (split_ne_nil sep rest)
    rw [split_cons, hsplit, extend] at h
    rw [hsplit] at ih
    by_cases hc : c = sep
    · rw [if_pos hc] at h
      rcases List.mem_cons.1 h with rfl | h
      · exact List.not_mem_nil
      · exact ih h
    · rw [if_neg hc] at h
      rcases List.mem_cons.1 h with rfl | h
      · rw [List.mem_cons, not_or]
        exact ⟨Ne.symm hc, ih (by simp)⟩
      · exact ih (by simp [h])

theorem bne_of_notMem {sep : Char} {s : List Char} (h : sep ∉ s) : ∀ c ∈ s, (c != sep) = true := by
  intro c hc
  simpa using fun hcs : c = sep => h (hcs ▸ hc)

/-- The first separator is the one that has none before it. -/
theorem cutFirst_append_cons {sep : Char} {before : List Char} (h : sep ∉ before)
    (after : List Char) : cutFirst sep (before ++ sep :: after) = some (before, after) := by
  unfold cutFirst
  rw [List.dropWhile_append_of_pos (bne_of_notMem h),
    List.takeWhile_append_of_pos (bne_of_notMem h)]
  simp

/-- Without a separator there is nothing to cut. -/
theorem cutFirst_of_notMem {sep : Char} {s : List Char} (h : sep ∉ s) : cutFirst sep s = none := by
  have hnil : (s ++ []).dropWhile (· != sep) = [] := by
    rw [List.dropWhile_append_of_pos (bne_of_notMem h), List.dropWhile_nil]
  unfold cutFirst
  rw [← List.append_nil s, hnil]

theorem append_of_cutFirst {sep : Char} {s before after : List Char}
    (h : cutFirst sep s = some (before, after)) : before ++ sep :: after = s := by
  have hs := List.takeWhile_append_dropWhile (p := (· != sep)) (l := s)
  unfold cutFirst at h
  split at h
  · simp at h
  · next c rest hd =>
    simp only [Option.some.injEq, Prod.mk.injEq] at h
    have hc : c = sep := by
      simpa [hd] using List.head_dropWhile_not (l := s) (· != sep) (by simp [hd])
    rw [hd, h.1, h.2, hc] at hs
    exact hs

end TexListing.Text
