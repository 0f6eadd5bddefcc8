import Mathlib.Data.List.DropRight
import TexListing.Text.Blank

/-!
# Trimming

A text is trimmed if no blank stands at either end of it. Trimming gives such texts and keeps them.

* `Trimmed`: no blank stands at either end.
* `trim_eq_self`: a trimmed text stays as it is.
* `trimmed_trim`: what has been trimmed is trimmed.
* `trimmed_trimEnd`: so is a part from its start on, once its end is trimmed.
* `trim_blanks`: blanks around a text are trimmed with those of the text.
* `TrimsTo`, `trimsTo_iff`: what a text is trimmed to, in so many words.
-/

namespace TexListing.Text

/-- No blank stands at either end. -/
structure Trimmed (s : List Char) : Prop where
  start : ∀ c ∈ s.head?, isBlank c = false
  finish : ∀ c ∈ s.getLast?, isBlank c = false

theorem trimmed_iff {s : List Char} :
    Trimmed s ↔ s.head?.any isBlank = false ∧ s.getLast?.any isBlank = false := by
  have hany : ∀ o : Option Char, o.any isBlank = false ↔ ∀ c ∈ o, isBlank c = false := by
    rintro (_ | c) <;> simp
  rw [hany, hany]
  exact ⟨fun h => ⟨h.start, h.finish⟩, fun h => ⟨h.1, h.2⟩⟩

instance (s : List Char) : Decidable (Trimmed s) :=
  decidable_of_iff _ trimmed_iff.symm

theorem dropWhile_eq_self {s : List Char} (h : ∀ c ∈ s.head?, isBlank c = false) :
    s.dropWhile isBlank = s := by
  cases s with
  | nil => rfl
  | cons c rest => rw [List.dropWhile_cons, if_neg (by simpa using h)]

/-- **A trimmed text stays as it is.** -/
theorem trim_eq_self {s : List Char} (h : Trimmed s) : trim s = s := by
  rw [trim, trimStart, dropWhile_eq_self h.start, trimEnd, dropWhile_eq_self, List.reverse_reverse]
  rw [List.head?_reverse]
  exact h.finish

theorem trim_blank_cons {c : Char} (h : isBlank c = true) (s : List Char) :
    trim (c :: s) = trim s := by
  rw [trim, trim, trimStart, trimStart, List.dropWhile_cons, if_pos h]

theorem head?_dropWhile_isBlank (s : List Char) :
    ∀ c ∈ (s.dropWhile isBlank).head?, isBlank c = false := by
  intro c hc
  have hnot := List.head?_dropWhile_not isBlank s
  rw [Option.mem_def.1 hc] at hnot
  simpa using hnot

theorem trimEnd_isPrefix (s : List Char) : trimEnd s <+: s :=
  List.rdropWhile_prefix isBlank s

theorem head?_of_isPrefix {s t : List Char} (h : s <+: t) : ∀ c ∈ s.head?, c ∈ t.head? := by
  obtain ⟨rest, rfl⟩ := h
  cases s with
  | nil => simp
  | cons c s => simp

/-- A part of a text from its start on is trimmed, if its end is and the text starts with no
blank. -/
theorem trimmed_trimEnd {s t : List Char} (hpart : t <+: s)
    (hstart : ∀ c ∈ s.head?, isBlank c = false) : Trimmed (trimEnd t) where
  start c hc := hstart c (head?_of_isPrefix ((trimEnd_isPrefix t).trans hpart) c hc)
  finish c hc := by
    rw [trimEnd, List.getLast?_reverse] at hc
    exact head?_dropWhile_isBlank _ c hc

/-- **What has been trimmed is trimmed.** -/
theorem trimmed_trim (s : List Char) : Trimmed (trim s) :=
  trimmed_trimEnd (List.prefix_refl _) (head?_dropWhile_isBlank s)

/-! ## Blanks around a text -/

/-- There is nothing but blanks. -/
def Blanks (s : List Char) : Prop :=
  ∀ c ∈ s, isBlank c = true

instance (s : List Char) : Decidable (Blanks s) :=
  decidable_of_iff (s.all isBlank = true) List.all_eq_true

theorem notMem_blanks {s : List Char} (h : Blanks s) {c : Char} (hc : isBlank c = false) :
    c ∉ s := by
  intro hmem
  rw [h c hmem] at hc
  exact Bool.noConfusion hc

theorem trim_blanks_append {before : List Char} (h : Blanks before) (s : List Char) :
    trim (before ++ s) = trim s := by
  rw [trim, trim, trimStart, trimStart, List.dropWhile_append_of_pos h]

theorem trimEnd_append_blanks {after : List Char} (h : Blanks after) (s : List Char) :
    trimEnd (s ++ after) = trimEnd s := by
  have hreverse : ∀ c ∈ after.reverse, isBlank c = true := fun c hc => h c (List.mem_reverse.1 hc)
  rw [trimEnd, trimEnd, List.reverse_append, List.dropWhile_append_of_pos hreverse]

theorem trim_append_blanks {after : List Char} (h : Blanks after) (s : List Char) :
    trim (s ++ after) = trim s := by
  rw [trim, trim, trimStart, trimStart, List.dropWhile_append]
  split
  · -- there is nothing but blanks before them either
    next hnil =>
    have hafter : after.dropWhile isBlank = [] := List.dropWhile_eq_nil_iff.2 h
    rw [hafter, List.isEmpty_iff.1 hnil]
  · exact trimEnd_append_blanks h _

/-- **Blanks around a text are trimmed** with those of the text. -/
theorem trim_blanks {before after : List Char} (hbefore : Blanks before) (hafter : Blanks after)
    (s : List Char) : trim (before ++ s ++ after) = trim s := by
  rw [trim_append_blanks hafter, trim_blanks_append hbefore]

/-- A text that ends in a trimmed one is trimmed at its start alone. -/
theorem trim_append {t : List Char} (ht : Trimmed t) (hne : t ≠ []) (s : List Char) :
    trim (s ++ t) = trimStart s ++ t := by
  have hstart : trimStart (s ++ t) = trimStart s ++ t := by
    rw [trimStart, List.dropWhile_append]
    split
    · next hnil =>
      rw [dropWhile_eq_self ht.start, trimStart, List.isEmpty_iff.1 hnil, List.nil_append]
    · rfl
  rw [trim, hstart, trimEnd, dropWhile_eq_self, List.reverse_reverse]
  rw [List.head?_reverse, List.getLast?_append_of_ne_nil _ hne]
  exact ht.finish

/-- The second text is the first without the blanks around it. -/
def TrimsTo (s t : List Char) : Prop :=
  Trimmed t ∧ ∃ before after, Blanks before ∧ Blanks after ∧ s = before ++ t ++ after

theorem exists_append_trimEnd (s : List Char) : ∃ after, Blanks after ∧ s = trimEnd s ++ after := by
  refine ⟨(s.reverse.takeWhile isBlank).reverse, fun c hc => ?_, ?_⟩
  · exact List.mem_takeWhile_imp (List.mem_reverse.1 hc)
  · rw [trimEnd, ← List.reverse_append, List.takeWhile_append_dropWhile, List.reverse_reverse]

/-- **What a text is trimmed to.** -/
theorem trimsTo_iff {s t : List Char} : TrimsTo s t ↔ trim s = t := by
  constructor
  · rintro ⟨htrimmed, before, after, hbefore, hafter, rfl⟩
    rw [trim_blanks hbefore hafter, trim_eq_self htrimmed]
  · rintro rfl
    obtain ⟨after, hafter, hend⟩ := exists_append_trimEnd (trimStart s)
    refine ⟨trimmed_trim s, s.takeWhile isBlank, after, ?_, hafter, ?_⟩
    · intro c hc
      exact List.mem_takeWhile_imp hc
    · rw [trim, List.append_assoc, ← hend, trimStart, List.takeWhile_append_dropWhile]

end TexListing.Text
