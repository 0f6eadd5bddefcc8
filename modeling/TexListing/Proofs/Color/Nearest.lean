import Mathlib.Algebra.Ring.Int.Defs
import TexListing.Color.Nearest

/-!
# What the search for a colour finds

The search goes through a table row by row and keeps the best row so far. Two things can happen to
that row: a nearer row replaces it, or a row of the very colour ends the search. So the search finds
the first row of the colour if there is one, however near the rows before it are, and else the first
of the rows at the least distance.

* `metric`, `distance_eq_metric`: how far two colours are apart, written out.
* `FirstNearest`: a row is the first at the least distance.
* `FirstNearest.concat`: one more row.
* `closestFrom_of_find?`, `closestFrom_firstNearest`: the two ends of a search, from any row on.
* `colorMatch?_firstNearest`: what a search through a table finds, for every colour.
-/

namespace TexListing

variable {hsl : Rgb → Hsl} {color : Rgb}

/-! ## Distances -/

/-- How far two colours are apart: the squared differences of red, green and blue, and twice those
of hue, saturation and lightness. -/
def metric (hsl : Rgb → Hsl) (c d : Rgb) : Int :=
  ((c.r.toNat : Int) - d.r.toNat) ^ 2 + ((c.g.toNat : Int) - d.g.toNat) ^ 2 +
    ((c.b.toNat : Int) - d.b.toNat) ^ 2 +
    2 * (((hsl c).hue - (hsl d).hue) ^ 2 + ((hsl c).saturation - (hsl d).saturation) ^ 2 +
      ((hsl c).lightness - (hsl d).lightness) ^ 2)

theorem squareDiff_eq (a b : Int) : squareDiff a b = (a - b) ^ 2 := by
  rw [squareDiff, pow_two]

/-- **The search measures by the metric.** -/
theorem distance_eq_metric (hsl : Rgb → Hsl) (c d : Rgb) : distance hsl c d = metric hsl c d := by
  unfold distance channelDistance hslDistance metric
  simp only [squareDiff_eq]

/-- The row is the first of the rows of a table at the least distance: no row is nearer, and the
rows before it are all farther away. -/
def FirstNearest (dist : Rgb → Int) (row : Swatch) (table : List Swatch) : Prop :=
  ∃ earlier later, table = earlier ++ row :: later ∧
    (∀ other ∈ table, dist row.color ≤ dist other.color) ∧
    ∀ other ∈ earlier, dist row.color < dist other.color

/-- **One more row** takes the place of the first at the least distance only if it is nearer. -/
theorem FirstNearest.concat {dist : Rgb → Int} {best : Swatch} {table : List Swatch}
    (h : FirstNearest dist best table) (row : Swatch) :
    FirstNearest dist (if dist row.color < dist best.color then row else best)
      (table ++ [row]) := by
  obtain ⟨earlier, later, htable, hleast, hfirst⟩ := h
  by_cases hnearer : dist row.color < dist best.color
  · rw [if_pos hnearer]
    have hfarther : ∀ other ∈ table, dist row.color < dist other.color := fun other ho =>
      Int.lt_of_lt_of_le hnearer (hleast other ho)
    refine ⟨table, [], rfl, fun other ho => ?_, hfarther⟩
    rcases List.mem_append.1 ho with ho | ho
    · exact Int.le_of_lt (hfarther other ho)
    · obtain rfl := List.mem_singleton.1 ho
      exact Int.le_refl _
  · rw [if_neg hnearer]
    refine ⟨earlier, later ++ [row], by simp [htable], fun other ho => ?_, hfirst⟩
    rcases List.mem_append.1 ho with ho | ho
    · exact hleast other ho
    · rw [List.mem_singleton.1 ho]
      exact Int.not_lt.1 hnearer

/-! ## The search -/

/-- **A row of the very colour ends the search**, whichever row was the best before it. -/
theorem closestFrom_of_find? {rows : List Swatch} {row : Swatch}
    (h : rows.find? (·.color == color) = some row) :
    ∀ best d, closestFrom hsl color best d rows = row := by
  induction rows with
  | nil => exact absurd h (by simp)
  | cons next rest ih =>
    intro best d
    rw [closestFrom]
    -- the rows before the first of the colour only move the best row, which the end forgets
    by_cases hnext : next.color = color
    · rw [List.find?_cons_of_pos (by simpa using hnext), Option.some.injEq] at h
      rw [if_pos hnext, h]
    · rw [List.find?_cons_of_neg (by simpa using hnext)] at h
      rw [if_neg hnext]
      split
      · exact ih h _ _
      · exact ih h _ _

/-- **Without a row of the very colour** the search keeps the first row at the least distance among
the rows that it has seen. -/
theorem closestFrom_firstNearest {rows : List Swatch} (h : ∀ row ∈ rows, row.color ≠ color) :
    ∀ {best : Swatch} {seen : List Swatch}, FirstNearest (distance hsl color) best seen →
      FirstNearest (distance hsl color)
        (closestFrom hsl color best (distance hsl color best.color) rows) (seen ++ rows) := by
  induction rows with
  | nil =>
    intro best seen hbest
    rw [closestFrom, List.append_nil]
    exact hbest
  | cons row rest ih =>
    intro best seen hbest
    obtain ⟨hrow, hrest⟩ := List.forall_mem_cons.1 h
    have hstep := hbest.concat row
    rw [closestFrom, if_neg hrow, List.append_cons]
    by_cases hnearer : distance hsl color row.color < distance hsl color best.color
    · rw [if_pos hnearer] at hstep ⊢
      exact ih hrest hstep
    · rw [if_neg hnearer] at hstep ⊢
      exact ih hrest hstep

theorem exists_closest? (hsl : Rgb → Hsl) (color : Rgb) {table : List Swatch} (hne : table ≠ []) :
    ∃ best, closest? hsl color table = some best := by
  obtain ⟨row, rest, rfl⟩ := List.exists_cons_of_ne_nil hne
  rw [closest?]
  split <;> exact ⟨_, rfl⟩

/-- The search may as well start from any row and any number that the distance of the first row is
below. -/
theorem closest?_eq_closestFrom {table : List Swatch} (hne : table ≠ []) {start : Int}
    (hstart : ∀ row ∈ table, distance hsl color row.color < start) (best : Swatch) :
    closest? hsl color table = some (closestFrom hsl color best start table) := by
  obtain ⟨row, rest, rfl⟩ := List.exists_cons_of_ne_nil hne
  have hrow : distance hsl color row.color < start := hstart row List.mem_cons_self
  rw [closest?, closestFrom, if_pos hrow]
  split <;> rfl

/-- The search starts at the first row, which is the first at the least distance among itself. -/
theorem closest?_firstNearest {table : List Swatch} {best : Swatch}
    (h : ∀ row ∈ table, row.color ≠ color) (hbest : closest? hsl color table = some best) :
    FirstNearest (distance hsl color) best table := by
  cases table with
  | nil => exact absurd hbest (by simp [closest?])
  | cons row rest =>
    obtain ⟨hrow, hrest⟩ := List.forall_mem_cons.1 h
    have hself : FirstNearest (distance hsl color) row [row] :=
      ⟨[], [], rfl, by simp, by simp⟩
    rw [closest?, if_neg hrow, Option.some.injEq] at hbest
    rw [← hbest]
    exact closestFrom_firstNearest hrest hself

theorem closest?_of_find? {table : List Swatch} {row : Swatch}
    (h : table.find? (·.color == color) = some row) : closest? hsl color table = some row := by
  cases table with
  | nil => exact absurd h (by simp)
  | cons first rest =>
    rw [closest?]
    split
    · next hfirst =>
      rw [List.find?_cons_of_pos (by simpa using hfirst)] at h
      exact h
    · next hfirst =>
      rw [List.find?_cons_of_neg (by simpa using hfirst)] at h
      rw [closestFrom_of_find? h]

/-- **What looking up a colour finds**, in any table that has rows, whatever coordinates `hsl`
gives. It finds something, which is exact if and only if the colour is in the table. If it is, the
first row of the colour is found, even if other rows come before it; else the first of the rows at
the least distance by the metric. The search may start from any row and any number that no distance
reaches. In the palette it finds the nearest colour. -/
theorem colorMatch?_firstNearest (hsl : Rgb → Hsl) (color : Rgb) {table : List Swatch}
    (hne : table ≠ []) :
    (∃ found, colorMatch? hsl color table = some found ∧
      (found.exact = true ↔ color ∈ table.map Swatch.color) ∧
      (color ∈ table.map Swatch.color →
        table.find? (·.color == color) = some found.swatch) ∧
      (color ∉ table.map Swatch.color →
        FirstNearest (metric hsl color) found.swatch table) ∧
      ∀ start, (∀ row ∈ table, metric hsl color row.color < start) →
        ∀ first, closestFrom hsl color first start table = found.swatch) ∧
    (colorMatch? Rgb.hsl color palette).map ColorMatch.swatch = some (nearest color) := by
  have hmetric : distance hsl color = metric hsl color := funext (distance_eq_metric hsl color)
  rw [← hmetric]
  obtain ⟨best, hbest⟩ := exists_closest? hsl color hne
  have hmatch : colorMatch? hsl color table = some ⟨best, best.color == color⟩ := by
    rw [colorMatch?, hbest, Option.map_some]
  have hfind : color ∈ table.map Swatch.color →
      table.find? (·.color == color) = some best := by
    intro hmem
    obtain ⟨row, hrow, rfl⟩ := List.mem_map.1 hmem
    obtain ⟨first, hfirst⟩ : ∃ first, table.find? (·.color == row.color) = some first := by
      rw [← Option.isSome_iff_exists, List.find?_isSome]
      exact ⟨row, hrow, beq_self_eq_true _⟩
    rw [closest?_of_find? hfirst, Option.some.injEq] at hbest
    rw [hfirst, hbest]
  have hnear : color ∉ table.map Swatch.color →
      FirstNearest (distance hsl color) best table := fun hnot =>
    closest?_firstNearest (fun row hrow hc => hnot (hc ▸ List.mem_map_of_mem hrow)) hbest
  refine ⟨⟨_, hmatch, ⟨fun hexact => ?_, fun hmem => ?_⟩, hfind, hnear,
    fun start hstart first => ?_⟩, ?_⟩
  · -- an exact row is one of the rows, wherever the search found it
    refine Decidable.byContradiction fun hnot => ?_
    obtain ⟨earlier, later, htable, -, -⟩ := hnear hnot
    refine hnot (List.mem_map.2 ⟨best, ?_, eq_of_beq hexact⟩)
    rw [htable]
    simp
  · have hcolor := List.find?_some (hfind hmem)
    exact hcolor
  · rw [closest?_eq_closestFrom hne hstart first, Option.some.injEq] at hbest
    exact hbest
  · have hpalette : palette ≠ [] := List.cons_ne_nil _ _
    obtain ⟨row, hrow⟩ := exists_closest? Rgb.hsl color hpalette
    rw [colorMatch?, nearest, hrow]
    rfl

/-- A row that the channels alone would make the nearest, then three at the same distance, of which
two have the very colour of another search, with the greatest number of 64 bits at the start. -/
theorem colorMatch?_firstNearest_tie :
    let hsl : Rgb → Hsl := fun c => ⟨c.b.toNat, 0, 0⟩
    let ember : Swatch := ⟨⟨2, 1, 0⟩, "Ember"⟩
    let table := [⟨⟨1, 0, 1⟩, "Dusk"⟩, ember, ⟨⟨0, 1, 0⟩, "Moss"⟩, ⟨⟨2, 1, 0⟩, "Cinder"⟩]
    table ≠ [] ∧
      (⟨1, 0, 0⟩ ∉ table.map Swatch.color ∧
        (∀ row ∈ table, metric hsl ⟨1, 0, 0⟩ row.color < 9223372036854775807) ∧
        colorMatch? hsl ⟨1, 0, 0⟩ table = some ⟨ember, false⟩ ∧
        FirstNearest (metric hsl ⟨1, 0, 0⟩) ember table ∧
        closestFrom hsl ⟨1, 0, 0⟩ ⟨⟨2, 1, 0⟩, "Cinder"⟩ 9223372036854775807 table = ember) ∧
      ⟨2, 1, 0⟩ ∈ table.map Swatch.color ∧
        colorMatch? hsl ⟨2, 1, 0⟩ table = some ⟨ember, true⟩ ∧
        table.find? (·.color == ⟨2, 1, 0⟩) = some ember := by
  intro hsl ember table
  have hne : table ≠ [] := List.cons_ne_nil _ _
  have hnot : ⟨1, 0, 0⟩ ∉ table.map Swatch.color := by decide
  have hmem : ⟨2, 1, 0⟩ ∈ table.map Swatch.color := by decide
  have hstart : ∀ row ∈ table, metric hsl ⟨1, 0, 0⟩ row.color < 9223372036854775807 := by decide
  have hfirst : colorMatch? hsl ⟨1, 0, 0⟩ table = some ⟨ember, false⟩ := by decide
  have hexact : colorMatch? hsl ⟨2, 1, 0⟩ table = some ⟨ember, true⟩ := by decide
  obtain ⟨⟨found, hfound, -, -, hnear, hsame⟩, -⟩ := colorMatch?_firstNearest hsl ⟨1, 0, 0⟩ hne
  obtain rfl : found = ⟨ember, false⟩ := Option.some.inj (hfound.symm.trans hfirst)
  obtain ⟨⟨found', hfound', -, hfind, -, -⟩, -⟩ := colorMatch?_firstNearest hsl ⟨2, 1, 0⟩ hne
  obtain rfl : found' = ⟨ember, true⟩ := Option.some.inj (hfound'.symm.trans hexact)
  exact ⟨hne, ⟨hnot, hstart, hfirst, hnear hnot, hsame _ hstart _⟩, hmem, hexact, hfind hmem⟩

end TexListing
