import Mathlib.Data.List.Induction
import Mathlib.Data.List.Basic
import TexListing.Color.Registry
import TexListing.Proofs.Text.Decimal

/-!
# The names of the colours of a listing

A registry hands out names as colours are asked for. These lemmas give its whole state in closed
form, whatever was asked for and in whatever order.

* `Lists.nameFor`: one request keeps the registry in step with the list of distinct colours.
* `lists_asked`: so does every run of requests.
* `nameAmong_inj`: distinct colours have distinct names. A palette name is a word of letters
  (`colorName_isWord`), so the digits after it can be told from it.
* `nameAmong_isColorName`: the form of a name.
* `asked_names`: all of it, for every run of requests.
-/

namespace TexListing

open Text

/-! ## Names -/

/-- One letter of ASCII or more. -/
def IsWord (s : List Char) : Prop :=
  s ≠ [] ∧ ∀ c ∈ s, c.isAlpha = true

/-- The decimal digits of a number from two on, without a leading zero. -/
def IsOrdinal (s : List Char) : Prop :=
  (∀ c ∈ s, c.isDigit = true) ∧ s.head? ≠ some '0' ∧ 2 ≤ Nat.ofDigitChars 10 s 0

/-- A word of letters, with an ordinal after it or nothing. -/
def IsColorName (name : String) : Prop :=
  ∃ word suffix, name.toList = word ++ suffix ∧ IsWord word ∧ (suffix = [] ∨ IsOrdinal suffix)

/-- The place of a colour, counted from one, among the colours of a list that share its palette
name. -/
def place (colors : List Rgb) (color : Rgb) : Nat :=
  (colors.filter fun other => colorName other == colorName color).idxOf color + 1

/-- The name of a colour among distinct colours: the first of those that share a palette name goes
by it, and the `k`-th by it and the number `k`. -/
def nameAmong (colors : List Rgb) (color : Rgb) : String :=
  if place colors color = 1 then colorName color
  else colorName color ++ toString (place colors color)

theorem closestFrom_mem (hsl : Rgb → Hsl) (color : Rgb) (rows : List Swatch) :
    ∀ best d, closestFrom hsl color best d rows ∈ best :: rows := by
  induction rows with
  | nil => intro best d; simp [closestFrom]
  | cons row rest ih =>
    intro best d
    rw [closestFrom]
    split
    · simp
    · split
      · exact List.mem_cons_of_mem _ (ih row _)
      · have h := ih best d
        simp only [List.mem_cons] at h ⊢
        tauto

theorem nearest_mem (color : Rgb) : nearest color ∈ palette := by
  have h : ∀ rows, rows ≠ [] → (closest? Rgb.hsl color rows).getD default ∈ rows := by
    intro rows hne
    obtain ⟨row, rest, rfl⟩ := List.exists_cons_of_ne_nil hne
    rw [closest?]
    split
    · simp
    · exact closestFrom_mem _ _ rest _ _
  exact h palette (by simp [palette])

/-- The names of the palette are of letters and blanks, and not of blanks only. -/
theorem palette_names :
    palette.all (fun s => s.name.toList.all (fun c => c.isAlpha || Text.isBlank c) &&
      s.name.toList.any (!Text.isBlank ·)) = true := by
  decide +kernel

theorem identifier_isWord {s : Swatch} (hs : s ∈ palette) : IsWord s.identifier.toList := by
  have h := List.all_eq_true.1 palette_names s hs
  rw [Bool.and_eq_true, List.all_eq_true, List.any_eq_true] at h
  obtain ⟨hall, c, hc, hblank⟩ := h
  rw [Swatch.identifier, String.toList_ofList]
  refine ⟨List.ne_nil_of_mem (List.mem_filter.2 ⟨hc, hblank⟩), fun d hd => ?_⟩
  obtain ⟨hmem, hd⟩ := List.mem_filter.1 hd
  have hletter := hall d hmem
  rw [Bool.or_eq_true] at hletter
  exact hletter.resolve_right (by simpa using hd)

/-- **A palette name is a word of letters**, whichever colour it is found for. -/
theorem colorName_isWord (color : Rgb) : IsWord (colorName color).toList :=
  identifier_isWord (nearest_mem color)

/-- The decimal digits of a positive number do not start with a zero. -/
theorem head?_toDigits_ne {n : ℕ} (hn : 0 < n) : (Nat.toDigits 10 n).head? ≠ some '0' := by
  induction n using Nat.strongRecOn with
  | ind n ih =>
    rw [Nat.toDigits_eq_if (by omega)]
    split
    · next hlt =>
      have hdigit : ∀ m < 10, 0 < m → Nat.digitChar m ≠ '0' := by decide
      simpa using hdigit n hlt hn
    · next hge =>
      rw [List.head?_append_of_ne_nil _ Nat.toDigits_ne_nil]
      exact ih (n / 10) (by omega) (by omega)

theorem isOrdinal_toString {k : ℕ} (hk : 2 ≤ k) : IsOrdinal (toString k).toList := by
  refine ⟨fun c hc => isDigit_of_mem_toString hc, ?_⟩
  rw [ofDigitChars_toString, Nat.toString_eq_repr, Nat.toList_repr]
  exact ⟨head?_toDigits_ne (by omega), hk⟩

/-- **The form of a name.** -/
theorem nameAmong_isColorName (colors : List Rgb) (color : Rgb) :
    IsColorName (nameAmong colors color) := by
  unfold nameAmong
  split
  · exact ⟨(colorName color).toList, [], by simp, colorName_isWord color, .inl rfl⟩
  · next hne =>
    have hk : 2 ≤ place colors color := by unfold place at hne ⊢; omega
    exact ⟨_, _, String.toList_append, colorName_isWord color, .inr (isOrdinal_toString hk)⟩

/-! ## Distinct names -/

theorem le_of_isAlpha {c : Char} (h : c.isAlpha = true) : 65 ≤ c.toNat := by
  rcases Bool.or_eq_true_iff.1 (show (c.isUpper || c.isLower) = true from h) with h | h
  · exact UInt32.le_iff_toNat_le.1 (of_decide_eq_true h).1
  · have hlower : 97 ≤ c.toNat :=
      UInt32.le_iff_toNat_le.1 (of_decide_eq_true (Bool.and_eq_true_iff.1 h).1)
    omega

/-- No digit is a letter. -/
theorem isAlpha_of_isDigit {c : Char} (hc : c.isDigit = true) : c.isAlpha = false := by
  have hdigit : c.toNat ≤ 57 := (Char.isDigit_iff_toNat.1 hc).2
  rw [Bool.eq_false_iff]
  intro h
  have := le_of_isAlpha h
  omega

/-- The word is the part of a name before its first digit. -/
theorem takeWhile_word_append {w d : List Char} (hw : IsWord w) (hd : ∀ c ∈ d, c.isDigit = true) :
    (w ++ d).takeWhile Char.isAlpha = w := by
  have hnil : d.takeWhile Char.isAlpha = [] := by
    cases d with
    | nil => rfl
    | cons c d => rw [List.takeWhile_cons_of_neg]; simp [isAlpha_of_isDigit (hd c (by simp))]
  rw [List.takeWhile_append_of_pos hw.2, hnil, List.append_nil]

/-- A word and the digits after it can be told apart. -/
theorem word_append_inj {v w d e : List Char} (hv : IsWord v) (hw : IsWord w)
    (hd : ∀ c ∈ d, c.isDigit = true) (he : ∀ c ∈ e, c.isDigit = true) (h : v ++ d = w ++ e) :
    v = w ∧ d = e := by
  have hvw : v = w := by rw [← takeWhile_word_append hv hd, h, takeWhile_word_append hw he]
  subst hvw
  exact ⟨rfl, List.append_cancel_left h⟩

/-- The digits after the word of a name: none for the first colour of its palette name. -/
def placeDigits (k : ℕ) : List Char :=
  if k = 1 then [] else (toString k).toList

theorem toList_nameAmong (colors : List Rgb) (color : Rgb) :
    (nameAmong colors color).toList =
      (colorName color).toList ++ placeDigits (place colors color) := by
  unfold nameAmong placeDigits
  split <;> simp

theorem placeDigits_isDigit (k : ℕ) : ∀ c ∈ placeDigits k, c.isDigit = true := by
  unfold placeDigits
  split
  · simp
  · intro c hc; exact isDigit_of_mem_toString hc

theorem placeDigits_inj {j k : ℕ} (h : placeDigits j = placeDigits k) : j = k := by
  unfold placeDigits at h
  split at h <;> split at h
  · omega
  · simp at h
  · simp at h
  · rw [String.toList_inj] at h; exact Nat.repr_injective h

/-- Colours that share a palette name and a place are the same. -/
theorem place_inj {colors : List Rgb} {c d : Rgb} (hc : c ∈ colors)
    (hbase : colorName c = colorName d) (hplace : place colors c = place colors d) : c = d := by
  unfold place at hplace
  rw [hbase] at hplace
  refine (List.idxOf_inj ?_).1 (Nat.add_right_cancel hplace)
  simp [hc, hbase]

/-- **Distinct colours have distinct names**, those of other palette names included. -/
theorem nameAmong_inj {colors : List Rgb} {c d : Rgb} (hc : c ∈ colors)
    (h : nameAmong colors c = nameAmong colors d) : c = d := by
  have hlist := congrArg String.toList h
  rw [toList_nameAmong, toList_nameAmong] at hlist
  obtain ⟨hword, hdigits⟩ := word_append_inj (colorName_isWord c) (colorName_isWord d)
    (placeDigits_isDigit _) (placeDigits_isDigit _) hlist
  exact place_inj hc (String.toList_inj.1 hword) (placeDigits_inj hdigits)

/-! ## Requests -/

/-- The registry after names were asked for, one colour after the other. -/
def Registry.asked (colors : List Rgb) : Registry :=
  colors.foldl (fun reg color => (reg.nameFor color).2) .empty

/-- The registry holds distinct colours, in this order, under the names that they have among each
other, and counts the colours of each palette name. -/
structure Registry.Lists (reg : Registry) (colors : List Rgb) : Prop where
  nodup : colors.Nodup
  entries : reg.entries = colors.map fun color => ⟨color, nameAmong colors color⟩
  claims : ∀ base, claimsOf base reg.claims = colors.countP (colorName · == base)

theorem eraseDups_concat (colors : List Rgb) (color : Rgb) :
    (colors ++ [color]).eraseDups =
      if color ∈ colors then colors.eraseDups else colors.eraseDups ++ [color] := by
  rw [List.eraseDups_append, List.removeAll]
  by_cases h : color ∈ colors <;> simp [h, List.eraseDups_cons]

/-- A new colour takes no place from those before it. -/
theorem place_concat_of_mem {colors : List Rgb} {c : Rgb} (hc : c ∈ colors) (color : Rgb) :
    place (colors ++ [color]) c = place colors c := by
  unfold place
  rw [List.filter_append, List.idxOf_append, if_pos (by simp [hc])]

/-- A new colour has the place after those that share its palette name. -/
theorem place_concat_self {colors : List Rgb} {color : Rgb} (hc : color ∉ colors) :
    place (colors ++ [color]) color = colors.countP (colorName · == colorName color) + 1 := by
  unfold place
  rw [List.filter_append, List.idxOf_append, if_neg (by simp [hc]), List.countP_eq_length_filter]
  simp

theorem nameAmong_concat_of_mem {colors : List Rgb} {c : Rgb} (hc : c ∈ colors) (color : Rgb) :
    nameAmong (colors ++ [color]) c = nameAmong colors c := by
  unfold nameAmong
  rw [place_concat_of_mem hc]

namespace Registry.Lists

variable {reg : Registry} {colors : List Rgb}

theorem get? (h : reg.Lists colors) (color : Rgb) :
    reg.get? color = if color ∈ colors then some (nameAmong colors color) else none := by
  unfold Registry.get?
  rw [h.entries, List.find?_map, Function.comp_def]
  simp only
  split
  · next hc =>
    have hsome : (colors.find? (· == color)).isSome := by
      rw [List.find?_isSome]; exact ⟨color, hc, beq_self_eq_true color⟩
    obtain ⟨c, hfind⟩ := Option.isSome_iff_exists.1 hsome
    have hc' : (c == color) = true := List.find?_some (p := (· == color)) hfind
    rw [hfind, eq_of_beq hc']
    rfl
  · next hc =>
    have hfind : colors.find? (· == color) = none := by
      rw [List.find?_eq_none]
      intro c hcm hcc
      exact hc (eq_of_beq hcc ▸ hcm)
    rw [hfind]
    rfl

/-- A request for a colour in use changes nothing. -/
theorem nameFor_of_mem (h : reg.Lists colors) {color : Rgb} (hc : color ∈ colors) :
    reg.nameFor color = (nameAmong colors color, reg) := by
  unfold Registry.nameFor
  rw [h.get?, if_pos hc]

/-- A request for a new colour adds an entry at the end. -/
theorem nameFor_of_notMem (h : reg.Lists colors) {color : Rgb} (hc : color ∉ colors) :
    reg.nameFor color =
      (nameAmong (colors ++ [color]) color,
        ⟨reg.entries ++ [⟨color, nameAmong (colors ++ [color]) color⟩],
          addClaim (colorName color) reg.claims⟩) := by
  have hname : ordinalName (colorName color)
      (claimsOf (colorName color) (addClaim (colorName color) reg.claims)) =
        nameAmong (colors ++ [color]) color := by
    rw [claimsOf_addClaim, if_pos rfl, h.claims, ← place_concat_self hc]
    rfl
  unfold Registry.nameFor
  rw [h.get?, if_neg hc]
  simp only [hname]

/-- **One request** keeps the registry in step with the distinct colours asked for. -/
theorem nameFor (h : reg.Lists colors.eraseDups) (color : Rgb) :
    (reg.nameFor color).2.Lists (colors ++ [color]).eraseDups ∧
      (reg.nameFor color).1 = nameAmong (colors ++ [color]).eraseDups color := by
  rw [eraseDups_concat]
  by_cases hc : color ∈ colors
  · rw [if_pos hc, h.nameFor_of_mem (List.mem_eraseDups.2 hc)]
    exact ⟨h, rfl⟩
  · have hd : color ∉ colors.eraseDups := fun hd => hc (List.mem_eraseDups.1 hd)
    rw [if_neg hc, h.nameFor_of_notMem hd]
    refine ⟨⟨?_, ?_, ?_⟩, rfl⟩
    · -- the new colour is not among those before it
      rw [List.nodup_append]
      refine ⟨h.nodup, by simp, ?_⟩
      intro c hcm d hdm hcd
      rw [List.mem_singleton] at hdm
      exact hd (hdm ▸ hcd ▸ hcm)
    · -- those before it keep their names
      simp only [h.entries, List.map_append, List.map_cons, List.map_nil]
      congr 1
      apply List.map_congr_left
      intro c hcm
      rw [nameAmong_concat_of_mem hcm]
    · -- one palette name is taken once more
      intro base
      rw [claimsOf_addClaim, h.claims, List.countP_append]
      by_cases hb : base = colorName color
      · simp [hb]
      · simp [hb, Ne.symm hb]

end Registry.Lists

/-- **Every run of requests** lists the distinct colours asked for, in the order of the first
requests. -/
theorem lists_asked (colors : List Rgb) : (Registry.asked colors).Lists colors.eraseDups := by
  induction colors using List.reverseRecOn with
  | nil => exact ⟨by simp, rfl, fun base => rfl⟩
  | append_singleton colors color ih =>
    rw [Registry.asked, List.foldl_append]
    exact (ih.nameFor color).1

theorem nameFor_asked (colors : List Rgb) (color : Rgb) :
    (Registry.asked colors).nameFor color =
      (nameAmong (colors ++ [color]).eraseDups color, Registry.asked (colors ++ [color])) := by
  rw [← ((lists_asked colors).nameFor color).2, Registry.asked, Registry.asked, List.foldl_append]
  rfl

/-- A colour keeps its name, whatever is asked for afterwards. -/
theorem nameAmong_append {colors : List Rgb} {color : Rgb} (hc : color ∈ colors)
    (later : List Rgb) :
    nameAmong (colors ++ later).eraseDups color = nameAmong colors.eraseDups color := by
  induction later using List.reverseRecOn with
  | nil => rw [List.append_nil]
  | append_singleton later new ih =>
    rw [← List.append_assoc, eraseDups_concat, ← ih]
    split
    · rfl
    · exact nameAmong_concat_of_mem (by simp [hc]) new

/-- **The registry after any requests.** Its entries are the distinct colours asked for, in the
order of the first requests. A request returns the palette name for the first of the colours that
share it, and for the `k`-th the palette name and the number `k`; no later request changes that.
Distinct colours have distinct names, and every name is a word of letters that an ordinal may
follow. -/
theorem asked_names (colors : List Rgb) :
    ((Registry.asked colors).entries =
        colors.eraseDups.map (fun color => ⟨color, nameAmong colors.eraseDups color⟩) ∧
      (Registry.asked colors).size = colors.eraseDups.length ∧
      ∀ color, (Registry.asked colors).get? color =
        if color ∈ colors then some (nameAmong colors.eraseDups color) else none) ∧
    (∀ color, ((Registry.asked colors).nameFor color).1 =
        nameAmong (colors ++ [color]).eraseDups color ∧
      ∀ later, (Registry.asked (colors ++ [color] ++ later)).get? color =
          some ((Registry.asked colors).nameFor color).1 ∧
        ((Registry.asked (colors ++ [color] ++ later)).nameFor color).1 =
          ((Registry.asked colors).nameFor color).1) ∧
    (∀ c d name, (Registry.asked colors).get? c = some name →
      (Registry.asked colors).get? d = some name → c = d) ∧
    ∀ color, IsColorName ((Registry.asked colors).nameFor color).1 := by
  have h := lists_asked colors
  refine ⟨⟨h.entries, ?_, ?_⟩, ?_, ?_, ?_⟩
  · rw [Registry.size, h.entries, List.length_map]
  · intro color; rw [h.get?]; simp only [List.mem_eraseDups]
  · intro color
    refine ⟨(h.nameFor color).2, fun later => ?_⟩
    have hl := lists_asked (colors ++ [color] ++ later)
    have hc : color ∈ colors ++ [color] := by simp
    have hcl : color ∈ (colors ++ [color] ++ later).eraseDups := by simp
    rw [hl.get?, if_pos hcl, hl.nameFor_of_mem hcl, (h.nameFor color).2, nameAmong_append hc]
    exact ⟨rfl, rfl⟩
  · intro c d name hc hd
    rw [h.get?] at hc hd
    split at hc <;> split at hd <;> simp only [Option.some.injEq, reduceCtorEq] at hc hd
    next hcm _ => exact nameAmong_inj hcm (hc.trans hd.symm)
  · intro color
    rw [(h.nameFor color).2]
    exact nameAmong_isColorName _ color

end TexListing
