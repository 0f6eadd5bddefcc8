import TexListing.Proofs.Text.Decimal
import TexListing.Proofs.Text.Trimming
import TexListing.Style.ColorValue

/-!
# The notation `rgb(r, g, b)`

The notation in which colours are read whatever other notations are, and the colour that is read
from it.

* `cappedValue_eq`: the value of digits of any number, where all from 255 on count as 255.
* `parseChannel_toString`: a channel in decimal is read as that channel.
* `rgbFunction`: a colour in the notation, with a blank after each comma.
* `parseTrimmed_rgbFunction`: it is read as that colour.
-/

namespace TexListing.Style

open Text

theorem isBlank_of_isDigit {c : Char} (h : c.isDigit = true) : isBlank c = false := by
  have hdigit : 48 ≤ c.toNat ∧ c.toNat ≤ 57 := by
    simp only [Char.isDigit, ge_iff_le, Bool.and_eq_true, decide_eq_true_eq] at h
    exact ⟨UInt32.le_iff_toNat_le.1 h.1, UInt32.le_iff_toNat_le.1 h.2⟩
  rw [Bool.eq_false_iff, isBlank, ne_eq, inRanges_iff]
  rintro ⟨range, hrange, hle, hge⟩
  have houtside : ∀ range ∈ blankRanges, range.2 < 48 ∨ 57 < range.1 := by decide
  have := houtside range hrange
  omega

/-- A text of digits has no blank to be trimmed. -/
theorem trimmed_of_isDigit {s : List Char} (h : ∀ c ∈ s, c.isDigit = true) : Trimmed s where
  start c hc := isBlank_of_isDigit (h c (List.mem_of_mem_head? hc))
  finish c hc := isBlank_of_isDigit (h c (List.mem_of_getLast? hc))

/-- **The value of digits** is the number that they stand for, or 255 if the number is greater. -/
theorem cappedValue_eq (digits : List Char) :
    cappedValue digits = min 255 (Nat.ofDigitChars 10 digits 0) := by
  -- a value that has been capped on the way comes to the same, since digits make it no smaller
  have hfold : ∀ n, digits.foldl (fun n c => min 255 (10 * n + (c.toNat - '0'.toNat))) (min 255 n) =
      min 255 (Nat.ofDigitChars 10 digits n) := by
    induction digits with
    | nil => intro n; rfl
    | cons c rest ih =>
      intro n
      rw [List.foldl_cons, Nat.ofDigitChars_cons, ← ih]
      congr 1
      omega
  exact hfold 0

/-- **A channel in decimal is read as that channel.** -/
theorem parseChannel_toString (x : UInt8) : parseChannel (toString x.toNat).toList = .ok x := by
  have hdigits : ∀ c ∈ (toString x.toNat).toList, c.isDigit = true :=
    fun c hc => isDigit_of_mem_toString hc
  have hne : (toString x.toNat).toList.isEmpty = false :=
    List.isEmpty_eq_false_iff.2 (toString_toList_ne_nil x.toNat)
  have hall : (toString x.toNat).toList.all Char.isDigit = true := List.all_eq_true.2 hdigits
  have hsmall := x.toNat_lt
  rw [parseChannel, trim_eq_self (trimmed_of_isDigit hdigits), hne, hall]
  simp only [Bool.not_true, Bool.or_self, Bool.false_eq_true, if_false]
  rw [cappedValue_eq, ofDigitChars_toString, Nat.min_eq_right (by omega), UInt8.ofNat_toNat]

theorem parseChannel_blank_cons {c : Char} (h : isBlank c = true) (s : List Char) :
    parseChannel (c :: s) = parseChannel s := by
  rw [parseChannel, parseChannel, trim_blank_cons h]

/-- The arguments of the function come off, if they hold no parenthesis. -/
theorem rgbArguments?_append {r g b : Char} (hname : sameCaseless [r, g, b] ['r', 'g', 'b'] = true)
    {arguments : List Char} (hopen : '(' ∉ arguments) (hclose : ')' ∉ arguments) :
    rgbArguments? (r :: g :: b :: '(' :: (arguments ++ [')'])) = some arguments := by
  have hany : (arguments.reverse.any fun c => c == '(' || c == ')') = false := by
    rw [List.any_eq_false]
    intro c hc
    rw [List.mem_reverse] at hc
    have h1 : c ≠ '(' := fun h => hopen (h ▸ hc)
    have h2 : c ≠ ')' := fun h => hclose (h ▸ hc)
    simp [h1, h2]
  rw [rgbArguments?, if_pos hname, List.reverse_append]
  simp only [List.reverse_singleton, List.singleton_append]
  rw [hany]
  simp

/-- The channels in decimal, with a comma and a blank between them. -/
def rgbChannels (color : Rgb) : List Char :=
  (toString color.r.toNat).toList ++
    ',' :: ' ' :: ((toString color.g.toNat).toList ++
      ',' :: ' ' :: (toString color.b.toNat).toList)

/-- A colour as `rgb(r, g, b)`. -/
def rgbFunction (color : Rgb) : List Char :=
  'r' :: 'g' :: 'b' :: '(' :: (rgbChannels color ++ [')'])

theorem notMem_rgbChannels {sep : Char} (hdigit : sep.isDigit = false) (hcomma : sep ≠ ',')
    (hblank : sep ≠ ' ') (color : Rgb) : sep ∉ rgbChannels color := by
  simp only [rgbChannels, List.mem_append, List.mem_cons, notMem_toString hdigit, hcomma, hblank,
    or_false, not_false_eq_true]

theorem ofArguments_rgbChannels (color : Rgb) : ofArguments (rgbChannels color) = .ok color := by
  have hcomma : ∀ n : Nat, ',' ∉ (toString n).toList := notMem_toString rfl
  have hcomma' : ∀ n : Nat, ',' ∉ ' ' :: (toString n).toList := by
    intro n
    simp only [List.mem_cons, hcomma, or_false]
    decide
  have hblank : isBlank ' ' = true := rfl
  have hsplit : split ',' (rgbChannels color) =
      [(toString color.r.toNat).toList, ' ' :: (toString color.g.toNat).toList,
        ' ' :: (toString color.b.toNat).toList] := by
    rw [rgbChannels, split_append_cons (hcomma _), ← List.cons_append,
      split_append_cons (hcomma' _), split_of_notMem (hcomma' _)]
  rw [ofArguments, hsplit]
  simp only [List.mapM_cons, List.mapM_nil, parseChannel_blank_cons hblank, parseChannel_toString]
  rfl

theorem getLast?_rgbFunction (color : Rgb) : (rgbFunction color).getLast? = some ')' :=
  @List.getLast?_concat _ ('r' :: 'g' :: 'b' :: '(' :: rgbChannels color) ')'

theorem trimmed_rgbFunction (color : Rgb) : Trimmed (rgbFunction color) where
  start c hc := by
    rw [rgbFunction, List.head?_cons, Option.mem_some] at hc
    rw [← hc]
    rfl
  finish c hc := by
    rw [getLast?_rgbFunction, Option.mem_some] at hc
    rw [← hc]
    rfl

/-- **A colour in the notation is read as that colour**, whatever other notations are read. -/
theorem parseTrimmed_rgbFunction (colorSyntax : ColorSyntax) (color : Rgb) :
    parseTrimmed colorSyntax (rgbFunction color) = .ok color := by
  have hhead : (rgbFunction color).head? ≠ some '#' := by
    rw [rgbFunction, List.head?_cons]
    decide
  have harguments : rgbArguments? (rgbFunction color) = some (rgbChannels color) :=
    rgbArguments?_append (sameCaseless_self _)
      (notMem_rgbChannels rfl (by decide) (by decide) color)
      (notMem_rgbChannels rfl (by decide) (by decide) color)
  rw [parseTrimmed, if_neg fun h => hhead h.2, harguments]
  exact ofArguments_rgbChannels color

end TexListing.Style
