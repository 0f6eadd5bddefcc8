import Mathlib.Data.List.Forall2
import TexListing.Proofs.Style.RgbFunction

/-!
# What a value is read as

The notation `rgb(…)` by its rules: which values are in it, which channels stand between the
parentheses, and what they come to. The rules speak of any value, in the notation or not, and say of
each fault which error it is and which of two faults counts.

* `RgbNotation`, `Channels`, `IsNumber`, `channelOf`: the parts of the notation.
* `StrictReading`: the rules.
* `rgbArguments?_eq_some_iff`: what is found between the parentheses.
* `mapM_parseChannel`, `mapM_parseChannel_error`: the channels are read one by one, and the first
  that is no number ends it.
* `channelOf_eq`: numbers in words of 32 bits are enough.
* `parseColor_strict_iff`: a value is read by the rules and not otherwise.
-/

namespace TexListing.Style

open Text

/-! ## The rules -/

/-- The name in letters of either case, and text without parentheses between the two that follow
it. -/
def RgbNotation (value arguments : List Char) : Prop :=
  '(' ∉ arguments ∧ ')' ∉ arguments ∧
    ∃ name, sameCaseless name ['r', 'g', 'b'] = true ∧ value = name ++ '(' :: (arguments ++ [')'])

/-- The channels stand between commas, with blanks around them. -/
def Channels (arguments : List Char) (channels : List (List Char)) : Prop :=
  ∃ pieces, pieces ≠ [] ∧ (∀ piece ∈ pieces, ',' ∉ piece) ∧ join ',' pieces = arguments ∧
    List.Forall₂ TrimsTo pieces channels

/-- One decimal digit or more, and nothing else. -/
def IsNumber (s : List Char) : Prop :=
  s ≠ [] ∧ ∀ c ∈ s, c.isDigit = true

instance (s : List Char) : Decidable (IsNumber s) :=
  decidable_of_iff (s ≠ [] ∧ s.all Char.isDigit = true) (by rw [IsNumber, List.all_eq_true])

/-- The channel of a number, which is the greatest one for all numbers beyond it. -/
def channelOf (digits : List Char) : UInt8 :=
  .ofNat (min 255 (Nat.ofDigitChars 10 digits 0))

/-- What a value without blanks around it is read as, where no notation but `rgb(…)` counts. -/
inductive StrictReading : List Char → Except ColorError Rgb → Prop
  /-- The value is not in the notation. -/
  | unsupported {value : List Char} (other : ∀ arguments, ¬ RgbNotation value arguments) :
      StrictReading value (.error (.unsupported (String.ofList value)))
  /-- A channel is no number, and those before it are. Whether there are three does not matter. -/
  | invalidChannel {value arguments channel : List Char} {before after : List (List Char)}
      (inNotation : RgbNotation value arguments)
      (channels : Channels arguments (before ++ channel :: after))
      (numbers : ∀ other ∈ before, IsNumber other) (invalid : ¬ IsNumber channel) :
      StrictReading value (.error (.invalidChannel (String.ofList channel)))
  /-- All channels are numbers, but there are not three of them. -/
  | channelCount {value arguments : List Char} {found : List (List Char)}
      (inNotation : RgbNotation value arguments) (channels : Channels arguments found)
      (numbers : ∀ channel ∈ found, IsNumber channel) (count : found.length ≠ 3) :
      StrictReading value (.error (.channelCount found.length))
  /-- There are three channels, and all are numbers. -/
  | color {value arguments r g b : List Char} (inNotation : RgbNotation value arguments)
      (channels : Channels arguments [r, g, b])
      (numbers : ∀ channel ∈ [r, g, b], IsNumber channel) :
      StrictReading value (.ok ⟨channelOf r, channelOf g, channelOf b⟩)

/-! ## The parts of the notation -/

/-- **What is found between the parentheses** is what the notation has there. -/
theorem rgbArguments?_eq_some_iff {value arguments : List Char} :
    rgbArguments? value = some arguments ↔ RgbNotation value arguments := by
  constructor
  · intro h
    unfold rgbArguments? at h
    split at h
    · next r g b rest =>
      split at h
      · next hname =>
        split at h
        · next inner hrest =>
          split at h
          · simp at h
          · next hany =>
            -- the value is read from its end here, where the closing parenthesis is
            have hrest' : rest = inner.reverse ++ [')'] := by
              rw [← List.reverse_cons, ← hrest, List.reverse_reverse]
            obtain rfl := Option.some.inj h
            have hinner : ∀ c ∈ inner, c ≠ '(' ∧ c ≠ ')' := by simpa using hany
            rw [RgbNotation, List.mem_reverse, List.mem_reverse]
            exact ⟨fun hm => (hinner _ hm).1 rfl, fun hm => (hinner _ hm).2 rfl, [r, g, b], hname,
              by rw [hrest']; rfl⟩
        · simp at h
      · simp at h
    · simp at h
  · rintro ⟨hopen, hclose, name, hname, rfl⟩
    obtain ⟨r, g, b, rfl⟩ : ∃ r g b, name = [r, g, b] := by
      have hlength := congrArg List.length (sameCaseless_iff.1 hname)
      rw [length_foldCase, length_foldCase] at hlength
      exact List.length_eq_three.1 hlength
    exact rgbArguments?_append hname hopen hclose

/-- **The channels are the pieces between the commas**, trimmed. -/
theorem channels_iff {arguments : List Char} {channels : List (List Char)} :
    Channels arguments channels ↔ (split ',' arguments).map trim = channels := by
  have htrim : ∀ pieces, List.Forall₂ TrimsTo pieces channels ↔ pieces.map trim = channels := by
    intro pieces
    have hrelation : TrimsTo = fun s t => trim s = t := by
      funext s t
      exact propext trimsTo_iff
    have hmap := @List.forall₂_map_left_iff _ _ _ (· = ·) trim pieces channels
    rw [List.forall₂_eq_eq_eq] at hmap
    rw [hrelation, ← hmap]
  constructor
  · rintro ⟨pieces, hne, hcomma, rfl, h⟩
    rw [split_join hne hcomma, ← htrim]
    exact h
  · intro h
    exact ⟨split ',' arguments, split_ne_nil ',' arguments, fun piece => notMem_of_mem_split,
      join_split ',' arguments, (htrim _).2 h⟩

theorem parseChannel_eq (raw : List Char) :
    parseChannel raw =
      if IsNumber (trim raw) then .ok (channelOf (trim raw))
      else .error (.invalidChannel (String.ofList (trim raw))) := by
  have hnumber : ((trim raw).isEmpty || !(trim raw).all Char.isDigit) = true ↔
      ¬ IsNumber (trim raw) := by
    rw [IsNumber, ← List.all_eq_true, Bool.or_eq_true, List.isEmpty_iff, Bool.not_eq_true',
      ← Bool.not_eq_true]
    tauto
  rw [parseChannel, channelOf, ← cappedValue_eq]
  simp only [hnumber]
  by_cases h : IsNumber (trim raw)
  · rw [if_pos h, if_neg (not_not.2 h)]
  · rw [if_neg h, if_pos h]

/-- **Channels are read one by one**, if all of them are numbers. -/
theorem mapM_parseChannel {pieces : List (List Char)}
    (h : ∀ channel ∈ pieces.map trim, IsNumber channel) :
    pieces.mapM parseChannel = .ok ((pieces.map trim).map channelOf) := by
  induction pieces with
  | nil => rfl
  | cons piece rest ih =>
    rw [List.map_cons, List.forall_mem_cons] at h
    rw [List.mapM_cons, parseChannel_eq, if_pos h.1, ih h.2]
    rfl

/-- **The first channel that is no number** ends it, whatever comes after. -/
theorem mapM_parseChannel_error {pieces : List (List Char)} {channel : List Char}
    {before after : List (List Char)} (hpieces : pieces.map trim = before ++ channel :: after)
    (hbefore : ∀ other ∈ before, IsNumber other) (hchannel : ¬ IsNumber channel) :
    pieces.mapM parseChannel = .error (.invalidChannel (String.ofList channel)) := by
  induction before generalizing pieces with
  | nil =>
    obtain ⟨piece, rest, rfl, rfl, -⟩ := List.map_eq_cons_iff.1 hpieces
    rw [List.mapM_cons, parseChannel_eq, if_neg hchannel]
    rfl
  | cons other before ih =>
    obtain ⟨piece, rest, rfl, rfl, hrest⟩ := List.map_eq_cons_iff.1 hpieces
    rw [List.forall_mem_cons] at hbefore
    rw [List.mapM_cons, parseChannel_eq, if_pos hbefore.1, ih hrest hbefore.2]
    rfl

/-- All channels are numbers, but there are not three of them. -/
theorem ofArguments_of_length_ne {arguments : List Char} {channels : List UInt8}
    (h : (split ',' arguments).mapM parseChannel = .ok channels) (hcount : channels.length ≠ 3) :
    ofArguments arguments = .error (.channelCount channels.length) := by
  unfold ofArguments
  rw [h]
  split
  · next heq => exact nomatch heq
  · next r g b heq =>
    obtain rfl := Except.ok.inj heq
    exact absurd rfl hcount
  · next heq =>
    obtain rfl := Except.ok.inj heq
    rfl

/-! ## Reading by the rules -/

theorem parseTrimmed_strict {value arguments : List Char} (h : RgbNotation value arguments) :
    parseTrimmed .strict value = ofArguments arguments := by
  rw [parseTrimmed, if_neg (by simp), rgbArguments?_eq_some_iff.2 h]

/-- **What the rules say of a value** is what it is read as. -/
theorem parseTrimmed_of_strictReading {value : List Char} {result : Except ColorError Rgb}
    (h : StrictReading value result) : parseTrimmed .strict value = result := by
  cases h with
  | unsupported other =>
    have hnone : rgbArguments? value = none := by
      rw [Option.eq_none_iff_forall_ne_some]
      intro arguments h
      exact other arguments (rgbArguments?_eq_some_iff.1 h)
    rw [parseTrimmed, if_neg (by simp), hnone]
  | invalidChannel inNotation channels numbers invalid =>
    rw [parseTrimmed_strict inNotation, ofArguments,
      mapM_parseChannel_error (channels_iff.1 channels) numbers invalid]
  | @channelCount arguments found inNotation channels numbers count =>
    have hfound := channels_iff.1 channels
    have hread := @mapM_parseChannel (split ',' arguments) (hfound ▸ numbers)
    rw [hfound] at hread
    rw [parseTrimmed_strict inNotation, ofArguments_of_length_ne hread (by simpa using count),
      List.length_map]
  | @color arguments r g b inNotation channels numbers =>
    have hfound := channels_iff.1 channels
    have hread := @mapM_parseChannel (split ',' arguments) (hfound ▸ numbers)
    rw [parseTrimmed_strict inNotation, ofArguments, hread, hfound]
    rfl

/-- **The rules speak of every value.** -/
theorem strictReading_parseTrimmed (value : List Char) :
    StrictReading value (parseTrimmed .strict value) := by
  -- whichever rule applies, its result is the one that is read
  suffices h : ∃ result, StrictReading value result by
    obtain ⟨result, hresult⟩ := h
    rw [parseTrimmed_of_strictReading hresult]
    exact hresult
  by_cases hnotation : ∃ arguments, RgbNotation value arguments
  · obtain ⟨arguments, harguments⟩ := hnotation
    have hchannels : Channels arguments ((split ',' arguments).map trim) := channels_iff.2 rfl
    -- a channel that is no number comes before the count of the channels
    cases hfind : ((split ',' arguments).map trim).find? fun channel => ¬ IsNumber channel with
    | some channel =>
      obtain ⟨hinvalid, before, after, hsplit, hbefore⟩ := List.find?_eq_some_iff_append.1 hfind
      rw [hsplit] at hchannels
      exact ⟨_, .invalidChannel harguments hchannels (by simpa using hbefore)
        (by simpa using hinvalid)⟩
    | none =>
      have hnumbers : ∀ channel ∈ (split ',' arguments).map trim, IsNumber channel := by
        simpa using List.find?_eq_none.1 hfind
      by_cases hcount : ((split ',' arguments).map trim).length = 3
      · obtain ⟨r, g, b, hthree⟩ := List.length_eq_three.1 hcount
        rw [hthree] at hchannels hnumbers
        exact ⟨_, .color harguments hchannels hnumbers⟩
      · exact ⟨_, .channelCount harguments hchannels hnumbers hcount⟩
  · exact ⟨_, .unsupported fun arguments h => hnotation ⟨arguments, h⟩⟩

/-! ## Numbers in words -/

/-- A number with one more digit, if it is in a word of 32 bits. -/
def wordStep? (n : Nat) (c : Char) : Option Nat :=
  let m := 10 * n + (c.toNat - '0'.toNat)
  if m < UInt32.size then some m else none

/-- The number of decimal digits, if it is in a word of 32 bits on the whole way. -/
def wordValue? (digits : List Char) : Option Nat :=
  digits.foldlM wordStep? 0

theorem le_ofDigitChars (digits : List Char) : ∀ n, n ≤ Nat.ofDigitChars 10 digits n := by
  induction digits with
  | nil => intro n; exact Nat.le_refl n
  | cons c rest ih =>
    intro n
    have := ih (10 * n + (c.toNat - '0'.toNat))
    rw [Nat.ofDigitChars_cons]
    omega

/-- A number is in a word on the whole way if it is in the end, since digits make it no smaller. -/
theorem foldlM_wordStep? (digits : List Char) : ∀ n < UInt32.size,
    digits.foldlM wordStep? n =
      if Nat.ofDigitChars 10 digits n < UInt32.size then some (Nat.ofDigitChars 10 digits n)
      else none := by
  induction digits with
  | nil => intro n hn; rw [Nat.ofDigitChars_nil, if_pos hn]; rfl
  | cons c rest ih =>
    intro n _
    have hle := le_ofDigitChars rest (10 * n + (c.toNat - '0'.toNat))
    rw [List.foldlM_cons, Nat.ofDigitChars_cons, wordStep?]
    split
    · next h => exact ih _ h
    · next h => rw [if_neg (by omega)]; rfl

/-- **Words of 32 bits are enough**: a number that is in none counts as the greatest that is. -/
theorem channelOf_eq (digits : List Char) :
    (channelOf digits).toNat = min 255 ((wordValue? digits).getD (UInt32.size - 1)) := by
  have hsmall : min 255 (Nat.ofDigitChars 10 digits 0) < UInt8.size :=
    Nat.lt_of_le_of_lt (Nat.min_le_left 255 _) (by decide)
  have hword : 255 ≤ UInt32.size - 1 := by decide
  rw [channelOf, UInt8.toNat_ofNat_of_lt' hsmall, wordValue?,
    foldlM_wordStep? digits 0 (by decide)]
  split
  · rfl
  · rw [Option.getD_none]
    omega

/-- **A value is read by the rules and not otherwise**, once the blanks around it are off. -/
theorem parseColor_strict_iff :
    (∀ value result, parseColor .strict value = result ↔
      ∃ trimmed, TrimsTo value.toList trimmed ∧ StrictReading trimmed result) ∧
    ∀ digits, (channelOf digits).toNat = min 255 ((wordValue? digits).getD (UInt32.size - 1)) := by
  refine ⟨fun value result => ⟨?_, ?_⟩, channelOf_eq⟩
  · rintro rfl
    exact ⟨trim value.toList, trimsTo_iff.2 rfl, strictReading_parseTrimmed _⟩
  · rintro ⟨trimmed, htrimmed, hreading⟩
    rw [parseColor, parseValue, trimsTo_iff.1 htrimmed, parseTrimmed_of_strictReading hreading]

/-- A leading zero, a number in no word, and a name in letters of both cases. -/
example : parseColor .strict "\tRgB( 007 ,99999999999999,30)\n" = .ok ⟨7, 255, 30⟩ := by decide

/-- Of two faults, the channel that is no number counts. -/
example : parseColor .strict "rgb(1, 2%)" = .error (.invalidChannel "2%") := by decide

end TexListing.Style
