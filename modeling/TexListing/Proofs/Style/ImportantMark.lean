import TexListing.Proofs.Text.Trimming
import TexListing.Style.Declaration

/-!
# The mark of a weightier declaration

A declaration may end in a mark, in letters of either case, that is no part of its value. One mark
comes off, with the blanks before it, and a value without a mark stays as it is. The mark has as many
bytes as characters, so it can be cut off by bytes as well: the cut never falls within a character.

* `IsMark`, `Marked`: a mark, and a value that ends in one.
* `marked_iff`: whether it does is told by its last characters.
* `stripImportant_append`, `stripImportant_eq_of_not_marked`: what comes off.
* `stripImportant_trim`: so it does from a value that has yet to be trimmed.
* `cutImportant?`, `cutImportant?_eq`: the mark cut off by bytes.
-/

namespace TexListing.Style

open Text

/-! ## Letters of either case -/

/-- Letters of either case are no blanks. -/
theorem isBlank_toLower (c : Char) : isBlank c.toLower = isBlank c := by
  refine forall_ascii_or ?_ (fun c hc => ?_) c
  · decide +kernel
  · rw [toLower_of_le hc]

theorem utf8Size_toLower (c : Char) : c.toLower.utf8Size = c.utf8Size := by
  refine forall_ascii_or ?_ (fun c hc => ?_) c
  · decide +kernel
  · rw [toLower_of_le hc]

theorem utf8ByteSize_ofList_cons (c : Char) (s : List Char) :
    (String.ofList (c :: s)).utf8ByteSize = c.utf8Size + (String.ofList s).utf8ByteSize := by
  rw [← List.singleton_append, String.ofList_append, String.utf8ByteSize_append,
    ← String.singleton_eq_ofList, String.utf8ByteSize_singleton]

/-- The case of letters does not change the number of bytes. -/
theorem utf8ByteSize_foldCase (s : List Char) :
    (String.ofList (foldCase s)).utf8ByteSize = (String.ofList s).utf8ByteSize := by
  induction s with
  | nil => rfl
  | cons c rest ih =>
    rw [foldCase, List.map_cons, utf8ByteSize_ofList_cons, utf8ByteSize_ofList_cons,
      utf8Size_toLower, ← ih, foldCase]

theorem trimmed_of_foldCase {s : List Char} (h : Trimmed (foldCase s)) : Trimmed s where
  start c hc := by
    rw [← isBlank_toLower]
    refine h.start c.toLower ?_
    rw [foldCase, List.head?_map, Option.mem_def.1 hc]
    rfl
  finish c hc := by
    rw [← isBlank_toLower]
    refine h.finish c.toLower ?_
    rw [foldCase, List.getLast?_map, Option.mem_def.1 hc]
    rfl

/-! ## Marks -/

/-- The characters are the mark, in letters of either case. -/
def IsMark (mark : List Char) : Prop :=
  foldCase mark = importantMark

instance (mark : List Char) : Decidable (IsMark mark) :=
  inferInstanceAs (Decidable (foldCase mark = importantMark))

/-- The value ends in a mark. -/
def Marked (value : List Char) : Prop :=
  ∃ base mark, IsMark mark ∧ value = base ++ mark

theorem isMark_iff {mark : List Char} : sameCaseless mark importantMark = true ↔ IsMark mark :=
  sameCaseless_iff

theorem IsMark.length_eq {mark : List Char} (h : IsMark mark) :
    mark.length = importantMark.length := by
  rw [← length_foldCase, h]

/-- No blank stands at either end of a mark. -/
theorem IsMark.trimmed {mark : List Char} (h : IsMark mark) : Trimmed mark := by
  refine trimmed_of_foldCase ?_
  rw [h]
  decide

/-- A mark is what is cut off by its length. -/
theorem length_append_sub {mark : List Char} (h : IsMark mark) (base : List Char) :
    (base ++ mark).length - importantMark.length = base.length := by
  rw [List.length_append, h.length_eq, Nat.add_sub_cancel]

/-- Whether a value ends in a mark is told by its last characters. -/
theorem marked_iff {value : List Char} :
    Marked value ↔ IsMark (value.drop (value.length - importantMark.length)) := by
  constructor
  · rintro ⟨base, mark, hmark, rfl⟩
    rw [length_append_sub hmark, List.drop_left]
    exact hmark
  · intro hmark
    exact ⟨_, _, hmark, (List.take_append_drop _ value).symm⟩

instance (value : List Char) : Decidable (Marked value) :=
  decidable_of_iff _ marked_iff.symm

/-- **A mark comes off**, with the blanks before it. -/
theorem stripImportant_append {mark : List Char} (h : IsMark mark) (base : List Char) :
    stripImportant (base ++ mark) = trimEnd base := by
  unfold stripImportant
  simp only
  rw [length_append_sub h, List.drop_left, List.take_left, if_pos (isMark_iff.2 h)]

/-- **A value without a mark stays as it is.** -/
theorem stripImportant_eq_of_not_marked {value : List Char} (h : ¬ Marked value) :
    stripImportant value = value := by
  unfold stripImportant
  simp only
  exact if_neg fun hmark => h (marked_iff.2 (isMark_iff.1 hmark))

/-- **A mark comes off a value that has yet to be trimmed**, and what is left is trimmed. -/
theorem stripImportant_trim {mark after : List Char} (hmark : IsMark mark) (hafter : Blanks after)
    (s : List Char) : stripImportant (trim (s ++ mark ++ after)) = trim s := by
  have hne : mark ≠ [] := by
    rintro rfl
    exact absurd hmark (by decide)
  rw [trim_append_blanks hafter, trim_append hmark.trimmed hne, stripImportant_append hmark, trim]

/-! ## Bytes -/

/-- The part of a text from an offset of bytes on, if the offset does not fall within a character. -/
def sliceFrom? (s : String) (offset : Nat) : Option String :=
  if h : String.Pos.Raw.IsValid s ⟨offset⟩ then some (s.sliceFrom (s.pos ⟨offset⟩ h)).copy else none

/-- The part of a text before an offset of bytes, if the offset does not fall within a character. -/
def sliceTo? (s : String) (offset : Nat) : Option String :=
  if h : String.Pos.Raw.IsValid s ⟨offset⟩ then some (s.sliceTo (s.pos ⟨offset⟩ h)).copy else none

/-- The value without the mark, cut off by bytes. There is no result if a cut falls within a
character. -/
def cutImportant? (value : String) : Option String :=
  let offset := value.utf8ByteSize - 10
  if 10 ≤ value.utf8ByteSize ∧ String.Pos.Raw.IsValid value ⟨offset⟩ then do
    let mark ← sliceFrom? value offset
    if mark.sameCaseless "!important" then
      let base ← sliceTo? value offset
      return String.ofList (trimEnd base.toList)
    else return value
  else return value

theorem isValid_append (base mark : String) :
    String.Pos.Raw.IsValid (base ++ mark) ⟨base.utf8ByteSize⟩ :=
  String.Pos.Raw.isValid_iff_exists_append.2 ⟨base, mark, rfl, rfl⟩

/-- The offset after the first of two texts comes between them. -/
theorem splits_append (base mark : String) :
    ((base ++ mark).pos _ (isValid_append base mark)).Splits base mark :=
  ⟨rfl, rfl⟩

theorem sliceFrom?_append (base mark : String) :
    sliceFrom? (base ++ mark) base.utf8ByteSize = some mark := by
  have hcut := isValid_append base mark
  rw [sliceFrom?, dif_pos hcut,
    ((base ++ mark).pos _ hcut).splits.eq_right (splits_append base mark)]

theorem sliceTo?_append (base mark : String) :
    sliceTo? (base ++ mark) base.utf8ByteSize = some base := by
  have hcut := isValid_append base mark
  rw [sliceTo?, dif_pos hcut,
    ((base ++ mark).pos _ hcut).splits.eq_left (splits_append base mark)]

/-- **The mark can be cut off by bytes**, whatever characters stand before it. -/
theorem cutImportant?_eq (value : String) :
    cutImportant? value = some (String.ofList (stripImportant value.toList)) := by
  have hsame : ∀ s : String, s.sameCaseless "!important" = true ↔ IsMark s.toList :=
    fun s => isMark_iff
  by_cases hmarked : Marked value.toList
  · obtain ⟨base, mark, hmark, hvalue⟩ := hmarked
    obtain rfl : value = String.ofList base ++ String.ofList mark := by
      rw [← String.ofList_append, ← hvalue, String.ofList_toList]
    have hten : (String.ofList mark).utf8ByteSize = 10 := by
      rw [← utf8ByteSize_foldCase mark, hmark]
      rfl
    have hoffset : (String.ofList base ++ String.ofList mark).utf8ByteSize - 10 =
        (String.ofList base).utf8ByteSize := by
      rw [String.utf8ByteSize_append, hten, Nat.add_sub_cancel]
    have hlong : 10 ≤ (String.ofList base ++ String.ofList mark).utf8ByteSize := by
      rw [String.utf8ByteSize_append, hten]
      omega
    unfold cutImportant?
    simp only
    rw [hoffset, if_pos ⟨hlong, isValid_append _ _⟩, sliceFrom?_append, Option.bind_eq_bind,
      Option.bind_some, if_pos ((hsame _).2 (by rwa [String.toList_ofList])), sliceTo?_append,
      Option.bind_some, String.toList_ofList, hvalue, stripImportant_append hmark]
    rfl
  · rw [stripImportant_eq_of_not_marked hmarked, String.ofList_toList]
    unfold cutImportant?
    simp only
    split
    · next hcut =>
      -- the cut comes between two parts, and the second is no mark
      obtain ⟨base, mark, hvalue, hoffset⟩ := String.Pos.Raw.isValid_iff_exists_append.1 hcut.2
      have hsize : value.utf8ByteSize - 10 = base.utf8ByteSize :=
        congrArg String.Pos.Raw.byteIdx hoffset
      have hdiffers : ¬ mark.sameCaseless "!important" = true := fun hmark =>
        hmarked ⟨base.toList, mark.toList, (hsame mark).1 hmark, by
          rw [hvalue, String.toList_append]⟩
      rw [hsize, hvalue, sliceFrom?_append, Option.bind_eq_bind, Option.bind_some, if_neg hdiffers]
      rfl
    · rfl

end TexListing.Style
