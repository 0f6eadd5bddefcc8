import Mathlib.Data.List.Chain
import TexListing.Proofs.Listing.ReadBack

/-!
# Escaped text as TeX reads it

TeX reads a text token by token, and the name of a command goes on for as long as letters follow. So
a command that shows a character swallows the letters after it. An escaped text is read character by
character exactly if no character that is shown by a command has a letter after it; otherwise it
calls a command of another name, which TeX may not know.

* `tokens`: the tokens of a text, which spell the text (`flatMap_chars_tokens`).
* `Token.showing`: the token that shows one character.
* `merged`: the tokens of an escaped text in closed form (`tokens_escapeChars_append`).
* `Apart`: no character that is shown by a command has a letter after it.
* `merged_of_apart`, `exists_foreign_of_not_apart`: the tokens in either case.
* `exists_of_symbol_mem`: where the symbols of an escaped text come from.
* `tokens_escape`: all of it, for every text.
-/

namespace TexListing.Latex

open Listing

/-! ## Tokens -/

/-- What TeX reads at once. -/
inductive Token where
  /-- A backslash and letters. -/
  | word (name : List Char)
  /-- A backslash and another character. -/
  | symbol (c : Char)
  /-- A character without a backslash before it. -/
  | plain (c : Char)
deriving DecidableEq, Repr

/-- The characters of a token. -/
def Token.chars : Token → List Char
  | word name => '\\' :: name
  | symbol c => ['\\', c]
  | plain c => [c]

/-- The tokens of a text. A backslash with a letter after it takes in all letters up to the next
other character. -/
def tokens : List Char → List Token
  | [] => []
  | '\\' :: c :: rest =>
    if c.isAlpha then
      .word (c :: rest.takeWhile Char.isAlpha) :: tokens (rest.dropWhile Char.isAlpha)
    else .symbol c :: tokens rest
  | c :: rest => .plain c :: tokens rest
termination_by s => s.length
decreasing_by
  · have hdrop := (List.dropWhile_sublist (p := Char.isAlpha) (l := rest)).length_le
    simp only [List.length_cons]
    omega
  · simp only [List.length_cons]
    omega
  · simp

/-- **Tokens spell the text** that they are read from. -/
theorem flatMap_chars_tokens (s : List Char) : (tokens s).flatMap Token.chars = s := by
  fun_induction tokens s with
  | case1 => rfl
  | case2 c rest hc ih =>
    rw [List.flatMap_cons, ih, Token.chars, List.cons_append, List.cons_append,
      List.takeWhile_append_dropWhile]
  | case3 c rest hc ih => rw [List.flatMap_cons, ih]; rfl
  | case4 c rest hne ih => rw [List.flatMap_cons, ih]; rfl

/-- The token stands for itself: a command has a name of letters, a symbol is no letter, and no
backslash is on its own. -/
def Token.Proper : Token → Prop
  | word name => name ≠ [] ∧ ∀ c ∈ name, c.isAlpha = true
  | symbol c => c.isAlpha = false
  | plain c => c ≠ '\\'

/-- The name of a command goes on with the letters after it. -/
theorem tokens_word_append {name : List Char} (h : (Token.word name).Proper) (rest : List Char) :
    tokens ((Token.word name).chars ++ rest) =
      .word (name ++ rest.takeWhile Char.isAlpha) :: tokens (rest.dropWhile Char.isAlpha) := by
  obtain ⟨hne, hletters⟩ := h
  obtain ⟨c, name, rfl⟩ := List.exists_cons_of_ne_nil hne
  rw [List.forall_mem_cons] at hletters
  rw [Token.chars, List.cons_append, List.cons_append, tokens, if_pos hletters.1,
    List.takeWhile_append_of_pos hletters.2, List.dropWhile_append_of_pos hletters.2,
    List.cons_append]

/-- Any other token ends where it ends. -/
theorem tokens_chars_append {token : Token} (h : token.Proper)
    (hword : ∀ name, token ≠ .word name) (rest : List Char) :
    tokens (token.chars ++ rest) = token :: tokens rest := by
  cases token with
  | word name => exact absurd rfl (hword name)
  | symbol c =>
    rw [Token.Proper] at h
    rw [Token.chars, List.cons_append, List.cons_append, List.nil_append, tokens, h]
    rfl
  | plain c =>
    rw [Token.Proper] at h
    rw [Token.chars, List.singleton_append, tokens]
    intro d rest' hc
    exact absurd hc h

/-! ## Characters -/

/-- The token that shows a character. -/
def Token.showing (c : Char) : Token :=
  match c with
  | '\\' => .word "textbackslash".toList
  | '~' => .word "textasciitilde".toList
  | '^' => .word "textasciicircum".toList
  | '\x7b' | '\x7d' | '&' | '%' | '$' | '#' | '_' => .symbol c
  | _ => .plain c

theorem showing_command {name : List Char} {c : Char} (h : (name, c) ∈ commands) :
    Token.showing c = .word name := by
  simp only [commands, List.mem_cons, Prod.mk.injEq, List.not_mem_nil, or_false] at h
  rcases h with ⟨rfl, rfl⟩ | ⟨rfl, rfl⟩ | ⟨rfl, rfl⟩ <;> rfl

/-- A character is shown by a symbol, by a command or by itself. -/
theorem showing_cases (c : Char) :
    (c ∈ symbols ∧ Token.showing c = .symbol c) ∨
      (∃ name, (name, c) ∈ commands ∧ Token.showing c = .word name) ∨
      (c ∉ '\\' :: '~' :: '^' :: symbols ∧ Token.showing c = .plain c) := by
  rcases escapeChar_cases c with ⟨hc, -⟩ | ⟨name, hc, -⟩ | ⟨hc, -⟩
  · refine .inl ⟨hc, ?_⟩
    simp only [symbols, List.mem_cons, List.not_mem_nil, or_false] at hc
    rcases hc with rfl | rfl | rfl | rfl | rfl | rfl | rfl <;> rfl
  · exact .inr (.inl ⟨name, hc, showing_command hc⟩)
  · refine .inr (.inr ⟨hc, ?_⟩)
    simp only [symbols, List.mem_cons, List.not_mem_nil, or_false, not_or] at hc
    unfold Token.showing
    split <;> first | contradiction | rfl

/-- Escaping writes the token that shows a character. -/
theorem chars_showing (c : Char) : (Token.showing c).chars = escapeChar c := by
  rcases showing_cases c with ⟨hc, hs⟩ | ⟨name, hc, hs⟩ | ⟨hc, hs⟩ <;> rw [hs, Token.chars]
  · exact (escapeChar_symbol hc).symm
  · exact (escapeChar_command hc).symm
  · exact (escapeChar_of_notMem hc).symm

/-- No character with a meaning of its own is a letter. -/
theorem isAlpha_of_special {c : Char} (h : c ∈ '\\' :: '~' :: '^' :: symbols) :
    c.isAlpha = false := by
  have hspecial : ('\\' :: '~' :: '^' :: symbols).all (!·.isAlpha) = true := by decide
  simpa using List.all_eq_true.1 hspecial c h

theorem special_of_symbol {c : Char} (h : c ∈ symbols) : c ∈ '\\' :: '~' :: '^' :: symbols :=
  List.mem_cons_of_mem _ (List.mem_cons_of_mem _ (List.mem_cons_of_mem _ h))

theorem proper_command {command : List Char × Char} (h : command ∈ commands) :
    (Token.word command.1).Proper := by
  have hnames : commands.all (fun command => !command.1.isEmpty && command.1.all Char.isAlpha) =
      true := by decide
  have hname := List.all_eq_true.1 hnames command h
  rw [Bool.and_eq_true, List.all_eq_true] at hname
  exact ⟨by simpa using hname.1, hname.2⟩

theorem proper_showing (c : Char) : (Token.showing c).Proper := by
  rcases showing_cases c with ⟨hc, hs⟩ | ⟨name, hc, hs⟩ | ⟨hc, hs⟩ <;> rw [hs]
  · exact isAlpha_of_special (special_of_symbol hc)
  · exact proper_command hc
  · intro hbackslash
    exact hc (by simp [hbackslash])

/-- A letter shows itself, and any other character is shown by something that starts with no
letter. -/
theorem escapeChar_letter {c : Char} (h : c.isAlpha = true) : escapeChar c = [c] := by
  refine escapeChar_of_notMem fun hc => ?_
  rw [isAlpha_of_special hc] at h
  exact Bool.false_ne_true h

/-- A text that starts with no letter has no letters at its start. -/
theorem takeWhile_of_head {s : List Char} (h : ∀ c ∈ s.head?, c.isAlpha = false) :
    s.takeWhile Char.isAlpha = [] ∧ s.dropWhile Char.isAlpha = s := by
  cases s with
  | nil => exact ⟨rfl, rfl⟩
  | cons c s =>
    have hc := h c rfl
    rw [List.takeWhile_cons_of_neg (by simp [hc]), List.dropWhile_cons_of_neg (by simp [hc])]
    exact ⟨rfl, rfl⟩

theorem head_escapeChar {c : Char} (h : c.isAlpha = false) (rest : List Char) :
    ∀ d ∈ (escapeChar c ++ rest).head?, d.isAlpha = false := by
  have hbackslash : Char.isAlpha '\\' = false := by decide
  rcases escapeChar_cases c with ⟨-, he⟩ | ⟨name, -, he⟩ | ⟨-, he⟩ <;> simp [he, hbackslash, h]

/-- **Escaping keeps the letters at the start of a text**, and all that comes after them. -/
theorem takeWhile_escapeChars (s : List Char) {rest : List Char}
    (h : ∀ c ∈ rest.head?, c.isAlpha = false) :
    (escapeChars s ++ rest).takeWhile Char.isAlpha = s.takeWhile Char.isAlpha ∧
      (escapeChars s ++ rest).dropWhile Char.isAlpha =
        escapeChars (s.dropWhile Char.isAlpha) ++ rest := by
  induction s with
  | nil => exact takeWhile_of_head h
  | cons c s ih =>
    rw [escapeChars, List.flatMap_cons, List.append_assoc, ← escapeChars]
    cases hc : c.isAlpha with
    | true => simp [escapeChar_letter hc, hc, ih]
    | false =>
      obtain ⟨htake, hdrop⟩ := takeWhile_of_head (head_escapeChar hc (escapeChars s ++ rest))
      rw [htake, hdrop, List.takeWhile_cons_of_neg (by simp [hc]),
        List.dropWhile_cons_of_neg (by simp [hc]), escapeChars, escapeChars, List.flatMap_cons,
        List.append_assoc]
      exact ⟨rfl, rfl⟩

/-! ## Escaped texts -/

/-- The tokens of an escaped text in closed form: each character gives the token that shows it, but
a command takes in the letters after it. -/
def merged : List Char → List Token
  | [] => []
  | c :: s =>
    match Token.showing c with
    | .word name => .word (name ++ s.takeWhile Char.isAlpha) :: merged (s.dropWhile Char.isAlpha)
    | token => token :: merged s
termination_by s => s.length
decreasing_by
  · have hdrop := (List.dropWhile_sublist (p := Char.isAlpha) (l := s)).length_le
    simp only [List.length_cons]
    omega
  · simp

/-- **The tokens of an escaped text**, with anything after it that starts with no letter. -/
theorem tokens_escapeChars_append (s : List Char) {rest : List Char}
    (h : ∀ c ∈ rest.head?, c.isAlpha = false) :
    tokens (escapeChars s ++ rest) = merged s ++ tokens rest := by
  fun_induction merged s with
  | case1 => rfl
  | case2 c s name hs ih =>
    have hproper := proper_showing c
    rw [hs] at hproper
    obtain ⟨htake, hdrop⟩ := takeWhile_escapeChars s h
    rw [escapeChars, List.flatMap_cons, List.append_assoc, ← escapeChars, ← chars_showing, hs,
      tokens_word_append hproper, htake, hdrop, ih, List.cons_append]
  | case3 c s hs ih =>
    rw [escapeChars, List.flatMap_cons, List.append_assoc, ← escapeChars, ← chars_showing,
      tokens_chars_append (proper_showing c) hs, ih, List.cons_append]

theorem tokens_escapeChars (s : List Char) : tokens (escapeChars s) = merged s := by
  have h := @tokens_escapeChars_append s [] (by simp)
  rwa [List.append_nil, tokens, List.append_nil] at h

/-- No character that is shown by a command has a letter after it. -/
def Apart (s : List Char) : Prop :=
  s.IsChain fun c d => c ∈ commands.map Prod.snd → d.isAlpha = false

instance (s : List Char) : Decidable (Apart s) :=
  inferInstanceAs (Decidable (s.IsChain _))

/-- The name of a command that shows a character is one of the names that do. -/
theorem mem_of_showing {c : Char} {name : List Char} (h : Token.showing c = .word name) :
    (name, c) ∈ commands := by
  rcases showing_cases c with ⟨-, hs⟩ | ⟨name', hc, hs⟩ | ⟨-, hs⟩ <;> rw [hs] at h
  · exact absurd h Token.noConfusion
  · rw [← Token.word.inj h]
    exact hc
  · exact absurd h Token.noConfusion

/-- A character without a letter after it gives the token that shows it. -/
theorem merged_cons {c : Char} {s : List Char}
    (h : c ∈ commands.map Prod.snd → ∀ d ∈ s.head?, d.isAlpha = false) :
    merged (c :: s) = Token.showing c :: merged s := by
  rw [merged]
  split
  · next name hs =>
    have hcommand : c ∈ commands.map Prod.snd := List.mem_map_of_mem (mem_of_showing hs)
    obtain ⟨htake, hdrop⟩ := takeWhile_of_head (h hcommand)
    rw [htake, hdrop, List.append_nil, hs]
  · rfl

/-- **A text whose commands have no letters after them** gives one token for each character. -/
theorem merged_of_apart {s : List Char} (h : Apart s) : merged s = s.map Token.showing := by
  induction s with
  | nil => rw [merged]; rfl
  | cons c s ih =>
    obtain ⟨hfirst, hrest⟩ := List.isChain_cons.1 h
    rw [merged_cons fun hc d hd => hfirst d hd hc, ih hrest, List.map_cons]

/-- No name of a command that shows a character starts another one. -/
theorem append_notMem_commands {name letters : List Char} (h : name ∈ commands.map Prod.fst)
    (hne : letters ≠ []) : name ++ letters ∉ commands.map Prod.fst := by
  have hfree : ∀ name ∈ commands.map Prod.fst, ∀ other ∈ commands.map Prod.fst,
      name <+: other → name = other := by decide
  intro hmem
  have hsame := hfree name h _ hmem (List.prefix_append name letters)
  exact hne (List.self_eq_append_right.1 hsame)

/-- **Any other text calls a command of another name** than those that show characters. -/
theorem exists_foreign_of_not_apart {s : List Char} (h : ¬ Apart s) :
    ∃ name, .word name ∈ merged s ∧ name ∉ commands.map Prod.fst := by
  induction s with
  | nil => exact absurd List.isChain_nil h
  | cons c s ih =>
    by_cases hfirst : c ∈ commands.map Prod.snd → ∀ d ∈ s.head?, d.isAlpha = false
    · -- what goes wrong is further on, and the first character does not take it in
      have hrest : ¬ Apart s := fun hrest =>
        h (List.isChain_cons.2 ⟨fun d hd hc => hfirst hc d hd, hrest⟩)
      obtain ⟨name, hname, hforeign⟩ := ih hrest
      rw [merged_cons hfirst]
      exact ⟨name, List.mem_cons_of_mem _ hname, hforeign⟩
    · -- the first command takes in at least one letter
      simp only [not_forall] at hfirst
      obtain ⟨hcommand, d, hd, hletter⟩ := hfirst
      obtain ⟨command, hmem, rfl⟩ := List.mem_map.1 hcommand
      have hletters : s.takeWhile Char.isAlpha ≠ [] := by
        obtain ⟨rest, rfl⟩ := List.head?_eq_some_iff.1 (Option.mem_def.1 hd)
        rw [List.takeWhile_cons_of_pos (by simpa using hletter)]
        exact List.cons_ne_nil _ _
      refine ⟨command.1 ++ s.takeWhile Char.isAlpha, ?_,
        append_notMem_commands (List.mem_map_of_mem hmem) hletters⟩
      rw [merged, showing_command hmem]
      exact List.mem_cons_self

/-! ## Symbols -/

/-- A symbol stands nowhere but after the backslash that shows it. -/
theorem eq_of_symbol_mem {x c : Char} {before after : List Char} (hc : c ∈ symbols)
    (h : escapeChar x = before ++ c :: after) : x = c ∧ before = ['\\'] ∧ after = [] := by
  have hbackslash : '\\' ∉ symbols := by decide
  have hletter := isAlpha_of_special (special_of_symbol hc)
  have hmem : c ∈ escapeChar x := by rw [h]; simp
  rcases escapeChar_cases x with ⟨hx, he⟩ | ⟨name, hx, he⟩ | ⟨hx, he⟩ <;> rw [he] at h hmem
  · -- the backslash is no symbol, so it is the character itself
    rcases before with - | ⟨b, before⟩
    · rw [List.nil_append, List.cons.injEq] at h
      exact absurd (h.1 ▸ hc) hbackslash
    · rw [List.cons_append, List.cons.injEq] at h
      obtain ⟨rfl, h⟩ := h
      rcases before with - | ⟨b, before⟩
      · rw [List.nil_append, List.cons.injEq] at h
        exact ⟨h.1, rfl, h.2.symm⟩
      · simp at h
  · rcases List.mem_cons.1 hmem with rfl | hname
    · exact absurd hc hbackslash
    · exact absurd ((proper_command hx).2 c hname) (by simp [hletter])
  · rw [List.mem_singleton] at hmem
    exact absurd (by simp [← hmem, hc]) hx

/-- **Where a symbol of an escaped text comes from**: it stands for the same character of the
text. -/
theorem exists_of_symbol_mem {s before after : List Char} {c : Char} (hc : c ∈ symbols)
    (h : escapeChars s = before ++ c :: after) :
    ∃ p q, s = p ++ c :: q ∧ before = escapeChars p ++ ['\\'] ∧ after = escapeChars q := by
  induction s generalizing before with
  | nil => simp [escapeChars] at h
  | cons x s ih =>
    rw [escapeChars, List.flatMap_cons, ← escapeChars, List.append_eq_append_iff] at h
    rcases h with ⟨more, rfl, h⟩ | ⟨more, hx, h⟩
    · obtain ⟨p, q, rfl, rfl, rfl⟩ := ih h
      refine ⟨x :: p, q, rfl, ?_, rfl⟩
      simp [escapeChars]
    · rcases more with - | ⟨d, more⟩
      · -- the symbol would come first in what is shown of the other characters
        obtain ⟨p, q, -, hbefore, -⟩ := @ih [] h.symm
        simp at hbefore
      · rw [List.cons_append, List.cons.injEq] at h
        obtain ⟨rfl, rfl⟩ := h
        obtain ⟨rfl, rfl, rfl⟩ := eq_of_symbol_mem hc hx
        exact ⟨[], s, rfl, rfl, rfl⟩

/-- A character that is shown by the name of a command is left out of what is shown. -/
theorem notMem_escapeChars {c : Char} (hspecial : c ∈ '\\' :: '~' :: '^' :: symbols)
    (hbackslash : c ≠ '\\') (hsymbol : c ∉ symbols) (s : List Char) : c ∉ escapeChars s := by
  rw [escapeChars, List.mem_flatMap]
  rintro ⟨x, -, hx⟩
  rcases escapeChar_cases x with ⟨hc, he⟩ | ⟨name, hc, he⟩ | ⟨hc, he⟩ <;> rw [he] at hx
  · simp only [List.mem_cons, List.not_mem_nil, or_false] at hx
    rcases hx with hx | rfl
    · exact hbackslash hx
    · exact hsymbol hc
  · rcases List.mem_cons.1 hx with hx | hname
    · exact hbackslash hx
    · have hletter := (proper_command hc).2 c hname
      rw [isAlpha_of_special hspecial] at hletter
      exact Bool.false_ne_true hletter
  · rw [List.mem_singleton] at hx
    exact hc (hx ▸ hspecial)

/-- **An escaped text as TeX reads it.** Its tokens, which spell it, are those that show the
characters of the text, one for each and in order, exactly if no backslash, tilde or caret of the
text has a letter after it; otherwise one of them is a command of another name than the three that
show these. In every escaped text a brace, ampersand, percent sign, dollar, hash or underscore is
the second character of a symbol, and no tilde and no caret is left. -/
theorem tokens_escape (s : String) :
    (tokens (escape s).toList).flatMap Token.chars = (escape s).toList ∧
    (tokens (escape s).toList = s.toList.map Token.showing ↔ Apart s.toList) ∧
    (¬ Apart s.toList →
      ∃ name, .word name ∈ tokens (escape s).toList ∧ name ∉ commands.map Prod.fst) ∧
    (∀ before c after, (escape s).toList = before ++ c :: after → c ∈ symbols →
      ∃ earlier, before = earlier ++ ['\\'] ∧
        tokens (escape s).toList = tokens earlier ++ .symbol c :: tokens after) ∧
    '~' ∉ (escape s).toList ∧ '^' ∉ (escape s).toList := by
  have hlist : (escape s).toList = escapeChars s.toList := String.toList_ofList
  rw [hlist]
  refine ⟨flatMap_chars_tokens _, ⟨fun h => ?_, fun h => ?_⟩, fun h => ?_, ?_,
    notMem_escapeChars (by decide) (by decide) (by decide) _,
    notMem_escapeChars (by decide) (by decide) (by decide) _⟩
  · -- the tokens that show characters call no other command
    by_contra hnot
    obtain ⟨name, hname, hforeign⟩ := exists_foreign_of_not_apart hnot
    rw [← tokens_escapeChars, h, List.mem_map] at hname
    obtain ⟨c, -, hs⟩ := hname
    exact hforeign (List.mem_map_of_mem (mem_of_showing hs))
  · rw [tokens_escapeChars, merged_of_apart h]
  · rw [tokens_escapeChars]
    exact exists_foreign_of_not_apart h
  · intro before c after h hc
    obtain ⟨p, q, -, rfl, rfl⟩ := exists_of_symbol_mem hc h
    refine ⟨escapeChars p, rfl, ?_⟩
    have hproper : (Token.symbol c).Proper := isAlpha_of_special (special_of_symbol hc)
    have hsplit : escapeChars s.toList =
        escapeChars p ++ ((Token.symbol c).chars ++ escapeChars q) := by
      rw [h, List.append_assoc]
      rfl
    rw [hsplit, @tokens_escapeChars_append p ((Token.symbol c).chars ++ escapeChars q)
        (by simp [Token.chars]),
      tokens_chars_append hproper (by simp), tokens_escapeChars p]

/-- A backslash with a letter after it comes out as a command of another name, and an underscore
between a letter and a digit as a symbol. -/
theorem tokens_escape_backslash_letter :
    (¬ Apart "\\n".toList ∧
      ∃ name, .word name ∈ tokens (escape "\\n").toList ∧ name ∉ commands.map Prod.fst) ∧
    (escape "x_1").toList = ['x', '\\'] ++ '_' :: ['1'] ∧ '_' ∈ symbols ∧
      ∃ earlier, ['x', '\\'] = earlier ++ ['\\'] ∧
        tokens (escape "x_1").toList = tokens earlier ++ .symbol '_' :: tokens ['1'] := by
  have hmerged : ¬ Apart "\\n".toList := by decide
  have hsymbol : (escape "x_1").toList = ['x', '\\'] ++ '_' :: ['1'] := by decide
  have hmem : '_' ∈ symbols := by decide
  obtain ⟨-, -, hforeign, -, -⟩ := tokens_escape "\\n"
  obtain ⟨-, -, -, hplace, -⟩ := tokens_escape "x_1"
  exact ⟨⟨hmerged, hforeign hmerged⟩, hsymbol, hmem, hplace _ _ _ hsymbol hmem⟩

end TexListing.Latex
