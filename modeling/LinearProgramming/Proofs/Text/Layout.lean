import LinearProgramming.Text.Words
import Mathlib.Data.List.Basic
import Mathlib.Data.List.Forall2
import Mathlib.Data.List.TakeWhile

/-!
# How lines and words are laid out

What the lines and the words of a text are is said here by how a text is put together from
them, without a word on how it is searched. Every text is put together in one way only, and
the functions that take it apart find that way.
-/

namespace LinearProgramming.Text

/-- A list is cut where a class of elements first ends. -/
theorem cut_eq_iff {α : Type} {p : α → Bool} {l before after : List α} :
    l.takeWhile p = before ∧ l.dropWhile p = after ↔
      l = before ++ after ∧ (∀ x ∈ before, p x = true) ∧ ∀ x ∈ after.head?, p x = false := by
  constructor
  · rintro ⟨rfl, rfl⟩
    refine ⟨List.takeWhile_append_dropWhile.symm, fun x => List.mem_takeWhile_imp, fun x hx => ?_⟩
    have hfirst := List.head?_dropWhile_not p l
    rw [Option.mem_def.mp hx] at hfirst
    exact hfirst
  · rintro ⟨rfl, hbefore, hafter⟩
    rw [List.takeWhile_append_of_pos hbefore, List.dropWhile_append_of_pos hbefore]
    cases after with
    | nil => simp
    | cons x rest => simp [hafter x rfl]

theorem exists_cut {α : Type} (p : α → Bool) (l : List α) :
    ∃ before after, l = before ++ after ∧ (∀ x ∈ before, p x = true) ∧
      ∀ x ∈ after.head?, p x = false :=
  ⟨_, _, cut_eq_iff.mp ⟨rfl, rfl⟩⟩

section Pieces

variable {separates : Char → Bool} {part text : List Char}

theorem pieces_ne_nil (separates : Char → Bool) (text : List Char) :
    pieces separates text ≠ [] := by
  cases text with
  | nil => simp
  | cons c text =>
    rw [pieces_cons]
    split
    · simp
    · split <;> simp

/-- Characters that do not separate come before the first piece of what follows. -/
theorem pieces_append {first : List Char} {rest : List (List Char)}
    (h : ∀ c ∈ part, separates c = false) (htext : pieces separates text = first :: rest) :
    pieces separates (part ++ text) = (part ++ first) :: rest := by
  induction part with
  | nil => exact htext
  | cons c part ih =>
    rw [List.cons_append, pieces_cons, ih fun d hd => h d (List.mem_cons_of_mem _ hd)]
    simp [h c List.mem_cons_self]

theorem pieces_of_forall (h : ∀ c ∈ part, separates c = false) :
    pieces separates part = [part] := by
  simpa using pieces_append h (pieces_nil separates)

/-- **A text splits at a separator.** -/
theorem pieces_append_cons (h : ∀ c ∈ part, separates c = false) {c : Char}
    (hc : separates c = true) (text : List Char) :
    pieces separates (part ++ c :: text) = part :: pieces separates text := by
  have hcons : pieces separates (c :: text) = [] :: pieces separates text := by
    rw [pieces_cons, if_pos hc]
  simpa using pieces_append h hcons

end Pieces

/-- Whether a text consists of words, set apart by blanks. -/
inductive HasWords : List Char → List (List Char) → Prop where
  | nil {gap : List Char} (hgap : ∀ c ∈ gap, isBlank c = true) : HasWords gap []
  | cons {gap word rest : List Char} {words : List (List Char)}
      (hgap : ∀ c ∈ gap, isBlank c = true) (hne : word ≠ [])
      (hword : ∀ c ∈ word, isBlank c = false) (hrest : ∀ c ∈ rest.head?, isBlank c = true)
      (h : HasWords rest words) : HasWords (gap ++ word ++ rest) (word :: words)

theorem words_append_of_blank {gap : List Char} (h : ∀ c ∈ gap, isBlank c = true)
    (text : List Char) : words (gap ++ text) = words text := by
  induction gap with
  | nil => rfl
  | cons c gap ih =>
    have hwords := ih fun d hd => h d (List.mem_cons_of_mem _ hd)
    unfold words at hwords ⊢
    rw [List.cons_append, pieces_cons, if_pos (h c List.mem_cons_self)]
    simpa using hwords

theorem words_append_of_word {word rest : List Char} (hne : word ≠ [])
    (hword : ∀ c ∈ word, isBlank c = false) (hrest : ∀ c ∈ rest.head?, isBlank c = true) :
    words (word ++ rest) = word :: words rest := by
  cases rest with
  | nil =>
    rw [List.append_nil]
    unfold words
    rw [pieces_of_forall hword]
    simp [hne]
  | cons c rest =>
    have hblank : words (c :: rest) = words rest :=
      @words_append_of_blank [c] (by simpa using hrest c rfl) rest
    rw [hblank]
    unfold words
    rw [pieces_append_cons hword (hrest c rfl), List.filter_cons_of_pos (by simpa using hne)]

theorem HasWords.words_eq {text : List Char} {ws : List (List Char)} (h : HasWords text ws) :
    words text = ws := by
  induction h with
  | @nil gap hgap =>
    have hwords := words_append_of_blank hgap []
    rw [List.append_nil] at hwords
    rw [hwords]
    rfl
  | cons hgap hne hword hrest _ ih =>
    rw [List.append_assoc, words_append_of_blank hgap, words_append_of_word hne hword hrest, ih]

theorem exists_hasWords (text : List Char) : ∃ ws, HasWords text ws := by
  induction hlength : text.length using Nat.strong_induction_on generalizing text with
  | h n ih =>
    obtain ⟨gap, solid, rfl, hgap, hstart⟩ := exists_cut isBlank text
    cases solid with
    | nil => exact ⟨[], by simpa using HasWords.nil hgap⟩
    | cons c after =>
      obtain ⟨word, rest, hsolid, hword, hrest⟩ := exists_cut (!isBlank ·) (c :: after)
      have hne : word ≠ [] := by
        rintro rfl
        rw [List.nil_append] at hsolid
        simpa [hstart c rfl, ← hsolid] using hrest c
      rw [hsolid, List.length_append, List.length_append] at hlength
      have hpos := List.length_pos_of_ne_nil hne
      obtain ⟨ws, hws⟩ := ih rest.length (by omega) rest rfl
      refine ⟨word :: ws, ?_⟩
      rw [hsolid, ← List.append_assoc]
      exact .cons hgap hne (by simpa using hword) (by simpa using hrest) hws

/-- **The words of a text are those it consists of.** -/
theorem words_eq_iff {text : List Char} {ws : List (List Char)} :
    words text = ws ↔ HasWords text ws := by
  constructor
  · rintro rfl
    obtain ⟨ws, h⟩ := exists_hasWords text
    rwa [h.words_eq]
  · exact HasWords.words_eq

theorem not_isBlank_of_mem_words {text word : List Char} (h : word ∈ words text) :
    ∀ c ∈ word, isBlank c = false := by
  have hwords : HasWords text (words text) := words_eq_iff.mp rfl
  generalize words text = ws at h hwords
  induction hwords with
  | nil => cases h
  | cons _ _ hword _ _ ih =>
    rcases List.mem_cons.mp h with rfl | h
    · exact hword
    · exact ih h

/-- The first word begins where the blanks at the start end. -/
theorem head?_trimStart (text : List Char) :
    (trimStart text).head? = (words text).head?.bind List.head? := by
  have hwords : HasWords text (words text) := words_eq_iff.mp rfl
  generalize words text = ws at hwords
  unfold trimStart
  cases hwords with
  | nil hgap => simp [List.dropWhile_eq_nil_iff.mpr hgap]
  | @cons gap word rest _ hgap hne hword =>
    obtain ⟨c, word, rfl⟩ := List.exists_cons_of_ne_nil hne
    rw [List.append_assoc, List.dropWhile_append_of_pos hgap, List.cons_append,
      List.dropWhile_cons_of_neg (by simp [hword c List.mem_cons_self])]
    rfl

theorem words_trimStart (text : List Char) : words (trimStart text) = words text := by
  have hgap : ∀ c ∈ text.takeWhile isBlank, isBlank c = true := fun c => List.mem_takeWhile_imp
  rw [← words_append_of_blank hgap (trimStart text), trimStart, List.takeWhile_append_dropWhile]

/-- Whether a text consists of lines, each of which ends at a line feed or at a carriage return
and a line feed. The last one may also end where the text does. -/
inductive HasLines : List Char → List (List Char) → Prop where
  | nil : HasLines [] []
  | last {line : List Char} (hne : line ≠ []) (hline : '\n' ∉ line) : HasLines line [line]
  | feed {line rest : List Char} {lines : List (List Char)} (hline : '\n' ∉ line)
      (hreturn : line.getLast? ≠ some '\r') (h : HasLines rest lines) :
      HasLines (line ++ '\n' :: rest) (line :: lines)
  | returnFeed {line rest : List Char} {lines : List (List Char)} (hline : '\n' ∉ line)
      (h : HasLines rest lines) : HasLines (line ++ '\r' :: '\n' :: rest) (line :: lines)

theorem lines_append_cons {line : List Char} (hline : '\n' ∉ line) (rest : List Char) :
    lines (line ++ '\n' :: rest) = withoutReturn line :: lines rest := by
  have hpieces : pieces (· = '\n') (line ++ '\n' :: rest) =
      line :: pieces (· = '\n') rest :=
    pieces_append_cons (fun c hc => by simpa using ne_of_mem_of_not_mem hc hline) rfl rest
  have hne := pieces_ne_nil (· = '\n') rest
  unfold lines
  rw [hpieces]
  dsimp only
  rw [List.dropLast_cons_of_ne_nil hne, List.getLast?_cons_of_ne_nil hne]
  split <;> simp

theorem lines_of_not_mem {line : List Char} (hne : line ≠ []) (hline : '\n' ∉ line) :
    lines line = [line] := by
  have hpieces : pieces (· = '\n') line = [line] :=
    pieces_of_forall fun c hc => by simpa using ne_of_mem_of_not_mem hc hline
  obtain ⟨c, rest, rfl⟩ := List.exists_cons_of_ne_nil hne
  unfold lines
  rw [hpieces]
  rfl

theorem HasLines.lines_eq {text : List Char} {ls : List (List Char)} (h : HasLines text ls) :
    lines text = ls := by
  induction h with
  | nil => rfl
  | last hne hline => exact lines_of_not_mem hne hline
  | feed hline hreturn _ ih =>
    rw [lines_append_cons hline, ih, withoutReturn, if_neg hreturn]
  | @returnFeed line rest _ hline _ ih =>
    have hsplit : line ++ '\r' :: '\n' :: rest = (line ++ ['\r']) ++ '\n' :: rest := by simp
    rw [hsplit, lines_append_cons (by simpa using hline), ih]
    simp [withoutReturn]

theorem exists_hasLines (text : List Char) : ∃ ls, HasLines text ls := by
  induction hlength : text.length using Nat.strong_induction_on generalizing text with
  | h n ih =>
    by_cases hfeed : '\n' ∈ text
    · obtain ⟨line, rest, rfl, hline⟩ := List.eq_append_cons_of_mem hfeed
      rw [List.length_append, List.length_cons] at hlength
      obtain ⟨ls, hls⟩ := ih rest.length (by omega) rest rfl
      by_cases hreturn : line.getLast? = some '\r'
      · obtain ⟨line, rfl⟩ := List.getLast?_eq_some_iff.mp hreturn
        refine ⟨line :: ls, ?_⟩
        rw [List.append_assoc]
        exact .returnFeed (fun h => hline (List.mem_append_left _ h)) hls
      · exact ⟨line :: ls, .feed hline hreturn hls⟩
    · by_cases hne : text = []
      · subst hne
        exact ⟨[], .nil⟩
      · exact ⟨[text], .last hne hfeed⟩

/-- **The lines of a text are those it consists of.** -/
theorem lines_eq_iff {text : List Char} {ls : List (List Char)} :
    lines text = ls ↔ HasLines text ls := by
  constructor
  · rintro rfl
    obtain ⟨ls, h⟩ := exists_hasLines text
    rwa [h.lines_eq]
  · exact HasLines.lines_eq

/-- What is left of a text without the blanks around it begins and ends with no blank. -/
theorem trim_eq_iff {text content : List Char} :
    trim text = content ↔ ∃ before after, text = before ++ content ++ after ∧
      (∀ c ∈ before, isBlank c = true) ∧ (∀ c ∈ after, isBlank c = true) ∧
      (∀ c ∈ content.head?, isBlank c = false) ∧
      ∀ c ∈ content.getLast?, isBlank c = false := by
  constructor
  · rintro rfl
    obtain ⟨before, solid, rfl, hbefore, hstart⟩ := exists_cut isBlank text
    obtain ⟨after, content, hsolid, hafter, hend⟩ := exists_cut isBlank solid.reverse
    have htrim : trim (before ++ solid) = content.reverse := by
      rw [trim, trimStart, (cut_eq_iff.mpr ⟨rfl, hbefore, hstart⟩).2,
        (cut_eq_iff.mpr ⟨hsolid, hafter, hend⟩).2]
    obtain rfl : solid = content.reverse ++ after.reverse := by
      rw [← List.reverse_append, ← hsolid, List.reverse_reverse]
    rw [htrim]
    refine ⟨before, after.reverse, by simp, hbefore, by simpa using hafter, fun c hc => ?_, ?_⟩
    · apply hstart
      rw [List.head?_append, Option.mem_def.mp hc]
      rfl
    · rwa [List.getLast?_reverse]
  · rintro ⟨before, after, rfl, hbefore, hafter, hstart, hend⟩
    by_cases hne : content = []
    · have hblank : (before ++ [] ++ after).dropWhile isBlank = [] := by
        simp only [List.dropWhile_eq_nil_iff, List.append_nil]
        exact List.forall_mem_append.mpr ⟨hbefore, hafter⟩
      rw [hne, trim, trimStart, hblank]
      rfl
    · have hsolid : (before ++ content ++ after).dropWhile isBlank = content ++ after := by
        refine (cut_eq_iff.mpr ⟨List.append_assoc .., hbefore, fun c hc => hstart c ?_⟩).2
        rwa [List.head?_append_of_ne_nil _ hne] at hc
      have hcontent : (content ++ after).reverse.dropWhile isBlank = content.reverse := by
        refine (cut_eq_iff.mpr ⟨List.reverse_append, by simpa using hafter, ?_⟩).2
        rwa [List.head?_reverse]
      rw [trim, trimStart, hsolid, hcontent, List.reverse_reverse]

theorem trim_of_forall {text : List Char} (h : ∀ c ∈ text, isBlank c = false) :
    trim text = text :=
  trim_eq_iff.mpr ⟨[], [], by simp, by simp, by simp,
    fun c hc => h c (List.mem_of_head? hc), fun c hc => h c (List.mem_of_getLast? hc)⟩

theorem toNat_toLower (c : Char) : c.toLower.toNat =
    if 65 ≤ c.toNat ∧ c.toNat ≤ 90 then c.toNat + 32 else c.toNat := by
  unfold Char.toLower
  simp only [ge_iff_le, UInt32.le_iff_toNat_le]
  show Char.toNat (if h : 65 ≤ c.toNat ∧ c.toNat ≤ 90 then _ else _) = _
  split
  case isTrue h =>
    have hle : c.val.toNat ≤ 90 := h.2
    show (c.val + 32).toNat = c.val.toNat + 32
    rw [UInt32.toNat_add, show (32 : UInt32).toNat = 32 from rfl]
    omega
  case isFalse => rfl

theorem toNat_toUpper (c : Char) : c.toUpper.toNat =
    if 97 ≤ c.toNat ∧ c.toNat ≤ 122 then c.toNat - 32 else c.toNat := by
  unfold Char.toUpper
  simp only [UInt32.le_iff_toNat_le]
  show Char.toNat (if h : 97 ≤ c.toNat ∧ c.toNat ≤ 122 then _ else _) = _
  split
  case isTrue h =>
    have hle : 97 ≤ c.val.toNat ∧ c.val.toNat ≤ 122 := h
    show (c.val + (65 - 97)).toNat = c.val.toNat - 32
    rw [UInt32.toNat_add, show ((65 : UInt32) - 97).toNat = 2 ^ 32 - 32 from rfl]
    omega
  case isFalse => rfl

theorem toLower_eq_iff {c letter : Char} (h : 97 ≤ letter.toNat ∧ letter.toNat ≤ 122) :
    c.toLower = letter ↔ c = letter ∨ c = letter.toUpper := by
  rw [← Char.toNat_inj, ← Char.toNat_inj, ← Char.toNat_inj, toNat_toLower, toNat_toUpper,
    if_pos h]
  split <;> omega

/-- Whether a word is one of small letters, some of which may be written as capitals. -/
def IsInAnyCase (name word : List Char) : Prop :=
  List.Forall₂ (fun c letter => c = letter ∨ c = letter.toUpper) word name

theorem lowerCase_eq_iff {name word : List Char}
    (h : ∀ c ∈ name, 97 ≤ c.toNat ∧ c.toNat ≤ 122) :
    lowerCase word = name ↔ IsInAnyCase name word := by
  unfold lowerCase IsInAnyCase
  rw [← List.forall₂_eq_eq_eq, List.forall₂_map_left_iff]
  induction name generalizing word with
  | nil => rw [List.forall₂_nil_right_iff, List.forall₂_nil_right_iff]
  | cons letter name ih =>
    have hname : ∀ c ∈ name, 97 ≤ c.toNat ∧ c.toNat ≤ 122 := fun c hc =>
      h c (List.mem_cons_of_mem _ hc)
    simp only [List.forall₂_cons_right_iff, toLower_eq_iff (h letter List.mem_cons_self),
      ih hname]

end LinearProgramming.Text
