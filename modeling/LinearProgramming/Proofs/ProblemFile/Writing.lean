import LinearProgramming.Proofs.Problem.Stating
import LinearProgramming.Proofs.Text.Layout

/-!
# Writings of a problem

What it is to write a problem down is said here by how the text is put together: its lines,
what they hold apart from comments and blanks, the keyword and the words on them, and the
numbers that the words are read as. Nothing is said of how a text is searched. A text is read
as a problem exactly if it is a writing of it, whichever words are read as numbers. A colon that
the blanks after the keyword lead up to is the separator there, even where a word that begins
with a colon could be read as a number.
-/

namespace LinearProgramming

namespace Direction

/-- The words for a direction. -/
def names : Direction → List String
  | maximize => ["max", "maximize"]
  | minimize => ["min", "minimize"]

theorem mem_names_iff {d : Direction} {name : String} :
    name ∈ d.names ↔ match d with
      | maximize => name = "max" ∨ name = "maximize"
      | minimize => name = "min" ∨ name = "minimize" := by
  cases d <;> simp [names]

theorem letter_of_mem_names {d : Direction} {name : String} (h : name ∈ d.names) :
    ∀ c ∈ name.toList, 97 ≤ c.toNat ∧ c.toNat ≤ 122 := by
  rw [mem_names_iff] at h
  cases d <;> rcases h with rfl | rfl <;> simp

/-- Whether a word stands for a direction, in upper or lower case. -/
def IsNamedBy (d : Direction) (word : List Char) : Prop :=
  ∃ name ∈ d.names, Text.IsInAnyCase name.toList word

/-- A word without blanks is read as a direction exactly if it stands for it. -/
theorem read_eq_ok_iff {d : Direction} {word : List Char}
    (h : ∀ c ∈ word, Text.isBlank c = false) : read word = .ok d ↔ d.IsNamedBy word := by
  have hnames : d.IsNamedBy word ↔ String.ofList (Text.lowerCase word) ∈ d.names := by
    unfold IsNamedBy
    constructor
    · rintro ⟨name, hname, hcase⟩
      rw [(Text.lowerCase_eq_iff (letter_of_mem_names hname)).mpr hcase, String.ofList_toList]
      exact hname
    · intro hname
      refine ⟨_, hname, ?_⟩
      rw [← Text.lowerCase_eq_iff (letter_of_mem_names hname), String.toList_ofList]
  rw [hnames, read, Text.trim_of_forall h]
  generalize String.ofList (Text.lowerCase word) = name
  constructor
  · intro hread
    split at hread <;> cases hread <;> simp [names]
  · intro hname
    rw [mem_names_iff] at hname
    cases d <;> rcases hname with rfl | rfl <;> rfl

end Direction

/-- A word without blanks is read as a relation exactly if it is its text. -/
theorem Relation.read_eq_ok_iff {r : Relation} {word : List Char}
    (h : ∀ c ∈ word, Text.isBlank c = false) : read word = .ok r ↔ word = r.text.toList := by
  rw [read, Text.trim_of_forall h]
  constructor
  · intro hread
    split at hread <;> cases hread <;> rfl
  · rintro rfl
    cases r <;> rfl

/-- No number begins with a colon. -/
theorem Numeral.read?_colon (word : List Char) : read? (':' :: word) = none := by
  have hsign : splitSign (':' :: word) = (false, ':' :: word) := rfl
  unfold read?
  rw [hsign]
  dsimp only
  split
  case h_1 h => simp [← String.toList_inj] at h
  case h_2 h => simp [← String.toList_inj] at h
  case h_3 h => simp [← String.toList_inj] at h
  case h_4 => rfl

namespace ProblemFile

/-- Whether a line holds a content, which neither begins nor ends with a blank, apart from the
blanks around it and a comment. -/
def HasContent (line content : List Char) : Prop :=
  ∃ before after comment, line = before ++ content ++ after ++ comment ∧
    '#' ∉ before ++ content ++ after ∧ (∀ c ∈ comment.head?, c = '#') ∧
    (∀ c ∈ before, Text.isBlank c = true) ∧ (∀ c ∈ after, Text.isBlank c = true) ∧
    (∀ c ∈ content.head?, Text.isBlank c = false) ∧
    ∀ c ∈ content.getLast?, Text.isBlank c = false

theorem trim_takeWhile_eq_iff {line content : List Char} :
    Text.trim (line.takeWhile (· ≠ '#')) = content ↔ HasContent line content := by
  have hcut (first comment : List Char) :
      line.takeWhile (· ≠ '#') = first ∧ line.dropWhile (· ≠ '#') = comment ↔
        line = first ++ comment ∧ '#' ∉ first ∧ ∀ c ∈ comment.head?, c = '#' := by
    rw [Text.cut_eq_iff]
    simp only [decide_eq_true_eq, decide_eq_false_iff_not, not_not]
    rw [show (∀ c ∈ first, c ≠ '#') ↔ '#' ∉ first from
      ⟨fun h hmem => h _ hmem rfl, fun h c hc he => h (he ▸ hc)⟩]
  rw [Text.trim_eq_iff]
  constructor
  · rintro ⟨before, after, hfirst, hbefore, hafter, hstart, hend⟩
    obtain ⟨hline, hnot, hcomment⟩ := (hcut _ _).mp ⟨hfirst, rfl⟩
    exact ⟨before, after, _, hline, hnot, hcomment, hbefore, hafter, hstart, hend⟩
  · rintro ⟨before, after, comment, hline, hnot, hcomment, hends⟩
    exact ⟨before, after, ((hcut _ _).mpr ⟨hline, hnot, hcomment⟩).1, hends⟩

theorem forall₂_hasContent_iff {lines contents : List (List Char)} :
    List.Forall₂ HasContent lines contents ↔
      (lines.map fun line => Text.trim (line.takeWhile (· ≠ '#'))) = contents := by
  rw [← List.forall₂_eq_eq_eq, List.forall₂_map_left_iff]
  exact ⟨.imp fun _ _ => trim_takeWhile_eq_iff.mpr, .imp fun _ _ => trim_takeWhile_eq_iff.mp⟩

/-- The lines among some contents, each with its number. -/
def numbered (contents : List (List Char)) : List Line :=
  (contents.mapIdx fun index content => { number := index + 1, content }).filter
    fun line => line.content ≠ []

theorem contentLines_eq_numbered (text : List Char) :
    contentLines text =
      numbered ((Text.lines text).map fun line => Text.trim (line.takeWhile (· ≠ '#'))) := by
  unfold contentLines numbered
  congr 1
  apply List.ext_getElem <;> simp

theorem map_content_numbered (contents : List (List Char)) :
    (numbered contents).map Line.content = contents.filter (· ≠ []) := by
  have hcontents : (contents.mapIdx fun index content =>
      { number := index + 1, content : Line }).map Line.content = contents := by
    apply List.ext_getElem <;> simp
  conv_rhs => rw [← hcontents, List.filter_map]
  rfl

theorem map_content_contentLines (text : List Char) :
    (contentLines text).map Line.content =
      ((Text.lines text).map fun line => Text.trim (line.takeWhile (· ≠ '#'))).filter
        (· ≠ []) := by
  rw [contentLines_eq_numbered, map_content_numbered]

/-- Whether a line consists of a word for a direction, blanks, a colon unless that is left out,
and words. -/
def HasHeaderParts (line : List Char) (direction : Direction) (colon : List Char)
    (words : List (List Char)) : Prop :=
  ∃ keyword gap body, line = keyword ++ (gap ++ colon ++ body) ∧
    direction.IsNamedBy keyword ∧ (∀ c ∈ gap, Text.isBlank c = true) ∧
    Text.HasWords body words ∧ (words ≠ [] → gap ++ colon ≠ [])

/-- Whether a line begins with a word for a direction, and which words follow. A colon that the
blanks lead up to is always the separator, and never part of a word. -/
def HasHeader (line : List Char) (direction : Direction) (words : List (List Char)) : Prop :=
  ∃ colon, (colon = [':'] ∨ colon = [] ∧ ∀ word ∈ words.head?, word.head? ≠ some ':') ∧
    HasHeaderParts line direction colon words

/-- The same where the colon may as well begin the first word. -/
def HasLooseHeader (line : List Char) (direction : Direction) (words : List (List Char)) :
    Prop :=
  ∃ colon, (colon = [':'] ∨ colon = []) ∧ HasHeaderParts line direction colon words

variable {F : Type} [Readable F]

/-- Whether a word is read as a finite number. -/
def ReadsAs (word : List Char) (x : F) : Prop :=
  Readable.read? word = some x ∧ Readable.isFinite x = true

/-- Whether a line states a direction and costs, the words after the colon. -/
def StatesObjective (line : List Char) (direction : Direction) (objective : List F) : Prop :=
  ∃ words, HasHeader line direction words ∧ List.Forall₂ ReadsAs words objective

/-- The same where the colon may as well begin the word of the first cost. -/
def LooselyStatesObjective (line : List Char) (direction : Direction) (objective : List F) :
    Prop :=
  ∃ words, HasLooseHeader line direction words ∧ List.Forall₂ ReadsAs words objective

/-- Whether a line states a constraint: the words of its coefficients, its relation and the
word of its bound. -/
def StatesConstraint (line : List Char) (c : Constraint F) : Prop :=
  ∃ words bound, Text.HasWords line (words ++ [c.relation.text.toList, bound]) ∧
    List.Forall₂ ReadsAs words c.coefficients ∧ ReadsAs bound c.bound

/-- Whether a text is put together like a writing of a problem: of its lines the first with
content is a header, and each further one states a constraint, in order. There are as many
variables as costs, and a constraint has a coefficient for each of them by its type. -/
def IsWritingWith (states : List Char → Direction → List F → Prop) (text : List Char)
    (p : LinearProgram F) : Prop :=
  ∃ lines contents header rows, Text.HasLines text lines ∧
    List.Forall₂ HasContent lines contents ∧ contents.filter (· ≠ []) = header :: rows ∧
    states header p.direction p.objective ∧
    List.Forall₂ StatesConstraint rows p.constraints ∧ p.dimension = p.objective.length

/-- Whether a text is a writing of a problem, whose header states the direction and the costs. -/
def IsWriting (text : List Char) (p : LinearProgram F) : Prop :=
  IsWritingWith StatesObjective text p

/-- The same where a colon in the header may as well begin the word of the first cost. -/
def IsLooseWriting (text : List Char) (p : LinearProgram F) : Prop :=
  IsWritingWith LooselyStatesObjective text p

theorem readNumber_eq_ok_iff {field : Field} {word : List Char} {x : F} :
    readNumber field word = .ok x ↔ ReadsAs word x := by
  unfold readNumber ReadsAs
  constructor
  · intro h
    split at h
    case h_1 y hread =>
      split at h
      case isTrue hfinite =>
        cases h
        exact ⟨hread, hfinite⟩
      case isFalse => cases h
    case h_2 => cases h
  · rintro ⟨hread, hfinite⟩
    rw [hread]
    exact if_pos hfinite

theorem readNumbers_eq_mapPositions (field : Nat → Field) (index : Nat)
    (words : List (List Char)) : readNumbers (F := F) field index words =
      mapPositions (fun index word => readNumber (field index) word) index words := by
  induction words generalizing index with
  | nil => rfl
  | cons word words ih =>
    unfold readNumbers mapPositions
    rw [ih]
    cases readNumber (F := F) (field index) word <;> rfl

theorem readNumbers_eq_ok_iff {field : Nat → Field} {index : Nat} {words : List (List Char)}
    {xs : List F} : readNumbers field index words = .ok xs ↔ List.Forall₂ ReadsAs words xs := by
  rw [readNumbers_eq_mapPositions]
  exact mapPositions_eq_ok_iff fun _ _ _ => readNumber_eq_ok_iff

theorem exists_readsAs_of_mem {words : List (List Char)} {xs : List F}
    (h : List.Forall₂ ReadsAs words xs) {word : List Char} (hword : word ∈ words) :
    ∃ x : F, ReadsAs word x := by
  induction h with
  | nil => cases hword
  | cons hx _ ih =>
    rcases List.mem_cons.mp hword with rfl | hword
    · exact ⟨_, hx⟩
    · exact ih hword

theorem not_endsKeyword_iff {c : Char} :
    endsKeyword c = false ↔ Text.isBlank c = false ∧ c ≠ ':' := by
  simp [endsKeyword]

theorem endsKeyword_iff {c : Char} :
    endsKeyword c = true ↔ Text.isBlank c = true ∨ c = ':' := by
  simp [endsKeyword]

theorem not_endsKeyword_of_isNamedBy {d : Direction} {keyword : List Char}
    (h : d.IsNamedBy keyword) : ∀ c ∈ keyword, endsKeyword c = false := by
  obtain ⟨name, hname, hcase⟩ := h
  have hletters := Direction.letter_of_mem_names hname
  rw [← Text.lowerCase_eq_iff hletters] at hcase
  intro c hc
  have hletter := hletters c.toLower (hcase ▸ List.mem_map_of_mem hc)
  rw [Text.toNat_toLower] at hletter
  have hrange : 65 ≤ c.toNat ∧ c.toNat ≤ 122 := by
    split at hletter <;> omega
  rw [not_endsKeyword_iff]
  constructor
  · simp only [Text.isBlank, Bool.or_eq_false_iff, Bool.and_eq_false_iff, decide_eq_false_iff_not]
    omega
  · rintro rfl
    exact absurd hrange.1 (by decide)

theorem endsKeyword_of_isBlank {c : Char} (h : Text.isBlank c = true) :
    endsKeyword c = true := by
  simp [endsKeyword, h]

theorem withoutColon_of_ne {text : List Char} (h : text.head? ≠ some ':') :
    withoutColon text = text := by
  unfold withoutColon
  split
  · exact absurd rfl h
  · rfl

/-- Where the keyword ends, the words that come after the colon, if there is one, are those
after some blanks and at most one colon. -/
theorem words_withoutColon_iff {rest : List Char} {words : List (List Char)} :
    Text.words (withoutColon (Text.trimStart rest)) = words ∧
        (∀ c ∈ rest.head?, endsKeyword c = true) ↔
      ∃ gap colon body, rest = gap ++ colon ++ body ∧ (∀ c ∈ gap, Text.isBlank c = true) ∧
        (colon = [':'] ∨ colon = [] ∧ ∀ word ∈ words.head?, word.head? ≠ some ':') ∧
        Text.HasWords body words ∧ (words ≠ [] → gap ++ colon ≠ []) := by
  constructor
  · rintro ⟨hwords, hends⟩
    obtain ⟨gap, solid, rfl, hgap, hstart⟩ := Text.exists_cut Text.isBlank rest
    have hsolid : Text.trimStart (gap ++ solid) = solid :=
      (Text.cut_eq_iff.mpr ⟨rfl, hgap, hstart⟩).2
    have hfirst := Text.head?_trimStart (gap ++ solid)
    rw [Text.words_append_of_blank hgap, hsolid] at hfirst
    rw [hsolid] at hwords
    unfold withoutColon at hwords
    split at hwords
    case h_1 body =>
      exact ⟨gap, [':'], body, by simp, hgap, .inl rfl, Text.words_eq_iff.mp hwords, by simp⟩
    case h_2 hcolon =>
      rw [hwords] at hfirst
      refine ⟨gap, [], solid, by simp, hgap, .inr ⟨rfl, fun word hword hhead => ?_⟩,
        Text.words_eq_iff.mp hwords, fun hne hnil => ?_⟩
      · rw [Option.mem_def.mp hword, Option.bind_some, hhead] at hfirst
        obtain ⟨body, rfl⟩ := List.head?_eq_some_iff.mp hfirst
        exact hcolon body rfl
      · rw [List.append_nil] at hnil
        subst hnil
        cases solid with
        | nil => exact hne hwords.symm
        | cons c body =>
          have hc : endsKeyword c = true := hends c rfl
          obtain rfl : c = ':' := by simpa [endsKeyword, hstart c rfl] using hc
          exact hcolon body rfl
  · rintro ⟨gap, colon, body, rfl, hgap, hcolon, hbody, hseparated⟩
    constructor
    · rw [List.append_assoc, Text.trimStart, List.dropWhile_append_of_pos hgap,
        ← Text.trimStart]
      rcases hcolon with rfl | ⟨rfl, hfirst⟩
      · exact hbody.words_eq
      · rw [List.nil_append, withoutColon_of_ne, Text.words_trimStart, hbody.words_eq]
        rw [Text.head?_trimStart, hbody.words_eq]
        cases words with
        | nil => simp
        | cons word words => exact hfirst word rfl
    · have hall : ∀ c ∈ gap ++ colon, endsKeyword c = true := by
        refine List.forall_mem_append.mpr ⟨fun c hc => endsKeyword_of_isBlank (hgap c hc), ?_⟩
        rcases hcolon with rfl | ⟨rfl, -⟩
        · simp [endsKeyword]
        · simp
      intro c hc
      by_cases hnil : gap ++ colon = []
      · obtain rfl : words = [] := not_ne_iff.mp (mt hseparated (not_not.mpr hnil))
        rw [hnil, List.nil_append] at hc
        cases hbody with
        | nil hblank => exact endsKeyword_of_isBlank (hblank c (List.mem_of_head? hc))
      · rw [List.head?_append_of_ne_nil _ hnil] at hc
        exact hall c (List.mem_of_head? hc)

theorem exists_keyword (line : List Char) :
    ∃ keyword rest, line.takeWhile (!endsKeyword ·) = keyword ∧
      line.dropWhile (!endsKeyword ·) = rest ∧ line = keyword ++ rest ∧
      (∀ c ∈ keyword, endsKeyword c = false) ∧ ∀ c ∈ rest.head?, endsKeyword c = true := by
  obtain ⟨hline, hkeyword, hrest⟩ := (Text.cut_eq_iff (l := line) (p := (!endsKeyword ·))).mp
    ⟨rfl, rfl⟩
  exact ⟨_, _, rfl, rfl, hline, by simpa using hkeyword, by simpa using hrest⟩

theorem not_isBlank_of_not_endsKeyword {keyword : List Char}
    (h : ∀ c ∈ keyword, endsKeyword c = false) : ∀ c ∈ keyword, Text.isBlank c = false :=
  fun c hc => (not_endsKeyword_iff.mp (h c hc)).1

theorem hasHeader_iff {line : List Char} {direction : Direction} {words : List (List Char)} :
    HasHeader line direction words ↔
      Direction.read (line.takeWhile (!endsKeyword ·)) = .ok direction ∧
        Text.words (withoutColon (Text.trimStart (line.dropWhile (!endsKeyword ·)))) =
          words := by
  constructor
  · rintro ⟨colon, hcolon, keyword, gap, body, hline, hnamed, hgap, hbody, hseparated⟩
    obtain ⟨hwords, hends⟩ :=
      words_withoutColon_iff.mpr ⟨gap, colon, body, rfl, hgap, hcolon, hbody, hseparated⟩
    have hkeyword := not_endsKeyword_of_isNamedBy hnamed
    obtain ⟨htake, hdrop⟩ := (Text.cut_eq_iff (p := (!endsKeyword ·))).mpr
      ⟨hline, by simpa using hkeyword, by simpa using hends⟩
    rw [htake, hdrop, hwords]
    have hblank := not_isBlank_of_not_endsKeyword hkeyword
    exact ⟨(Direction.read_eq_ok_iff hblank).mpr hnamed, rfl⟩
  · obtain ⟨keyword, rest, htake, hdrop, hline, hkeyword, hends⟩ := exists_keyword line
    rw [htake, hdrop]
    rintro ⟨hdirection, rfl⟩
    obtain ⟨gap, colon, body, rfl, hgap, hcolon, hbody, hseparated⟩ :=
      words_withoutColon_iff.mp ⟨rfl, hends⟩
    have hblank := not_isBlank_of_not_endsKeyword hkeyword
    exact ⟨colon, hcolon, keyword, gap, body, hline,
      (Direction.read_eq_ok_iff hblank).mp hdirection, hgap, hbody, hseparated⟩

theorem readObjective_eq_ok_iff {line : List Char} {direction : Direction} {objective : List F} :
    readObjective line = .ok (direction, objective) ↔
      StatesObjective line direction objective := by
  unfold StatesObjective
  simp only [hasHeader_iff]
  unfold readObjective
  cases Direction.read (line.takeWhile (!endsKeyword ·)) with
  | error unknown => simp
  | ok found =>
    dsimp only
    simp only [map_eq_ok_iff, readNumbers_eq_ok_iff, Prod.mk.injEq, Except.ok.injEq]
    constructor
    · rintro ⟨costs, hcosts, hfound, rfl⟩
      exact ⟨_, ⟨hfound, rfl⟩, hcosts⟩
    · rintro ⟨_, ⟨hfound, rfl⟩, hcosts⟩
      exact ⟨objective, hcosts, hfound, rfl⟩

/-- Where no word that begins with a colon is read as a number, the colon of a header is not
part of a word anyway. -/
theorem looselyStatesObjective_iff
    (hunread : ∀ word : List Char, (Readable.read? (':' :: word) : Option F) = none)
    {line : List Char} {direction : Direction} {objective : List F} :
    LooselyStatesObjective line direction objective ↔
      StatesObjective line direction objective := by
  constructor
  · rintro ⟨words, ⟨colon, hcolon, hparts⟩, hcosts⟩
    have hfirst : ∀ word ∈ words.head?, word.head? ≠ some ':' := by
      intro word hword hhead
      obtain ⟨x, hread, -⟩ := exists_readsAs_of_mem hcosts (List.mem_of_head? hword)
      obtain ⟨rest, rfl⟩ := List.head?_eq_some_iff.mp hhead
      rw [hunread rest] at hread
      cases hread
    exact ⟨words, ⟨colon, hcolon.imp_right fun hnil => ⟨hnil, hfirst⟩, hparts⟩, hcosts⟩
  · rintro ⟨words, ⟨colon, hcolon, hparts⟩, hcosts⟩
    exact ⟨words, ⟨colon, hcolon.imp_right And.left, hparts⟩, hcosts⟩

theorem isRelation_iff {word : List Char} (h : ∀ c ∈ word, Text.isBlank c = false) :
    isRelation word = true ↔ ∃ r : Relation, word = r.text.toList := by
  simp only [← Relation.read_eq_ok_iff h, isRelation, Relation.ofWord?]
  cases Relation.read word <;> simp [Except.toOption]

theorem forall_not_isRelation_iff {words : List (List Char)}
    (h : ∀ word ∈ words, ∀ c ∈ word, Text.isBlank c = false) :
    (∀ word ∈ words, (!isRelation word) = true) ↔ ∀ r : Relation, r.text.toList ∉ words := by
  constructor
  · intro hnone r hr
    have hrelated : isRelation r.text.toList = true := (isRelation_iff (h _ hr)).mpr ⟨r, rfl⟩
    simpa [hrelated] using hnone _ hr
  · intro hnone word hword
    rw [Bool.not_eq_true', ← Bool.not_eq_true, isRelation_iff (h word hword)]
    rintro ⟨r, rfl⟩
    exact hnone r hword

theorem readConstraint_of_forall_not_mem {line : List Char}
    (h : ∀ r : Relation, r.text.toList ∉ Text.words line) :
    readConstraint (F := F) line = .error .missingRelation := by
  have hnone := (forall_not_isRelation_iff fun _ => Text.not_isBlank_of_mem_words).mpr h
  unfold readConstraint
  dsimp only
  rw [List.dropWhile_eq_nil_iff.mpr hnone]

/-- Reads the words before and after a relation. -/
def readSides (relation : Relation) (before : List (List Char)) :
    List (List Char) → Except LineFault (Constraint F)
  | [] => .error .missingBound
  | [bound] =>
    match readNumber Field.bound bound with
    | .error fault => .error fault
    | .ok bound => (readNumbers Field.coefficient 0 before).map fun coefficients =>
      { coefficients, relation, bound }
  | _ => .error .extraBound

/-- How a line is read depends on what stands before and after its first relation. -/
theorem readConstraint_of_words {line : List Char} {before after : List (List Char)}
    {relation : Relation} (hwords : Text.words line = before ++ relation.text.toList :: after)
    (hbefore : ∀ r : Relation, r.text.toList ∉ before) :
    readConstraint (F := F) line = readSides relation before after := by
  have hblank (word : List Char) (h : word ∈ Text.words line) := Text.not_isBlank_of_mem_words h
  rw [hwords] at hblank
  have hnone := (forall_not_isRelation_iff fun word hword =>
    hblank word (List.mem_append_left _ hword)).mpr hbefore
  have hread := (Relation.read_eq_ok_iff (r := relation) (hblank _ (by simp))).mpr rfl
  have hrelated : isRelation relation.text.toList = true :=
    (isRelation_iff (hblank _ (by simp))).mpr ⟨relation, rfl⟩
  obtain ⟨htake, hdrop⟩ := Text.cut_eq_iff.mpr ⟨hwords, hnone, by simp [hrelated]⟩
  unfold readConstraint
  dsimp only
  rw [htake, hdrop]
  dsimp only
  rw [hread]
  rfl

/-- A line holds no relation, or it is cut at the first one. -/
theorem exists_first_relation (line : List Char) :
    (∀ r : Relation, r.text.toList ∉ Text.words line) ∨
      ∃ before relation after,
        Text.words line = before ++ (relation : Relation).text.toList :: after ∧
        ∀ r : Relation, r.text.toList ∉ before := by
  have hblank (word : List Char) (h : word ∈ Text.words line) := Text.not_isBlank_of_mem_words h
  obtain ⟨before, after, hwords, hbefore, hafter⟩ :=
    Text.exists_cut (!isRelation ·) (Text.words line)
  have hnone := (forall_not_isRelation_iff fun word hword =>
    hblank word (by simp [hwords, hword])).mp hbefore
  cases after with
  | nil =>
    rw [hwords, List.append_nil]
    exact .inl hnone
  | cons word after =>
    have hrelated : isRelation word = true := by simpa using hafter word rfl
    obtain ⟨relation, rfl⟩ := (isRelation_iff (hblank word (by simp [hwords]))).mp hrelated
    exact .inr ⟨before, relation, after, hwords, hnone⟩

theorem readConstraint_eq_ok_iff
    (hrelation : ∀ r : Relation, (Readable.read? r.text.toList : Option F) = none)
    {line : List Char} {c : Constraint F} :
    readConstraint line = .ok c ↔ StatesConstraint line c := by
  constructor
  · intro h
    rcases exists_first_relation line with hnone | ⟨before, relation, after, hwords, hbefore⟩
    · rw [readConstraint_of_forall_not_mem hnone] at h
      cases h
    · rw [readConstraint_of_words hwords hbefore] at h
      unfold readSides at h
      split at h
      case h_1 => cases h
      case h_2 bound =>
        split at h
        case h_1 => cases h
        case h_2 x hbound =>
          obtain ⟨coefficients, hcoefficients, rfl⟩ := exists_of_map_eq_ok h
          exact ⟨before, bound, Text.words_eq_iff.mp hwords,
            readNumbers_eq_ok_iff.mp hcoefficients, readNumber_eq_ok_iff.mp hbound⟩
      case h_3 => cases h
  · rintro ⟨words, bound, hwords, hcoefficients, hbound⟩
    have hnone : ∀ r : Relation, r.text.toList ∉ words := by
      intro r hr
      obtain ⟨x, hread, -⟩ := exists_readsAs_of_mem hcoefficients hr
      rw [hrelation r] at hread
      cases hread
    rw [readConstraint_of_words (Text.words_eq_iff.mpr hwords) hnone, readSides,
      readNumber_eq_ok_iff.mpr hbound]
    dsimp only
    rw [readNumbers_eq_ok_iff.mpr hcoefficients]
    rfl

theorem readConstraints_eq_mapPositions (index : Nat) (lines : List Line) :
    readConstraints (F := F) index lines =
      mapPositions (fun index line =>
        (readConstraint line.content).mapError (.constraint index line)) index lines := by
  induction lines generalizing index with
  | nil => rfl
  | cons line lines ih =>
    unfold readConstraints mapPositions
    rw [ih]
    cases readConstraint (F := F) line.content <;> rfl

section Whole

variable (hrelation : ∀ r : Relation, (Readable.read? r.text.toList : Option F) = none)

include hrelation

theorem mapError_readConstraint_eq_ok_iff (index : Nat) (line : Line) (c : Constraint F) :
    (readConstraint line.content).mapError (Refusal.constraint index line) = .ok c ↔
      StatesConstraint line.content c := by
  rw [mapError_eq_ok_iff, readConstraint_eq_ok_iff hrelation]

theorem readConstraints_eq_ok_iff {index : Nat} {lines : List Line}
    {constraints : List (Constraint F)} :
    readConstraints index lines = .ok constraints ↔
      List.Forall₂ StatesConstraint (lines.map Line.content) constraints := by
  rw [readConstraints_eq_mapPositions, List.forall₂_map_left_iff]
  exact mapPositions_eq_ok_iff (mapError_readConstraint_eq_ok_iff hrelation)

theorem read_eq_ok_iff {text : List Char} {draft : Draft F} :
    Draft.read text = .ok draft ↔ ∃ header rows,
      (contentLines text).map Line.content = header :: rows ∧
        StatesObjective header draft.direction draft.objective ∧
        List.Forall₂ StatesConstraint rows draft.constraints := by
  unfold Draft.read
  constructor
  · intro h
    split at h
    case h_1 => cases h
    case h_2 header lines hlines =>
      split at h
      case h_1 => cases h
      case h_2 direction objective hheader =>
        obtain ⟨constraints, hconstraints, rfl⟩ := exists_of_map_eq_ok h
        rw [hlines]
        exact ⟨_, _, rfl, readObjective_eq_ok_iff.mp hheader,
          (readConstraints_eq_ok_iff hrelation).mp hconstraints⟩
  · rintro ⟨header, rows, hcontents, hheader, hrows⟩
    cases hlines : contentLines text with
    | nil =>
      rw [hlines] at hcontents
      cases hcontents
    | cons line lines =>
      rw [hlines] at hcontents
      cases hcontents
      dsimp only
      rw [readObjective_eq_ok_iff.mpr hheader]
      dsimp only
      rw [(readConstraints_eq_ok_iff hrelation).mpr hrows]
      rfl

theorem isWriting_iff {text : String} {p : LinearProgram F} :
    IsWriting text.toList p ↔ parse text = .ok p := by
  rw [parse_eq_ok_iff]
  simp only [read_eq_ok_iff hrelation, map_content_contentLines, IsWriting, IsWritingWith,
    forall₂_hasContent_iff, ← Text.lines_eq_iff]
  constructor
  · rintro ⟨_, _, header, rows, rfl, rfl, hlines, hheader, hrows, hdimension⟩
    exact ⟨⟨p.direction, p.objective, p.constraints⟩, ⟨header, rows, hlines, hheader, hrows⟩,
      rfl, rfl, rfl, hdimension⟩
  · rintro ⟨⟨direction, objective, constraints⟩, ⟨header, rows, hlines, hheader, hrows⟩,
      rfl, rfl, rfl, hdimension⟩
    exact ⟨_, _, header, rows, rfl, rfl, hlines, hheader, hrows, hdimension⟩

/-- **A text is read as a problem exactly if it is a writing of it.** Words may be read as
numbers in any way, as long as none that stands for a relation is. The texts that are read as a
problem are those whose lines, without comments, blanks around them and lines that are empty
then, state the direction and the costs of the problem and after it each of its constraints, in
words that are read as the finite numbers of the problem. In the header a colon that the blanks
lead up to is always the separator. Unless some word that begins with a colon is read as a number,
this goes without saying. -/
theorem parse_eq_ok_iff_isWriting (text : String) (p : LinearProgram F) :
    (parse text = .ok p ↔ IsWriting text.toList p) ∧
      ((∀ word : List Char, (Readable.read? (':' :: word) : Option F) = none) →
        (parse text = .ok p ↔ IsLooseWriting text.toList p)) := by
  refine ⟨(isWriting_iff hrelation).symm, fun hunread => ?_⟩
  rw [← isWriting_iff hrelation]
  simp only [IsWriting, IsLooseWriting, IsWritingWith, looselyStatesObjective_iff hunread]

end Whole

/-- Numbers as they are written, none of which is rounded. -/
instance : Readable Numeral where
  read? := Numeral.read?
  isFinite
    | .decimal .. => true
    | _ => false

/-- A text with a comment, an empty line, both ends of a line, and blanks around a colon. -/
def twoLimits : String := "MaX : 3 2.5 # gains\r\n\r\n 1 1 <= 4\n2 -1 = 5e1"

theorem parse_eq_ok_iff_isWriting_twoLimits :
    (∀ r : Relation, (Readable.read? r.text.toList : Option Numeral) = none) ∧
      (∀ word : List Char, (Readable.read? (':' :: word) : Option Numeral) = none) ∧
      ∃ p : LinearProgram Numeral, parse twoLimits = .ok p ∧ IsWriting twoLimits.toList p ∧
        IsLooseWriting twoLimits.toList p ∧ p.direction = .maximize ∧
        p.objective = [.decimal false 3 0, .decimal false 25 (-1)] ∧
        p.constraints.map Constraint.relation = [.atMost, .equal] := by
  have hrelation (r : Relation) : (Readable.read? r.text.toList : Option Numeral) = none := by
    cases r <;> decide
  have hunread (word : List Char) : (Readable.read? (':' :: word) : Option Numeral) = none :=
    Numeral.read?_colon word
  have hshown : (parse (F := Numeral) twoLimits).map (fun p =>
      (p.direction, p.objective, p.constraints.map Constraint.relation)) =
        .ok (.maximize, [.decimal false 3 0, .decimal false 25 (-1)], [.atMost, .equal]) := by
    decide +kernel
  obtain ⟨p, h, hparts⟩ := exists_of_map_eq_ok hshown
  obtain ⟨hdirection, hobjective, hrelations⟩ := Prod.ext_iff.mp hparts |>.imp_right Prod.ext_iff.mp
  obtain ⟨hwriting, hloose⟩ := parse_eq_ok_iff_isWriting hrelation twoLimits p
  exact ⟨hrelation, hunread, p, h, hwriting.mp h, (hloose hunread).mp h, hdirection, hobjective,
    hrelations⟩

/-- A word that is no relation, as it is written. -/
structure Token where
  word : List Char
  deriving DecidableEq

instance : Readable Token where
  read? word := if isRelation word then none else some ⟨word⟩
  isFinite _ := true

/-- **A colon never begins a word.** After the keyword and a blank, a colon and a digit might as
well be the word of a cost, where such words are read. The text is then put together like a
writing of that problem, but another one is read. -/
theorem parse_leading_colon :
    (∀ r : Relation, (Readable.read? r.text.toList : Option Token) = none) ∧
      ∃ p q : LinearProgram Token, p.objective = [⟨[':', '3']⟩] ∧ q.objective = [⟨['3']⟩] ∧
        IsLooseWriting "max :3".toList p ∧ parse "max :3" = .ok q ∧ parse "max :3" ≠ .ok p := by
  have hrelation (r : Relation) : (Readable.read? r.text.toList : Option Token) = none := by
    cases r <;> decide
  have hshown : (parse (F := Token) "max :3").map (·.objective) = .ok [⟨['3']⟩] := by
    decide +kernel
  obtain ⟨q, hq, hobjective⟩ := exists_of_map_eq_ok hshown
  let p : LinearProgram Token := ⟨.maximize, [⟨[':', '3']⟩], [], 1, by simp⟩
  have hword : Text.HasWords ([] ++ [':', '3'] ++ []) [[':', '3']] :=
    .cons (by simp) (by simp) (by simp [Text.isBlank]) (by simp) (.nil (by simp))
  have hheader : HasLooseHeader "max :3".toList .maximize [[':', '3']] :=
    ⟨[], .inr rfl, "max".toList, [' '], [':', '3'], rfl,
      ⟨"max", by simp [Direction.names], List.forall₂_same.mpr fun _ _ => .inl rfl⟩,
      by simp [Text.isBlank], hword, by simp⟩
  have hcontent : HasContent "max :3".toList "max :3".toList :=
    ⟨[], [], [], by simp, by simp, by simp, by simp, by simp, by simp [Text.isBlank],
      by simp [Text.isBlank]⟩
  have hwriting : IsLooseWriting "max :3".toList p :=
    ⟨_, _, _, [], .last (by simp) (by simp), .cons hcontent .nil, rfl,
      ⟨_, hheader, .cons ⟨rfl, rfl⟩ .nil⟩, .nil, rfl⟩
  refine ⟨hrelation, p, q, rfl, hobjective, hwriting, hq, fun hp => ?_⟩
  have hsame : q.objective = [⟨[':', '3']⟩] :=
    congrArg LinearProgram.objective (Except.ok.inj (hq.symm.trans hp))
  rw [hobjective] at hsame
  exact absurd hsame (by decide)

end ProblemFile

end LinearProgramming
