import LinearProgramming.Proofs.ProblemFile.Writing

/-!
# Refused texts

A text that is no writing of a problem is refused for one reason. It holds nothing, or there is a
first line that cannot be read as what it stands for, or its lines can be read but do not fit
together. What can be wrong with a line is said here by how the line is put together, and so that
only the first of its faults counts. A line that cannot be read is named by its number among all
lines of the text and by its content, and a constraint by its number among the constraints.
-/

namespace LinearProgramming

/-- A word without blanks is refused as a direction exactly if it stands for none. -/
theorem Direction.read_eq_error_iff {word : List Char} {unknown : UnknownWord}
    (h : ∀ c ∈ word, Text.isBlank c = false) :
    read word = .error unknown ↔ (∀ d : Direction, ¬ d.IsNamedBy word) ∧
      unknown = .direction (String.ofList (Text.lowerCase word)) := by
  have hform (unknown : UnknownWord) (hread : read word = .error unknown) :
      unknown = .direction (String.ofList (Text.lowerCase word)) := by
    rw [read, Text.trim_of_forall h] at hread
    split at hread <;> cases hread
    rfl
  constructor
  · intro hread
    refine ⟨fun d hnamed => ?_, hform unknown hread⟩
    rw [(read_eq_ok_iff h).mpr hnamed] at hread
    cases hread
  · rintro ⟨hunknown, rfl⟩
    cases hread : read word with
    | error found => rw [hform found hread]
    | ok d => exact absurd ((read_eq_ok_iff h).mp hread) (hunknown d)

namespace ProblemFile

section Faults

variable (F : Type) [Readable F]

/-- Whether a word is read as a finite number. -/
def IsNumber (word : List Char) : Prop := ∃ x : F, ReadsAs word x

/-- What can be wrong with the first line. The reason that comes first counts. -/
inductive ObjectiveFault (line : List Char) : String → Prop where
  | direction {keyword rest : List Char} (hline : line = keyword ++ rest)
      (hkeyword : ∀ c ∈ keyword, Text.isBlank c = false ∧ c ≠ ':')
      (hrest : ∀ c ∈ rest.head?, Text.isBlank c = true ∨ c = ':')
      (hunknown : ∀ d : Direction, ¬ d.IsNamedBy keyword) :
      ObjectiveFault line ("Unknown optimization direction \"" ++
        String.ofList (Text.lowerCase keyword) ++ "\"")
  | cost {direction : Direction} {words before : List (List Char)} {word : List Char}
      (hheader : HasHeader line direction words)
      (hcost : FirstFailure (IsNumber F) words before word) :
      ObjectiveFault line s!"Invalid coefficient a{before.length + 1}"

/-- What can be wrong with a line for a constraint. The reason that comes first counts, and the
words after the first relation come before those that precede it. -/
inductive ConstraintFault (line : List Char) : String → Prop where
  | missingRelation {words : List (List Char)} (hwords : Text.HasWords line words)
      (hnone : ∀ r : Relation, r.text.toList ∉ words) :
      ConstraintFault line
        "Missing constraint operator, expected one of \"<=\", \">=\" or \"=\""
  | missingBound {before : List (List Char)} {relation : Relation}
      (hwords : Text.HasWords line (before ++ [relation.text.toList]))
      (hfirst : ∀ r : Relation, r.text.toList ∉ before) :
      ConstraintFault line "Missing right-hand side"
  | extraBound {before after : List (List Char)} {relation : Relation}
      {bound second : List Char}
      (hwords : Text.HasWords line
        (before ++ relation.text.toList :: bound :: second :: after))
      (hfirst : ∀ r : Relation, r.text.toList ∉ before) :
      ConstraintFault line "Expected a single value after the constraint operator"
  | bound {before : List (List Char)} {relation : Relation} {bound : List Char}
      (hwords : Text.HasWords line (before ++ [relation.text.toList, bound]))
      (hfirst : ∀ r : Relation, r.text.toList ∉ before) (hbound : ¬ IsNumber F bound) :
      ConstraintFault line "Invalid coefficient free value"
  | coefficient {before good : List (List Char)} {relation : Relation} {bound bad : List Char}
      (hwords : Text.HasWords line (before ++ [relation.text.toList, bound]))
      (hfirst : ∀ r : Relation, r.text.toList ∉ before) (hbound : IsNumber F bound)
      (hcoefficient : FirstFailure (IsNumber F) before good bad) :
      ConstraintFault line s!"Invalid coefficient x_{good.length + 1}"

end Faults

variable {F : Type} [Readable F]

theorem isNumber_iff (field : Field) {word : List Char} :
    IsNumber F word ↔ ∃ x : F, readNumber field word = .ok x :=
  exists_congr fun _ => readNumber_eq_ok_iff.symm

theorem readNumber_eq_error_iff {field : Field} {word : List Char} {fault : LineFault} :
    readNumber (F := F) field word = .error fault ↔
      ¬ IsNumber F word ∧ fault = .number field := by
  have hfault (fault : LineFault) (h : readNumber (F := F) field word = .error fault) :
      fault = .number field := by
    unfold readNumber at h
    split at h
    · split at h <;> cases h
      rfl
    · cases h
      rfl
  rw [isNumber_iff field]
  constructor
  · intro h
    refine ⟨?_, hfault fault h⟩
    rintro ⟨x, hx⟩
    rw [hx] at h
    cases h
  · rintro ⟨hnone, rfl⟩
    cases h : readNumber (F := F) field word with
    | error found => rw [hfault found h]
    | ok x => exact absurd ⟨x, h⟩ hnone

theorem readNumbers_eq_error_iff {field : Nat → Field} {index : Nat} {words : List (List Char)}
    {fault : LineFault} : readNumbers (F := F) field index words = .error fault ↔
      ∃ before word, FirstFailure (IsNumber F) words before word ∧
        fault = .number (field (index + before.length)) := by
  rw [readNumbers_eq_mapPositions, mapPositions_eq_error_iff fun _ _ _ => readNumber_eq_ok_iff]
  refine exists_congr fun before => exists_congr fun word => and_congr_right fun hfirst => ?_
  rw [readNumber_eq_error_iff]
  exact and_iff_right hfirst.2.2

theorem message_cost (index : Nat) :
    (LineFault.number (.cost index)).message = s!"Invalid coefficient a{index + 1}" := by
  show "Invalid coefficient " ++ ("a" ++ toString (index + 1)) =
    "Invalid coefficient " ++ "a" ++ toString (index + 1)
  rw [String.append_assoc]

theorem message_coefficient (index : Nat) :
    (LineFault.number (.coefficient index)).message = s!"Invalid coefficient x_{index + 1}" := by
  show "Invalid coefficient " ++ ("x_" ++ toString (index + 1)) =
    "Invalid coefficient " ++ "x_" ++ toString (index + 1)
  rw [String.append_assoc]

theorem readObjective_error_iff {line : List Char} {reason : String} :
    (∃ fault, readObjective (F := F) line = .error fault ∧ fault.message = reason) ↔
      ObjectiveFault F line reason := by
  constructor
  · rintro ⟨fault, h, rfl⟩
    unfold readObjective at h
    split at h
    case h_1 unknown hread =>
      cases h
      obtain ⟨keyword, rest, htake, -, hline, hkeyword, hrest⟩ := exists_keyword line
      rw [htake, Direction.read_eq_error_iff (not_isBlank_of_not_endsKeyword hkeyword)] at hread
      obtain ⟨hunknown, rfl⟩ := hread
      exact .direction hline (fun c hc => not_endsKeyword_iff.mp (hkeyword c hc))
        (fun c hc => endsKeyword_iff.mp (hrest c hc)) hunknown
    case h_2 direction hread =>
      obtain ⟨before, word, hcost, rfl⟩ := readNumbers_eq_error_iff.mp (map_eq_error_iff.mp h)
      rw [Nat.zero_add, message_cost]
      exact .cost (hasHeader_iff.mpr ⟨hread, rfl⟩) hcost
  · intro h
    cases h with
    | direction hline hkeyword hrest hunknown =>
      have hinside := fun c hc => not_endsKeyword_iff.mpr (hkeyword c hc)
      have hends := fun c hc => endsKeyword_iff.mpr (hrest c hc)
      obtain ⟨htake, -⟩ := (Text.cut_eq_iff (p := (!endsKeyword ·))).mpr
        ⟨hline, by simpa using hinside, by simpa using hends⟩
      have hblank := not_isBlank_of_not_endsKeyword hinside
      unfold readObjective
      rw [htake, (Direction.read_eq_error_iff hblank).mpr ⟨hunknown, rfl⟩]
      exact ⟨_, rfl, rfl⟩
    | cost hheader hcost =>
      obtain ⟨hread, hwords⟩ := hasHeader_iff.mp hheader
      unfold readObjective
      rw [hread]
      dsimp only
      rw [hwords, readNumbers_eq_error_iff.mpr ⟨_, _, hcost, rfl⟩]
      refine ⟨_, rfl, ?_⟩
      rw [Nat.zero_add, message_cost]

theorem readConstraint_error_iff {line : List Char} {reason : String} :
    (∃ fault, readConstraint (F := F) line = .error fault ∧ fault.message = reason) ↔
      ConstraintFault F line reason := by
  constructor
  · rintro ⟨fault, h, rfl⟩
    rcases exists_first_relation line with hnone | ⟨before, relation, after, hwords, hfirst⟩
    · rw [readConstraint_of_forall_not_mem hnone] at h
      cases h
      exact .missingRelation (Text.words_eq_iff.mp rfl) hnone
    · rw [readConstraint_of_words hwords hfirst] at h
      rw [Text.words_eq_iff] at hwords
      unfold readSides at h
      split at h
      case h_1 =>
        cases h
        exact .missingBound hwords hfirst
      case h_2 bound =>
        split at h
        case h_1 hbound =>
          cases h
          obtain ⟨hnot, rfl⟩ := readNumber_eq_error_iff.mp hbound
          exact .bound hwords hfirst hnot
        case h_2 x hbound =>
          obtain ⟨good, bad, hfailure, rfl⟩ := readNumbers_eq_error_iff.mp (map_eq_error_iff.mp h)
          rw [Nat.zero_add, message_coefficient]
          exact .coefficient hwords hfirst ((isNumber_iff _).mpr ⟨x, hbound⟩) hfailure
      case h_3 hnil hone =>
        cases h
        rcases after with _ | ⟨bound, _ | ⟨second, after⟩⟩
        · exact absurd rfl hnil
        · exact absurd rfl (hone bound)
        · exact .extraBound hwords hfirst
  · intro h
    cases h with
    | missingRelation hwords hnone =>
      rw [← Text.words_eq_iff] at hwords
      exact ⟨_, readConstraint_of_forall_not_mem (hwords ▸ hnone), rfl⟩
    | missingBound hwords hfirst =>
      exact ⟨_, readConstraint_of_words (Text.words_eq_iff.mpr hwords) hfirst, rfl⟩
    | extraBound hwords hfirst =>
      exact ⟨_, readConstraint_of_words (Text.words_eq_iff.mpr hwords) hfirst, rfl⟩
    | bound hwords hfirst hbound =>
      rw [readConstraint_of_words (Text.words_eq_iff.mpr hwords) hfirst, readSides,
        readNumber_eq_error_iff.mpr ⟨hbound, rfl⟩]
      exact ⟨_, rfl, rfl⟩
    | coefficient hwords hfirst hbound hcoefficient =>
      obtain ⟨x, hx⟩ := (isNumber_iff .bound).mp hbound
      rw [readConstraint_of_words (Text.words_eq_iff.mpr hwords) hfirst, readSides, hx]
      dsimp only
      rw [readNumbers_eq_error_iff.mpr ⟨_, _, hcoefficient, rfl⟩]
      refine ⟨_, rfl, ?_⟩
      rw [Nat.zero_add, message_coefficient]

theorem numbered_eq_nil_iff {contents : List (List Char)} :
    numbered contents = [] ↔ ∀ content ∈ contents, content = [] := by
  rw [← List.map_eq_nil_iff, map_content_numbered, List.filter_eq_nil_iff]
  simp

/-- A line stands at the place among the contents that its number says. -/
theorem numbered_eq_append_cons_iff {contents : List (List Char)} {before : List Line}
    {line : Line} : (∃ after, numbered contents = before ++ line :: after) ↔
      ∃ first rest, contents = first ++ line.content :: rest ∧ line.content ≠ [] ∧
        line.number = first.length + 1 ∧ numbered first = before := by
  constructor
  · rintro ⟨after, h⟩
    obtain ⟨l₁, l₂, hmap, hbefore, hline⟩ := List.filter_eq_append_iff.mp h
    obtain ⟨l₃, l₄, rfl, hempty, hcontent, -⟩ := List.filter_eq_cons_iff.mp hline
    rw [← List.append_assoc] at hmap
    obtain ⟨first, rest, rfl, hfirst, hrest⟩ := List.mapIdx_eq_append_iff.mp hmap
    obtain ⟨content, rest, rfl, rfl, -⟩ := List.mapIdx_eq_cons_iff.mp hrest
    refine ⟨first, rest, rfl, by simpa using hcontent, by simp, ?_⟩
    rw [numbered, hfirst, List.filter_append, hbefore, List.filter_eq_nil_iff.mpr hempty,
      List.append_nil]
  · rintro ⟨first, rest, rfl, hcontent, hnumber, rfl⟩
    obtain ⟨number, content⟩ := line
    obtain rfl : number = first.length + 1 := hnumber
    unfold numbered
    rw [List.mapIdx_append, List.filter_append, List.mapIdx_cons,
      List.filter_cons_of_pos (by simpa using hcontent), Nat.zero_add]
    exact ⟨_, rfl⟩

/-- Whether a parse error says that a line cannot be read, which line that is and why. -/
structure ParseError.Blames (e : ParseError) (context : String) (number : Nat)
    (content : List Char) (reason : String) : Prop where
  description_eq : e.description = context
  location?_eq : e.location? = some (number, String.ofList content)
  eq_caused : e = .caused context (.located reason number (String.ofList content))

theorem ParseError.blames_ofLine (context : String) (line : Line) (fault : LineFault) :
    (ofLine context line fault).Blames context line.number line.content fault.message :=
  ⟨rfl, rfl, rfl⟩

/-- Whether a text is refused with an error, by the contents of its lines. Either no line has a
content, or the first of them cannot be read, or all lines before one for a constraint can be read
but not that one, or all of them can be read but do not fit together. -/
inductive IsRefused (F : Type) [Readable F] (contents : List (List Char)) : ImportError → Prop where
  | noObjective (hempty : ∀ content ∈ contents, content = []) :
      IsRefused F contents (.parse (.plain "No objective function found"))
  | objective {before after : List (List Char)} {content : List Char} {reason : String}
      {e : ParseError} (hcontents : contents = before ++ content :: after)
      (hbefore : ∀ content ∈ before, content = []) (hcontent : content ≠ [])
      (hunreadable : ∀ (d : Direction) (objective : List F),
        ¬ StatesObjective content d objective)
      (hfault : ObjectiveFault F content reason)
      (he : e.Blames "Could not read the objective function" (before.length + 1) content
        reason) :
      IsRefused F contents (.parse e)
  | constraint {before after rows : List (List Char)} {header content : List Char}
      {reason : String} {e : ParseError} (hcontents : contents = before ++ content :: after)
      (hbefore : before.filter (· ≠ []) = header :: rows) (hcontent : content ≠ [])
      (hheader : ∃ (d : Direction) (objective : List F), StatesObjective header d objective)
      (hrows : ∀ row ∈ rows, ∃ c : Constraint F, StatesConstraint row c)
      (hunreadable : ∀ c : Constraint F, ¬ StatesConstraint content c)
      (hfault : ConstraintFault F content reason)
      (he : e.Blames s!"Could not read constraint {rows.length + 1}" (before.length + 1) content
        reason) :
      IsRefused F contents (.parse e)
  | shape {header : List Char} {rows : List (List Char)} {d : Direction} {objective : List F}
      {constraints before : List (Constraint F)} {c : Constraint F}
      (hcontents : contents.filter (· ≠ []) = header :: rows)
      (hheader : StatesObjective header d objective)
      (hrows : List.Forall₂ StatesConstraint rows constraints)
      (hshape : FirstFailure (fun c : Constraint F => c.coefficients.length = objective.length)
        constraints before c) :
      IsRefused F contents
        (.shape (.constraint before.length c.coefficients.length objective.length))

section Whole

variable (hrelation : ∀ r : Relation, (Readable.read? r.text.toList : Option F) = none)

include hrelation

theorem readConstraints_eq_error_iff {index : Nat} {lines : List Line} {refusal : Refusal} :
    readConstraints (F := F) index lines = .error refusal ↔ ∃ before line fault,
      FirstFailure (fun line : Line => ∃ c : Constraint F, StatesConstraint line.content c) lines
        before line ∧
      readConstraint (F := F) line.content = .error fault ∧
      refusal = .constraint (index + before.length) line fault := by
  rw [readConstraints_eq_mapPositions,
    mapPositions_eq_error_iff (mapError_readConstraint_eq_ok_iff hrelation)]
  simp only [mapError_eq_error_iff]
  constructor
  · rintro ⟨before, line, hfirst, fault, hfault, rfl⟩
    exact ⟨before, line, fault, hfirst, hfault, rfl⟩
  · rintro ⟨before, line, fault, hfirst, hfault, rfl⟩
    exact ⟨before, line, hfirst, fault, hfault, rfl⟩

theorem isRefused_of_read_eq_error {text : List Char} {contents : List (List Char)}
    (hcontents : contentLines text = numbered contents) {refusal : Refusal}
    (h : read (F := F) text = .error refusal) : IsRefused F contents refusal.importError := by
  unfold read at h
  split at h
  case h_1 found hdraft =>
    cases h
    unfold Draft.read at hdraft
    rw [hcontents] at hdraft
    split at hdraft
    case h_1 hnone =>
      cases hdraft
      exact .noObjective (numbered_eq_nil_iff.mp hnone)
    case h_2 header lines hlines =>
      split at hdraft
      case h_1 fault hfault =>
        cases hdraft
        obtain ⟨first, rest, hsplit, hcontent, hnumber, hfirst⟩ :=
          numbered_eq_append_cons_iff.mp
            ⟨lines, (show numbered contents = [] ++ header :: lines from hlines)⟩
        refine .objective hsplit (numbered_eq_nil_iff.mp hfirst) hcontent (fun d objective hd => ?_)
          (readObjective_error_iff.mp ⟨fault, hfault, rfl⟩)
          (hnumber ▸ ParseError.blames_ofLine _ header fault)
        rw [readObjective_eq_ok_iff.mpr hd] at hfault
        cases hfault
      case h_2 d objective hheader =>
        obtain ⟨before, line, fault, ⟨⟨after, rfl⟩, hbefore, hnot⟩, hfault, rfl⟩ :=
          (readConstraints_eq_error_iff hrelation).mp (map_eq_error_iff.mp hdraft)
        obtain ⟨first, rest, hsplit, hcontent, hnumber, hfirst⟩ :=
          numbered_eq_append_cons_iff.mp
            ⟨after, (show numbered contents = (header :: before) ++ line :: after from hlines)⟩
        have hrows : first.filter (· ≠ []) = header.content :: before.map Line.content := by
          rw [← map_content_numbered, hfirst, List.map_cons]
        refine .constraint hsplit hrows hcontent ⟨d, objective, readObjective_eq_ok_iff.mp hheader⟩
          (List.forall_mem_map.mpr hbefore) (fun c hc => hnot ⟨c, hc⟩)
          (readConstraint_error_iff.mp ⟨fault, hfault, rfl⟩) ?_
        rw [List.length_map, ← hnumber, Nat.zero_add]
        exact ParseError.blames_ofLine _ line fault
  case h_2 draft hdraft =>
    obtain ⟨error, hnew, rfl⟩ := mapError_eq_error_iff.mp h
    obtain ⟨before, c, hshape, rfl⟩ := LinearProgram.new?_eq_error_iff.mp hnew
    obtain ⟨header, rows, hlines, hheader, hrows⟩ := (read_eq_ok_iff hrelation).mp hdraft
    rw [hcontents, map_content_numbered] at hlines
    exact .shape hlines hheader hrows hshape

theorem read_eq_error_of_isRefused {text : List Char} {contents : List (List Char)}
    (hcontents : contentLines text = numbered contents) {error : ImportError}
    (h : IsRefused F contents error) :
    ∃ refusal, read (F := F) text = .error refusal ∧ refusal.importError = error := by
  unfold read
  cases h with
  | noObjective hempty =>
    unfold Draft.read
    rw [hcontents, numbered_eq_nil_iff.mpr hempty]
    exact ⟨_, rfl, rfl⟩
  | @objective before after content reason e hsplit hbefore hcontent _ hreason he =>
    obtain ⟨fault, hfault, rfl⟩ := readObjective_error_iff.mpr hreason
    let line : Line := { number := before.length + 1, content }
    obtain ⟨lines, hlines⟩ := numbered_eq_append_cons_iff.mpr
      ⟨before, after, (show _ = _ ++ line.content :: _ from hsplit), hcontent, rfl,
        numbered_eq_nil_iff.mpr hbefore⟩
    unfold Draft.read
    rw [hcontents, hlines, List.nil_append]
    dsimp only
    rw [hfault, he.eq_caused]
    exact ⟨_, rfl, rfl⟩
  | @constraint before after rows header content reason e hsplit hbefore hcontent hheader hrows
      hunreadable hreason he =>
    obtain ⟨fault, hfault, rfl⟩ := readConstraint_error_iff.mpr hreason
    obtain ⟨d, objective, hd⟩ := hheader
    rw [← map_content_numbered] at hbefore
    obtain ⟨first, ls, hfirst, rfl, rfl⟩ := List.map_eq_cons_iff.mp hbefore
    let line : Line := { number := before.length + 1, content }
    obtain ⟨lines, hlines⟩ := numbered_eq_append_cons_iff.mpr
      ⟨before, after, (show _ = _ ++ line.content :: _ from hsplit), hcontent, rfl, hfirst⟩
    have hconstraints : readConstraints (F := F) 0 (ls ++ line :: lines) = _ :=
      (readConstraints_eq_error_iff hrelation).mpr ⟨ls, line, fault, ⟨⟨lines, rfl⟩,
        fun l hl => hrows _ (List.mem_map_of_mem hl), fun ⟨c, hc⟩ => hunreadable c hc⟩, hfault, rfl⟩
    unfold Draft.read
    rw [hcontents, hlines, List.cons_append]
    dsimp only
    rw [readObjective_eq_ok_iff.mpr hd]
    dsimp only
    rw [hconstraints, he.eq_caused, List.length_map, Nat.zero_add]
    exact ⟨_, rfl, rfl⟩
  | @shape header rows d objective constraints before c hlines hheader hrows hshape =>
    have hdraft : Draft.read text = .ok { direction := d, objective, constraints } := by
      rw [read_eq_ok_iff hrelation, hcontents, map_content_numbered]
      exact ⟨header, rows, hlines, hheader, hrows⟩
    rw [hdraft]
    dsimp only
    rw [Draft.problem?, LinearProgram.new?_eq_error_iff.mpr ⟨before, c, hshape, rfl⟩]
    exact ⟨_, rfl, rfl⟩

/-- **A refused text is blamed on its first faulty line, for its first fault.** Words may be read
as numbers in any way, as long as none that stands for a relation is. A text is refused with an
error exactly if the contents of its lines, without comments and the blanks around them, call for
that error. -/
theorem parse_eq_error_iff_isRefused (text : String) (error : ImportError) :
    parse (F := F) text = .error error ↔ ∃ lines contents, Text.HasLines text.toList lines ∧
      List.Forall₂ HasContent lines contents ∧ IsRefused F contents error := by
  unfold parse
  rw [mapError_eq_error_iff]
  simp only [forall₂_hasContent_iff, ← Text.lines_eq_iff]
  constructor
  · rintro ⟨refusal, h, rfl⟩
    exact ⟨_, _, rfl, rfl,
      isRefused_of_read_eq_error hrelation (contentLines_eq_numbered _) h⟩
  · rintro ⟨_, _, rfl, rfl, h⟩
    exact read_eq_error_of_isRefused hrelation (contentLines_eq_numbered _) h

end Whole

/-- A text whose second constraint has two faults, and whose third has one. -/
def twoFaults : String := "# gains\n\nmax: 1 2\n1 1 <= 4\r\n\n 1 x <= y # limit\n1 1 1"

theorem parse_eq_error_iff_isRefused_twoFaults :
    (∀ r : Relation, (Readable.read? r.text.toList : Option Numeral) = none) ∧
      ∃ e lines contents, parse (F := Numeral) twoFaults = .error (.parse e) ∧
        Text.HasLines twoFaults.toList lines ∧ List.Forall₂ HasContent lines contents ∧
        IsRefused Numeral contents (.parse e) ∧
        e.Blames "Could not read constraint 2" 6 "1 x <= y".toList
          "Invalid coefficient free value" := by
  have hrelation (r : Relation) : (Readable.read? r.text.toList : Option Numeral) = none := by
    cases r <;> decide
  have hshown : (parse (F := Numeral) twoFaults).map (fun _ => ()) = .error (.parse
      (.caused "Could not read constraint 2"
        (.located "Invalid coefficient free value" 6 "1 x <= y"))) := by
    decide +kernel
  have h := map_eq_error_iff.mp hshown
  obtain ⟨lines, contents, hlines, hcontents, hrefused⟩ :=
    (parse_eq_error_iff_isRefused hrelation twoFaults _).mp h
  exact ⟨hrelation, _, lines, contents, h, hlines, hcontents, hrefused, rfl, rfl, rfl⟩

end ProblemFile

end LinearProgramming
