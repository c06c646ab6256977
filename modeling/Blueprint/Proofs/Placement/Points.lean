import Blueprint.Proofs.Placement.Config
import Blueprint.Proofs.Text.Integer
import Blueprint.Proofs.Text.Split

/-!
Which texts are points. They are two numbers with a comma between them, each with blanks around it or
with none, and both inside a word of 32 bits. Every other text is refused as it stands.
-/

namespace Blueprint.Placement

open Text (Denotes)

/-- A whole number that a signed word of 32 bits holds. -/
def InWord (n : Int) : Prop := -2147483648 ≤ n ∧ n ≤ 2147483647

/-- The text has one comma, and what is before it and behind it denote the numbers. -/
def IsPoint (value : String) (x y : Int) : Prop :=
  ∃ first second, value.toList = first ++ ',' :: second ∧ ',' ∉ first ∧ ',' ∉ second ∧
    Denotes first x ∧ Denotes second y

/-- The text is the point written out, with blanks around either number or with none. -/
def Writes (value : String) (place : Point) : Prop :=
  ∃ before behind ahead after : List Char,
    value.toList = before ++ (toString place.x.toInt).toList ++ behind ++ ',' ::
      (ahead ++ (toString place.y.toInt).toList ++ after) ∧
    ∀ c ∈ before ++ behind ++ ahead ++ after, Text.isBlank c = true

/-! ### Words -/

theorem isSigned_iff (n : Int) : Word.isSigned 32 n = true ↔ InWord n := by
  have half : Word.count (32 - 1) = 2147483648 := rfl
  simp only [Word.isSigned, half, Bool.and_eq_true, decide_eq_true_eq, InWord]
  omega

theorem inWord_toInt (word : Int32) : InWord word.toInt := by
  have low := word.le_toInt
  have high := word.toInt_lt
  simp only [InWord]
  omega

theorem toInt_ofInt {n : Int} (inWord : InWord n) : (Int32.ofInt n).toInt = n := by
  obtain ⟨low, high⟩ := inWord
  exact Int32.toInt_ofInt_of_le (by omega) (by omega)

theorem coordinate?_eq_some_iff {field : List Char} {word : Int32} :
    coordinate? field = some word ↔ Denotes field word.toInt := by
  rw [Text.denotes_iff_read, coordinate?]
  cases read : Text.integer? (Text.trim field) with
  | none => simp
  | some n =>
    simp only [Option.some_inj]
    constructor
    · intro fits
      split at fits
      · next inside =>
        cases fits
        exact (toInt_ofInt ((isSigned_iff n).mp inside)).symm
      · cases fits
    · rintro rfl
      rw [if_pos ((isSigned_iff _).mpr (inWord_toInt word)), Int32.ofInt_toInt]

/-! ### Points -/

theorem point?_eq_some_iff {value : String} {place : Point} :
    point? value = some place ↔ IsPoint value place.x.toInt place.y.toInt := by
  unfold point?
  constructor
  · intro read
    split at read
    · next first second pieces =>
      obtain ⟨x, readFirst, read⟩ := Option.bind_eq_some_iff.mp read
      obtain ⟨y, readSecond, read⟩ := Option.bind_eq_some_iff.mp read
      cases read
      obtain ⟨whole, free, last⟩ := Text.split_eq_pair_iff.mp pieces
      exact ⟨first, second, whole, free, last, coordinate?_eq_some_iff.mp readFirst,
        coordinate?_eq_some_iff.mp readSecond⟩
    · cases read
  · rintro ⟨first, second, whole, free, last, denotesFirst, denotesSecond⟩
    rw [Text.split_eq_pair_iff.mpr ⟨whole, free, last⟩]
    simp only [coordinate?_eq_some_iff.mpr denotesFirst, coordinate?_eq_some_iff.mpr denotesSecond,
      bind, Option.bind]

theorem exists_point?_iff {value : String} {x y : Int} :
    (∃ place, point? value = some place ∧ place.x.toInt = x ∧ place.y.toInt = y) ↔
      IsPoint value x y ∧ InWord x ∧ InWord y := by
  constructor
  · rintro ⟨place, read, rfl, rfl⟩
    exact ⟨point?_eq_some_iff.mp read, inWord_toInt _, inWord_toInt _⟩
  · rintro ⟨isPoint, inX, inY⟩
    refine ⟨⟨.ofInt x, .ofInt y⟩, ?_, toInt_ofInt inX, toInt_ofInt inY⟩
    rw [point?_eq_some_iff, toInt_ofInt inX, toInt_ofInt inY]
    exact isPoint

theorem Writes.isPoint {value : String} {place : Point} (written : Writes value place) :
    IsPoint value place.x.toInt place.y.toInt := by
  obtain ⟨before, behind, ahead, after, whole, blank⟩ := written
  simp only [List.mem_append, or_imp, forall_and] at blank
  obtain ⟨⟨⟨blankBefore, blankBehind⟩, blankAhead⟩, blankAfter⟩ := blank
  have first : Denotes (before ++ (toString place.x.toInt).toList ++ behind) place.x.toInt :=
    ⟨before, _, behind, rfl, Text.isNumeral_toString _, blankBefore, blankBehind⟩
  have second : Denotes (ahead ++ (toString place.y.toInt).toList ++ after) place.y.toInt :=
    ⟨ahead, _, after, rfl, Text.isNumeral_toString _, blankAhead, blankAfter⟩
  exact ⟨_, _, whole, first.free, second.free, first, second⟩

/-! ### The configuration of a block -/

theorem point_ok_iff {value : String} {place : Point} :
    point value = .ok (.point place) ↔ point? value = some place := by
  unfold point
  cases point? value <;> simp

theorem point_error_iff {value : String} :
    point value = .error (.invalidPoint value) ↔ ∀ place, point? value ≠ some place := by
  unfold point
  cases point? value <;> simp

theorem config_of_point {context : Context} {cell value : String} {block : BlockDecl}
    {column row : Nat} (unpowered : ¬Powered block)
    (configured : block.config = some ⟨"point", value⟩) :
    config context cell block column row = point value := by
  have named : ConfigKind.ofName? "point" = some .point := by decide
  unfold config
  simp only [configured, named]
  exact if_neg unpowered

/-- A text that is configured as a point resolves to a point exactly if it has one comma with numbers
before it and behind it, each with blanks around it or with none, that both fit into a word. The point
has these numbers. Any other text is refused as it stands, and a point written out comes back. -/
theorem point_config_iff (context : Context) (cell value : String) (block : BlockDecl)
    (column row : Nat) (unpowered : ¬Powered block)
    (configured : block.config = some ⟨"point", value⟩) :
    (∀ x y : Int, (∃ place, config context cell block column row = .ok (.point place) ∧
        place.x.toInt = x ∧ place.y.toInt = y) ↔ IsPoint value x y ∧ InWord x ∧ InWord y) ∧
    (config context cell block column row = .error (.invalidPoint value) ↔
      ¬∃ x y : Int, IsPoint value x y ∧ InWord x ∧ InWord y) ∧
    ∀ place, Writes value place → config context cell block column row = .ok (.point place) := by
  rw [config_of_point unpowered configured]
  simp only [point_ok_iff, point_error_iff]
  refine ⟨fun x y => exists_point?_iff, ?_, ?_⟩
  · constructor
    · rintro refused ⟨x, y, inside⟩
      obtain ⟨place, read, _⟩ := exists_point?_iff.mpr inside
      exact refused place read
    · intro noPoint place read
      exact noPoint ⟨_, _, exists_point?_iff.mp ⟨place, read, rfl, rfl⟩⟩
  · intro place written
    exact point?_eq_some_iff.mpr written.isPoint

/-- A tab, a space that does not break, and the least number of a word. -/
def spacedText : String := "\t5\u00a0, -2147483648"

def bridge : BlockDecl := ⟨"bridge-conveyor", none, some ⟨"point", spacedText⟩, none⟩

def bridgeContext : Context where
  document := {
    info := ⟨"bridge", none, none, [], "1", none⟩
    tiles := { grid := [["b"]], blocks := .ofList [("b", bridge)], programs := .empty }
    consts := .empty }
  catalog := {
    name := none
    items := .empty
    blocks := .ofList [("bridge-conveyor", 0)]
    liquids := .empty
    units := .empty }
  shop := { files := .empty, base := Path.here, compiler := noCompiler, constants := .empty }
  codec := .standard

theorem point_config_iff_spaced : ¬Powered bridge ∧ bridge.config = some ⟨"point", spacedText⟩ ∧
    Writes spacedText ⟨5, -2147483648⟩ ∧
    config bridgeContext "b" bridge 0 0 = .ok (.point ⟨5, -2147483648⟩) ∧
    IsPoint spacedText 5 (-2147483648) := by
  have unpowered : ¬Powered bridge := fun powered => absurd powered.1 (by decide)
  have written : Writes spacedText ⟨5, -2147483648⟩ :=
    ⟨['\t'], ['\u00a0'], [' '], [], String.toList_ofList, List.all_eq_true.mp (by decide)⟩
  obtain ⟨exactly, _, resolves⟩ :=
    point_config_iff bridgeContext "b" spacedText bridge 0 0 unpowered rfl
  have resolved := resolves ⟨5, -2147483648⟩ written
  obtain ⟨isPoint, _⟩ := (exactly 5 (-2147483648)).mp ⟨_, resolved, rfl, rfl⟩
  exact ⟨unpowered, rfl, written, resolved, isPoint⟩

end Blueprint.Placement
