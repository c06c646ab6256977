import Blueprint.Program
import Blueprint.Proofs.FileTree
import Blueprint.Proofs.Text.Separator
import Blueprint.Schematic.ProcessorLayout

/-!
The lines of a program that is read from a file. They are the pieces between the line breaks of the
file, which are newlines with or without a carriage return before them, except that a carriage return
at the very end is lost.
-/

namespace Blueprint

namespace Text

/-- A newline, together with a carriage return before it. -/
def lineBreak : Separator
  | '\r' :: '\n' :: _ => 2
  | '\n' :: _ => 1
  | _ => 0

variable {line rest : List Char}

/-! ### Carriage returns at the end -/

theorem dropFinal_append {mark : Char} (front : List Char) (some : rest ≠ []) :
    dropFinal mark (front ++ rest) = front ++ dropFinal mark rest := by
  have last : (front ++ rest).getLast? = rest.getLast? := by
    rw [List.getLast?_append, List.getLast?_eq_some_getLast some, Option.some_or]
  rw [dropFinal, dropFinal, last, List.dropLast_append_of_ne_nil some]
  split <;> rfl

theorem dropFinal_concat (mark : Char) (front : List Char) :
    dropFinal mark (front ++ [mark]) = front := by
  simp [dropFinal]

theorem dropFinal_of_ne {mark : Char} {text : List Char} (other : text.getLast? ≠ some mark) :
    dropFinal mark text = text := if_neg other

theorem mem_of_mem_dropFinal {mark c : Char} {text : List Char} (member : c ∈ dropFinal mark text) :
    c ∈ text := by
  rw [dropFinal] at member
  split at member
  · exact (List.dropLast_sublist text).subset member
  · exact member

/-! ### Cutting at line breaks -/

theorem lineBreak_newline : lineBreak ('\n' :: rest) = 1 := rfl

theorem lineBreak_return : lineBreak ('\r' :: '\n' :: rest) = 2 := rfl

theorem lineBreak_eq_zero {c : Char} (ordinary : c ≠ '\n')
    (unbroken : c ≠ '\r' ∨ rest.head? ≠ some '\n') : lineBreak (c :: rest) = 0 := by
  unfold lineBreak
  split
  · next same =>
    obtain ⟨rfl, rfl⟩ := List.cons.inj same
    simp at unbroken
  · next same => exact absurd (List.cons.inj same).1 ordinary
  · rfl

/-- No line break begins in a line, if the last carriage return of the line is not part of one. -/
theorem lineBreak_inside {c : Char} {after : List Char} (free : '\n' ∉ line)
    (inside : c :: after <:+ line) (apart : line.getLast? ≠ some '\r' ∨ rest.head? ≠ some '\n') :
    lineBreak (c :: (after ++ rest)) = 0 := by
  have members := inside.subset
  have ordinary : c ≠ '\n' := by
    rintro rfl
    exact free (members List.mem_cons_self)
  apply lineBreak_eq_zero ordinary
  cases after with
  | nil =>
    obtain ⟨front, rfl⟩ := inside
    simpa using apart
  | cons d more =>
    right
    intro newline
    obtain rfl : d = '\n' := by simpa using newline
    exact free (members (by simp))

theorem cut_line (free : '\n' ∉ line) : lineBreak.cut line = [line] := by
  have whole : lineBreak.cut (line ++ []) = (lineBreak.cut []).modifyHead (line ++ ·) :=
    Separator.cut_append fun c after inside => lineBreak_inside free inside (.inr (by simp))
  rwa [List.append_nil, Separator.cut_nil, List.modifyHead_cons, List.append_nil] at whole

theorem cut_line_append (free : '\n' ∉ line) :
    lineBreak.cut (line ++ '\n' :: rest) = dropFinal '\r' line :: lineBreak.cut rest := by
  by_cases returned : line.getLast? = some '\r'
  · -- The carriage return belongs to the break, and one more before it does not.
    obtain ⟨front, rfl⟩ := List.getLast?_eq_some_iff.mp returned
    have inFront : '\n' ∉ front := fun member => free (List.mem_append_left _ member)
    rw [dropFinal_concat, List.append_assoc, Separator.cut_append fun c after inside =>
      lineBreak_inside inFront inside (.inr (by simp))]
    rw [List.singleton_append, Separator.cut_found lineBreak_return]
    simp
  · rw [dropFinal_of_ne returned, Separator.cut_append fun c after inside =>
      lineBreak_inside free inside (.inl returned)]
    rw [Separator.cut_found lineBreak_newline]
    simp

theorem programLines_eq (text : List Char) :
    programLines text = lineBreak.cut (dropFinal '\r' text) := by
  induction text using pieces_induction '\n' with
  | last line free =>
    have still : '\n' ∉ dropFinal '\r' line := fun member => free (mem_of_mem_dropFinal member)
    rw [programLines, split_of_free free, List.map_singleton, cut_line still]
  | more line rest free ih =>
    have kept : dropFinal '\r' ('\n' :: rest) = '\n' :: dropFinal '\r' rest := by
      cases rest with
      | nil => rfl
      | cons c after => exact dropFinal_append ['\n'] (List.cons_ne_nil c after)
    rw [programLines] at ih ⊢
    rw [split_append, split_of_free free, List.singleton_append, List.map_cons, ih,
      dropFinal_append line (List.cons_ne_nil '\n' rest), kept, cut_line_append free]

/-! ### Replacing line breaks -/

/-- The newline alone is a line break that is replaced by itself. -/
theorem replace_lineBreak (text : List Char) :
    lineBreak.replace ['\n'] text = (Separator.literal ['\r', '\n']).replace ['\n'] text := by
  fun_induction Separator.replace lineBreak ['\n'] text with
  | case1 => rw [Separator.replace]
  | case2 c rest none ih =>
    have other : Separator.literal ['\r', '\n'] (c :: rest) = 0 := by
      rw [Separator.literal, if_neg]
      intro both
      obtain ⟨after, whole⟩ := List.isPrefixOf_iff_prefix.mp both
      rw [← whole] at none
      cases none
    rw [Separator.replace_kept other, ih]
  | case3 c rest length found ih =>
    unfold lineBreak at found
    split at found
    · next after same =>
      obtain ⟨rfl, rfl⟩ := List.cons.inj same
      obtain rfl : length = 1 := by omega
      have both : Separator.literal ['\r', '\n'] ('\r' :: '\n' :: after) = 2 := by
        simp [Separator.literal]
      rw [Separator.replace_found both, ih]
    · next after _ same =>
      obtain ⟨rfl, rfl⟩ := List.cons.inj same
      obtain rfl : length = 0 := by omega
      have newline : Separator.literal ['\r', '\n'] ('\n' :: rest) = 0 := by
        simp [Separator.literal]
      rw [Separator.replace_kept newline, ih]
      simp
    · cases found

theorem replace_concat_return (text : List Char) :
    lineBreak.replace ['\n'] (text ++ ['\r']) = lineBreak.replace ['\n'] text ++ ['\r'] := by
  simp only [← Separator.intercalate_cut]
  induction text using pieces_induction '\n' with
  | last line free =>
    have still : '\n' ∉ line ++ ['\r'] := by simpa using free
    rw [cut_line free, cut_line still, List.intercalate_singleton, List.intercalate_singleton]
  | more line rest free ih =>
    rw [List.append_assoc, List.cons_append, cut_line_append free, cut_line_append free,
      List.intercalate_cons_of_ne_nil (Separator.cut_ne_nil _ _),
      List.intercalate_cons_of_ne_nil (Separator.cut_ne_nil _ _), ih]
    simp

/-- A carriage return at the end is no line break, so it stands in the text with its line breaks
replaced. -/
theorem replace_dropFinal_iff (text : List Char) :
    lineBreak.replace ['\n'] (dropFinal '\r' text) = lineBreak.replace ['\n'] text ↔
      text.getLast? ≠ some '\r' := by
  constructor
  · intro same returned
    obtain ⟨front, rfl⟩ := List.getLast?_eq_some_iff.mp returned
    rw [dropFinal_concat, replace_concat_return] at same
    have lengths := congrArg List.length same
    rw [List.length_append, List.length_singleton] at lengths
    omega
  · intro other
    rw [dropFinal_of_ne other]

/-- The pieces of a text between its line breaks. -/
def linesOf (text : String) : List String := (lineBreak.cut text.toList).map .ofList

end Text

/-! ### Loading a file -/

theorem FileTree.readText_of_look? {files : FileTree} {path : Path} {content : String}
    (there : files.look? path = some (.file (.text content))) : files.readText path = .ok content := by
  rw [look?] at there
  split at there
  · next place found => exact readText_ok_iff.mpr ⟨place, found, .inl there⟩
  · cases there

namespace Program

variable {shop : Workshop} {relative content : String}

theorem load_file (plain : isSource relative = false)
    (there : shop.files.look? (pathIn shop relative) = some (.file (.text content))) :
    load shop (.path relative) =
      .ok ((Text.lineBreak.cut (Text.dropFinal '\r' content.toList)).map .ofList) := by
  have readable := FileTree.readText_of_look? there
  have lines : readLines shop.files (pathIn shop relative) =
      .ok ((Text.programLines content.toList).map .ofList) := by
    simp only [readLines, there, readable]
  rw [load]
  simp only [lines, plain, bind, Except.bind]
  rw [Text.programLines_eq]
  rfl

theorem joinLines_cut (text : List Char) :
    (ProcessorLayout.joinLines ((Text.lineBreak.cut text).map .ofList)).toList =
      Text.lineBreak.replace ['\n'] text := by
  have strings : ((Text.lineBreak.cut text).map String.ofList).map String.toList =
      Text.lineBreak.cut text := by
    simp [List.map_map, Function.comp_def]
  rw [ProcessorLayout.joinLines, String.toList_intercalate, strings,
    ← Text.Separator.intercalate_cut]
  rfl

/-- A file that is no source code is read as the pieces between its line breaks, with all other
characters kept, and joined by newlines these are the text with every carriage return in front of a
newline left out, if and only if no carriage return ends the file. Such a final one is no line break,
but it is lost. -/
theorem plain_file_cut_iff (shop : Workshop) (relative content : String)
    (plain : isSource relative = false)
    (there : shop.files.look? (pathIn shop relative) = some (.file (.text content))) :
    ∃ code, load shop (.path relative) = .ok code ∧
      (code = Text.linesOf content ↔ content.toList.getLast? ≠ some '\r') ∧
      ((ProcessorLayout.joinLines code).toList =
          (Text.Separator.literal ['\r', '\n']).replace ['\n'] content.toList ↔
        content.toList.getLast? ≠ some '\r') ∧
      ∀ front, content.toList = front ++ ['\r'] → code = Text.linesOf (.ofList front) := by
  refine ⟨_, load_file plain there, ?_, ?_, ?_⟩
  · constructor
    · intro same
      have joined := congrArg (fun code => (ProcessorLayout.joinLines code).toList) same
      simp only [Text.linesOf, joinLines_cut] at joined
      exact (Text.replace_dropFinal_iff _).mp joined
    · intro other
      rw [Text.dropFinal_of_ne other, Text.linesOf]
  · rw [joinLines_cut, ← Text.replace_lineBreak]
    exact Text.replace_dropFinal_iff _
  · intro front ends
    rw [ends, Text.dropFinal_concat, Text.linesOf, String.toList_ofList]

/-- A workshop with one file. -/
def oneFile (content : String) : Workshop where
  files := .inFolder [] [([Text.utf8 "main.mlog"], .file (.text content))]
  base := Path.here
  compiler := noCompiler
  constants := .empty

theorem oneFile_there (content : String) : (oneFile content).files.look?
    (pathIn (oneFile content) "main.mlog") = some (.file (.text content)) := by
  have located : (oneFile content).files.locate .reading (pathIn (oneFile content) "main.mlog") =
      .ok [Text.utf8 "main.mlog"] := FileTree.locate_arrived rfl rfl
  rw [FileTree.look?, located]
  rfl

/-- Carriage returns inside a line, twice before a newline, and an empty line. -/
def returnsText : String := "a\rb\r\r\n\n"

theorem plain_file_cut_iff_returns : isSource "main.mlog" = false ∧
    (oneFile returnsText).files.look? (pathIn (oneFile returnsText) "main.mlog") =
      some (.file (.text returnsText)) ∧
    load (oneFile returnsText) (.path "main.mlog") = .ok ["a\rb\r", "", ""] := by
  have chars : returnsText.toList =
      ['a', '\r', 'b', '\r', '\r'] ++ '\n' :: ([] ++ '\n' :: []) := String.toList_ofList
  have pieces : Text.linesOf returnsText = ["a\rb\r", "", ""] := by
    rw [Text.linesOf, chars, Text.cut_line_append (by decide), Text.cut_line_append (by decide),
      Text.cut_line (by decide)]
    rfl
  obtain ⟨code, loaded, cut, _⟩ :=
    plain_file_cut_iff (oneFile returnsText) "main.mlog" returnsText (by decide) (oneFile_there _)
  have whole : code = Text.linesOf returnsText := by
    apply cut.mpr
    rw [chars]
    decide
  rw [whole, pieces] at loaded
  exact ⟨by decide, oneFile_there _, loaded⟩

/-- The carriage return that ends a file does not come through, though no newline is behind it. -/
theorem final_return_lost : isSource "main.mlog" = false ∧
    (oneFile "end\r").files.look? (pathIn (oneFile "end\r") "main.mlog") =
      some (.file (.text "end\r")) ∧
    Text.linesOf "end\r" = ["end\r"] ∧
    load (oneFile "end\r") (.path "main.mlog") = .ok ["end"] ∧ ["end"] ≠ Text.linesOf "end\r" := by
  have chars : "end\r".toList = ['e', 'n', 'd'] ++ ['\r'] := String.toList_ofList
  have pieces : Text.linesOf "end\r" = ["end\r"] := by
    rw [Text.linesOf, chars, Text.cut_line (by decide)]
    rfl
  refine ⟨by decide, oneFile_there _, pieces, ?_, ?_⟩
  · rw [load_file (by decide) (oneFile_there _), chars, Text.dropFinal_concat,
      Text.cut_line (by decide)]
    rfl
  · rw [pieces]
    decide

end Program

end Blueprint
