import Blueprint.Proofs.FileTree
import Blueprint.Proofs.Text.Split
import Blueprint.Proofs.Text.Utf8

/-!
A file beside another one. The path of a file is taken apart at its last slash, and the folder
before it is written again in a shorter way, which leads to the same place.
-/

namespace Blueprint.Path

open FileTree (IsFileName start)

/-- A path is cut behind its last slash. -/
structure Cut (path before : Path) (last : Name) : Prop where
  whole : path = before ++ last
  free : slash ∉ last
  seam : before = [] ∨ ∃ folder, before = folder ++ [slash]

theorem exists_cut (path : Path) : ∃ before last, Cut path before last := by
  by_cases inside : slash ∈ path.reverse
  · obtain ⟨last, before, same, free⟩ := List.eq_append_cons_of_mem inside
    refine ⟨before.reverse ++ [slash], last.reverse, ?_, by simpa using free, .inr ⟨_, rfl⟩⟩
    rw [← List.reverse_reverse path, same]
    simp
  · exact ⟨[], path, rfl, by simpa using inside, .inl rfl⟩

/-! ### The last name -/

theorem trimReversed_of_name {byte : UInt8} {rest : Path} (plain : byte ≠ slash)
    (notHere : byte = dot → rest.head? ≠ some slash) :
    trimReversed (byte :: rest) = byte :: rest := by
  rw [trimReversed, if_neg]
  rintro (⟨same, _⟩ | ⟨same, behind⟩)
  · exact plain same
  · exact notHere same behind

/-- A path that ends with a proper name is not trimmed. -/
theorem trimmed_of_name {last : Name} (nonempty : last ≠ []) (free : slash ∉ last)
    (notHere : last ≠ here) (before : Path) : trimmed (before ++ last) = before ++ last := by
  obtain ⟨front, byte, rfl⟩ := last.eq_nil_or_concat'.resolve_left nonempty
  have plain : byte ≠ slash := fun same => free (by simp [same])
  have notHere : byte = dot → (front.reverse ++ before.reverse).head? ≠ some slash := by
    rintro rfl
    have longer : front ≠ [] := fun none => notHere (by rw [none, List.nil_append, here])
    obtain ⟨rest, other, rfl⟩ := front.eq_nil_or_concat'.resolve_left longer
    have different : other ≠ slash := fun same => free (by simp [same])
    simpa using different
  rw [trimmed, List.reverse_append, List.reverse_append, List.reverse_singleton,
    List.singleton_append, List.cons_append, trimReversed_of_name plain notHere]
  simp

section Cut

variable {path before : Path} {last : Name}

theorem Cut.others (cut : Cut path before last) :
    ∀ byte ∈ last.reverse, decide (byte ≠ slash) = true := by
  intro byte member
  exact decide_eq_true fun same => cut.free (same ▸ List.mem_reverse.mp member)

theorem Cut.stops (cut : Cut path before last) :
    before.reverse.takeWhile (· ≠ slash) = [] ∧
      before.reverse.dropWhile (· ≠ slash) = before.reverse := by
  rcases cut.seam with rfl | ⟨folder, rfl⟩
  · exact ⟨rfl, rfl⟩
  · simp

theorem Cut.lastName (cut : Cut path before last) : Path.lastName path = last := by
  rw [Path.lastName, cut.whole, List.reverse_append, List.takeWhile_append_of_pos cut.others,
    cut.stops.1, List.append_nil, List.reverse_reverse]

theorem Cut.trimmed (cut : Cut path before last) (proper : IsFileName last) :
    Path.trimmed path = path := by
  rw [cut.whole, trimmed_of_name proper.nonempty cut.free proper.notHere]

theorem Cut.front (cut : Cut path before last) :
    (path.reverse.dropWhile (· ≠ slash)).reverse = before := by
  rw [cut.whole, List.reverse_append, List.dropWhile_append_of_pos cut.others, cut.stops.2,
    List.reverse_reverse]

theorem Cut.fileName? (cut : Cut path before last) (proper : IsFileName last) :
    Path.fileName? path = some last := by
  dsimp only [Path.fileName?]
  rw [cut.trimmed proper, cut.lastName,
    if_neg (by simp [proper.nonempty, proper.notHere, proper.notAbove])]

theorem Cut.parent? (cut : Cut path before last) (proper : IsFileName last) :
    Path.parent? path = some (Path.trimmed before) := by
  have notRoot : path ≠ [slash] := by
    intro root
    have only : before ++ last = [slash] := cut.whole ▸ root
    rcases List.append_eq_singleton_iff.mp only with ⟨_, same⟩ | ⟨_, none⟩
    · exact cut.free (by simp [same])
    · exact proper.nonempty none
  have present : path ≠ [] := by
    rw [cut.whole]
    simp [proper.nonempty]
  dsimp only [Path.parent?]
  rw [cut.trimmed proper, if_neg (by simp [notRoot, present]), cut.front]

end Cut

/-- The first byte is never dropped. -/
theorem getLast?_trimReversed (path : Path) : (trimReversed path).getLast? = path.getLast? := by
  fun_induction trimReversed path with
  | case1 => rfl
  | case2 byte rest dropped ih =>
    have nonempty : rest ≠ [] := by
      rintro rfl
      simp at dropped
    rw [ih, List.getLast?_cons_of_ne_nil nonempty]
  | case3 byte rest => rfl

theorem head?_trimmed (path : Path) : (trimmed path).head? = path.head? := by
  rw [trimmed, List.head?_reverse, getLast?_trimReversed, List.getLast?_reverse]

/-! ### Names -/

theorem names_of_free {name : Name} (free : slash ∉ name) : names name = [name] :=
  Text.split_of_free free

theorem names_append {name : Name} (free : slash ∉ name) (folder : Path) :
    names (folder ++ slash :: name) = names folder ++ [name] := by
  rw [names, Text.split_append, Text.split_of_free free, names]

section Follow

variable {tree : FileTree} {place target : Place} {links left : Nat}

/-- What trimming drops leads nowhere. -/
theorem follow_trimReversed {reversed : Path}
    (followed : tree.follow .reading links place (names reversed.reverse) = .ok (target, left)) :
    tree.follow .reading links place (names (trimReversed reversed).reverse) =
      .ok (target, left) := by
  fun_induction trimReversed reversed with
  | case1 => exact followed
  | case2 byte rest dropped ih =>
    refine ih ?_
    rcases dropped with ⟨rfl, _⟩ | ⟨rfl, behind⟩
    · rw [List.reverse_cons, names_append (by simp), FileTree.follow_concat_ok_iff] at followed
      obtain ⟨folder, more, followed, stays⟩ := followed
      obtain ⟨_, rfl, rfl⟩ := (FileTree.follow_stays_iff (.inl rfl)).mp stays
      exact followed
    · obtain ⟨rest, rfl⟩ := List.head?_eq_some_iff.mp behind
      have dotted : (dot :: slash :: rest).reverse = rest.reverse ++ slash :: here := by
        simp [here]
      rw [dotted, names_append (by decide), FileTree.follow_concat_ok_iff] at followed
      obtain ⟨folder, more, followed, stays⟩ := followed
      obtain ⟨inside, rfl, rfl⟩ := (FileTree.follow_stays_iff (.inr rfl)).mp stays
      rw [List.reverse_cons, names_append (by simp), FileTree.follow_concat_ok_iff]
      exact ⟨_, _, followed, (FileTree.follow_stays_iff (.inl rfl)).mpr ⟨inside, rfl, rfl⟩⟩
  | case3 byte rest => exact followed

theorem follow_trimmed {path : Path}
    (followed : tree.follow .reading links place (names path) = .ok (target, left)) :
    tree.follow .reading links place (names (trimmed path)) = .ok (target, left) := by
  refine follow_trimReversed ?_
  rw [List.reverse_reverse]
  exact followed

end Follow

/-! ### A file beside another one -/

theorem head?_free {name : Name} (free : slash ∉ name) : name.head? ≠ some slash := fun first =>
  free (List.mem_of_head? first)

/-- A name joins a directory with a slash between them, one that is there or a new one. -/
theorem join_below {directory : Path} (present : directory ≠ []) {name : Name}
    (free : slash ∉ name) : ∃ folder, join directory name = folder ++ slash :: name ∧
      (directory = folder ∨ directory = folder ++ [slash]) := by
  rw [join, if_neg (by simp [isAbsolute, head?_free free, present])]
  split
  · next closed =>
    obtain ⟨folder, rfl⟩ := List.getLast?_eq_some_iff.mp closed
    exact ⟨folder, by simp, .inr rfl⟩
  · exact ⟨directory, rfl, .inl rfl⟩

theorem start_eq {folder : Place} {path other : Path} (same : other.head? = path.head?) :
    start folder other = start folder path := by
  rw [start, start, isAbsolute, isAbsolute, same]

/-- The names of a path are those before its last slash and the one behind it. -/
theorem Cut.way {path before : Path} {last name : Name} (cut : Cut path before last)
    {front : List Name} (named : names path = front ++ [name]) : last = name ∧
      ((before = [] ∧ front = []) ∨
        ∃ folder, before = folder ++ [slash] ∧ front = names folder) := by
  rcases cut.seam with rfl | ⟨folder, rfl⟩
  · rw [cut.whole, List.nil_append, names_of_free cut.free, ← List.nil_append [last]] at named
    obtain ⟨nothing, sameName⟩ := List.append_inj' named rfl
    exact ⟨List.singleton_inj.mp sameName, .inl ⟨rfl, nothing.symm⟩⟩
  · rw [cut.whole, List.append_assoc, List.singleton_append, names_append cut.free] at named
    obtain ⟨same, sameName⟩ := List.append_inj' named rfl
    exact ⟨List.singleton_inj.mp sameName, .inr ⟨folder, rfl, same.symm⟩⟩

theorem free_of_reaches {tree : FileTree} {path : Path} {folder : Place} {name : Name}
    (reaches : tree.Reaches path folder name) : slash ∉ name := by
  obtain ⟨before, last, cut⟩ := exists_cut path
  obtain ⟨front, _, named, _⟩ := reaches.way
  obtain ⟨rfl, _⟩ := cut.way named
  exact cut.free

/-- A directory that is trimmed leads to the same folder as the names in it did. -/
theorem join_trimmed {tree : FileTree} {place folder : Place} {links left : Nat} {directory : Path}
    {name : Name}
    (followed : tree.follow .reading links place (names directory) = .ok (folder, left))
    (inside : tree.isFolder folder = true) (free : slash ∉ name) :
    (join (trimmed (directory ++ [slash])) name).head? = (directory ++ [slash]).head? ∧
      ∃ front, names (join (trimmed (directory ++ [slash])) name) = front ++ [name] ∧
        tree.follow .reading links place front = .ok (folder, left) := by
  have stays : tree.follow .reading left folder [[]] = .ok (folder, left) :=
    (FileTree.follow_stays_iff (.inl rfl)).mpr ⟨inside, rfl, rfl⟩
  have closed : tree.follow .reading links place (names (directory ++ [slash])) =
      .ok (folder, left) := by
    rw [names_append (by simp)]
    exact FileTree.follow_concat_ok_iff.mpr ⟨folder, left, followed, stays⟩
  have shorter := follow_trimmed closed
  have first := head?_trimmed (directory ++ [slash])
  have present : trimmed (directory ++ [slash]) ≠ [] := by
    intro nothing
    rw [nothing] at first
    simp at first
  obtain ⟨front, joined, same⟩ := join_below present free
  refine ⟨?_, names front, ?_, ?_⟩
  · rw [joined, ← first]
    rcases same with same | same
    · rw [same, List.head?_append_of_ne_nil _ (same ▸ present)]
    · rw [same, List.head?_append, List.head?_append]
      rfl
  · rw [joined, names_append free]
  · rcases same with same | same
    · rw [← same]
      exact shorter
    · rw [same, names_append (by simp)] at shorter
      obtain ⟨_, _, followed, stays⟩ := FileTree.follow_concat_ok_iff.mp shorter
      obtain ⟨_, rfl, rfl⟩ := (FileTree.follow_stays_iff (.inl rfl)).mp stays
      exact followed

/-- Another name in place of the last one belongs to the same folder. -/
theorem withFileName_beside {tree : FileTree} {path : Path} {folder : Place} {name other : Name}
    (reaches : tree.Reaches path folder name) (proper : IsFileName other)
    (free : slash ∉ other) : fileName? path = some name ∧
      tree.Reaches (withFileName path other) folder other := by
  obtain ⟨before, last, cut⟩ := exists_cut path
  obtain ⟨front, left, named, followed⟩ := reaches.way
  obtain ⟨rfl, way⟩ := cut.way named
  have called := cut.fileName? reaches.proper
  have replaced : withFileName path other = join (trimmed before) other := by
    rw [withFileName, called, cut.parent? reaches.proper]
  refine ⟨called, ?_, reaches.inside, proper⟩
  rw [replaced]
  rcases way with ⟨rfl, rfl⟩ | ⟨directory, rfl, rfl⟩
  · have alone : join (trimmed []) other = other := if_pos (.inr rfl)
    have same : start tree.working other = start tree.working path := by
      rw [start, start, cut.whole, List.nil_append, isAbsolute, isAbsolute]
      simp [head?_free free, head?_free cut.free]
    rw [alone, same]
    exact ⟨[], left, names_of_free free, followed⟩
  · obtain ⟨first, front, named, beside⟩ := join_trimmed followed reaches.inside free
    have same : start tree.working (join (trimmed (directory ++ [slash])) other) =
        start tree.working path := by
      refine start_eq ?_
      rw [first, cut.whole]
      exact (List.head?_append_of_ne_nil (directory ++ [slash]) (by simp)).symm
    rw [same]
    exact ⟨front, left, named, beside⟩

end Blueprint.Path
