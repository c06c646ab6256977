import Blueprint.FileTree
import Blueprint.Proofs.Traversal
import Mathlib.Data.List.Infix

/-!
Following paths through links, and writing. A write that succeeds changes the content of one file,
which may be new, or nothing at all, and every path that led somewhere before leads there still.
-/

namespace Blueprint.FileTree

open Traversal

variable {tree before after : FileTree} {folder place other target : Place} {name : Name}
  {names : List Name} {path : Path} {content : String} {links left number : Nat} {node : Node}
  {purpose : Purpose}

/-! ### What is at a place -/

theorem isFolder_iff : tree.isFolder place = true ↔ tree.nodeAt? place = some .folder :=
  decide_eq_true_iff

theorem holds_iff : tree.holds place = true ↔
    place <+: tree.working ∨ ∃ entry ∈ tree.entries, place <+: entry.1 ∧ place ≠ entry.1 := by
  simp only [holds, Bool.or_eq_true, List.isPrefixOf_iff_prefix, List.any_eq_true,
    Bool.and_eq_true, decide_eq_true_iff]

theorem nodeAt?_of_holds (holds : tree.holds place = true) : tree.nodeAt? place = some .folder :=
  if_pos holds

theorem nodeAt?_of_not_holds (holds : ¬tree.holds place = true) :
    tree.nodeAt? place = tree.entries.lookup place :=
  if_neg holds

theorem mem_of_listed {entries : List (Place × Node)} (listed : entries.lookup place = some node) :
    (place, node) ∈ entries := by
  obtain ⟨front, rest, rfl, _⟩ := List.lookup_eq_some_iff.mp listed
  simp

/-- What is above something is a folder. -/
theorem isFolder_above (there : tree.nodeAt? place = some node) (above : other <+: place)
    (proper : other ≠ place) : tree.isFolder other = true := by
  refine isFolder_iff.mpr (nodeAt?_of_holds (holds_iff.mpr ?_))
  by_cases holds : tree.holds place = true
  · rcases holds_iff.mp holds with inside | ⟨entry, member, inside, _⟩
    · exact .inl (above.trans inside)
    · refine .inr ⟨entry, member, above.trans inside, ?_⟩
      rintro rfl
      exact proper (above.eq_of_length_le inside.length_le)
  · rw [nodeAt?_of_not_holds holds] at there
    exact .inr ⟨_, mem_of_listed there, above, proper⟩

theorem isFolder_of_prefix (inside : tree.isFolder folder = true) (above : other <+: folder) :
    tree.isFolder other = true := by
  by_cases same : other = folder
  · exact same ▸ inside
  · exact isFolder_above (isFolder_iff.mp inside) above same

theorem isFolder_dropLast (inside : tree.isFolder folder = true) :
    tree.isFolder folder.dropLast = true :=
  isFolder_of_prefix inside (List.dropLast_prefix folder)

/-! ### Something new in a folder -/

theorem holds_insert_iff : (tree.insert place node).holds other = true ↔
    tree.holds other = true ∨ other <+: place ∧ other ≠ place := by
  simp only [holds_iff, insert, List.mem_append, List.mem_singleton, or_and_right, exists_or,
    exists_eq_left, or_assoc]

theorem nodeAt?_insert_self (free : tree.nodeAt? place = none) :
    (tree.insert place node).nodeAt? place = some node := by
  have unheld : ¬tree.holds place = true := by
    intro holds
    rw [nodeAt?_of_holds holds] at free
    cases free
  have still : ¬(tree.insert place node).holds place = true := by
    rw [holds_insert_iff]
    simp [unheld]
  rw [nodeAt?_of_not_holds unheld] at free
  rw [nodeAt?_of_not_holds still, insert, List.lookup_append, free, Option.none_or,
    List.lookup_cons_self]

/-- The folders that something new is put below were there before. -/
theorem nodeAt?_insert_other (inside : tree.isFolder folder = true)
    (different : other ≠ folder ++ [name]) :
    (tree.insert (folder ++ [name]) node).nodeAt? other = tree.nodeAt? other := by
  by_cases above : other <+: folder ++ [name]
  · have old : tree.isFolder other = true :=
      isFolder_of_prefix inside ((List.prefix_concat_iff.mp above).resolve_left different)
    rw [isFolder_iff.mp old]
    exact nodeAt?_of_holds (holds_insert_iff.mpr (.inr ⟨above, different⟩))
  · have same : (tree.insert (folder ++ [name]) node).holds other = true ↔
        tree.holds other = true := by
      rw [holds_insert_iff]
      simp [above]
    by_cases holds : tree.holds other = true
    · rw [nodeAt?_of_holds holds, nodeAt?_of_holds (same.mpr holds)]
    · have single : [(folder ++ [name], node)].lookup other = none := by
        rw [List.lookup_eq_none_iff]
        simpa using different
      rw [nodeAt?_of_not_holds holds, nodeAt?_of_not_holds (mt same.mp holds), insert,
        List.lookup_append, single, Option.or_none]

theorem le_foldr_max {number : Nat} {numbers : List Nat} (member : number ∈ numbers) :
    number ≤ numbers.foldr max 0 := by
  induction numbers with
  | nil => cases member
  | cons first rest ih =>
    rw [List.foldr_cons]
    rcases List.mem_cons.mp member with rfl | behind
    · exact Nat.le_max_left _ _
    · exact Nat.le_trans (ih behind) (Nat.le_max_right _ _)

theorem nodeAt?_ne_fresh (tree : FileTree) (place : Place) :
    tree.nodeAt? place ≠ some (.file tree.freshNumber) := by
  intro there
  have unheld : ¬tree.holds place = true := by
    intro holds
    rw [nodeAt?_of_holds holds] at there
    cases there
  rw [nodeAt?_of_not_holds unheld] at there
  have used : tree.freshNumber ∈ tree.numbers :=
    List.mem_filterMap.mpr ⟨_, mem_of_listed there, rfl⟩
  exact absurd (le_foldr_max used) (by simp [freshNumber])

/-! ### The content of files -/

theorem contentOf_setContent (tree : FileTree) (number : Nat) (content : Content) :
    (tree.setContent number content).contentOf number = content := by
  rw [contentOf, setContent, List.lookup_cons_self, Option.getD_some]

theorem contentOf_setContent_of_ne {other : Nat} (different : other ≠ number)
    (content : Content) :
    (tree.setContent number content).contentOf other = tree.contentOf other := by
  have skipped : (other == number) = false := by simpa using different
  rw [contentOf, contentOf, setContent, List.lookup_cons, skipped]

/-- Only the content of one file is another one afterwards. The file may be new. -/
structure Wrote (before after : FileTree) (place : Place) (number : Nat) (content : String) :
    Prop where
  there : after.nodeAt? place = some (.file number)
  content : after.contentOf number = .text content
  file : before.nodeAt? place = some (.file number) ∨
    before.nodeAt? place = none ∧ ∀ other, before.nodeAt? other ≠ some (.file number)
  places : ∀ other, other ≠ place → after.nodeAt? other = before.nodeAt? other
  contents : ∀ other, other ≠ number → after.contentOf other = before.contentOf other
  working : after.working = before.working

theorem wrote_setContent (there : before.nodeAt? place = some (.file number)) :
    before.Wrote (before.setContent number (.text content)) place number content where
  there := there
  content := contentOf_setContent before number _
  file := .inl there
  places _ _ := rfl
  contents _ different := contentOf_setContent_of_ne different _
  working := rfl

theorem wrote_add (inside : before.isFolder folder = true)
    (free : before.nodeAt? (folder ++ [name]) = none) :
    before.Wrote (before.add (folder ++ [name]) (.file (.text content))) (folder ++ [name])
      before.freshNumber content where
  there := nodeAt?_insert_self free
  content := contentOf_setContent _ _ _
  file := .inr ⟨free, before.nodeAt?_ne_fresh⟩
  places _ different := nodeAt?_insert_other inside different
  contents _ different := contentOf_setContent_of_ne different _
  working := rfl

/-! ### Following one name -/

theorem enter_ok_iff : tree.enter folder name = .ok place ↔
    tree.isFolder folder = true ∧ name.length ≤ greatestNameLength ∧
      (tree.nodeAt? (step folder name)).isSome = true ∧ place = step folder name := by
  have arrives (target : Place) : (if (tree.nodeAt? target).isSome then Except.ok target
      else .error FileError.notFound) = .ok place ↔
      (tree.nodeAt? target).isSome = true ∧ place = target := by
    by_cases there : (tree.nodeAt? target).isSome = true <;> simp [there, eq_comm]
  unfold enter
  rw [guarded_ok_iff, guarded_ok_iff, arrives, Bool.not_eq_true', Bool.not_eq_false, Nat.not_lt]

/-- A name that leads further down. -/
structure IsFileName (name : Name) : Prop where
  nonempty : name ≠ []
  notHere : name ≠ Path.here
  notAbove : name ≠ Path.above

theorem step_fileName (proper : IsFileName name) (folder : Place) :
    step folder name = folder ++ [name] := by
  rw [step, if_neg (by simp [proper.nonempty, proper.notHere]), if_neg proper.notAbove]

theorem enterNew_ok_iff {behind : List Name} : tree.enterNew folder name behind = .ok place ↔
    tree.isFolder folder = true ∧ behind = [] ∧ IsFileName name ∧
      name.length ≤ greatestNameLength ∧ tree.isFolder (folder ++ [name]) = false ∧
      place = folder ++ [name] := by
  unfold enterNew
  rw [guarded_ok_iff, guarded_ok_iff, guarded_ok_iff, guarded_ok_iff]
  simp only [Bool.not_eq_true', Bool.not_eq_false, ne_eq, not_or, not_not, Nat.not_lt,
    Except.ok.injEq, Bool.not_eq_true]
  constructor
  · rintro ⟨inside, ⟨last, nonempty, notHere, notAbove⟩, short, notFolder, rfl⟩
    exact ⟨inside, last, ⟨nonempty, notHere, notAbove⟩, short, notFolder, rfl⟩
  · rintro ⟨inside, last, proper, short, notFolder, rfl⟩
    exact ⟨inside, ⟨last, proper.nonempty, proper.notHere, proper.notAbove⟩, short, notFolder,
      rfl⟩

/-! ### Following names one after the other -/

/-- What becomes of a progress when there are more names behind. -/
def Progress.followedBy (arrive : Place → Except FileError Progress) (rest : List Name) :
    Progress → Except FileError Progress
  | arrived place => arrive place
  | link folder target behind => .ok (.link folder target (behind ++ rest))

/-- Only the last name of a file that is written may be new. -/
theorem enterFor_front {behind : List Name}
    (front : purpose = .reading ∨ ¬behind.all List.isEmpty = true) :
    tree.enterFor purpose folder name behind = tree.enter folder name := by
  refine if_neg ?_
  rintro ⟨rfl, blank⟩
  exact front.elim (by simp) fun named => named blank

/-- The last name of a file that is written. -/
theorem enterFor_last : tree.enterFor .writing folder name [] = tree.enterNew folder name [] :=
  if_pos ⟨rfl, rfl⟩

/-- What is entered is there, or it is a new file. -/
theorem enterFor_ok_cases (entered : tree.enterFor purpose folder name names = .ok place) :
    tree.enter folder name = .ok place ∨ names = [] ∧ tree.isFolder folder = true ∧
      IsFileName name ∧ name.length ≤ greatestNameLength ∧ place = folder ++ [name] := by
  unfold enterFor at entered
  split at entered
  · obtain ⟨inside, last, proper, short, _, same⟩ := enterNew_ok_iff.mp entered
    exact .inr ⟨last, inside, proper, short, same⟩
  · exact .inl entered

theorem walk_error {problem : FileError}
    (failure : tree.enterFor purpose folder name names = .error problem) :
    tree.walk purpose folder (name :: names) = .error problem := by
  rw [walk, failure]
  rfl

theorem walk_link {target : Path} (entered : tree.enterFor purpose folder name names = .ok place)
    (link : tree.nodeAt? place = some (.link target)) :
    tree.walk purpose folder (name :: names) = .ok (.link folder target names) := by
  rw [walk, entered]
  simp only [bind, Except.bind, link]

theorem walk_on (entered : tree.enterFor purpose folder name names = .ok place)
    (direct : ∀ target, tree.nodeAt? place ≠ some (.link target)) :
    tree.walk purpose folder (name :: names) = tree.walk purpose place names := by
  rw [walk, entered]
  simp only [bind, Except.bind]

/-- A place is a link, or it is none. -/
theorem link_or_direct (tree : FileTree) (place : Place) :
    (∃ target, tree.nodeAt? place = some (.link target)) ∨
      ∀ target, tree.nodeAt? place ≠ some (.link target) :=
  or_iff_not_imp_left.mpr not_exists.mp

theorem walk_append {rest : List Name}
    (named : purpose = .reading ∨ ¬rest.all List.isEmpty = true) :
    tree.walk purpose place (names ++ rest) =
      (tree.walk .reading place names >>= Progress.followedBy (tree.walk purpose · rest) rest) := by
  induction names generalizing place with
  | nil => rfl
  | cons name names ih =>
    have front : purpose = .reading ∨ ¬(names ++ rest).all List.isEmpty = true := by
      refine named.imp_right fun named blank => named ?_
      rw [List.all_append, Bool.and_eq_true] at blank
      exact blank.2
    have here : tree.enterFor .reading place name names = tree.enter place name :=
      enterFor_front (.inl rfl)
    have there : tree.enterFor purpose place name (names ++ rest) = tree.enter place name :=
      enterFor_front front
    rw [List.cons_append]
    cases entered : tree.enter place name with
    | error problem =>
      rw [walk_error (there.trans entered), walk_error (here.trans entered)]
      rfl
    | ok next =>
      rcases tree.link_or_direct next with ⟨target, link⟩ | direct
      · rw [walk_link (there.trans entered) link, walk_link (here.trans entered) link]
        rfl
      · rw [walk_on (there.trans entered) direct, walk_on (here.trans entered) direct, ih]

/-! ### Following links -/

theorem follow_error {problem : FileError}
    (failure : tree.walk purpose place names = .error problem) :
    tree.follow purpose links place names = .error problem := by
  rw [follow, failure]
  rfl

theorem follow_arrived (arrived : tree.walk purpose place names = .ok (.arrived target)) :
    tree.follow purpose links place names = .ok (target, links) := by
  rw [follow, arrived]
  rfl

theorem follow_link {target : Path} {behind : List Name}
    (link : tree.walk purpose place names = .ok (.link folder target behind)) :
    tree.follow purpose (links + 1) place names =
      tree.follow purpose links (start folder target) (target.names ++ behind) := by
  rw [follow, link]
  rfl

theorem follow_link_zero {target : Path} {behind : List Name}
    (link : tree.walk purpose place names = .ok (.link folder target behind)) :
    tree.follow purpose 0 place names = .error .tooManyLinks := by
  rw [follow, link]
  rfl

/-- Nothing but the walk to the first link matters. -/
theorem follow_of_walk {others : List Name}
    (same : tree.walk purpose place names = tree.walk purpose other others) :
    tree.follow purpose links place names = tree.follow purpose links other others := by
  rw [follow, follow, same]

/-- To follow names is to follow the first of them and then the others with the links that are left.
-/
theorem follow_append {rest : List Name}
    (named : purpose = .reading ∨ ¬rest.all List.isEmpty = true) :
    tree.follow purpose links place (names ++ rest) =
      (tree.follow .reading links place names >>= fun spot =>
        tree.follow purpose spot.2 spot.1 rest) := by
  induction links using Nat.strongRecOn generalizing place names with
  | ind links ih =>
    have whole : tree.walk purpose place (names ++ rest) = _ := walk_append named
    cases walked : tree.walk .reading place names with
    | error problem =>
      rw [walked] at whole
      rw [follow_error whole, follow_error walked]
      rfl
    | ok progress =>
      rw [walked] at whole
      cases progress with
      | arrived target =>
        rw [follow_arrived walked]
        exact follow_of_walk whole
      | link folder target behind =>
        cases links with
        | zero =>
          rw [follow_link_zero whole, follow_link_zero walked]
          rfl
        | succ links =>
          rw [follow_link whole, follow_link walked, ← List.append_assoc]
          exact ih links (Nat.lt_succ_self links)

/-- Names lead to a place at once, or by way of a link. -/
theorem follow_ok_cases (followed : tree.follow purpose links place names = .ok (target, left)) :
    (tree.walk purpose place names = .ok (.arrived target) ∧ left = links) ∨
      ∃ more folder path behind, links = more + 1 ∧
        tree.walk purpose place names = .ok (.link folder path behind) ∧
        tree.follow purpose more (start folder path) (path.names ++ behind) =
          .ok (target, left) := by
  cases walked : tree.walk purpose place names with
  | error problem =>
    rw [follow_error walked] at followed
    cases followed
  | ok progress =>
    cases progress with
    | arrived reached =>
      rw [follow_arrived walked] at followed
      cases followed
      exact .inl ⟨rfl, rfl⟩
    | link folder path behind =>
      cases links with
      | zero =>
        rw [follow_link_zero walked] at followed
        cases followed
      | succ more =>
        rw [follow_link walked] at followed
        exact .inr ⟨more, folder, path, behind, rfl, rfl, followed⟩

/-! ### Places that paths lead to -/

theorem locate_ok_iff : tree.locate purpose path = .ok place ↔ checkPath path = .ok () ∧
    ∃ left, tree.follow purpose greatestLinkCount (start tree.working path) path.names =
      .ok (place, left) := by
  unfold locate
  rw [bind_ok_iff]
  constructor
  · rintro ⟨_, checked, rest⟩
    obtain ⟨⟨target, left⟩, followed, same⟩ := bind_ok_iff.mp rest
    cases same
    exact ⟨checked, left, followed⟩
  · rintro ⟨checked, left, followed⟩
    exact ⟨(), checked, bind_ok_iff.mpr ⟨_, followed, rfl⟩⟩

theorem locate_arrived (checked : checkPath path = .ok ())
    (arrived : tree.walk purpose (start tree.working path) path.names = .ok (.arrived place)) :
    tree.locate purpose path = .ok place :=
  locate_ok_iff.mpr ⟨checked, _, follow_arrived arrived⟩

theorem locate_link {folder : Place} {link : Path} {behind : List Name}
    (checked : checkPath path = .ok ())
    (first : tree.walk purpose (start tree.working path) path.names = .ok (.link folder link behind))
    (arrived : tree.walk purpose (start folder link) (link.names ++ behind) =
      .ok (.arrived place)) : tree.locate purpose path = .ok place :=
  locate_ok_iff.mpr ⟨checked, _, (follow_link first).trans (follow_arrived arrived)⟩

/-- A place in a folder where there is a file or nothing yet. -/
structure IsSlot (tree : FileTree) (place : Place) : Prop where
  name : ∃ folder name, place = folder ++ [name] ∧ tree.isFolder folder = true ∧ IsFileName name
  notFolder : tree.isFolder place = false
  direct : ∀ target, tree.nodeAt? place ≠ some (.link target)

theorem isSlot_of_walk (nonempty : names ≠ [])
    (walked : tree.walk .writing place names = .ok (.arrived target)) : tree.IsSlot target := by
  induction names generalizing place with
  | nil => exact absurd rfl nonempty
  | cons name names ih =>
    cases entered : tree.enterFor .writing place name names with
    | error problem =>
      rw [walk_error entered] at walked
      cases walked
    | ok next =>
      rcases tree.link_or_direct next with ⟨link, there⟩ | direct
      · rw [walk_link entered there] at walked
        cases walked
      · rw [walk_on entered direct] at walked
        cases names with
        | nil =>
          rw [enterFor_last] at entered
          obtain ⟨inside, _, proper, _, notFolder, rfl⟩ := enterNew_ok_iff.mp entered
          cases walked
          exact ⟨⟨place, name, rfl, inside, proper⟩, notFolder, direct⟩
        | cons second names => exact ih (List.cons_ne_nil second names) walked

theorem isSlot_of_follow (nonempty : names ≠ [])
    (followed : tree.follow .writing links place names = .ok (target, left)) :
    tree.IsSlot target := by
  induction links generalizing place names with
  | zero =>
    rcases follow_ok_cases followed with ⟨walked, _⟩ | ⟨_, _, _, _, impossible, _⟩
    · exact isSlot_of_walk nonempty walked
    · cases impossible
  | succ links ih =>
    rcases follow_ok_cases followed with ⟨walked, _⟩ | ⟨_, _, path, _, more, _, followed⟩
    · exact isSlot_of_walk nonempty walked
    · cases more
      refine ih ?_ followed
      simp [Path.names, Text.split_ne_nil]

theorem isSlot_of_locate (located : tree.locate .writing path = .ok place) : tree.IsSlot place := by
  obtain ⟨_, _, followed⟩ := locate_ok_iff.mp located
  exact isSlot_of_follow (Text.split_ne_nil _ path) followed

/-! ### Writing -/

/-- What a write that succeeds has done: it has given one file another content, or it has gone to a
device. -/
theorem write_ok (success : before.write path content = .ok after) :
    ∃ place, before.locate .writing path = .ok place ∧
      ((∃ number, before.Wrote after place number content) ∨
        before.nodeAt? place = some .sink ∧ after = before) := by
  obtain ⟨place, located, success⟩ := bind_ok_iff.mp success
  refine ⟨place, located, ?_⟩
  obtain ⟨⟨folder, name, rfl, inside, _⟩, notFolder, direct⟩ := isSlot_of_locate located
  cases there : before.nodeAt? (folder ++ [name]) with
  | none =>
    simp only [there] at success
    cases success
    exact .inl ⟨_, wrote_add inside there⟩
  | some node =>
    cases node with
    | file number =>
      simp only [there] at success
      cases success
      exact .inl ⟨number, wrote_setContent there⟩
    | folder =>
      rw [isFolder_iff.mpr there] at notFolder
      cases notFolder
    | link target => exact absurd there (direct target)
    | sink =>
      simp only [there] at success
      cases success
      exact .inr ⟨rfl, rfl⟩

/-! ### Paths after a write -/

/-- Whatever was at a place is still there. -/
def Keeps (before after : FileTree) : Prop :=
  after.working = before.working ∧
    ∀ place node, before.nodeAt? place = some node → after.nodeAt? place = some node

theorem Wrote.keeps (wrote : before.Wrote after place number content) : before.Keeps after := by
  refine ⟨wrote.working, fun other node there => ?_⟩
  by_cases same : other = place
  · subst same
    rcases wrote.file with file | ⟨free, _⟩
    · rw [wrote.there, ← file, there]
    · rw [free] at there
      cases there
  · rw [wrote.places other same, there]

namespace Keeps

variable (keeps : before.Keeps after)

include keeps

theorem isFolder (inside : before.isFolder folder = true) : after.isFolder folder = true :=
  isFolder_iff.mpr (keeps.2 _ _ (isFolder_iff.mp inside))

theorem enter (entered : before.enter folder name = .ok place) :
    after.enter folder name = .ok place := by
  obtain ⟨inside, short, there, same⟩ := enter_ok_iff.mp entered
  obtain ⟨node, there⟩ := Option.isSome_iff_exists.mp there
  refine enter_ok_iff.mpr ⟨keeps.isFolder inside, short, ?_, same⟩
  rw [keeps.2 _ _ there]
  rfl

end Keeps

/-- Something is at a place, and it is no link. -/
def Present (tree : FileTree) (place : Place) : Prop :=
  ∃ node, tree.nodeAt? place = some node ∧ ∀ target, node ≠ .link target

theorem Present.direct (present : tree.Present place) (target : Path) :
    tree.nodeAt? place ≠ some (.link target) := by
  obtain ⟨node, there, direct⟩ := present
  rw [there]
  exact fun same => direct target (Option.some.inj same)

theorem Present.isSome (present : tree.Present place) : (tree.nodeAt? place).isSome = true := by
  obtain ⟨node, there, _⟩ := present
  rw [there]
  rfl

theorem present_of_enter (entered : tree.enter folder name = .ok place)
    (direct : ∀ target, tree.nodeAt? place ≠ some (.link target)) : tree.Present place := by
  obtain ⟨_, _, there, same⟩ := enter_ok_iff.mp entered
  rw [← same] at there
  obtain ⟨node, there⟩ := Option.isSome_iff_exists.mp there
  exact ⟨node, there, fun target same => direct target (same ▸ there)⟩

namespace Keeps

variable (keeps : before.Keeps after)

include keeps

/-- What was entered for any purpose can be entered for reading, if it is there now. -/
theorem enterFor (entered : before.enterFor purpose folder name names = .ok place)
    (there : (after.nodeAt? place).isSome = true) :
    after.enterFor .reading folder name names = .ok place := by
  rw [enterFor_front (.inl rfl)]
  rcases enterFor_ok_cases entered with old | ⟨_, inside, proper, short, rfl⟩
  · exact keeps.enter old
  · rw [enter_ok_iff, step_fileName proper]
    exact ⟨keeps.isFolder inside, short, there, rfl⟩

theorem present (present : before.Present place) : after.Present place := by
  obtain ⟨node, there, direct⟩ := present
  exact ⟨node, keeps.2 _ _ there, direct⟩

/-- A walk leads as far as before. Where it has led to a new file, that file has to be there. -/
theorem walk {progress : Progress} (walked : before.walk purpose place names = .ok progress)
    (arrives : ∀ target, progress = .arrived target → after.Present target) :
    after.walk .reading place names = .ok progress := by
  induction names generalizing place with
  | nil => exact walked
  | cons name names ih =>
    cases entered : before.enterFor purpose place name names with
    | error problem =>
      rw [walk_error entered] at walked
      cases walked
    | ok next =>
      rcases before.link_or_direct next with ⟨target, link⟩ | direct
      · have still := keeps.2 _ _ link
        have there : (after.nodeAt? next).isSome = true := Option.isSome_iff_exists.mpr ⟨_, still⟩
        rw [walk_link entered link] at walked
        rw [walk_link (keeps.enterFor entered there) still, walked]
      · rw [walk_on entered direct] at walked
        have present : after.Present next := by
          rcases enterFor_ok_cases entered with old | ⟨rfl, _⟩
          · exact keeps.present (present_of_enter old direct)
          · cases walked
            exact arrives next rfl
        rw [walk_on (keeps.enterFor entered present.isSome) present.direct]
        exact ih walked

theorem follow (followed : before.follow purpose links place names = .ok (target, left))
    (present : after.Present target) :
    after.follow .reading links place names = .ok (target, left) := by
  have arrived {place : Place} {names : List Name}
      (walked : before.walk purpose place names = .ok (.arrived target)) :
      after.walk .reading place names = .ok (.arrived target) :=
    keeps.walk walked fun other same => Progress.arrived.inj same ▸ present
  induction links generalizing place names with
  | zero =>
    rcases follow_ok_cases followed with ⟨walked, rfl⟩ | ⟨_, _, _, _, impossible, _⟩
    · exact follow_arrived (arrived walked)
    · cases impossible
  | succ links ih =>
    rcases follow_ok_cases followed with ⟨walked, rfl⟩ | ⟨_, _, _, _, more, walked, followed⟩
    · exact follow_arrived (arrived walked)
    · cases more
      have link := keeps.walk walked fun _ impossible => by cases impossible
      rw [follow_link link]
      exact ih followed

/-- A path that led to something leads there still, and a path leads to what has been written to it.
-/
theorem locate (located : before.locate purpose path = .ok target)
    (present : after.Present target) : after.locate .reading path = .ok target := by
  obtain ⟨checked, left, followed⟩ := locate_ok_iff.mp located
  rw [← keeps.1] at followed
  exact locate_ok_iff.mpr ⟨checked, left, keeps.follow followed present⟩

end Keeps

/-- Two paths lead to one file. -/
def OneFile (tree : FileTree) (path other : Path) : Prop :=
  ∃ place target number, tree.locate .reading path = .ok place ∧
    tree.locate .reading other = .ok target ∧ tree.nodeAt? place = some (.file number) ∧
    tree.nodeAt? target = some (.file number)

theorem readText_ok_iff : tree.readText path = .ok content ↔
    ∃ place, tree.locate .reading path = .ok place ∧
      (tree.objectAt? place = some (.file (.text content)) ∨
        tree.objectAt? place = some .sink ∧ content = "") := by
  unfold readText
  rw [bind_ok_iff]
  refine exists_congr fun place => and_congr_right fun _ => ?_
  cases there : tree.objectAt? place with
  | none => simp
  | some object =>
    cases object with
    | folder => simp
    | sink => simp [eq_comm]
    | file file => cases file <;> simp

theorem objectAt?_file (there : tree.nodeAt? place = some (.file number)) :
    tree.objectAt? place = some (.file (tree.contentOf number)) := by
  rw [objectAt?, there]

/-- Only files have content, and only devices are devices. -/
theorem objectAt?_cases {object : Object} (there : tree.objectAt? place = some object) :
    tree.Present place ∧ ((∃ number, tree.nodeAt? place = some (.file number) ∧
      object = .file (tree.contentOf number)) ∨ tree.nodeAt? place = some .folder ∧
      object = .folder ∨ tree.nodeAt? place = some .sink ∧ object = .sink) := by
  unfold objectAt? at there
  unfold Present
  cases found : tree.nodeAt? place with
  | none => simp [found] at there
  | some node =>
    cases node with
    | link target => simp [found] at there
    | folder => simp_all
    | sink => simp_all
    | file number => simp_all

namespace Wrote

variable {text : String}

theorem present (wrote : before.Wrote after place number content) : after.Present place :=
  ⟨_, wrote.there, by simp⟩

/-- What has been written can be read. -/
theorem readText (wrote : before.Wrote after place number content)
    (located : before.locate .writing path = .ok place) : after.readText path = .ok content := by
  refine readText_ok_iff.mpr ⟨place, wrote.keeps.locate located wrote.present, .inl ?_⟩
  rw [objectAt?_file wrote.there, wrote.content]

/-- A document of another file reads as before. -/
theorem readText_other {document : Path} (wrote : before.Wrote after place number content)
    (located : before.locate .writing path = .ok place) (apart : ¬before.OneFile path document)
    (read : before.readText document = .ok text) : after.readText document = .ok text := by
  obtain ⟨target, found, object⟩ := readText_ok_iff.mp read
  rcases object with object | ⟨object, rfl⟩
  · obtain ⟨present, ⟨file, there, same⟩ | ⟨_, impossible⟩ | ⟨_, impossible⟩⟩ :=
      objectAt?_cases object
    · have other : file ≠ number := by
        rintro rfl
        rcases wrote.file with here | ⟨_, unused⟩
        · have unchanged : before.Keeps before := ⟨rfl, fun _ _ there => there⟩
          have itself := unchanged.locate located ⟨_, here, by simp⟩
          exact apart ⟨place, target, file, itself, found, here, there⟩
        · exact unused target there
      refine readText_ok_iff.mpr ⟨target, wrote.keeps.locate found (wrote.keeps.present present),
        .inl ?_⟩
      rw [objectAt?_file (wrote.keeps.2 _ _ there), wrote.contents file other, ← same]
    · cases impossible
    · cases impossible
  · obtain ⟨present, ⟨_, _, impossible⟩ | ⟨_, impossible⟩ | ⟨there, _⟩⟩ := objectAt?_cases object
    · cases impossible
    · cases impossible
    · refine readText_ok_iff.mpr ⟨target, wrote.keeps.locate found (wrote.keeps.present present),
        .inr ⟨?_, rfl⟩⟩
      rw [objectAt?, wrote.keeps.2 _ _ there]

/-- A document of the same file reads as what has been written. -/
theorem readText_same {document : Path} (wrote : before.Wrote after place number content)
    (located : before.locate .writing path = .ok place) (same : before.OneFile path document) :
    after.readText document = .ok content := by
  obtain ⟨here, target, file, found, alike, hereFile, targetFile⟩ := same
  have kept (place : Place) (there : before.nodeAt? place = some (.file file)) :
      after.Present place := wrote.keeps.present ⟨_, there, by simp⟩
  have old := wrote.keeps.locate found (kept here hereFile)
  cases old.symm.trans (wrote.keeps.locate located wrote.present)
  cases (wrote.keeps.2 _ _ hereFile).symm.trans wrote.there
  refine readText_ok_iff.mpr ⟨target, wrote.keeps.locate alike (kept target targetFile), .inl ?_⟩
  rw [objectAt?_file (wrote.keeps.2 _ _ targetFile), wrote.content]

end Wrote

/-- A text has been written to a path: the file that the path leads to holds it, or the path leads
to a device, where it is lost. -/
inductive Delivered (before after : FileTree) (path : Path) (content : String) : Prop where
  | written (place : Place) (number : Nat) (located : before.locate .writing path = .ok place)
      (wrote : before.Wrote after place number content)
      (reads : after.readText path = .ok content)
  | lost (place : Place) (located : before.locate .writing path = .ok place)
      (device : before.nodeAt? place = some .sink) (unchanged : after = before)

theorem delivered_of_write (success : before.write path content = .ok after) :
    before.Delivered after path content := by
  obtain ⟨place, located, ⟨number, wrote⟩ | ⟨device, unchanged⟩⟩ := write_ok success
  · exact .written place number located wrote (wrote.readText located)
  · exact .lost place located device unchanged

/-- A document is overwritten if the path leads to its file, and is left alone otherwise. -/
theorem Delivered.document {document : Path} {text : String}
    (delivered : before.Delivered after path content) (read : before.readText document = .ok text) :
    (¬before.OneFile path document → after.readText document = .ok text) ∧
      (before.OneFile path document → after.readText document = .ok content) := by
  cases delivered with
  | written place number located wrote reads =>
    exact ⟨fun apart => wrote.readText_other located apart read, wrote.readText_same located⟩
  | lost place located device unchanged =>
    subst unchanged
    refine ⟨fun _ => read, ?_⟩
    rintro ⟨here, _, _, found, _, file, _⟩
    have itself : after.Keeps after := ⟨rfl, fun _ _ there => there⟩
    cases found.symm.trans (itself.locate located ⟨_, device, by simp⟩)
    cases device.symm.trans file

/-! ### The folder and the name of a file -/

theorem follow_concat_ok_iff :
    tree.follow .reading links place (names ++ [name]) = .ok (target, left) ↔
    ∃ folder more, tree.follow .reading links place names = .ok (folder, more) ∧
      tree.follow .reading more folder [name] = .ok (target, left) := by
  rw [follow_append (.inl rfl), bind_ok_iff, Prod.exists]

/-- One name that does not lead to a link. -/
theorem follow_single_direct (entered : tree.enter folder name = .ok place)
    (direct : ∀ target, tree.nodeAt? place ≠ some (.link target)) :
    tree.follow .reading links folder [name] = .ok (place, links) := by
  have first : tree.enterFor .reading folder name [] = .ok place :=
    (enterFor_front (.inl rfl)).trans entered
  exact follow_arrived (walk_on first direct)

theorem enter_of_follow (followed : tree.follow .reading links folder [name] = .ok (target, left)) :
    ∃ place, tree.enter folder name = .ok place := by
  cases entered : tree.enter folder name with
  | ok place => exact ⟨place, rfl⟩
  | error problem =>
    have failed : tree.enterFor .reading folder name [] = .error problem :=
      (enterFor_front (.inl rfl)).trans entered
    rw [follow_error (walk_error failed)] at followed
    cases followed

/-- A folder is no link. -/
theorem direct_of_isFolder (inside : tree.isFolder place = true) (target : Path) :
    tree.nodeAt? place ≠ some (.link target) := by
  rw [isFolder_iff.mp inside]
  simp

/-- The empty name and a single dot lead from a folder to itself. -/
theorem follow_stays_iff (stays : name = [] ∨ name = Path.here) :
    tree.follow .reading links folder [name] = .ok (target, left) ↔
      tree.isFolder folder = true ∧ target = folder ∧ left = links := by
  have here : step folder name = folder := if_pos stays
  have short : name.length ≤ greatestNameLength := by
    rcases stays with rfl | rfl <;> decide
  have onward (inside : tree.isFolder folder = true) :
      tree.follow .reading links folder [name] = .ok (folder, links) := by
    refine follow_single_direct (enter_ok_iff.mpr ⟨inside, short, ?_, here.symm⟩)
      (direct_of_isFolder inside)
    rw [here, isFolder_iff.mp inside]
    rfl
  constructor
  · intro followed
    obtain ⟨_, entered⟩ := enter_of_follow followed
    obtain ⟨inside, _⟩ := enter_ok_iff.mp entered
    cases (onward inside).symm.trans followed
    exact ⟨inside, rfl, rfl⟩
  · rintro ⟨inside, rfl, rfl⟩
    exact onward inside

/-- A path ends with a name in a folder that the rest of it leads to. Whether there is anything of
that name in the folder is left open. -/
structure Reaches (tree : FileTree) (path : Path) (folder : Place) (name : Name) : Prop where
  way : ∃ front left, path.names = front ++ [name] ∧
    tree.follow .reading greatestLinkCount (start tree.working path) front = .ok (folder, left)
  inside : tree.isFolder folder = true
  proper : IsFileName name

theorem Reaches.unique {otherName : Name} (reaches : tree.Reaches path folder name)
    (also : tree.Reaches path other otherName) : folder = other ∧ name = otherName := by
  obtain ⟨front, left, named, followed⟩ := reaches.way
  obtain ⟨otherFront, otherLeft, otherNamed, otherFollowed⟩ := also.way
  obtain ⟨rfl, single⟩ := List.append_inj' (named.symm.trans otherNamed) rfl
  cases followed.symm.trans otherFollowed
  exact ⟨rfl, List.singleton_inj.mp single⟩

/-- What can be read has a name of its own. -/
theorem reaches_of_readText (read : tree.readText path = .ok content) :
    ∃ folder name, tree.Reaches path folder name := by
  obtain ⟨target, located, object⟩ := readText_ok_iff.mp read
  obtain ⟨_, left, followed⟩ := locate_ok_iff.mp located
  obtain ⟨front, name, named⟩ :=
    path.names.eq_nil_or_concat'.resolve_left (Text.split_ne_nil Path.slash path)
  rw [named] at followed
  obtain ⟨folder, more, way, followed⟩ := follow_concat_ok_iff.mp followed
  obtain ⟨place, entered⟩ := enter_of_follow followed
  obtain ⟨inside, _, _, same⟩ := enter_ok_iff.mp entered
  have notFolder : tree.isFolder target = false := by
    rw [← Bool.not_eq_true, isFolder_iff]
    intro there
    rw [objectAt?, there] at object
    simp at object
  have leaves : tree.isFolder (step folder name) = false := by
    rw [← Bool.not_eq_true]
    intro arrived
    rw [← same] at arrived
    cases (follow_single_direct entered (direct_of_isFolder arrived)).symm.trans followed
    rw [arrived] at notFolder
    cases notFolder
  refine ⟨folder, name, ⟨front, more, named, way⟩, inside, ?_, ?_, ?_⟩
  · rintro rfl
    rw [step, if_pos (.inl rfl), inside] at leaves
    cases leaves
  · rintro rfl
    rw [step, if_pos (.inr rfl), inside] at leaves
    cases leaves
  · rintro rfl
    rw [step, if_neg (by decide), if_pos rfl, isFolder_dropLast inside] at leaves
    cases leaves

end Blueprint.FileTree
