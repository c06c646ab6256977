import Blueprint.Proofs.Build.Processors

/-!
The layout of a processor has room for every link between the cells of a grid with at most `2^15`
rows and columns. Positions start at zero, so no two of them are further apart than `2^15 - 1`, and
an offset of 16 bits reaches that far in both directions. Together with bounds on the code and on
the number of links this leaves a build nothing to report about a layout.
-/

namespace Blueprint

open Placement (Context Runs cellAt occurrences distance linksOf)
open ProcessorLayout (joinLines linkNumbers numbers)
open Text (utf8)

namespace Placement

/-- No row and no column is longer than `2^15` cells. -/
structure Compact (grid : List (List String)) : Prop where
  rows : grid.length ≤ 32768
  columns : ∀ row ∈ grid, row.length ≤ 32768

/-- Substitution changes what is in the cells, and not where they are. -/
theorem Compact.map {grid : List (List String)} (compact : Compact grid) (f : String → String) :
    Compact (grid.map (·.map f)) := by
  constructor
  · rw [List.length_map]
    exact compact.rows
  · intro row member
    obtain ⟨original, inside, rfl⟩ := List.mem_map.mp member
    rw [List.length_map]
    exact compact.columns original inside

theorem Compact.position {grid : List (List String)} (compact : Compact grid) {x y : Nat}
    {cell : String} (here : cellAt grid x y = some cell) : x < 32768 ∧ y < 32768 := by
  obtain ⟨row, below, rowAt, cellHere⟩ := cellAt_eq_some_iff.mp here
  obtain ⟨within, _⟩ := List.getElem?_eq_some_iff.mp cellHere
  exact ⟨Nat.lt_of_lt_of_le within (compact.columns row (List.mem_of_getElem? rowAt)),
    Nat.lt_of_lt_of_le below compact.rows⟩

/-- An offset of 16 bits reaches from any position below `2^15` to any other. -/
theorem distance_inside {origin target : Nat} (start : origin < 32768) (goal : target < 32768) :
    -32768 ≤ (distance origin target).toInt ∧ (distance origin target).toInt ≤ 32767 := by
  rw [distance_toInt (by omega) (by omega)]
  omega

/-- The bound is the best there is: the cell after the last one is out of reach. -/
example : ProcessorLayout.signed .offsetX (distance 0 32767) = .ok [127, 255] ∧
    ProcessorLayout.signed .offsetX (distance 0 32768) = .error ⟨.offsetX, 32768⟩ := by
  decide

theorem links_inside {grid : List (List String)} (compact : Compact grid) {x y : Nat}
    {cell : String} (here : cellAt grid x y = some cell) (names : List String) :
    ∀ link ∈ links names grid x y, ∀ n ∈ linkNumbers link, n.holds = false := by
  intro link member
  rw [links_eq] at member
  obtain ⟨name, _, member⟩ := List.mem_flatMap.mp member
  obtain ⟨⟨targetX, targetY⟩, found, rfl⟩ := List.mem_map.mp member
  obtain ⟨column, row⟩ := compact.position here
  obtain ⟨targetColumn, targetRow⟩ := compact.position (mem_occurrences_iff.mp found)
  have short : (utf8 automaticName).length ≤ 65535 := by decide
  exact (ProcessorLayout.linkNumbers_inside_iff _).mpr
    ⟨short, distance_inside column targetColumn, distance_inside row targetRow⟩

end Placement

namespace Build

/-- The bounds within which a document is placed: on its grid, on the code that its programs load
to, and on the links of the processors that its cells name. -/
structure Bounded (settings : Settings) (document : Document) : Prop where
  compact : Placement.Compact document.tiles.grid
  code : ∀ name source code, document.tiles.programs.get? name = some source →
    source.load (context settings document).shop = .ok code →
    (utf8 (joinLines code)).length < 2147483648
  links : let tiles := (context settings document).document.tiles
    ∀ cell block name x y, cellAt tiles.grid x y = some cell → cell ≠ "" →
      tiles.blocks.get? cell = some block → Runs block name →
      (linksOf block tiles.grid x y).length < 2147483648

variable {settings : Settings} {document : Document} {cell name : String} {block : BlockDecl}
  {x y : Nat}

/-- Every processor of a bounded document has a layout if its program can be loaded. -/
theorem Bounded.encodes (bounded : Bounded settings document) {source : Program}
    {code : List String}
    (here : cellAt (context settings document).document.tiles.grid x y = some cell)
    (named : cell ≠ "")
    (declared : (context settings document).document.tiles.blocks.get? cell = some block)
    (runs : Runs block name) (found : document.tiles.programs.get? name = some source)
    (loaded : source.load (context settings document).shop = .ok code) :
    ∃ bytes, ProcessorLayout.encode
      (linksOf block (context settings document).document.tiles.grid x y) code = .ok bytes := by
  have short := bounded.code name source code found loaded
  have few := bounded.links cell block name x y here named declared runs
  have compact := bounded.compact.map
    (Template.substitute (Template.finalTable (constants settings document) document))
  have inside : ∀ n ∈ numbers
      (linksOf block (context settings document).document.tiles.grid x y) code,
      n.holds = false :=
    (ProcessorLayout.numbers_inside_iff _ _).mpr
      ⟨Nat.le_of_lt_succ short, Nat.le_of_lt_succ few, Placement.links_inside compact here _⟩
  rw [ProcessorLayout.encode_eq]
  exact ⟨_, ProcessorLayout.within_ok_iff.mpr ⟨inside, rfl⟩⟩

/-- A layout that is refused would be that of a placed processor whose program has been loaded. -/
theorem tile_ne_codec (standard : settings.codec = .standard) (bounded : Bounded settings document)
    (here : cellAt (context settings document).document.tiles.grid x y = some cell)
    (named : cell ≠ "") (owner : String) (cause : CodecError) :
    Placement.tile (context settings document) cell x y ≠ .error (.codec owner cause) := by
  intro failure
  rcases Placement.tile_error failure with ⟨block, declared, failed⟩ | ordinary
  · rcases Placement.config_error failed with ⟨_, _, _, impossible⟩ |
      ⟨name, source, code, _, runs, found, loaded, refused, _⟩ | ordinary
    · cases impossible
    · obtain ⟨_, encoded⟩ := bounded.encodes here named declared runs found loaded
      cases (Placement.pack_of_encode standard encoded).symm.trans refused
    · exact ordinary.2 owner cause rfl
  · exact ordinary.2 owner cause rfl

end Build

open Build

/-- A build whose document, if it can be read, is within the bounds never fails for a number that
has no room in the layout of a processor: all processors that get as far as their layout have
one. The codec is the standard one. -/
theorem layouts_have_room (settings : Settings) (text : String)
    (standard : settings.codec = .standard)
    (bounded : ∀ document, readDocument settings text = .ok document → Bounded settings document) :
    (∀ cell cause, build settings text ≠ .error (.placement (.codec cell cause))) ∧
    ∀ document, readDocument settings text = .ok document →
      let context := context settings document
      let tiles := context.document.tiles
      ∀ cell block name x y source code, cellAt tiles.grid x y = some cell → cell ≠ "" →
        tiles.blocks.get? cell = some block → Runs block name →
        tiles.programs.get? name = some source → source.load context.shop = .ok code →
        ∃ bytes, context.codec.pack (linksOf block tiles.grid x y) code = .ok bytes := by
  constructor
  · intro owner cause failure
    rcases build_error failure with ⟨document, _, read, failed, same⟩ | early
    · cases same
      obtain ⟨cell, x, y, here, named, failed⟩ := Placement.exists_unplaced failed
      exact tile_ne_codec standard (bounded document read) here named owner cause failed
    · exact early _ rfl
  · intro document read context tiles cell block name x y source code here named declared runs
      found loaded
    obtain ⟨bytes, encoded⟩ :=
      (bounded document read).encodes here named declared runs found loaded
    exact ⟨bytes, Placement.pack_of_encode standard encoded⟩

theorem linked_bounded : Bounded plainSettings linkedDocument := by
  have unchanged : (context plainSettings linkedDocument).document = linkedDocument := by
    decide +kernel
  refine ⟨⟨by decide, by decide⟩, ?_, ?_⟩
  · intro name source code found loaded
    have listed := OrderedMap.mem_of_lookup found
    cases List.mem_singleton.mp listed
    cases loaded
    decide
  · rw [unchanged]
    intro tiles cell block name x y _ _ declared runs
    have listed := OrderedMap.mem_of_lookup declared
    rcases List.mem_cons.mp listed with same | listed
    · cases same
      change (Placement.links ["r"] linkedDocument.tiles.grid x y).length < 2147483648
      rw [Placement.links_eq, List.flatMap_singleton, List.length_map]
      decide
    · cases List.mem_singleton.mp listed
      cases runs.1

theorem layouts_have_room_linked : plainSettings.codec = .standard ∧
    readDocument plainSettings linkedText = .ok linkedDocument ∧
    (∀ document, readDocument plainSettings linkedText = .ok document →
      Bounded plainSettings document) ∧
    ∀ cell cause, build plainSettings linkedText ≠ .error (.placement (.codec cell cause)) := by
  have read := Traversal.ok_of_toOption linked_read
  have bounded : ∀ document, readDocument plainSettings linkedText = .ok document →
      Bounded plainSettings document := by
    intro document other
    cases read.symm.trans other
    exact linked_bounded
  exact ⟨rfl, read, bounded, (layouts_have_room plainSettings linkedText rfl bounded).1⟩

end Blueprint
