import Blueprint.Proofs.Template.Bare
import Blueprint.Proofs.Template.Settled
import Mathlib.Data.List.MinMax
import Mathlib.Data.List.Nodup

/-!
One scan in place of all passes for bare references. The passes go through a text once for every
constant, longest name first. If no value has a dollar sign and no name can run into the next dollar
sign, they do what one walk from left to right does that takes the longest name at each dollar sign.
-/

namespace Blueprint.Template

open Token

variable {table : ConstantTable} {text rest : List Char}

/-! ### The longest name that a text begins with -/

/-- Whether a text begins with the name of an entry. -/
def Leads (text : List Char) (entry : String × Constant) : Bool := entry.1.toList.isPrefixOf text

theorem leads_iff {entry : String × Constant} :
    Leads text entry = true ↔ entry.1.toList <+: text :=
  List.isPrefixOf_iff_prefix

/-- The entry with the longest of the names that a text begins with. -/
def longestLeading? (table : ConstantTable) (text : List Char) : Option (String × Constant) :=
  (table.entries.filter (Leads text)).argmax fun entry => entry.1.length

/-- The beginning of a name is the whole name if it has as many bytes or as many characters. -/
theorem eq_of_begins {short long : String} (begins : short.toList <+: long.toList)
    (bounded : long.utf8ByteSize ≤ short.utf8ByteSize ∨ long.length ≤ short.length) :
    short = long := by
  obtain ⟨more, whole⟩ := begins
  have joined : short ++ String.ofList more = long := by
    rw [← String.toList_inj, String.toList_append, String.toList_ofList, whole]
  have nothing : String.ofList more = "" := by
    rcases bounded with bytes | characters
    · rw [← joined, String.utf8ByteSize_append] at bytes
      exact String.utf8ByteSize_eq_zero_iff.mp (by omega)
    · rw [← joined, String.length_append] at characters
      exact String.length_eq_zero_iff.mp (by omega)
  rw [← joined, nothing, String.append_empty]

/-- Two names at the beginning of a text are equal if the one that is not shorter in bytes is not
longer in characters. -/
theorem name_eq_of_leads {first second : String × Constant} (firstLeads : Leads text first = true)
    (secondLeads : Leads text second = true)
    (bytes : second.1.utf8ByteSize ≤ first.1.utf8ByteSize)
    (characters : first.1.length ≤ second.1.length) : first.1 = second.1 := by
  rcases List.prefix_or_prefix_of_prefix (leads_iff.mp firstLeads) (leads_iff.mp secondLeads) with
    before | before
  · exact eq_of_begins before (.inl bytes)
  · exact (eq_of_begins before (.inr characters)).symm

/-- Names come longest first, so the first one that fits is the longest. -/
theorem find?_leads (table : ConstantTable) (text : List Char) :
    table.entries.find? (Leads text) = longestLeading? table text := by
  cases longest : longestLeading? table text with
  | none =>
    rw [longestLeading?, List.argmax_eq_none, List.filter_eq_nil_iff] at longest
    exact List.find?_eq_none.mpr longest
  | some entry =>
    have member := List.mem_filter.mp (List.argmax_mem longest)
    obtain ⟨found, first⟩ := Option.isSome_iff_exists.mp
      (List.find?_isSome.mpr ⟨entry, member⟩)
    obtain ⟨leads, before, after, split, earlier⟩ := List.find?_eq_some_iff_append.mp first
    have listed : found ∈ table.entries := List.mem_of_find?_eq_some first
    have fits : found ∈ table.entries.filter (Leads text) := List.mem_filter.mpr ⟨listed, leads⟩
    have atMost := List.le_of_mem_argmax fits longest
    -- The longest entry is not in front of the first one that fits, so it is it or comes later.
    have later : entry = found ∨ entry ∈ after := by
      have somewhere := member.1
      rw [split, List.mem_append, List.mem_cons] at somewhere
      rcases somewhere with front | here
      · have unfit := earlier entry front
        rw [member.2] at unfit
        cases unfit
      · exact here
    have sorted := table.longestFirst
    rw [split, List.pairwise_append, List.pairwise_cons] at sorted
    have bytes : entry.1.utf8ByteSize ≤ found.1.utf8ByteSize := by
      rcases later with rfl | behind
      · exact Nat.le_refl _
      · exact sorted.2.1.1 entry behind
    have same : found.1 = entry.1 := name_eq_of_leads leads member.2 bytes atMost
    rw [first, List.inj_on_of_nodup_map table.distinct listed member.1 same]

theorem longestLeading?_append (keyChars : ∀ entry ∈ table.entries, ∀ c ∈ entry.1.toList,
    isKeyChar c = true) (stops : Stops isKeyChar rest) :
    longestLeading? table (text ++ rest) = longestLeading? table text := by
  have same : ∀ entry ∈ table.entries, Leads (text ++ rest) entry = Leads text entry := by
    intro entry member
    rw [Bool.eq_iff_iff, leads_iff, leads_iff]
    exact prefix_append_stops (keyChars entry member) stops
  rw [longestLeading?, longestLeading?, List.filter_congr same]

/-! ### The walk -/

/-- Copies a text from left to right, with the value of a constant in place of each dollar sign and
the longest name behind it. A dollar sign that no name follows is copied. -/
def replaceLongest (table : ConstantTable) : List Char → List Char
  | [] => []
  | c :: rest =>
    match if c = '$' then longestLeading? table rest else none with
    | some entry =>
      entry.2.display.toList ++ replaceLongest table (rest.drop entry.1.toList.length)
    | none => c :: replaceLongest table rest
termination_by text => text.length
decreasing_by all_goals simp only [List.length_cons, List.length_drop]; omega

theorem replaceLongest_cons {c : Char} (other : c ≠ '$') (rest : List Char) :
    replaceLongest table (c :: rest) = c :: replaceLongest table rest := by
  rw [replaceLongest, if_neg other]

theorem replaceLongest_free {free : List Char} (none : '$' ∉ free) (rest : List Char) :
    replaceLongest table (free ++ rest) = free ++ replaceLongest table rest := by
  induction free with
  | nil => rfl
  | cons c free ih =>
    rw [List.mem_cons, not_or] at none
    rw [List.cons_append, replaceLongest_cons fun same => none.1 same.symm, ih none.2,
      List.cons_append]

/-- What a dollar sign with a run of characters behind it becomes. -/
def expandRun (table : ConstantTable) (run : List Char) : List Char :=
  match longestLeading? table run with
  | some entry => entry.2.display.toList ++ run.drop entry.1.toList.length
  | none => '$' :: run

theorem replaceLongest_run (keyChars : ∀ entry ∈ table.entries, ∀ c ∈ entry.1.toList,
    isKeyChar c = true) {run : List Char} (free : '$' ∉ run) (stops : Stops isKeyChar rest) :
    replaceLongest table ('$' :: (run ++ rest)) =
      expandRun table run ++ replaceLongest table rest := by
  rw [replaceLongest, if_pos rfl, longestLeading?_append keyChars stops, expandRun]
  cases longest : longestLeading? table run with
  | none =>
    dsimp only
    rw [replaceLongest_free free, List.cons_append]
  | some entry =>
    have leads := leads_iff.mp (List.mem_filter.mp (List.argmax_mem longest)).2
    have left : '$' ∉ run.drop entry.1.toList.length :=
      fun member => free (List.mem_of_mem_drop member)
    dsimp only
    rw [List.drop_append_of_le_length leads.length_le, replaceLongest_free left, List.append_assoc]

/-! ### The passes -/

theorem foldl_replaceEntry_cons {c : Char} (other : c ≠ '$') (rest : List Char)
    (entries : List (String × Constant)) :
    entries.foldl replaceEntry (c :: rest) = c :: entries.foldl replaceEntry rest := by
  induction entries generalizing rest with
  | nil => rfl
  | cons entry entries ih =>
    rw [List.foldl_cons, List.foldl_cons, replaceEntry, replaceKey_cons other, ih, replaceEntry]

theorem head?_replaceKey {key value : List Char} (other : text.head? ≠ some '$') :
    (replaceKey key value text).head? = text.head? := by
  cases text with
  | nil => rw [replaceKey]
  | cons c rest =>
    rw [replaceKey_cons fun same => other (congrArg some same)]
    rfl

/-- No pass reaches over a place where a character stands that is neither part of a name nor a
dollar sign, and all passes leave that character there. -/
theorem foldl_replaceEntry_append {entries : List (String × Constant)}
    (keyChars : ∀ entry ∈ entries, ∀ c ∈ entry.1.toList, isKeyChar c = true)
    (stops : Stops isKeyChar rest) (other : rest.head? ≠ some '$') :
    entries.foldl replaceEntry (text ++ rest) =
      entries.foldl replaceEntry text ++ entries.foldl replaceEntry rest := by
  induction entries generalizing text rest with
  | nil => rfl
  | cons entry entries ih =>
    obtain ⟨here, later⟩ := List.forall_mem_cons.mp keyChars
    have head : (replaceEntry rest entry).head? = rest.head? := head?_replaceKey other
    have pass : replaceEntry (text ++ rest) entry =
        replaceEntry text entry ++ replaceEntry rest entry := replaceKey_append here stops
    have stillStops : Stops isKeyChar (replaceEntry rest entry) :=
      fun c first => stops c (head.symm.trans first)
    have stillOther : (replaceEntry rest entry).head? ≠ some '$' := by rwa [head]
    rw [List.foldl_cons, List.foldl_cons, List.foldl_cons, pass, ih later stillStops stillOther]

/-- The first pass that finds its name behind a lone dollar sign is the only one to change anything,
since its value has no dollar sign. -/
theorem foldl_replaceEntry_dollar {entries : List (String × Constant)}
    (plain : ∀ entry ∈ entries, '$' ∉ entry.2.display.toList) {run : List Char}
    (free : '$' ∉ run) :
    entries.foldl replaceEntry ('$' :: run) =
      match entries.find? (Leads run) with
      | some entry => entry.2.display.toList ++ run.drop entry.1.toList.length
      | none => '$' :: run := by
  induction entries with
  | nil => rfl
  | cons entry entries ih =>
    obtain ⟨here, later⟩ := List.forall_mem_cons.mp plain
    have left : '$' ∉ run.drop entry.1.toList.length :=
      fun member => free (List.mem_of_mem_drop member)
    rw [List.foldl_cons, replaceEntry, replaceKey, List.find?_cons]
    cases leads : Leads run entry with
    | true =>
      have settled : '$' ∉ entry.2.display.toList ++ run.drop entry.1.toList.length :=
        fun member => (List.mem_append.mp member).elim here left
      rw [if_pos ⟨rfl, leads⟩, replaceKey_of_free left, foldl_replaceEntry_free settled]
    | false =>
      have unfit : ¬('$' = '$' ∧ entry.1.toList.isPrefixOf run = true) := by
        rintro ⟨_, fits⟩
        cases leads.symm.trans fits
      rw [if_neg unfit, replaceKey_of_free free, ih later]

theorem foldl_replaceEntry_run (plain : table.DollarFree) {run : List Char} (free : '$' ∉ run) :
    table.entries.foldl replaceEntry ('$' :: run) = expandRun table run := by
  rw [foldl_replaceEntry_dollar plain free, find?_leads, expandRun]

/-! ### Texts in which the passes and the walk agree -/

/-- No name can run from one dollar sign up to another one. -/
def Apart (text : List Char) : Prop :=
  ∀ rest, '$' :: rest <:+ text → (rest.dropWhile isKeyChar).head? ≠ some '$'

instance (text : List Char) : Decidable (Apart text) :=
  decidable_of_iff (∀ tail ∈ text.tails, tail.head? = some '$' →
      (tail.tail.dropWhile isKeyChar).head? ≠ some '$') <| by
    simp only [List.mem_tails]
    constructor
    · exact fun apart rest suffix => apart _ suffix rfl
    · rintro apart (_ | ⟨c, rest⟩) suffix head
      · cases head
      · cases head
        exact apart rest suffix

theorem Apart.of_suffix (apart : Apart text) (suffix : rest <:+ text) : Apart rest :=
  fun more behind => apart more (behind.trans suffix)

theorem foldl_replaceEntry_eq (names : ∀ entry ∈ table.entries, IsName entry.1.toList)
    (plain : table.DollarFree) (apart : Apart text) :
    table.entries.foldl replaceEntry text = replaceLongest table text := by
  have keyChars : ∀ entry ∈ table.entries, ∀ c ∈ entry.1.toList, isKeyChar c = true :=
    fun entry member => (names entry member).keyChars
  induction size : text.length using Nat.strong_induction_on generalizing text with
  | _ size ih =>
    subst size
    cases text with
    | nil => rw [foldl_replaceEntry_free List.not_mem_nil, replaceLongest]
    | cons c rest =>
      by_cases dollar : c = '$'
      · -- The run of name characters behind a dollar sign, and what comes after it.
        subst dollar
        obtain ⟨run, after, isRun, stops, rfl⟩ : ∃ run after,
            (∀ c ∈ run, isKeyChar c = true) ∧ Stops isKeyChar after ∧ rest = run ++ after :=
          ⟨rest.takeWhile isKeyChar, rest.dropWhile isKeyChar,
            fun c => List.mem_takeWhile_imp, stops_dropWhile isKeyChar rest,
            List.takeWhile_append_dropWhile.symm⟩
        have free : '$' ∉ run := fun member => (ne_of_isKeyChar (isRun '$' member)).1 rfl
        have other : after.head? ≠ some '$' := by
          have behind := apart (run ++ after) (List.suffix_refl _)
          rwa [dropWhile_append_stops run stops, List.dropWhile_eq_nil_iff.mpr isRun,
            List.nil_append] at behind
        have suffix : after <:+ '$' :: (run ++ after) := ⟨'$' :: run, rfl⟩
        have shorter : after.length < ('$' :: (run ++ after)).length := by
          simp only [List.length_cons, List.length_append]
          omega
        rw [replaceLongest_run keyChars free stops, ← ih after.length shorter
          (apart.of_suffix suffix) rfl, ← foldl_replaceEntry_run plain free, ← List.cons_append]
        exact foldl_replaceEntry_append keyChars stops other
      · rw [foldl_replaceEntry_cons dollar, replaceLongest_cons dollar]
        have suffix : rest <:+ c :: rest := List.suffix_cons c rest
        rw [ih rest.length (Nat.lt_succ_self _) (apart.of_suffix suffix) rfl]

/-- A text without an opening has no references in parentheses. -/
theorem settled_of_no_opening (closed : ¬['$', '('] <:+: text) : Settled table text := by
  intro key member
  obtain ⟨before, after, tokens⟩ := List.append_of_mem member
  refine absurd ?_ closed
  rw [← slices_scan text, tokens, List.flatMap_append, List.flatMap_cons]
  exact ⟨before.flatMap slice, key.toList ++ [')'] ++ after.flatMap slice, by simp [slice]⟩

/-- Substitution with values that have no dollar sign is one walk from left to right, in texts that
open no reference and in which no name can run from one dollar sign up to another. -/
theorem substitute_eq_replaceLongest
    (names : ∀ entry ∈ table.entries, IsName entry.1.toList) (plain : table.DollarFree)
    {text : String} (closed : ¬['$', '('] <:+: text.toList) (apart : Apart text.toList) :
    substitute table text = .ofList (replaceLongest table text.toList) := by
  rw [substitute, substituteChars, substituteBare_eq_foldl,
    substituteReferences_of_settled (settled_of_no_opening closed),
    foldl_replaceEntry_eq names plain apart]

/-- Names that begin each other, and values that look like names. -/
def overlappingConstants : ConstantTable :=
  .insertAll .empty [("a", .text "b"), ("ab", .text "(a)"), ("abc-d", .list ["x", "y"])]

def overlappingText : String := "\\$abcd ($abc-d-)$ $b"

theorem substitute_eq_replaceLongest_overlapping :
    (∀ entry ∈ overlappingConstants.entries, IsName entry.1.toList) ∧
    overlappingConstants.DollarFree ∧ ¬['$', '('] <:+: overlappingText.toList ∧
    Apart overlappingText.toList ∧
    substitute overlappingConstants overlappingText =
      .ofList (replaceLongest overlappingConstants overlappingText.toList) ∧
    substitute overlappingConstants overlappingText = "\\(a)cd (x, y-)$ $b" := by
  have names : ∀ entry ∈ overlappingConstants.entries, IsName entry.1.toList := by decide +kernel
  have plain : overlappingConstants.DollarFree := by decide +kernel
  have closed : ¬['$', '('] <:+: overlappingText.toList := by decide +kernel
  have apart : Apart overlappingText.toList := by decide +kernel
  exact ⟨names, plain, closed, apart, substitute_eq_replaceLongest names plain closed apart,
    by decide +kernel⟩

end Blueprint.Template
