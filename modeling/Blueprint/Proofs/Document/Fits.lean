import Blueprint.Document.Decode
import Blueprint.Proofs.Schema.Bundled
import Blueprint.Proofs.Traversal

/-!
Rules of the schema against the readers of the typed form. What a rule accepts is read, but for one
drift between the two: a double may stand for an integer in the schema and never does in the typed
form. Such a double is a flaw here, and the lemmas say where the flaws of a whole are in its parts.
-/

namespace Blueprint

open Traversal

/-- A value is an object with a member. -/
def Json.Has (value : Json) (key : String) (inner : Json) : Prop :=
  ∃ members, value = .object members ∧ (key, inner) ∈ members

/-- Doubles that are where the typed form has no room for them. -/
abbrev Flaw := Json → Decimal.Binary64 → Prop

namespace Flaw

def never : Flaw := fun _ _ => False

def double : Flaw := fun value x => value = .number (.double x)

/-- A member of an object has a flaw, which depends on its key. -/
def inMembers (flaw : String → Flaw) : Flaw := fun value x =>
  ∃ key inner, value.Has key inner ∧ flaw key inner x

theorem inMembers_never (value : Json) (x : Decimal.Binary64) :
    inMembers (fun _ => never) value x ↔ never value x := by
  simp [inMembers, never]

/-- Only the member with the key can have a flaw. -/
def only (key : String) (flaw : Flaw) : String → Flaw := fun other value x =>
  other = key ∧ flaw value x

def block : Flaw := inMembers (only "rotation" double)

def tiles : Flaw := inMembers (only "blocks" (inMembers fun _ => block))

/-- The rotation of a declared block is a double. -/
def document : Flaw := inMembers (only "tiles" tiles)

/-- What is reported for a double in place of a small number. -/
def error (x : Decimal.Binary64) : DecodeError := .wrongType (.number (.double x)) .byte

end Flaw

namespace Fields

variable {decode : Decode α} {checks : List (String × Decode Unit)}
  {members : List (String × Json)} {name : String}

/-- Every member that is a field has been read without a problem. -/
def Settled (checks : List (String × Decode Unit)) (members : List (String × Json)) : Prop :=
  ∀ entry ∈ members, ((checks.lookup entry.1).getD fun _ => .ok ()) entry.2 = .ok ()

theorem Settled.decoded {value : Json} (settled : Settled checks members)
    (listed : checks.lookup name = some (Decode.check decode))
    (found : members.lookup name = some value) : Succeeds (decode value) := by
  have read := settled _ (OrderedMap.mem_of_lookup found)
  rw [listed, Option.getD_some] at read
  refine succeeds_of_ne_error fun problem failure => ?_
  rw [Decode.check, failure] at read
  cases read

theorem Settled.required (settled : Settled checks members)
    (listed : checks.lookup name = some (Decode.check decode))
    (present : (members.lookup name).isSome) (position : Nat) :
    Succeeds ((named members).required position name decode) := by
  obtain ⟨value, found⟩ := Option.isSome_iff_exists.mp present
  have here : (named members).find? position name = some value := found
  rw [Fields.required, here]
  exact settled.decoded listed found

theorem Settled.withDefault (settled : Settled checks members)
    (listed : checks.lookup name = some (Decode.check decode)) (position : Nat) (default : α) :
    Succeeds ((named members).withDefault position name default decode) := by
  have same : (named members).find? position name = members.lookup name := rfl
  rw [Fields.withDefault, same]
  cases found : members.lookup name with
  | none => exact ⟨default, rfl⟩
  | some value => exact settled.decoded listed found

end Fields

/-- What a rule accepts is decoded if it has no flaw, and otherwise one of its flaws is reported. -/
structure Fits (named : String → Check) (rule : Rule) (decode : Decode α) (flaw : Flaw) : Prop where
  clean : ∀ {value result}, rule.Accepts named value → decode value = .ok result →
    ∀ x, ¬flaw value x
  reported : ∀ {value problem}, rule.Accepts named value → decode value = .error problem →
    ∃ x, flaw value x ∧ problem = Flaw.error x

namespace Fits

variable {named : String → Check} {rule : Rule} {decode : Decode α} {flaw : Flaw}

theorem of_total (total : ∀ {value}, rule.Accepts named value → Succeeds (decode value)) :
    Fits named rule decode .never where
  clean _ _ _ impossible := impossible
  reported accepted failure := by
    obtain ⟨_, success⟩ := total accepted
    cases failure.symm.trans success

theorem total (fits : Fits named rule decode .never) {value : Json}
    (accepted : rule.Accepts named value) : Succeeds (decode value) := by
  refine succeeds_of_ne_error fun problem failure => ?_
  obtain ⟨_, impossible, _⟩ := fits.reported accepted failure
  exact impossible

theorem congr {other : Flaw} (fits : Fits named rule decode flaw)
    (same : ∀ value x, flaw value x ↔ other value x) : Fits named rule decode other := by
  have equal : flaw = other := funext fun value => funext fun x => propext (same value x)
  exact equal ▸ fits

/-- A member without flaws, beside the one that can have them. -/
theorem elsewhere {key other : String} (fits : Fits named rule decode .never)
    (different : other ≠ key) : Fits named rule decode (Flaw.only key flaw other) :=
  fits.congr fun _ _ => ⟨False.elim, fun both => different both.1⟩

theorem here (fits : Fits named rule decode flaw) (key : String) :
    Fits named rule decode (Flaw.only key flaw key) :=
  fits.congr fun _ _ => ⟨fun flawed => ⟨rfl, flawed⟩, fun both => both.2⟩

theorem weaken {other : Rule} (fits : Fits named rule decode flaw)
    (narrower : ∀ {value}, other.Accepts named value → rule.Accepts named value) :
    Fits named other decode flaw where
  clean accepted := fits.clean (narrower accepted)
  reported accepted := fits.reported (narrower accepted)

theorem check (fits : Fits named rule decode flaw) :
    Fits named rule (Decode.check decode) flaw where
  clean {value _} accepted success := by
    unfold Decode.check at success
    cases decoded : decode value with
    | ok result => exact fits.clean accepted decoded
    | error problem =>
      rw [decoded] at success
      cases success
  reported {value _} accepted failure := by
    unfold Decode.check at failure
    cases decoded : decode value with
    | ok result =>
      rw [decoded] at failure
      cases failure
    | error problem =>
      rw [decoded] at failure
      cases failure
      exact fits.reported accepted decoded

theorem optional (fits : Fits named rule decode flaw) (absent : ∀ x, ¬flaw .null x) :
    Fits named rule (Decode.optional decode) flaw where
  clean {value _} accepted success := by
    cases value with
    | null => exact absent
    | _ =>
      obtain ⟨_, decoded, _⟩ := bind_ok_iff.mp success
      exact fits.clean accepted decoded
  reported {value _} accepted failure := by
    cases value with
    | null => cases failure
    | _ =>
      rcases bind_error_iff.mp failure with decoded | ⟨_, _, impossible⟩
      · exact fits.reported accepted decoded
      · cases impossible

theorem optional_of_never (fits : Fits named rule decode .never) :
    Fits named rule (Decode.optional decode) .never :=
  fits.optional fun _ => id

theorem text : Fits named .text Decode.text .never := by
  refine of_total fun accepted => ?_
  obtain ⟨content, rfl⟩ := Rule.text_accepts_iff.mp accepted
  exact ⟨content, rfl⟩

theorem ignored : Fits named rule (fun _ => .ok ()) .never :=
  of_total fun _ => ⟨(), rfl⟩

theorem list (fits : Fits named rule decode .never) :
    Fits named (.listOf rule) (Decode.list decode) .never := by
  refine of_total fun accepted => ?_
  obtain ⟨elements, rfl, each⟩ := Rule.listOf_accepts_iff.mp accepted
  refine succeeds_of_ne_error fun problem failure => ?_
  obtain ⟨element, member, failed⟩ := mapM_error failure
  obtain ⟨_, decoded⟩ := fits.total (each element member)
  cases failed.symm.trans decoded

/-- One of two forms fits where the other need not. -/
theorem either {type : String} {first second : Decode α}
    (total : ∀ {value}, rule.Accepts named value →
      Succeeds (first value) ∨ Succeeds (second value)) :
    Fits named rule (Decode.either type first second) .never := by
  refine of_total fun {value} accepted => ?_
  unfold Decode.either
  cases one : first value with
  | ok result => exact ⟨result, rfl⟩
  | error problem =>
    rcases total accepted with ⟨_, success⟩ | ⟨result, success⟩
    · cases one.symm.trans success
    · rw [success]
      exact ⟨result, rfl⟩

theorem map (fits : Fits named rule decode flaw) :
    Fits named (.mapOf rule) (Decode.map decode) (.inMembers fun _ => flaw) where
  clean {value _} accepted success := by
    obtain ⟨entries, rfl, each⟩ := Rule.mapOf_accepts_iff.mp accepted
    obtain ⟨_, traversed, _⟩ := bind_ok_iff.mp success
    rintro x ⟨_, _, ⟨_, same, member⟩, flawed⟩
    cases same
    obtain ⟨_, _, decoded⟩ := exists_right_of_mem (mapM_ok_iff.mp traversed) member
    obtain ⟨_, decoded, _⟩ := bind_ok_iff.mp decoded
    exact fits.clean (each _ member) decoded x flawed
  reported {value _} accepted failure := by
    obtain ⟨entries, rfl, each⟩ := Rule.mapOf_accepts_iff.mp accepted
    rcases bind_error_iff.mp failure with failure | ⟨_, _, impossible⟩
    · obtain ⟨entry, member, failure⟩ := mapM_error failure
      rcases bind_error_iff.mp failure with decoded | ⟨_, _, impossible⟩
      · obtain ⟨x, flawed, same⟩ := fits.reported (each entry member) decoded
        exact ⟨x, ⟨_, _, ⟨entries, rfl, member⟩, flawed⟩, same⟩
      · cases impossible
    · cases impossible

theorem map_of_never (fits : Fits named rule decode .never) :
    Fits named (.mapOf rule) (Decode.map decode) .never :=
  fits.map.congr Flaw.inMembers_never

/-- A record fits if its fields do and nothing else can go wrong once they have been read. -/
theorem record {name : String} {keys : List String} {known : List (String × Rule)}
    {checks : List (String × Decode Unit)} {rest : Fields → Except DecodeError α}
    {flaw : String → Flaw}
    (fields : ∀ entry ∈ known, Fits named entry.2
      ((checks.lookup entry.1).getD fun _ => .ok ()) (flaw entry.1))
    (total : ∀ members, (∀ key ∈ keys, (members.lookup key).isSome) →
      Fields.Settled checks members → Succeeds (rest (.named members))) :
    Fits named (.record keys known) (fun value => Fields.of name checks value >>= rest)
      (.inMembers flaw) := by
  have member {key : String} {rule : Rule} (found : known.lookup key = some rule) :
      Fits named rule ((checks.lookup key).getD fun _ => .ok ()) (flaw key) := by
    exact fields (key, rule) (OrderedMap.mem_of_lookup found)
  constructor
  · intro value result accepted success
    obtain ⟨members, rfl, _, satisfied⟩ := Rule.record_accepts_iff.mp accepted
    obtain ⟨_, opened, _⟩ := bind_ok_iff.mp success
    obtain ⟨_, read, _⟩ := bind_ok_iff.mp opened
    rintro x ⟨_, _, ⟨_, same, inside⟩, flawed⟩
    cases same
    obtain ⟨rule, found, fine⟩ := satisfied _ inside
    exact (member found).clean fine (forM_ok_iff.mp read _ inside) x flawed
  · intro value problem accepted failure
    obtain ⟨members, rfl, present, satisfied⟩ := Rule.record_accepts_iff.mp accepted
    rcases bind_error_iff.mp failure with opening | ⟨fields, opened, later⟩
    · rcases bind_error_iff.mp opening with reading | ⟨_, _, impossible⟩
      · obtain ⟨entry, inside, failed⟩ := forM_error reading
        obtain ⟨rule, found, fine⟩ := satisfied entry inside
        obtain ⟨x, flawed, same⟩ := (member found).reported fine failed
        exact ⟨x, ⟨_, _, ⟨members, rfl, inside⟩, flawed⟩, same⟩
      · cases impossible
    -- All members have been read, which leaves the readers of the fields nothing to report.
    · obtain ⟨_, read, opened⟩ := bind_ok_iff.mp opened
      cases opened
      obtain ⟨_, success⟩ := total members present (forM_ok_iff.mp read)
      cases later.symm.trans success

theorem record_of_never {name : String} {keys : List String} {known : List (String × Rule)}
    {checks : List (String × Decode Unit)} {rest : Fields → Except DecodeError α}
    (fields : ∀ entry ∈ known, Fits named entry.2
      ((checks.lookup entry.1).getD fun _ => .ok ()) .never)
    (total : ∀ members, (∀ key ∈ keys, (members.lookup key).isSome) →
      Fields.Settled checks members → Succeeds (rest (.named members))) :
    Fits named (.record keys known) (fun value => Fields.of name checks value >>= rest) .never :=
  (record fields total).congr Flaw.inMembers_never

end Fits

end Blueprint
