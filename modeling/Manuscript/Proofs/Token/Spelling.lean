import Manuscript.Proofs.Json.Written
import Manuscript.Token.Basic

/-!
Token trees as JSON texts. A token is written as an object whose members may stand in any order
and between any others; what a token does not have may be left out.
-/

namespace Manuscript

open Json

namespace TokenKind

/-- The names that have a meaning. -/
def meaningfulNames : List String := "disordered_list" :: known.map name

/-- A kind is written by a name. A name that has a meaning is never kept as one without. -/
def WrittenAs : TokenKind → String → Prop
  | .unknown own, name => name = own ∧ own ∉ meaningfulNames
  | .unorderedList, name => name = "unordered_list" ∨ name = "disordered_list"
  | kind, name => name = kind.name

/-- A kind is read from each of its names. -/
theorem ofName_of_writtenAs {kind : TokenKind} {name : String} (written : kind.WrittenAs name) :
    ofName name = kind := by
  cases kind
  case unknown own =>
    -- The name is neither the second name of a kind nor found among the first ones.
    obtain ⟨rfl, noMeaning⟩ := written
    have ⟨notSecond, noName⟩ := not_or.mp (mt List.mem_cons.mpr noMeaning)
    have none : known.find? (·.name = name) = none :=
      List.find?_eq_none.mpr fun kind found same =>
        noName (List.mem_map.mpr ⟨kind, found, of_decide_eq_true same⟩)
    rw [ofName, if_neg notSecond, none]
    rfl
  case unorderedList => rcases written with rfl | rfl <;> rfl
  all_goals
    cases written
    rfl

end TokenKind

namespace Json.Form

/-- The values of the members of a name. -/
def valuesOf (name : String) (members : List (StringForm × Form)) : List Form :=
  members.filterMap fun member => if member.1.Means name then some member.2 else none

mutual

/--
How deeply lists and objects are nested in a text of tokens. What stands in members that are no
fields of a token does not count, since it is not kept.
-/
def keptNesting : Form → Nat
  | .array items => keptItemNesting items + 1
  | .object members => keptMemberNesting members + 1
  | .null | .bool _ | .number _ | .string _ => 0

/-- How deeply they are nested in some tokens. -/
def keptItemNesting : List Form → Nat
  | [] => 0
  | item :: rest => max item.keptNesting (keptItemNesting rest)

/-- How deeply they are nested in the fields of a token. -/
def keptMemberNesting : List (StringForm × Form) → Nat
  | [] => 0
  | (key, value) :: rest =>
    max
      (if key.Means "children" then value.keptNesting
        else if key.Means "attrs" then value.nesting
        else 0)
      (keptMemberNesting rest)

end

end Json.Form

namespace Token

open Json.Form

/-- The field of a kind holds one of its names. -/
def KindWritten (kind : TokenKind) (members : List (StringForm × Form)) : Prop :=
  ∃ form name, valuesOf "type" members = [.string form] ∧ form.Means name ∧ kind.WrittenAs name

/-- The field of literal text holds it; when there is none, it is left out or null. -/
def RawWritten : Option String → List (StringForm × Form) → Prop
  | none, members => valuesOf "raw" members = [] ∨ valuesOf "raw" members = [.null]
  | some raw, members => ∃ form, valuesOf "raw" members = [.string form] ∧ form.Means raw

/-- The field of attributes holds them in any order; when there are none, it may be left out. -/
def AttrsWritten (attrs : Attrs) (members : List (StringForm × Form)) : Prop :=
  attrs = .empty ∧ valuesOf "attrs" members = [] ∨
    ∃ entries written, valuesOf "attrs" members = [.object entries] ∧
      written.Perm attrs.entries ∧ SpellMembers entries written

/-- The fields of a token but its children, each given once, and other members with other names. -/
def FieldsWritten (kind : TokenKind) (raw? : Option String) (attrs : Attrs)
    (members : List (StringForm × Form)) : Prop :=
  (∀ member ∈ members, ∃ name, member.1.Means name) ∧ KindWritten kind members ∧
    RawWritten raw? members ∧ AttrsWritten attrs members

mutual

/-- A token is written as an object; when it has no children, they are left out or null. -/
def WrittenAs : Token → Form → Prop
  | ⟨kind, raw?, none, attrs⟩, form =>
    ∃ members, form = .object members ∧ FieldsWritten kind raw? attrs members ∧
      (valuesOf "children" members = [] ∨ valuesOf "children" members = [.null])
  | ⟨kind, raw?, some children, attrs⟩, form =>
    ∃ members, form = .object members ∧ FieldsWritten kind raw? attrs members ∧
      ∃ items, valuesOf "children" members = [.array items] ∧ AreWrittenAs children items

/-- Tokens are written as the items of a list, in order. -/
def AreWrittenAs : List Token → List Form → Prop
  | [], forms => forms = []
  | token :: rest, forms =>
    ∃ form others, forms = form :: others ∧ token.WrittenAs form ∧ AreWrittenAs rest others

end

end Token

end Manuscript
