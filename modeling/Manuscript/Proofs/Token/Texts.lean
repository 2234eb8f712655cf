import Manuscript.Proofs.Token.Spelling

/-!
Which tokens have JSON texts: those of which the numbers in the attributes are integers of 64 bits
and the kinds without a meaning are not called as one that has a meaning.
-/

namespace Manuscript

open Json Json.Form

namespace Json

/-- A character by itself, or by its number if it must not stand by itself. -/
def CharForm.ofChar (c : Char) : CharForm :=
  if allowed : 0x20 ≤ c.toNat ∧ c ≠ '"' ∧ c ≠ '\\' then .plain c allowed
  else .coded c fun _ => false

/-- A string with as few escapes as there can be. -/
def StringForm.ofString (s : String) : StringForm := s.toList.map CharForm.ofChar

/-- What is written for a string means the string. -/
theorem StringForm.means_ofString (s : String) : (StringForm.ofString s).Means s := by
  -- A character stands for itself, escaped or not.
  have char (c : Char) : (CharForm.ofChar c).char? = some c := by
    unfold CharForm.ofChar
    split <;> rfl
  simp only [Means, ofString, List.map_map]
  exact List.map_congr_left fun c _ => char c

/-- Names that are written as keys are names. -/
theorem StringForm.exists_means_of_mem_zip (names : List String) (values : List Form) :
    ∀ member ∈ (names.map StringForm.ofString).zip values, ∃ name, member.1.Means name := by
  intro member found
  obtain ⟨name, -, key⟩ := List.mem_map.mp (List.of_mem_zip found).1
  exact ⟨name, key ▸ StringForm.means_ofString name⟩

/-- An integer of 64 bits. -/
def Number.IsInteger : Number → Prop
  | .natural n => n < 0x10000000000000000
  | .negative size => 0 < size ∧ size ≤ 0x8000000000000000
  | .float _ _ => False

mutual

/-- The numbers of a value are integers of 64 bits, and its members are in order. -/
def Value.HasIntegers : Value → Prop
  | .null | .bool _ | .string _ => True
  | .number n => n.IsInteger
  | .array items => HaveIntegers items
  | .object members =>
    (members.Pairwise fun a b => a.1 < b.1) ∧ MembersHaveIntegers members

/-- So it is with some items. -/
def Value.HaveIntegers : List Value → Prop
  | [] => True
  | item :: rest => item.HasIntegers ∧ HaveIntegers rest

/-- So it is with some members. -/
def Value.MembersHaveIntegers : List (String × Value) → Prop
  | [] => True
  | (_, value) :: rest => value.HasIntegers ∧ MembersHaveIntegers rest

end

mutual

/-- A value of integers has a text. -/
theorem exists_spells (value : Value) (integers : value.HasIntegers) :
    ∃ form : Form, form.Spells value := by
  -- Each kind of value has a text of its own; a float has none here, since it is no integer.
  match value with
  | .null => exact ⟨.null, rfl⟩
  | .bool b => exact ⟨.bool b, rfl⟩
  | .string s => exact ⟨.string (.ofString s), s, rfl, StringForm.means_ofString s⟩
  | .number (.natural n) => exact ⟨.number { whole := n }, _, rfl, rfl, integers⟩
  | .number (.negative size) =>
    exact ⟨.number { isNegative := true, whole := size }, _, rfl, rfl, integers⟩
  | .number (.float _ _) => cases integers
  | .array items =>
    obtain ⟨forms, spells⟩ := exists_spellItems items integers
    exact ⟨.array forms, items, rfl, spells⟩
  -- The members are written in the order in which they are kept.
  | .object members =>
    obtain ⟨ordered, inside⟩ := integers
    obtain ⟨forms, spells⟩ := exists_spellMembers members inside
    exact ⟨.object forms, members, members, rfl, ordered, .refl _, spells⟩

/-- Items of integers have texts. -/
theorem exists_spellItems (items : List Value) (integers : Value.HaveIntegers items) :
    ∃ forms, SpellItems forms items := by
  match items with
  | [] => exact ⟨[], rfl⟩
  -- Each item has a text by itself.
  | item :: rest =>
    obtain ⟨form, here⟩ := exists_spells item integers.1
    obtain ⟨forms, behind⟩ := exists_spellItems rest integers.2
    exact ⟨form :: forms, item, rest, rfl, here, behind⟩

/-- Members of integers have texts. -/
theorem exists_spellMembers (members : List (String × Value))
    (integers : Value.MembersHaveIntegers members) : ∃ forms, SpellMembers forms members := by
  -- The members are written in the order in which they stand.
  match members with
  | [] => exact ⟨[], rfl⟩
  | (name, value) :: rest =>
    obtain ⟨form, here⟩ := exists_spells value integers.1
    obtain ⟨forms, behind⟩ := exists_spellMembers rest integers.2
    exact ⟨(.ofString name, form) :: forms, name, value, rest, rfl, StringForm.means_ofString name,
      here, behind⟩

end

end Json

namespace Token

mutual

/-- The kinds of a token have no name of another, and the numbers of its attributes are integers. -/
def IsWritable : Token → Prop
  | ⟨kind, _, none, attrs⟩ =>
    (∀ name, kind = .unknown name → name ∉ TokenKind.meaningfulNames) ∧
      Value.MembersHaveIntegers attrs.entries
  | ⟨kind, _, some children, attrs⟩ =>
    (∀ name, kind = .unknown name → name ∉ TokenKind.meaningfulNames) ∧
      Value.MembersHaveIntegers attrs.entries ∧ AreWritable children

/-- So it is with some tokens. -/
def AreWritable : List Token → Prop
  | [] => True
  | token :: rest => token.IsWritable ∧ AreWritable rest

end

/-- The object that gives all fields of a token. -/
def fieldMembers (kind : TokenKind) (raw? : Option String) (attrs children : Form) :
    List (StringForm × Form) :=
  [(.ofString "type", .string (.ofString kind.name)),
    (.ofString "raw", raw?.elim .null fun raw => .string (.ofString raw)),
    (.ofString "attrs", attrs), (.ofString "children", children)]

/-- The object that gives all fields of a token gives each of them. -/
theorem fieldsWritten_fieldMembers {kind : TokenKind} {raw? : Option String} {attrs : Attrs}
    (sound : ∀ name, kind = .unknown name → name ∉ TokenKind.meaningfulNames)
    {entries : List (StringForm × Form)} (spells : SpellMembers entries attrs.entries)
    (children : Form) :
    FieldsWritten kind raw? attrs (fieldMembers kind raw? (.object entries) children) := by
  have named : ∀ member ∈ fieldMembers kind raw? (.object entries) children,
      ∃ name, member.1.Means name :=
    StringForm.exists_means_of_mem_zip ["type", "raw", "attrs", "children"] [_, _, _, _]
  -- A kind is written by its own name, also the one that has two names.
  have written : kind.WrittenAs kind.name := by
    cases kind
    case unknown name => exact ⟨rfl, sound name rfl⟩
    case unorderedList => exact .inl rfl
    all_goals rfl
  have raw : RawWritten raw? (fieldMembers kind raw? (.object entries) children) := by
    cases raw? with
    -- A raw that is missing is written as null.
    | none => exact .inr rfl
    | some raw => exact ⟨_, rfl, StringForm.means_ofString raw⟩
  exact ⟨named, ⟨_, _, rfl, StringForm.means_ofString _, written⟩, raw,
    .inr ⟨entries, attrs.entries, rfl, .refl _, spells⟩⟩

mutual

/-- A writable token has a text. -/
theorem exists_writtenAs (token : Token) (writable : token.IsWritable) :
    ∃ form, token.WrittenAs form := by
  -- A token without children is written with a null in their place.
  match token with
  | ⟨kind, raw?, none, attrs⟩ =>
    obtain ⟨entries, spells⟩ := exists_spellMembers attrs.entries writable.2
    exact ⟨_, _, rfl, fieldsWritten_fieldMembers writable.1 spells .null, .inr rfl⟩
  | ⟨kind, raw?, some children, attrs⟩ =>
    obtain ⟨entries, spells⟩ := exists_spellMembers attrs.entries writable.2.1
    obtain ⟨items, inside⟩ := exists_areWrittenAs children writable.2.2
    exact ⟨_, _, rfl, fieldsWritten_fieldMembers writable.1 spells (.array items), items, rfl,
      inside⟩

/-- Writable tokens have texts. -/
theorem exists_areWrittenAs (tokens : List Token) (writable : AreWritable tokens) :
    ∃ forms, AreWrittenAs tokens forms := by
  match tokens with
  | [] => exact ⟨[], rfl⟩
  -- Each token has a text by itself.
  | token :: rest =>
    obtain ⟨form, here⟩ := exists_writtenAs token writable.1
    obtain ⟨forms, behind⟩ := exists_areWrittenAs rest writable.2
    exact ⟨form :: forms, form, forms, rfl, here, behind⟩

end

end Token

end Manuscript
