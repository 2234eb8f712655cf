import Manuscript.Proofs.Json.Skipping
import Manuscript.Proofs.Token.Texts
import Manuscript.Tokenizer

/-!
Every JSON text of a list of tokens is read as these tokens, however it is written, as long as
lists and objects are not nested too deeply in what is kept of it.
-/

namespace Manuscript

open Json Json.Form

/-- A string that means a text is taken for it. -/
theorem takes_readText {form : StringForm} {s : String} (means : form.Means s) :
    readText.TakesForm (.string form) s := by
  refine Reader.takesForm_behindBlanks fun gaps => ?_
  rw [Form.lexemes, spaced_tight_singleton]
  exact takes_readString means

/-- The name of a kind is taken for it. -/
theorem takes_readKind {form : StringForm} {name : String} {kind : TokenKind}
    (means : form.Means name) (written : kind.WrittenAs name) :
    readKind.TakesForm (.string form) kind := by
  rw [← TokenKind.ofName_of_writtenAs written]
  exact (takes_readText means).map TokenKind.ofName

section Nullable

variable {α : Type} {reader : Reader α}

/-- Null is taken for nothing. -/
theorem takes_readNullable_null : (readNullable reader).TakesForm .null none := by
  refine Reader.takesForm_behindBlanks fun gaps => ?_
  rw [Form.lexemes, spaced_tight_singleton]
  exact takes_readWordAs 'n' "ull" none

/-- Anything else is taken for what it is otherwise. -/
theorem takes_readNullable {form : Form} {value : α} (taken : reader.TakesForm form value)
    (notNull : form ≠ .null) : (readNullable reader).TakesForm form (some value) := by
  refine Reader.takesForm_behindBlanks fun gaps rest stops => ?_
  -- Nothing but null starts with its letter.
  obtain ⟨c, more, front, opens⟩ := form.spaced_tight gaps
  have read := (taken.map some) (tight gaps) rest stops
  rw [front, List.cons_append] at read ⊢
  simp only [if_neg fun same => notNull (opens.visible.2.2 same)]
  exact read

end Nullable

/-- A list is taken where a list is expected. -/
theorem takes_readListOf {α : Type} {list : Reader (List α)} {items : List Form} {values : List α}
    (taken : ∀ gaps, list.Takes (spaced (tight gaps) (Form.array items).lexemes) values) :
    (readListOf list).TakesForm (.array items) values :=
  Reader.takesForm_behindBlanks taken

/-- Attributes that are inserted one after another are those of the list. -/
theorem entries_foldl_insert (written : List (String × Value)) (attrs : Attrs) :
    (written.foldl (fun attrs entry => attrs.insert entry.1 entry.2) attrs).entries =
      insertAll written attrs.entries := by
  -- What was inserted so far is carried along.
  induction written generalizing attrs with
  | nil => rfl
  | cons entry written ih => exact ih (attrs.insert entry.1 entry.2)

/-- Attributes are the same when their entries are. -/
theorem attrs_eq_of_entries {a b : Attrs} (same : a.entries = b.entries) : a = b := by
  cases a
  cases b
  cases same
  rfl

/-- The members of attributes are read one after another. -/
theorem gathers_attrs (depth : Nat) (members : List (StringForm × Form))
    (written : List (String × Value)) (spells : SpellMembers members written)
    (bounded : memberNesting members ≤ depth) (start : Attrs) :
    Gathers (fun (attrs : Attrs) name =>
        .ok (Reader.map (fun value => attrs.insert name value) (readValue depth)))
      start members (written.foldl (fun attrs entry => attrs.insert entry.1 entry.2) start) := by
  -- Whatever is there already stays, but for a member that is given again.
  induction members generalizing written start with
  | nil =>
    cases spells
    exact .nil start
  | cons member members ih =>
    obtain ⟨name, value, others, rfl, means, here, behind⟩ := spells
    have ⟨first, rest⟩ := Nat.max_le.mp bounded
    exact .cons means rfl ((takes_value member.2 value depth here first).map _)
      (ih others behind rest _)

/-- Attributes are read from their members in any order. -/
theorem takes_readAttrs {depth : Nat} {attrs : Attrs} {entries : List (StringForm × Form)}
    {written : List (String × Value)} (spells : SpellMembers entries written)
    (same : written.Perm attrs.entries) (bounded : (Form.object entries).nesting ≤ depth) :
    (readAttrs depth).TakesForm (.object entries) attrs := by
  obtain ⟨inner, rfl⟩ := Nat.exists_eq_succ_of_ne_zero (Nat.ne_zero_of_lt bounded)
  have gathers := gathers_attrs inner entries written spells (Nat.le_of_succ_le_succ bounded) .empty
  -- In whatever order the attributes are inserted, they end up in the order of their names.
  have gathered : written.foldl (fun attrs entry => attrs.insert entry.1 entry.2) Attrs.empty =
      attrs := by
    have sorted := entries_foldl_insert written .empty
    rw [show Attrs.empty.entries = [] from rfl, insertAll_eq_sorted attrs.ordered same] at sorted
    exact attrs_eq_of_entries sorted
  rw [gathered] at gathers
  exact Reader.takesForm_behindBlanks (Reader.takes_readObject gathers)

/--
What the members that are left can do for a field: it was read already, it is not given at all, or
one of the members gives it.
-/
inductive Slot {α : Type} (reader : Reader α) : Option α → List Form → Option α → Prop
  | filled (value : α) : Slot reader (some value) [] (some value)
  | missing : Slot reader none [] none
  | given {form : Form} {value : α} (taken : reader.TakesForm form value) :
    Slot reader none [form] (some value)

/-- A field that the next member gives was not read and is read from it. -/
theorem Slot.take {α : Type} {reader : Reader α} {current final? : Option α} {form : Form}
    {forms : List Form} (slot : Slot reader current (form :: forms) final?) :
    current = none ∧ ∃ value, reader.TakesForm form value ∧ final? = some value ∧
      Slot reader (some value) forms final? := by
  -- A slot that still has a form to come is empty, for it is filled once.
  cases slot with
  | given taken => exact ⟨rfl, _, taken, rfl, .filled _⟩

/-- A field that no member is left for is what it was. -/
theorem Slot.done {α : Type} {reader : Reader α} {current final? : Option α}
    (slot : Slot reader current [] final?) : current = final? := by
  cases slot <;> rfl

/-- A key means one string. -/
theorem means_iff_eq {key : StringForm} {name : String} (means : key.Means name)
    (other : String) : key.Means other ↔ name = other := by
  refine ⟨fun also => ?_, fun same => same ▸ means⟩
  have chars : name.toList.map some = other.toList.map some := means.symm.trans also
  exact String.toList_inj.mp (List.map_injective_iff.mpr (fun _ _ => Option.some.inj) chars)

/-- A member is among the members of its name and of no other. -/
theorem valuesOf_cons {key : StringForm} {name : String} (means : key.Means name) (form : Form)
    (members : List (StringForm × Form)) (other : String) :
    valuesOf other ((key, form) :: members) =
      if name = other then form :: valuesOf other members else valuesOf other members := by
  simp only [valuesOf, List.filterMap_cons, means_iff_eq means]
  -- A key means one name only.
  by_cases same : name = other <;> simp only [same, if_true, if_false]

/-- A known field is read from the member that gives it. -/
theorem gathers_field {children : Reader (List Token)} {attrs : Reader Attrs} {α : Type}
    {reader : Reader α} (put : Option α → TokenFields) {key : StringForm} {name : String}
    (means : key.Means name)
    (field : tokenField children attrs (put none) name =
      .ok (Reader.map (fun value => put (some value)) reader))
    {current? final? : Option α} {form : Form} {forms : List Form}
    (slot : Slot reader current? (form :: forms) final?)
    {members : List (StringForm × Form)} {final : TokenFields}
    (behind : ∀ value, Slot reader (some value) forms final? →
      Gathers (tokenField children attrs) (put (some value)) members final) :
    Gathers (tokenField children attrs) (put current?) ((key, form) :: members) final := by
  -- The form is the first of its name, and it fills the slot.
  obtain ⟨rfl, value, taken, _, rest⟩ := slot.take
  exact .cons means field (taken.map fun value => put (some value)) (behind value rest)

/-- The members of an object give the fields of a token. -/
theorem gathers_fields {children : Reader (List Token)} {attrs : Reader Attrs}
    {members : List (StringForm × Form)} (named : ∀ member ∈ members, ∃ name, member.1.Means name)
    {current final : TokenFields}
    (kind : Slot readKind current.kind? (valuesOf "type" members) final.kind?)
    (raw : Slot (readNullable readText) current.raw? (valuesOf "raw" members) final.raw?)
    (parts : Slot (readNullable children) current.children? (valuesOf "children" members)
      final.children?)
    (others : Slot attrs current.attrs? (valuesOf "attrs" members) final.attrs?) :
    Gathers (tokenField children attrs) current members final := by
  induction members generalizing current with
  | nil =>
    -- With no members left, each slot is as it has to be in the end.
    have same : current = final := by
      cases current
      cases final
      cases kind.done
      cases raw.done
      cases parts.done
      cases others.done
      rfl
    exact same ▸ .nil current
  | cons member members ih =>
    obtain ⟨key, form⟩ := member
    have ⟨⟨name, means⟩, rest⟩ := List.forall_mem_cons.mp named
    rw [valuesOf_cons means] at kind raw parts others
    -- The member belongs to the slot of its name, and the other slots stay as they are.
    by_cases isKind : name = "type"
    · subst isKind
      simp only [if_true, show "type" ≠ "raw" by decide, show "type" ≠ "children" by decide,
        show "type" ≠ "attrs" by decide, if_false] at kind raw parts others
      exact gathers_field (fun kind? => { current with kind? }) means rfl kind
        fun _ slot => ih rest slot raw parts others
    by_cases isRaw : name = "raw"
    · subst isRaw
      simp only [if_true, isKind, show "raw" ≠ "children" by decide,
        show "raw" ≠ "attrs" by decide, if_false] at kind raw parts others
      exact gathers_field (fun raw? => { current with raw? }) means rfl raw
        fun _ slot => ih rest kind slot parts others
    by_cases isChildren : name = "children"
    · subst isChildren
      simp only [if_true, isKind, isRaw, show "children" ≠ "attrs" by decide,
        if_false] at kind raw parts others
      exact gathers_field (fun children? => { current with children? }) means rfl parts
        fun _ slot => ih rest kind raw slot others
    by_cases isAttrs : name = "attrs"
    · subst isAttrs
      simp only [if_true, isKind, isRaw, isChildren, if_false] at kind raw parts others
      exact gathers_field (fun attrs? => { current with attrs? }) means rfl others
        fun _ slot => ih rest kind raw parts slot
    · simp only [isKind, isRaw, isChildren, isAttrs, if_false] at kind raw parts others
      -- A field of another name is read over, whatever its form is.
      refine .cons means ?_ ((takes_skip form).map fun _ => current)
        (ih rest kind raw parts others)
      simp only [tokenField, isKind, isRaw, isChildren, isAttrs, if_false]

/-- A value of a name stands in a member of that name. -/
theorem exists_mem_of_valuesOf {members : List (StringForm × Form)} {name : String} {value : Form}
    (found : value ∈ valuesOf name members) : ∃ key, key.Means name ∧ (key, value) ∈ members := by
  obtain ⟨⟨key, form⟩, member, given⟩ := List.mem_filterMap.mp found
  -- Only the members of the name are kept.
  by_cases means : key.Means name
  · simp only [means, if_true, Option.some.injEq] at given
    exact ⟨key, means, given ▸ member⟩
  · simp only [means, if_false] at given
    cases given

/-- Each member of a token counts with what is kept of it. -/
theorem le_keptMemberNesting {members : List (StringForm × Form)} {key : StringForm} {value : Form}
    (found : (key, value) ∈ members) :
    (if key.Means "children" then value.keptNesting
      else if key.Means "attrs" then value.nesting
      else 0) ≤ keptMemberNesting members := by
  -- What is counted is the greatest among the members.
  induction members with
  | nil => cases found
  | cons member members ih =>
    rcases List.mem_cons.mp found with rfl | later
    · exact Nat.le_max_left ..
    · exact Nat.le_trans (ih later) (Nat.le_max_right ..)

/-- Children are nested in their token. -/
theorem keptNesting_le_of_children {members : List (StringForm × Form)} {value : Form}
    (found : value ∈ valuesOf "children" members) :
    value.keptNesting ≤ keptMemberNesting members := by
  obtain ⟨key, means, member⟩ := exists_mem_of_valuesOf found
  -- The nesting of the members is the largest of theirs.
  have counted := le_keptMemberNesting member
  rwa [if_pos means] at counted

/-- Attributes are nested in their token. -/
theorem nesting_le_of_attrs {members : List (StringForm × Form)} {value : Form}
    (found : value ∈ valuesOf "attrs" members) : value.nesting ≤ keptMemberNesting members := by
  obtain ⟨key, means, member⟩ := exists_mem_of_valuesOf found
  have counted := le_keptMemberNesting member
  -- A key means one name only, so that this one does not hold children.
  have other : ¬key.Means "children" := by
    rw [means_iff_eq means]
    decide
  rwa [if_neg other, if_pos means] at counted

/-- A token is read from the fields of its object. -/
theorem readTokenObject_eq {children : Reader (List Token)} {attrs : Reader Attrs}
    {text rest : List Char} {fields : TokenFields} {token : Token}
    {shorter : rest.length < text.length}
    (read : readObject (tokenField children attrs) {} text = .ok ⟨fields, rest, shorter⟩)
    (given : fields.token? = some token) :
    readTokenObject children attrs text = .ok ⟨token, rest, shorter⟩ := by
  simp only [readTokenObject, read, given]

namespace Token

/-- The field of literal text is read as the text. -/
theorem exists_slot_raw {raw? : Option String} {members : List (StringForm × Form)}
    (written : RawWritten raw? members) :
    ∃ final?, Slot (readNullable readText) none (valuesOf "raw" members) final? ∧
      final?.join = raw? := by
  -- Without a text the field is left out or holds a null, and both are read alike.
  cases raw? with
  | none =>
    rcases written with absent | null
    · rw [absent]
      exact ⟨none, .missing, rfl⟩
    · rw [null]
      exact ⟨some none, .given takes_readNullable_null, rfl⟩
  | some raw =>
    obtain ⟨form, given, means⟩ := written
    rw [given]
    exact ⟨some (some raw), .given (takes_readNullable (takes_readText means) nofun), rfl⟩

/-- The field of attributes is read as the attributes. -/
theorem exists_slot_attrs {attrs : Attrs} {members : List (StringForm × Form)}
    (written : AttrsWritten attrs members) {depth : Nat}
    (bounded : keptMemberNesting members ≤ depth) :
    ∃ final?, Slot (readAttrs depth) none (valuesOf "attrs" members) final? ∧
      final?.getD .empty = attrs := by
  -- No attributes are written by leaving the field out or by an object without members.
  rcases written with ⟨none, absent⟩ | ⟨entries, written, given, same, spells⟩
  · rw [absent]
    exact ⟨.none, .missing, none.symm⟩
  · have inside : (Form.object entries).nesting ≤ depth :=
      Nat.le_trans (nesting_le_of_attrs (given ▸ List.mem_singleton_self _)) bounded
    rw [given]
    exact ⟨some attrs, .given (takes_readAttrs spells same inside), rfl⟩

/-- A token is read from an object that gives its fields. -/
theorem takes_tokenObject {kind : TokenKind} {raw? : Option String}
    {children? : Option (List Token)} {attrs : Attrs} {members : List (StringForm × Form)}
    (written : FieldsWritten kind raw? attrs members) {depth : Nat}
    (bounded : keptMemberNesting members ≤ depth) {final? : Option (Option (List Token))}
    (parts : Slot (readNullable (readTokens depth)) none (valuesOf "children" members) final?)
    (joined : final?.join = children?) (list : Reader Token) :
    (readTokenWith list (readTokenObject (readTokens depth) (readAttrs depth))).TakesForm
      (.object members) ⟨kind, raw?, children?, attrs⟩ := by
  obtain ⟨named, ⟨form, name, typed, means, kindWritten⟩, rawWritten, attrsWritten⟩ := written
  obtain ⟨finalRaw?, raw, rawJoined⟩ := exists_slot_raw rawWritten
  obtain ⟨finalAttrs?, others, attrsJoined⟩ := exists_slot_attrs attrsWritten bounded
  have slot : Slot readKind none (valuesOf "type" members) (some kind) := by
    -- A type is written once, and its slot is empty up to there.
    rw [typed]
    exact .given (takes_readKind means kindWritten)
  -- The members fill the four slots, and the token is made of what is in them.
  have gathers : Gathers (tokenField (readTokens depth) (readAttrs depth)) {} members
      ⟨some kind, finalRaw?, final?, finalAttrs?⟩ := gathers_fields named slot raw parts others
  have token : TokenFields.token? ⟨some kind, finalRaw?, final?, finalAttrs?⟩ =
      some ⟨kind, raw?, children?, attrs⟩ := by
    rw [TokenFields.token?, rawJoined, joined, attrsJoined]
    rfl
  -- Blanks may stand between all that is written.
  refine Reader.takesForm_behindBlanks fun gaps rest stops => ?_
  obtain ⟨shorter, read⟩ := Reader.takes_readObject gathers gaps rest stops
  exact ⟨shorter, readTokenObject_eq read token⟩

/-- A text of a token is nested in itself. -/
theorem WrittenAs.keptNesting_pos {token : Token} {form : Form} (written : token.WrittenAs form) :
    0 < form.keptNesting := by
  obtain ⟨kind, raw?, _ | children, attrs⟩ := token <;>
    obtain ⟨members, rfl, _⟩ := written <;>
    exact Nat.succ_pos _

/-- A list of tokens is read when each of them is. -/
theorem takes_tokens_of_each {tokens : List Token} {forms : List Form} {depth : Nat}
    (written : AreWrittenAs tokens forms) (bounded : (Form.array forms).keptNesting ≤ depth)
    (each : ∀ inner list, keptItemNesting forms ≤ inner + 1 →
      List.Forall₂
        (readTokenWith list (readTokenObject (readTokens inner) (readAttrs inner))).TakesForm
          forms tokens) :
    (readTokens depth).TakesForm (.array forms) tokens := by
  have inner : keptItemNesting forms + 1 ≤ depth := bounded
  match depth with
  | 0 => omega
  | 1 =>
    -- There is no room for a token in the list.
    cases tokens with
    | nil =>
      cases written
      exact takes_readListOf (Reader.takes_readList .nil)
    | cons token tokens =>
      obtain ⟨form, others, rfl, here, _⟩ := written
      have counted : form.keptNesting ≤ 0 :=
        Nat.le_trans (Nat.le_max_left ..) (Nat.le_of_succ_le_succ inner)
      exact absurd counted (Nat.not_le.mpr here.keptNesting_pos)
  | depth + 2 =>
    -- The list takes one level and each object in it another one.
    exact takes_readListOf (Reader.takes_readList (each depth _ (Nat.le_of_succ_le_succ inner)))

mutual

/-- A token is read from each of its texts. -/
theorem takes_token (token : Token) (form : Form) (depth : Nat) (written : token.WrittenAs form)
    (bounded : form.keptNesting ≤ depth + 1) (list : Reader Token) :
    (readTokenWith list (readTokenObject (readTokens depth) (readAttrs depth))).TakesForm
      form token := by
  match token with
  | ⟨kind, raw?, none, attrs⟩ =>
    obtain ⟨members, rfl, fields, absent | null⟩ := written
    · -- A token without children has no such field, or one that is null.
      have slot : Slot (readNullable (readTokens depth)) none (valuesOf "children" members)
          none := by
        rw [absent]
        exact .missing
      exact takes_tokenObject fields (Nat.le_of_succ_le_succ bounded) slot rfl list
    · have slot : Slot (readNullable (readTokens depth)) none (valuesOf "children" members)
          (some none) := by
        rw [null]
        exact .given takes_readNullable_null
      exact takes_tokenObject fields (Nat.le_of_succ_le_succ bounded) slot rfl list
  | ⟨kind, raw?, some children, attrs⟩ =>
    obtain ⟨members, rfl, fields, items, given, inside⟩ := written
    have inner := Nat.le_of_succ_le_succ bounded
    -- The list of the children is one level further down, and they are one below it.
    have nested : (Form.array items).keptNesting ≤ depth :=
      Nat.le_trans (keptNesting_le_of_children (given ▸ List.mem_singleton_self _)) inner
    have taken := takes_tokens_of_each inside nested fun inner list bounded =>
      takes_each children items inner inside bounded list
    have slot : Slot (readNullable (readTokens depth)) none (valuesOf "children" members)
        (some (some children)) := by
      rw [given]
      exact .given (takes_readNullable taken nofun)
    exact takes_tokenObject fields inner slot rfl list

/-- Each token of a list is read from each of its texts. -/
theorem takes_each (tokens : List Token) (forms : List Form) (depth : Nat)
    (written : AreWrittenAs tokens forms) (bounded : keptItemNesting forms ≤ depth + 1)
    (list : Reader Token) :
    List.Forall₂ (readTokenWith list
      (readTokenObject (readTokens depth) (readAttrs depth))).TakesForm forms tokens := by
  -- The tokens and their texts go in pairs, each no deeper than the list.
  match tokens with
  | [] =>
    cases written
    exact .nil
  | token :: tokens =>
    obtain ⟨form, others, rfl, here, behind⟩ := written
    have ⟨first, rest⟩ := Nat.max_le.mp bounded
    exact .cons (takes_token token form depth here first list)
      (takes_each tokens others depth behind rest list)

end

/-- A list of tokens is read from each of its texts. -/
theorem takes_tokens {tokens : List Token} {forms : List Form} {depth : Nat}
    (written : AreWrittenAs tokens forms) (bounded : (Form.array forms).keptNesting ≤ depth) :
    (readTokens depth).TakesForm (.array forms) tokens :=
  takes_tokens_of_each written bounded fun inner list fits =>
    takes_each tokens forms inner written fits list

end Token

/-- A whole text is read when it is a form that the reader takes, with blanks around it. -/
theorem readWhole_of_takes {α : Type} {reader : Reader α} {form : Form} {value : α}
    (taken : reader.TakesForm form value) (gaps : Nat → List Blank) (last : List Blank) :
    readWhole reader (spaced gaps form.lexemes ++ gapText last) = .ok value := by
  -- Blanks are all that is left behind the form, and they are passed over.
  have stops : Stops (gapText last) := by
    have ended : Stops [] := nofun
    have behind := ended.gap last
    rwa [List.append_nil] at behind
  have blank : skipBlanks (gapText last) = [] := by
    have skipped := skipBlanks_gapText last []
    rwa [List.append_nil] at skipped
  obtain ⟨_, read⟩ := taken gaps (gapText last) stops
  simp only [readWhole, read, blank]

/--
Whatever JSON text tokens are written as, they are read from it. In which order the fields of a
token stand, what is left out, which other members there are and where the blanks stand makes no
difference, as long as lists and objects are not nested too deeply in what is kept.
-/
theorem tokenize_json_of_areWrittenAs {tokens : List Token} {forms : List Form}
    (written : Token.AreWrittenAs tokens forms)
    (bounded : (Form.array forms).keptNesting ≤ nestingLimit) (gaps : Nat → List Blank)
    (last : List Blank) :
    Tokenizer.json.tokenize
      (String.ofList (spaced gaps (Form.array forms).lexemes ++ gapText last)) = .ok tokens := by
  -- The reader takes the whole text, up to the blanks at its end.
  have whole := readWhole_of_takes (Token.takes_tokens written bounded) gaps last
  change tokensOfJson _ = _
  simp only [tokensOfJson, String.toList_ofList, whole]

/-- A heading with escapes and with a member that is no field, a list and a footnote. -/
def sampleForms : List Form :=
  [.object
    [(.ofString "children", .array
        [.object
          [(.ofString "raw", .string [.coded 'é' fun _ => true, .coded '😀' fun _ => false,
              .short .lineFeed]),
            (.ofString "type", .string (.ofString "text"))]]),
      (.ofString "attrs", .object
        [(.ofString "level", .number { whole := 2 }),
          (.ofString "id", .number { isNegative := true, whole := 3 })]),
      (.ofString "type", .string (.ofString "heading")),
      (.ofString "raw", .null),
      (.ofString "meta", .array
        [.number
          { whole := 0, fraction? := some ⟨5, [0]⟩, exponent? := some ⟨true, some true, ⟨3, []⟩⟩ },
          .object [([.half 0xdc00 (by decide) fun _ => false], .bool true)]])],
    .object [(.ofString "type", .string (.ofString "disordered_list")),
      (.ofString "children", .array []), (.ofString "attrs", .object [])],
    .object [(.ofString "type", .string (.ofString "footnote"))]]

/-- The tokens that are written so. -/
def sampleTokens : List Token :=
  [⟨.heading, none, some [.ofText "é😀\n"],
      ⟨[("id", .number (.negative 3)), ("level", .number (.natural 2))], by decide⟩⟩,
    .parent .unorderedList [], .bare (.unknown "footnote")]

/-- The sample is written so. -/
theorem areWrittenAs_sample : Token.AreWrittenAs sampleTokens sampleForms := by
  -- The keys and what they mean are written in the same order.
  have named := StringForm.exists_means_of_mem_zip
  -- A text is written as itself, though its characters may be escaped in any way.
  have text : Token.WrittenAs (.ofText "é😀\n") (.object
      [(.ofString "raw", .string [.coded 'é' fun _ => true, .coded '😀' fun _ => false,
          .short .lineFeed]),
        (.ofString "type", .string (.ofString "text"))]) :=
    ⟨_, rfl, ⟨named ["raw", "type"] [_, _], ⟨_, "text", rfl, StringForm.means_ofString _, rfl⟩,
      ⟨_, rfl, rfl⟩, .inl ⟨rfl, rfl⟩⟩, .inl rfl⟩
  have entries : SpellMembers
      [(.ofString "level", .number { whole := 2 }),
        (.ofString "id", .number { isNegative := true, whole := 3 })]
      [("level", .number (.natural 2)), ("id", .number (.negative 3))] :=
    ⟨"level", _, _, rfl, StringForm.means_ofString _, ⟨_, rfl, rfl, by decide⟩,
      "id", _, _, rfl, StringForm.means_ofString _, ⟨_, rfl, rfl, by decide⟩, rfl⟩
  refine ⟨_, _, rfl, ⟨_, rfl, ⟨named ["children", "attrs", "type", "raw", "meta"] [_, _, _, _, _],
      ⟨_, "heading", rfl, StringForm.means_ofString _, rfl⟩, .inr rfl,
      .inr ⟨_, _, rfl, .swap .., entries⟩⟩, _, rfl, _, _, rfl, text, rfl⟩, _, _, rfl, ?_, _, _, rfl,
    ?_, rfl⟩
  · exact ⟨_, rfl, ⟨named ["type", "children", "attrs"] [_, _, _],
      ⟨_, "disordered_list", rfl, StringForm.means_ofString _, .inr rfl⟩, .inl rfl,
      .inr ⟨_, [], rfl, .refl _, rfl⟩⟩, _, rfl, rfl⟩
  · exact ⟨_, rfl, ⟨named ["type"] [_],
      ⟨_, "footnote", rfl, StringForm.means_ofString _, rfl, by decide⟩, .inl rfl,
      .inl ⟨rfl, rfl⟩⟩, .inl rfl⟩

/-- A text of the sample, with blanks in front of every ninth lexeme. -/
def sampleText : String :=
  "\n [\x7b\"children\":[\x7b\"raw\":\"\\u00E9\\ud83d\\ude00\\n\"\n ,\"type\":\"text\"\x7d]," ++
    "\"attrs\":\n \x7b\"level\":2,\"id\":-3\x7d\n ,\"type\":\"heading\",\"raw\":null,\n " ++
    "\"meta\":[0.50E-3,\x7b\"\\udc00\":true\n \x7d]\x7d,\x7b\"type\":\"disordered_list\",\n " ++
    "\"children\":[],\"attrs\":\x7b\x7d\n \x7d,\x7b\"type\":\"footnote\"\x7d]\n"

/-- The sample is written so, without being nested too deeply, and is read from its text. -/
theorem tokenize_json_sampleText :
    Token.AreWrittenAs sampleTokens sampleForms ∧
      (Form.array sampleForms).keptNesting ≤ nestingLimit ∧
      Tokenizer.json.tokenize sampleText = .ok sampleTokens := by
  have bounded : (Form.array sampleForms).keptNesting ≤ nestingLimit := by decide +kernel
  refine ⟨areWrittenAs_sample, bounded, ?_⟩
  -- The sample is put together here with blanks in front of some lexemes only.
  have text : sampleText = String.ofList
      (spaced (fun i => if i % 9 = 0 then [.lineFeed, .space] else [])
        (Form.array sampleForms).lexemes ++ gapText [.lineFeed]) := by decide +kernel
  rw [text]
  exact tokenize_json_of_areWrittenAs areWrittenAs_sample bounded _ _

end Manuscript
