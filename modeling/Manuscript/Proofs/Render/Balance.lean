import Manuscript.Proofs.Latex.Braces
import Manuscript.Proofs.Render.Assembly
import Manuscript.Proofs.Render.Descent
import Manuscript.Proofs.Template.Builtin
import Manuscript.Proofs.Template.Substitution

/-!
What is rendered with the templates that need no configuration is balanced: text is escaped where it
is written, and every template closes the groups that it opens.
-/

namespace Manuscript

/--
Where a reader of braces stands behind a part of a template that is filled with settled values, or
with any value where it has a title.
-/
def Segment.read (place : Grouping) : Segment → Grouping
  | .literal text => place.lineRead text
  -- A title is written as it stands in the source.
  | .slot .title => .broken
  | .slot _ =>
    match place with
    | .inside groups => .inside groups
    -- What a backslash takes here depends on the value.
    | _ => .broken

/-- A template leaves the groups as it found them when it is filled with settled values. -/
def Template.Closes (template : Template) : Prop :=
  template.segments.foldl Segment.read (.inside 0) = .inside 0

instance (template : Template) : Decidable template.Closes := inferInstanceAs (Decidable (_ = _))

/-- Behind an error nothing is read of a template. -/
theorem foldl_read_broken (segments : List Segment) :
    segments.foldl Segment.read .broken = .broken := by
  -- No segment mends what went wrong before it.
  induction segments with
  | nil => rfl
  | cons segment rest ih =>
    cases segment with
    | literal text =>
      rw [List.foldl_cons, Segment.read, Grouping.lineRead_broken]
      exact ih
    | slot placeholder => cases placeholder <;> exact ih

/-- A template that is filled with settled values is read like its parts. -/
theorem lineRead_filledText {values : Values}
    (settled : ∀ placeholder ≠ .title, Settled (Template.valueOf values placeholder).toList)
    {segments : List Segment} {place : Grouping}
    (whole : segments.foldl Segment.read place ≠ .broken) :
    place.lineRead (filledText values segments) = segments.foldl Segment.read place := by
  induction segments generalizing place with
  | nil => rfl
  | cons segment rest ih =>
    rw [List.foldl_cons] at whole ⊢
    rw [← ih whole, filledText, List.flatMap_cons, Grouping.lineRead_append, ← filledText]
    congr 1
    have unbroken : Segment.read place segment ≠ .broken := by
      intro broken
      rw [broken] at whole
      exact whole (foldl_read_broken rest)
    cases segment with
    | literal text => rw [Template.fillSegment, String.toList_ofList, Segment.read]
    | slot placeholder =>
      -- The value is no title and stands between two characters, as all else is an error.
      have value : placeholder ≠ .title := fun title => unbroken (by rw [title, Segment.read])
      cases place with
      | inside groups =>
        -- A slot leaves the groups as they are, and so does its value.
        have read : Segment.read (.inside groups) (.slot placeholder) = .inside groups := by
          cases placeholder <;> first | rfl | exact absurd rfl value
        rw [read]
        exact (settled placeholder value).lineRead groups
      | escaping groups => exact absurd (by cases placeholder <;> rfl) unbroken
      | broken => exact absurd (by cases placeholder <;> rfl) unbroken

/-- A value that is looked up is one of those given, or empty. -/
theorem settled_valueOf {values : Values}
    (settled : ∀ entry ∈ values, entry.1 ≠ .title → Settled entry.2.toList)
    {placeholder : Placeholder} (value : placeholder ≠ .title) :
    Settled (Template.valueOf values placeholder).toList := by
  unfold Template.valueOf
  cases found : values.lookup placeholder with
  -- A slot without a value is filled with nothing.
  | none => exact settled_nil
  | some text =>
    obtain ⟨before, after, split, -⟩ := List.lookup_eq_some_iff.mp found
    exact settled (placeholder, text) (by simp [split]) value

/-- A template that closes its groups is written settled from settled values. -/
theorem Template.Closes.settled_render {template : Template} (closes : template.Closes)
    {values : Values} (settled : ∀ entry ∈ values, entry.1 ≠ .title → Settled entry.2.toList) :
    Settled (template.render values).toList := by
  -- A broken reading stays broken, so a template that closes its groups was never broken.
  have whole : template.segments.foldl Segment.read (.inside 0) ≠ .broken := by
    rw [closes]
    exact nofun
  rw [toList_render]
  exact (lineRead_filledText (fun _ value => settled_valueOf settled value) whole).trans closes

/-- All templates that need no configuration close their groups; a heading names its command. -/
theorem closes_builtin {construct : Construct} (other : construct ≠ .heading) :
    (Template.builtin construct).Closes := by
  -- The texts are taken as lists of characters first, as reading them off a string is slow.
  cases construct
  case heading => exact absurd rfl other
  case image =>
    rw [Template.builtin_eq_spelled .image (append_eq_ofList (append_eq_ofList rfl rfl) rfl)]
    decide +kernel
  case table =>
    rw [Template.builtin_eq_spelled .table (append_eq_ofList
      (append_eq_ofList (append_eq_ofList (append_eq_ofList rfl rfl) rfl) rfl) rfl)]
    decide +kernel
  all_goals
    rw [Template.builtin_eq_spelled _ rfl]
    decide +kernel

section Pieces

/-- Settled texts with settled separators are settled. -/
theorem settled_intercalate {separator : String} (between : Settled separator.toList)
    {texts : List String} (settled : ∀ text ∈ texts, Settled text.toList) :
    Settled (separator.intercalate texts).toList := by
  -- The texts are taken by their first two, since a separator stands only between them.
  induction texts with
  | nil => exact settled_nil
  | cons text rest ih =>
    have first := settled text (by simp)
    have others := ih fun other member => settled other (by simp [member])
    cases rest with
    | nil => simpa using first
    | cons second rest =>
      rw [String.intercalate_cons_cons, String.toList_append, String.toList_append]
      exact (first.append between).append others

/-- A text in a group of its own is settled. -/
theorem Settled.group {text : List Char} (settled : Settled text) :
    Settled ('\x7b' :: (text ++ ['\x7d'])) := by
  rw [Settled, Grouping.lineRead_cons, Grouping.lineRead_append]
  -- The text is read inside of the one group that was opened.
  have inside := settled.lineRead 1
  show (Grouping.lineRead (.inside 1) text).lineRead ['\x7d'] = .inside 0
  rw [inside]
  rfl

/-- The sectioning commands of an article take nothing with them. -/
theorem settled_standard_command (level : Nat) :
    Settled ('\\' :: (HeadingCommands.standard.command level).toList) := by
  have each : ∀ place : Fin sectioningLevels,
      Settled ('\\' :: (HeadingCommands.standard.commands[place]).toList) := by decide
  exact each (HeadingCommands.index level)

/-- A numeral means nothing for groups. -/
theorem settled_toString (number : Nat) : Settled (toString number).toList := by
  refine settled_of_plain fun c digit => ?_
  have isDigit : c.isDigit := by
    have inDigits : c ∈ Nat.toDigits 10 number := by simpa using digit
    exact Nat.isDigit_of_mem_toDigits (by omega) (by omega) inDigits
  -- No digit is a backslash or a brace.
  refine ⟨?_, ?_, ?_⟩ <;> rintro rfl <;> exact absurd isDigit (by decide)

/-- The label of a figure means nothing for groups, whatever its caption is. -/
theorem settled_figureLabel (caption : String) : Settled (figureLabel caption).toList := by
  -- Whatever is not allowed in a label becomes a hyphen there, braces among it.
  refine settled_of_plain fun c member => ?_
  rw [figureLabel, String.toList_ofList] at member
  obtain ⟨source, -, rfl⟩ := List.mem_map.mp member
  split
  case isTrue allowed =>
    refine ⟨?_, ?_, ?_⟩ <;> rintro rfl <;> exact absurd allowed (by decide)
  case isFalse => decide

/-- Lower case keeps a plain character plain. -/
theorem IsPlain.toLower {c : Char} (plain : IsPlain c) : IsPlain c.toLower := by
  unfold Char.toLower
  split
  case isTrue capital =>
    -- The letters in lower case lie between the backslash and the braces.
    obtain ⟨first, last⟩ := capital
    have above : 65 ≤ c.val.toNat := UInt32.le_iff_toNat_le.mp first
    have below : c.val.toNat ≤ 90 := UInt32.le_iff_toNat_le.mp last
    -- The letter in lower case is 32 further on.
    have code : (c.val + ('a'.val - 'A'.val)).toNat = c.val.toNat + 32 := by
      rw [UInt32.toNat_add]
      exact Nat.mod_eq_of_lt (show c.val.toNat + 32 < 4294967296 by omega)
    refine ⟨?_, ?_, ?_⟩ <;> intro same <;>
      have codes := congrArg (fun c : Char => c.val.toNat) same <;>
      simp only [code] at codes
    · have : c.val.toNat + 32 = 92 := codes
      omega
    · have : c.val.toNat + 32 = 123 := codes
      omega
    · have : c.val.toNat + 32 = 125 := codes
      omega
  case isFalse => exact plain

/-- What is left of the idle end of a path stood in it. -/
theorem dropIdle_subset (text : List Char) : Path.dropIdle text ⊆ text := by
  fun_induction Path.dropIdle text with
  | case1 rest ih => exact fun c member => List.mem_cons_of_mem _ (ih member)
  | case2 rest ih => exact fun c member => by simp [ih member]
  | case3 text => exact fun c member => member

/-- The characters of an extension stand in its path. -/
theorem mem_of_mem_extension {path : Path} {extension : List Char}
    (found : path.extension? = some extension) : extension ⊆ path.chars := by
  obtain ⟨name, named, split⟩ := Option.bind_eq_some_iff.mp found
  -- The extension is cut from the name, and the name from the end of the path.
  have inName : extension ⊆ name := by
    intro c member
    simp only [Path.splitName] at split
    split at split
    · cases split
    · cases split
    · obtain rfl := Option.some.inj split
      rw [List.mem_reverse] at member
      exact List.mem_reverse.mp ((List.takeWhile_sublist _).subset member)
  have inPath : name ⊆ path.chars := by
    intro c member
    simp only [Path.fileName?] at named
    split at named
    · cases named
    · obtain rfl := Option.some.inj named
      rw [Path.lastCut, List.mem_reverse] at member
      exact List.mem_reverse.mp (dropIdle_subset _ ((List.takeWhile_sublist _).subset member))
  exact fun c member => inPath (inName member)

/-- The characters that are left after trimming were there before. -/
theorem trim_subset (text : String) : (Unicode.trim text).toList ⊆ text.toList := by
  intro c member
  rw [Unicode.trim, String.toList_ofList, Unicode.trimChars, List.mem_reverse] at member
  -- Trimming drops from both ends: the front first, then the end of what was turned around.
  have front := (List.dropWhile_sublist _).subset member
  exact (List.dropWhile_sublist _).subset (List.mem_reverse.mp front)

/-- A format that is not known goes by its extension. -/
theorem unknown_of_ofPath {path : Path} {extension : List Char}
    (format : ImageFormat.ofPath path = .unknown extension) : extension = lowerExtension path := by
  simp only [ImageFormat.ofPath] at format
  repeat' split at format
  -- All known extensions lead to another format.
  all_goals cases format
  rfl

/-- What is said of a format means nothing for groups when an unknown extension means nothing. -/
theorem settled_note {format : ImageFormat} {note : String} (said : format.note? = some note)
    (settled : ∀ extension, format = .unknown extension → Settled extension) :
    Settled note.toList := by
  -- Only the note on an unknown extension holds something that was not written beforehand.
  unfold ImageFormat.note? at said
  split at said
  · cases said
  case h_2 raster =>
    obtain rfl := Option.some.inj said
    cases raster <;> decide
  · obtain rfl := Option.some.inj said
    decide
  case h_4 extension _ =>
    obtain rfl := Option.some.inj said
    -- What is written around the extension is settled.
    have front : Settled "unknown image format .".toList := by decide
    have back : Settled ", use PNG or JPEG".toList := by decide
    simpa using (front.append (settled extension rfl)).append back

/-- The note on the format of an image means nothing for groups when its path means nothing. -/
theorem settled_formatNote {url : String} (plain : ∀ c ∈ url.toList, IsPlain c) :
    Settled (Renderer.formatNote url).toList := by
  -- An extension is made of characters of the path, in lower case.
  have extension : Settled (lowerExtension (.ofString url)) := by
    refine settled_of_plain fun c member => ?_
    obtain ⟨source, inside, rfl⟩ := List.mem_map.mp member
    cases found : (Path.ofString url).extension? with
    | none =>
      rw [found] at inside
      exact absurd inside List.not_mem_nil
    | some extension =>
      rw [found] at inside
      exact (plain source (mem_of_mem_extension found inside)).toLower
  unfold Renderer.formatNote
  split
  case h_1 note said =>
    -- The note stands on a line of its own, between a percent sign and a line feed.
    have whole : Settled note.toList := settled_note said fun other format => by
      rwa [unknown_of_ofPath format]
    have front : Settled "% Image format note: ".toList := by decide
    have back : Settled "\n".toList := by decide
    simpa using (front.append whole).append back
  case h_2 => exact settled_nil

/-- The languages that stand for tags mean nothing for groups. -/
theorem settled_languageFor (tag : String) :
    ∀ language ∈ languageFor? tag, Settled language.toList := by
  -- Each language is chosen by a test of its own, and the tests behind it are the rest.
  have chosen {p : Prop} [Decidable p] {name : String} {rest : Option String}
      (here : Settled name.toList) (later : ∀ found ∈ rest, Settled found.toList) :
      ∀ found ∈ (if p then some name else rest), Settled found.toList := by
    split
    · simpa using here
    · exact later
  unfold languageFor?
  repeat' refine chosen (by decide) ?_
  exact fun _ member => nomatch member

/-- The language of a listing means nothing for groups when the info string means nothing. -/
theorem settled_listingLanguage {info? : Option String} {language : String}
    (found : listingLanguage? info? = some language)
    (plain : ∀ info, info? = some info → ∀ c ∈ info.toList, IsPlain c) :
    Settled language.toList := by
  cases info? with
  | none => cases found
  | some info =>
    simp only [listingLanguage?, Option.map_some] at found
    split at found
    · cases found
    · obtain rfl := Option.some.inj found
      -- A language is one of those that stand for a tag, or the tag itself.
      cases stands : languageFor? (Unicode.lower (Unicode.trim info)) with
      | some name => exact settled_languageFor _ name stands
      | none => exact settled_of_plain fun c member => plain info rfl c (trim_subset info member)

end Pieces

/-- A code block whose text is settled is settled without the line feed at its end. -/
theorem settled_withoutLastNewline {code : String} (settled : Settled code.toList) :
    Settled (Renderer.withoutLastNewline code).toList := by
  -- The line feed is a last character that opens and closes nothing.
  unfold Renderer.withoutLastNewline
  split
  case h_1 rest reversed =>
    have ended : code.toList = rest.reverse ++ ['\n'] := by
      rw [← List.reverse_reverse code.toList, reversed, List.reverse_cons]
    rw [ended] at settled
    rw [String.toList_ofList]
    exact settled_of_append_newline settled
  case h_2 => exact settled

namespace TableAssembly

/-- A table whose cells are settled. -/
structure IsSettled (table : TableAssembly) : Prop where
  /-- The header cells are settled. -/
  header : ∀ cell ∈ table.header, Settled cell.toList
  /-- The cells of the rows are settled. -/
  rows : ∀ row ∈ table.rows, ∀ cell ∈ row, Settled cell.toList

/-- A row of settled cells is settled. -/
theorem settled_rowLine {cells : List String} (settled : ∀ cell ∈ cells, Settled cell.toList) :
    Settled (rowLine cells).toList := by
  rw [rowLine, String.toList_append]
  exact (settled_intercalate (by decide) settled).append (by decide)

variable {table : TableAssembly}

/-- The header of a settled table is settled. -/
theorem IsSettled.headerLine (settled : table.IsSettled) : Settled table.headerLine.toList := by
  unfold TableAssembly.headerLine
  split
  · exact settled_nil
  · exact settled_rowLine settled.header

/-- The body of a settled table is settled. -/
theorem IsSettled.bodyLines (settled : table.IsSettled) : Settled table.bodyLines.toList := by
  refine settled_intercalate (by decide) fun line member => ?_
  obtain ⟨row, inside, rfl⟩ := List.mem_map.mp member
  exact settled_rowLine (settled.rows row inside)

/-- The column specification of a table is settled. -/
theorem settled_alignmentSpec (table : TableAssembly) : Settled table.alignmentSpec.toList := by
  have columns : Settled ((List.replicate table.columnCount "l|").flatMap String.toList) := by
    -- Each column is the same text, which opens and closes no group.
    refine settled_flatMap fun column member => ?_
    rw [List.eq_of_mem_replicate member]
    decide
  simpa [alignmentSpec] using (show Settled "|".toList by decide).append columns

end TableAssembly

/--
A token that escapes its text where it has any, and none of whose attributes in the output holds a
backslash or a brace.
-/
structure Token.IsPlain (token : Token) : Prop where
  /-- Only running text and inline code hold text. -/
  raw : token.raw?.isSome → token.kind = .text ∨ token.kind = .codespan
  /-- The path of a link or an image is plain. -/
  url : token.kind = .link ∨ token.kind = .image →
    ∀ url, token.attrs.text? "url" = some url → ∀ c ∈ url.toList, Manuscript.IsPlain c
  /-- The info string of a code block is plain. -/
  info : token.kind = .blockCode →
    ∀ info, token.attrs.text? "info" = some info → ∀ c ∈ info.toList, Manuscript.IsPlain c

namespace Renderer

/-- What is written through a template is settled when the values are, a heading apart. -/
theorem settled_fill {construct : Construct} (other : construct ≠ .heading) {values : Values}
    (settled : ∀ entry ∈ values, entry.1 ≠ .title → Settled entry.2.toList) :
    Settled ((ofTemplates .builtin {}).fill construct values).toList :=
  (closes_builtin other).settled_render settled

/-- A construct around settled content is settled. -/
theorem settled_fillText {construct : Construct} (other : construct ≠ .heading) {content : String}
    (settled : Settled content.toList) :
    Settled ((ofTemplates .builtin {}).fillText construct content).toList :=
  settled_fill other (by simpa using settled)

/-- Text is settled, whatever it is. -/
theorem settled_text (text : String) : Settled ((ofTemplates .builtin {}).text text).toList :=
  settled_fillText (by decide) (by simpa [escaped, ofTemplates] using settled_escapeText text)

/-- A heading of settled content is settled. -/
theorem settled_heading {content : String} (settled : Settled content.toList) (level : Nat) :
    Settled ((ofTemplates .builtin {}).heading content level).toList := by
  -- The segments of the built-in template are known, so that what it writes can be read off.
  have segments : (Template.builtin .heading).segments =
      [.literal ['\\'], .slot .headingType, .literal ['\x7b'], .slot .text,
        .literal ['\x7d']] :=
    Template.segments_builtin rfl (by decide +kernel)
  have written : ((ofTemplates .builtin {}).heading content level).toList =
      '\\' :: (HeadingCommands.standard.command level).toList ++
        '\x7b' :: (content.toList ++ ['\x7d']) := by
    show ((Template.builtin .heading).render _).toList = _
    rw [toList_render, segments]
    simp only [filledText, List.flatMap_cons, List.flatMap_nil, Template.fillSegment,
      String.toList_ofList]
    rfl
  -- A command is settled, and a group around settled content is settled as well.
  rw [written]
  exact (settled_standard_command level).append settled.group

/-- Without rules a path stays as it is. -/
theorem resolveImagePath_nil (url : String) : resolveImagePath [] url = url := by
  simp [resolveImagePath]

/-- A plain attribute is settled, and so is one that is missing. -/
theorem settled_attribute {value? : Option String}
    (plain : ∀ value, value? = some value → ∀ c ∈ value.toList, Manuscript.IsPlain c) :
    ∀ c ∈ (value?.getD "").toList, Manuscript.IsPlain c := by
  cases value? with
  -- An attribute that is missing is read as an empty text.
  | none => simp
  | some value => exact plain value rfl

/-- What is written for a plain token with settled content is settled. -/
theorem settled_construct {token : Token} (plain : token.IsPlain) {content : String}
    (settled : token.kind ≠ .text → token.kind ≠ .codespan → Settled content.toList) :
    Settled ((ofTemplates .builtin {}).construct token.kind token.attrs content).toList := by
  obtain ⟨kind, raw?, children?, attrs⟩ := token
  obtain ⟨-, plainUrl, plainInfo⟩ := plain
  simp only at settled plainUrl plainInfo ⊢
  -- Text is escaped, all else is written around content that is settled already.
  cases kind with
  | text => exact settled_text content
  | codespan =>
    refine settled_fillText (by decide) ?_
    simpa [escaped, ofTemplates] using settled_escapeText content
  | linebreak | softbreak | thematicBreak | blankLine =>
    exact settled_fill (by decide) fun entry member => nomatch member
  | heading => exact settled_heading (settled nofun nofun) _
  -- A url is not escaped, and has to be plain itself.
  | link =>
    have url := settled_of_plain (settled_attribute (plainUrl (.inl rfl)))
    exact settled_fill (by decide) (by simpa using ⟨url, settled nofun nofun⟩)
  | image =>
    have path := settled_attribute (plainUrl (.inr rfl))
    rw [construct, image, show (ofTemplates .builtin {}).options.imageRules = [] from rfl,
      resolveImagePath_nil, String.toList_append]
    have values := And.intro (settled_of_plain path)
      (And.intro (settled nofun nofun) (settled_figureLabel content))
    exact (settled_formatNote path).append (settled_fill (by decide) (by simpa using values))
  -- Code is not escaped either, and its language is told by the info.
  | blockCode =>
    have code := settled_withoutLastNewline (settled nofun nofun)
    rw [construct, blockCode]
    split
    case h_1 language found =>
      exact settled_fill (by decide)
        (by simpa using ⟨settled_listingLanguage found (plainInfo rfl), code⟩)
    case h_2 => exact settled_fill (by decide) (by simpa using code)
  | list =>
    rw [construct, list]
    split <;> exact settled_fillText (by decide) (settled nofun nofun)
  -- These kinds are not written as a construct.
  | table | tableHead | tableBody | tableRow | tableCell | unknown => exact settled_nil
  | _ => exact settled_fillText (by decide) (settled nofun nofun)

/-- A cell with settled content is settled. -/
theorem settled_cellText (attrs : Attrs) {content : String} (settled : Settled content.toList) :
    Settled ((ofTemplates .builtin {}).cellText attrs content).toList := by
  unfold cellText
  split
  · -- Bold or not, the content is what has to be settled.
    exact settled_fillText (by decide) settled
  · exact settled

/-- A table of settled cells is settled. -/
theorem settled_tableBlock (number : Nat) {table : TableAssembly} (settled : table.IsSettled) :
    Settled ((ofTemplates .builtin {}).tableBlock number table).toList := by
  have values := And.intro (settled_toString number) (And.intro table.settled_alignmentSpec
    (And.intro settled.headerLine settled.bodyLines))
  exact settled_fill (by decide) (by simpa using values)

end Renderer

/-- What is assembled from parts with settled contents is settled. -/
theorem isSettled_foldl_addPart {parts : List (TablePart String)}
    (settled : ∀ part ∈ parts, ∀ content ∈ part.contents, Settled content.toList) :
    (parts.foldl (Renderer.ofTemplates .builtin {}).addPart {}).IsSettled where
  header := by
    -- The header cells are filled into a template of their own, which closes its groups.
    rw [header_foldl_addPart]
    exact forall_mem_headerTexts settled fun _ => Renderer.settled_fillText (by decide)
  rows := by
    rw [rows_foldl_addPart]
    exact forall_mem_rowTexts settled fun attrs _ => Renderer.settled_cellText attrs

/-- A plain token is written settled from settled texts. -/
theorem settled_write {token : Token} (plain : token.IsPlain) (number : Nat) {texts : List String}
    (settled : ∀ text ∈ texts, Settled text.toList) :
    Settled ((Renderer.ofTemplates .builtin {}).write number token.kind token.attrs
      (token.outline.refill texts)).toList := by
  -- Where one text is wanted it is the first one, or no text at all.
  have content : Settled (texts.headD "").toList := by
    cases texts with
    | nil => exact settled_nil
    | cons text rest => exact settled text List.mem_cons_self
  -- By the outline a token is a table, inline text, a cell, raw text or a construct around its
  -- children.
  rcases token.outline_cases with ⟨-, outline⟩ | ⟨-, -, outline | outline⟩ |
    ⟨-, ⟨raw, outline⟩ | outline⟩ <;> rw [outline]
  · exact Renderer.settled_tableBlock number (isSettled_foldl_addPart
      fun part member content inside =>
        settled content (TablePart.mem_of_mem_refill member inside))
  · exact content
  · exact Renderer.settled_cellText token.attrs content
  · have escaped := plain.raw (by simp [Token.raw?_of_outline outline])
    exact Renderer.settled_construct plain fun notText notCode =>
      absurd escaped (not_or.mpr ⟨notText, notCode⟩)
  · exact Renderer.settled_construct plain fun _ _ => content

/-- Settled texts go with trees of plain tokens. -/
theorem handsOn_settled (first last : Nat) :
    (Renderer.ofTemplates .builtin {}).HandsOn Token.IsPlain first last
      fun _ _ text => Settled text.toList where
  nothing _ := settled_nil
  -- Texts, and so what is settled, go together along the walk; only a token adds something of its
  -- own.
  append front back := by
    rw [String.toList_append]
    exact front.append back
  flat token := Renderer.settled_text token.plainText
  write plain _ _ each := by
    refine settled_write (plain _ (Token.mem_preorder_self _)) _ fun text member => ?_
    obtain ⟨place, within, rfl⟩ := List.getElem_of_mem member
    exact List.Forall₂.get each (each.length_eq ▸ within) within

/--
What is rendered without a configuration of trees of plain tokens is balanced, whatever their text,
their kinds, their depth and their tables are.
-/
theorem renderTokens_balanced (depth tables : Nat) {tokens : List Token}
    (plain : ∀ token ∈ Token.preorderAll tokens, token.IsPlain) :
    Balanced ((Renderer.ofTemplates .builtin {}).renderTokens depth tables tokens).1 :=
  balanced_of_settled ((handsOn_settled tables _).renderTokens rfl rfl plain (Nat.le_refl _)
    (Nat.le_refl _))

/-- A link whose text is made of braces and a backslash is written balanced. -/
theorem renderTokens_balanced_link :
    let tokens := [(Token.parent .link [.ofText "\x7d\\\x7b"]).withAttr "url" (.string "a")]
    (∀ token ∈ Token.preorderAll tokens, token.IsPlain) ∧
      Balanced ((Renderer.ofTemplates .builtin {}).renderTokens 0 0 tokens).1 := by
  intro tokens
  have plain : ∀ token ∈ Token.preorderAll tokens, token.IsPlain := by
    -- Only the link has an attribute, and only the text in it has text.
    refine List.forall_mem_cons.mpr ⟨⟨nofun, fun _ url found => ?_, nofun⟩,
      List.forall_mem_singleton.mpr ⟨fun _ => .inl rfl, nofun, nofun⟩⟩
    obtain rfl := Option.some.inj found
    exact List.forall_mem_singleton.mpr (show IsPlain 'a' by decide)
  exact ⟨plain, renderTokens_balanced 0 0 plain⟩

end Manuscript
