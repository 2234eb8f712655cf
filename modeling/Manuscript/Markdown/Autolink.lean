import Manuscript.Markdown.Html
import Manuscript.Markdown.Syntax
import Manuscript.Unicode.Punctuation
import Manuscript.Unicode.Whitespace

/-! Addresses that are links without any markup: of pages, by scheme or by `www.`, and of mail. -/

namespace Manuscript.Markdown

/-- How many dots a domain that ends its text may have for underscores in it to matter. -/
def domainDotLimit : Nat := 10

/--
A text starts with a domain. The last two parts of a domain hold no underscore, and unless it may be
short it has a dot. `outer` and `inner` tell of underscores in the part before and in the present
part, and `dots` counts the dots so far.
-/
def startsWithDomain (short : Bool) (outer inner : Bool) (dots : Nat) : List Char → Bool
  | [] => !((outer || inner) && dots ≤ domainDotLimit) && (short || 0 < dots)
  | c :: rest =>
    -- A backslash is passed over, but not what stands behind it.
    if c = '\\' ∧ rest ≠ [] then startsWithDomain short outer inner dots rest
    else if c = '_' then startsWithDomain short outer true dots rest
    else if c = '.' then startsWithDomain short inner false (dots + 1) rest
    -- What no domain holds ends it.
    else if c ≠ '-' ∧ (Unicode.isWhitespace c ∨ Unicode.isPunctuation c) then
      !outer && !inner && (short || 0 < dots)
    else startsWithDomain short outer inner dots rest

/-- A character that does not end an address. -/
def isTrailing (c : Char) : Bool := "?!.,:*_~'\"[".toList.contains c

/-- The end of an address, given backwards, without a character reference or a semicolon. -/
def withoutReference (backwards : List Char) : List Char :=
  match backwards.dropWhile isLetter with
  | '&' :: rest => if backwards.head?.any isLetter then rest else backwards
  | _ => backwards

/-- Nothing is added where a reference is dropped. -/
theorem withoutReference_length_le (backwards : List Char) :
    (withoutReference backwards).length ≤ backwards.length := by
  -- What stands in front of the letters is a part of the text.
  have less := (List.dropWhile_sublist isLetter (l := backwards)).length_le
  unfold withoutReference
  split
  · rename_i rest cut
    split
    · rw [cut, List.length_cons] at less
      omega
    · exact Nat.le_refl _
  · exact Nat.le_refl _

/-- An address, given backwards, without the characters that do not end it. -/
def trimAddress (backwards : List Char) : List Char :=
  match backwards with
  | [] => []
  | c :: rest =>
    if isTrailing c then trimAddress rest
    else if c = ';' then trimAddress (withoutReference rest)
    -- A parenthesis closes an address only if none inside of it opens it.
    else if c = ')' ∧ (c :: rest).count '(' < (c :: rest).count ')' then trimAddress rest
    else c :: rest
termination_by backwards.length
decreasing_by
  · simp
  · have := withoutReference_length_le rest
    simp only [List.length_cons]
    omega
  · simp

/-- The address at the front of a text, and what follows it. -/
def cutAddress (text : List Char) : List Char × List Char :=
  -- No tag is a part of an address.
  let unbroken := text.takeWhile (· ≠ '<')
  let address := (trimAddress unbroken.reverse).reverse
  (address, text.drop address.length)

/-- A link whose content is its address. -/
def addressLink (start : String) (address : List Char) : Inline :=
  let text := String.ofList address
  .link ⟨start ++ text, ""⟩ [.text text]

/-- The schemes of pages. -/
def pageSchemes : List String := ["http", "https", "ftp"]

/--
The page address around a colon: the letters in front of it, given backwards, which are its scheme,
the link, and what follows it. `text` starts with the colon.
-/
def pageAtColon? (passed text : List Char) : Option (List Char × Inline × List Char) :=
  match text with
  | ':' :: '/' :: '/' :: domain =>
    let scheme := (passed.takeWhile isLetter).reverse
    if domain ≠ [] ∧ pageSchemes.any (·.toList = scheme) ∧
        startsWithDomain true false false 0 domain then
      let (address, _) := cutAddress (text.takeWhile fun c => !isSpace c)
      some (scheme, addressLink "" (scheme ++ address), text.drop address.length)
    else none
  | _ => none

/-- The page address that starts with `www.`, and what follows it. -/
def pageAtWww? (passed text : List Char) : Option (Inline × List Char) :=
  -- In front of it stands nothing, a blank, or a mark that may open something.
  let atStart := passed.head?.all fun c => isSpace c || "*_~([".toList.contains c
  if atStart ∧ "www.".toList.isPrefixOf text ∧ startsWithDomain false false false 0 text then
    let (address, _) := cutAddress (text.takeWhile fun c => !isSpace c)
    some (addressLink "http://" address, text.drop address.length)
  else none

/-- What a mail address may say in front of it. -/
inductive MailScheme where
  | none
  | mailto
  | xmpp
  deriving DecidableEq

/-- The scheme that a text, given backwards, ends with. -/
def mailScheme? (backwards : List Char) : Option MailScheme :=
  let word := backwards.takeWhile isLetter
  if word = "mailto".toList.reverse then some .mailto
  else if word = "xmpp".toList.reverse then some .xmpp
  else none

/--
The name in front of the at sign of a mail address, with a scheme if there is one: how long it is.
The text is given backwards.
-/
def mailName : Nat → MailScheme → List Char → Nat × MailScheme
  | length, scheme, [] => (length, scheme)
  | length, scheme, c :: rest =>
    if c.isAlphanum ∨ ".+-_".toList.contains c then mailName (length + 1) scheme rest
    else if c = ':' then
      match mailScheme? rest with
      -- Once a scheme allows for a path, the others in front of it do not take that back.
      | some found => mailName (length + 1) (if scheme = .xmpp then scheme else found) rest
      | none => (length, scheme)
    else (length, scheme)

/--
The host of a mail address: its characters, how many dots it has; none when another at sign follows.
A host that may have a path goes on behind slashes.
-/
def mailHost? (hasPath : Bool) (dots : Nat) : List Char → Option (List Char × Nat)
  | [] => some ([], dots)
  | c :: rest =>
    let more (dots : Nat) : Option (List Char × Nat) :=
      (mailHost? hasPath dots rest).map fun (host, dots) => (c :: host, dots)
    if c.isAlphanum ∨ c = '-' ∨ c = '_' then more dots
    else if c = '@' then none
    else if c = '.' ∧ rest.head?.any Char.isAlphanum then more (dots + 1)
    else if c = '/' ∧ hasPath then more dots
    else some ([], dots)

/-- The mail address around an at sign: how long its name is, the link, and what follows it. -/
def mailAt? (passed behind : List Char) : Option (Nat × Inline × List Char) := do
  let (length, scheme) := mailName 0 .none passed
  let (host, dots) ← mailHost? (scheme = .xmpp) 0 behind
  -- A host has a dot in it and a letter at its end.
  if length = 0 ∨ dots = 0 ∨ !(host.getLast?.any isLetter) then none
  else
    -- The at sign takes the place of the name, of which nothing is cut off.
    let (kept, _) := cutAddress ('@' :: host)
    if kept.isEmpty then none
    else
      let address := (passed.take length).reverse ++ kept
      -- An address with a scheme is its own target.
      let start := if scheme = .none then "mailto:" else ""
      some (length, addressLink start address, behind.drop (kept.length - 1))

/--
The first mail address in a text that does not stand in brackets: what is in front of it, the link,
and what follows it.
-/
def firstMail? (brackets : Int) (passed : List Char) :
    List Char → Option (List Char × Inline × List Char)
  | [] => none
  | c :: rest =>
    -- In brackets stands the text of a link, and links hold no others.
    let brackets := if c = '[' then brackets + 1 else if c = ']' then brackets - 1 else brackets
    match if c = '@' ∧ brackets ≤ 0 then mailAt? passed rest else none with
    | some (length, link, after) => some ((passed.drop length).reverse, link, after)
    | none => firstMail? brackets (c :: passed) rest

/-- A text with the mail addresses in it as links; the bound limits how many there may be. -/
def linkMail : Nat → List Char → List Inline
  | 0, text => [.text (String.ofList text)]
  | bound + 1, text =>
    match firstMail? 0 [] text with
    | none => [.text (String.ofList text)]
    | some (before, link, after) =>
      .text (String.ofList before) :: link :: if after.isEmpty then [] else linkMail bound after

end Manuscript.Markdown
