/-! Texts as bytes in UTF-8. -/

namespace Manuscript

/-- Bytes in order. -/
abbrev Bytes := List UInt8

namespace Utf8

/-- The bytes of a text. -/
def encode (text : String) : Bytes := text.toList.flatMap String.utf8EncodeChar

/-- What the first byte of a character says: its own bits, and how the next byte is bounded. -/
structure Lead where
  /-- The bits of the character in the first byte. -/
  bits : Nat
  /-- How many bytes follow. -/
  count : Nat
  /-- The least that the next byte may be. -/
  low : UInt8 := 0x80
  /-- The most that the next byte may be. -/
  high : UInt8 := 0xbf

/-- What a byte says when it is the first one of a character. -/
def lead? (byte : UInt8) : Option Lead :=
  -- The second byte is bounded so that every character has one form, and surrogates none.
  let n := byte.toNat
  if byte < 0x80 then some ⟨n, 0, 0x80, 0xbf⟩
  else if byte < 0xc2 then none
  else if byte < 0xe0 then some ⟨n - 0xc0, 1, 0x80, 0xbf⟩
  else if byte = 0xe0 then some ⟨0, 2, 0xa0, 0xbf⟩
  else if byte = 0xed then some ⟨0xd, 2, 0x80, 0x9f⟩
  else if byte < 0xf0 then some ⟨n - 0xe0, 2, 0x80, 0xbf⟩
  else if byte = 0xf0 then some ⟨0, 3, 0x90, 0xbf⟩
  else if byte < 0xf4 then some ⟨n - 0xf0, 3, 0x80, 0xbf⟩
  else if byte = 0xf4 then some ⟨4, 3, 0x80, 0x8f⟩
  else none

/-- The number that a number of further bytes completes, and what follows; none when one is off. -/
def completed : Nat → Nat → UInt8 → UInt8 → Bytes → Option Nat × Bytes
  | 0, bits, _, _, bytes => (some bits, bytes)
  | _ + 1, _, _, _, [] => (none, [])
  | count + 1, bits, low, high, byte :: rest =>
    -- Only the second byte has bounds of its own.
    if low ≤ byte ∧ byte ≤ high then
      completed count (bits * 64 + (byte.toNat - 0x80)) 0x80 0xbf rest
    else (none, byte :: rest)

/-- Nothing is added where bytes are taken. -/
theorem completed_length_le (count bits : Nat) (low high : UInt8) (bytes : Bytes) :
    (completed count bits low high bytes).2.length ≤ bytes.length := by
  -- Each byte that counts is taken, and the first one that does not is left.
  induction count generalizing bits low high bytes with
  | zero => simp [completed]
  | succ count ih =>
    cases bytes with
    | nil => simp [completed]
    | cons byte rest =>
      simp only [completed]
      split
      · have := ih (bits * 64 + (byte.toNat - 0x80)) 0x80 0xbf rest
        simp only [List.length_cons]
        omega
      · simp

/-- The character at the front of bytes, and what follows it; none for bytes that are none. -/
def character (byte : UInt8) (rest : Bytes) : Option Char × Bytes :=
  match lead? byte with
  | none => (none, rest)
  | some lead =>
    let (code?, after) := completed lead.count lead.bits lead.low lead.high rest
    (code?.map Char.ofNat, after)

/-- What follows a character is no longer than what follows its first byte. -/
theorem character_length_le (byte : UInt8) (rest : Bytes) :
    (character byte rest).2.length ≤ rest.length := by
  unfold character
  split
  · simp
  · exact completed_length_le _ _ _ _ _

/-- The characters of bytes, with none for every longest run of bytes that is no part of one. -/
def characters : Bytes → List (Option Char)
  | [] => []
  | byte :: rest =>
    have := character_length_le byte rest
    (character byte rest).1 :: characters (character byte rest).2
termination_by bytes => bytes.length
decreasing_by
  simp only [List.length_cons]
  omega

/-- The text of bytes, when they are one. -/
def decode? (bytes : Bytes) : Option String :=
  let found := characters bytes
  if found.all Option.isSome then some (String.ofList (found.filterMap id)) else none

/-- The text of bytes, with a replacement character for what is no character. -/
def decodeLossy (bytes : Bytes) : String :=
  String.ofList ((characters bytes).map fun c => c.getD '\ufffd')

end Utf8

end Manuscript
