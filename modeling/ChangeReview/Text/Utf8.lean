import ChangeReview.Text

/-!
# Bytes as text

The contents of files are bytes. They are a text if they are well-formed UTF-8.

## Main definitions

- `Bytes`: the content of a file.
- `Text.ofUtf8?`: the text that bytes spell.
- `Text.ofUtf8Lossy`: a text for any bytes.
-/

namespace ChangeReview

/-- The content of a file. -/
abbrev Bytes := List UInt8

namespace Text

/-- The text that bytes spell in UTF-8, if they are well-formed. -/
def ofUtf8? (bytes : Bytes) : Option Text :=
  (String.fromUTF8? (ByteArray.mk bytes.toArray)).map String.toList

/-- The character that stands for a byte which belongs to no character. -/
def replacement : Char := '\ufffd'

/-- The character at the head of the bytes, and how many more bytes it takes. -/
def headChar? (bytes : Bytes) : Option (Char × Nat) :=
  [1, 2, 3, 4].findSome? fun count =>
    if count ≤ bytes.length then
      match ofUtf8? (bytes.take count) with
      | some [c] => some (c, count - 1)
      | _ => none
    else none

/-- A text for any bytes, where bytes that belong to no character are replaced. -/
def ofUtf8Lossy (bytes : Bytes) : Text :=
  match ofUtf8? bytes with
  | some text => text
  | none => go 0 bytes
where
  /-- `skip` bytes of the character just read are still to be passed over. -/
  go (skip : Nat) : Bytes → Text
    | [] => []
    | b :: rest =>
      if 0 < skip then go (skip - 1) rest
      else
        match headChar? (b :: rest) with
        | some (c, more) => c :: go more rest
        | none => replacement :: go 0 rest

end Text

end ChangeReview
