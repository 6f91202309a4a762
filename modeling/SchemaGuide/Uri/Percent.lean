import SchemaGuide.Text.Hex

/-! Percent coding: bytes written as a percent sign and two digits. -/
namespace SchemaGuide.Uri

/-- The upper case hexadecimal digit of a number below sixteen. -/
def digitChar (n : Nat) : Char :=
  if n < 10 then Char.ofNat ('0'.toNat + n) else Char.ofNat ('A'.toNat + (n - 10))

/-- A byte as a percent sign and two digits. -/
def encodeByte (byte : UInt8) : List Char :=
  ['%', digitChar (byte.toNat / 16), digitChar (byte.toNat % 16)]

/-- The text with the bytes of every other character encoded. Printable characters of ASCII
and the blank are kept unless they are among those given. A percent sign is kept, so that
what is encoded already stays so. -/
def encode (others : List Char) (chars : List Char) : List Char :=
  chars.flatMap fun c =>
    if 0x20 ≤ c.toNat && c.toNat < 0x7F && !others.contains c then [c]
    else (String.utf8EncodeChar c).flatMap encodeByte

/-- The bytes of a text, with those that are encoded decoded. A percent sign without two
digits stands for itself. -/
def decode : List Char → List UInt8
  | [] => []
  | '%' :: high :: low :: rest =>
    match Text.hexDigit? high, Text.hexDigit? low with
    | some high, some low => (high * 16 + low).toUInt8 :: decode rest
    | _, _ => '%'.toNat.toUInt8 :: decode (high :: low :: rest)
  | c :: rest => String.utf8EncodeChar c ++ decode rest

/-- The text of bytes. Where they are those of no text, every byte outside of ASCII is read
as the replacement character. -/
def textOfBytes (bytes : List UInt8) : String :=
  (String.fromUTF8? ⟨bytes.toArray⟩).getD
    (String.ofList (bytes.map fun byte =>
      if byte < 0x80 then Char.ofNat byte.toNat else '\uFFFD'))

end SchemaGuide.Uri
