import AnalystQuery.Text.Hexadecimal

/-! Percent-encoding: bytes written as a percent sign with two hexadecimal digits. Each part of
an address has its own characters that are written so; those outside ASCII always are. -/

namespace AnalystQuery.Http.PercentEncoding

def inOpaquePart (c : Char) : Bool := c.toNat < 0x20 || 0x7F ≤ c.toNat

def inFragment (c : Char) : Bool := inOpaquePart c || [' ', '"', '<', '>', '\x60'].contains c

def inPath (c : Char) : Bool := inFragment c || ['#', '?', '\x7b', '\x7d'].contains c

def inUser (c : Char) : Bool := inPath c || "/:;=@[\\]^|".toList.contains c

def inQuery (c : Char) : Bool := inOpaquePart c || [' ', '"', '#', '<', '>'].contains c

private def byteText (byte : UInt8) : List Char :=
  '%' :: (Text.hexDigits byte).map Char.toUpper

def encode (encoded : Char → Bool) (text : List Char) : List Char :=
  text.flatMap fun c =>
    if encoded c then (String.singleton c).toUTF8.toList.flatMap byteText else [c]

private def leadingByte? : List Char → Option UInt8
  | '%' :: high :: low :: _ => do
    some (16 * (← Text.hexValue? high) + (← Text.hexValue? low)).toUInt8
  | _ => none

/-- The bytes of a text. A percent sign without two digits stands for itself. `skipped` characters
were read already. -/
def bytesFrom (skipped : Nat) : List Char → List UInt8
  | [] => []
  | c :: rest =>
    match skipped, leadingByte? (c :: rest) with
    | skipped + 1, _ => bytesFrom skipped rest
    | 0, some byte => byte :: bytesFrom 2 rest
    | 0, none => (String.singleton c).toUTF8.toList ++ bytesFrom 0 rest

def decode? (text : List Char) : Option (List Char) :=
  (String.fromUTF8? ⟨(bytesFrom 0 text).toArray⟩).map String.toList

end AnalystQuery.Http.PercentEncoding
