/-! Base64 with padding: three bytes are written as four characters of six bits each. -/

namespace AnalystQuery.Text

private def alphabet : List Char :=
  "ABCDEFGHIJKLMNOPQRSTUVWXYZabcdefghijklmnopqrstuvwxyz0123456789+/".toList

private def sextet (value : Nat) : Char := alphabet.getD (value % 64) '='

/-- Writes bytes; one or two that are left over are padded with equals signs. -/
def base64 : List UInt8 → List Char
  | a :: b :: c :: rest =>
    let bits := (a.toNat * 256 + b.toNat) * 256 + c.toNat
    sextet (bits >>> 18) :: sextet (bits >>> 12) :: sextet (bits >>> 6) :: sextet bits
      :: base64 rest
  | [a, b] =>
    let bits := (a.toNat * 256 + b.toNat) * 4
    [sextet (bits >>> 12), sextet (bits >>> 6), sextet bits, '=']
  | [a] =>
    let bits := a.toNat * 16
    [sextet (bits >>> 6), sextet bits, '=', '=']
  | [] => []

end AnalystQuery.Text
