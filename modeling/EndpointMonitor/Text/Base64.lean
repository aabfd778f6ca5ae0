/-!
# Bytes as text

Three bytes are written as four characters of six bits each. A last group of one or two bytes is
filled up with equals signs.
-/

namespace EndpointMonitor.Text.Base64

/-- The character of six bits. -/
def char (n : Nat) : Char :=
  if n < 26 then Char.ofNat ('A'.toNat + n)
  else if n < 52 then Char.ofNat ('a'.toNat + (n - 26))
  else if n < 62 then Char.ofNat ('0'.toNat + (n - 52))
  else if n = 62 then '+'
  else '/'

/-- The text of bytes. -/
def encode : List UInt8 → List Char
  | [] => []
  | [a] =>
    let n := a.toNat * 16
    [char (n / 64), char (n % 64), '=', '=']
  | [a, b] =>
    let n := (a.toNat * 256 + b.toNat) * 4
    [char (n / 4096), char (n / 64 % 64), char (n % 64), '=']
  | a :: b :: c :: rest =>
    let n := (a.toNat * 256 + b.toNat) * 256 + c.toNat
    char (n / 262144) :: char (n / 4096 % 64) :: char (n / 64 % 64) :: char (n % 64) :: encode rest

/-- The text of the bytes of a text. -/
def encodeText (text : String) : String :=
  String.ofList (encode text.toUTF8.toList)

end EndpointMonitor.Text.Base64
