import RestShell.Text.Utf8

/-! Base64: three bytes as four characters of six bits each, the last group filled up
with `=`. -/

namespace RestShell.Base64

/-- The character of six bits. -/
def digit (n : Nat) : Char :=
  if n < 26 then .ofNat (65 + n)
  else if n < 52 then .ofNat (97 + (n - 26))
  else if n < 62 then .ofNat (48 + (n - 52))
  else if n = 62 then '+'
  else '/'

def chars : Bytes → List Char
  | [] => []
  | [a] =>
    let n := a.toNat
    [digit (n / 4), digit (n % 4 * 16), '=', '=']
  | [a, b] =>
    let n := a.toNat * 256 + b.toNat
    [digit (n / 1024), digit (n / 16 % 64), digit (n % 16 * 4), '=']
  | a :: b :: c :: r =>
    let n := a.toNat * 65536 + b.toNat * 256 + c.toNat
    digit (n / 262144) :: digit (n / 4096 % 64) :: digit (n / 64 % 64) :: digit (n % 64) :: chars r

/-- The text's UTF-8 bytes in base64. -/
def encode (s : String) : String := .ofList (chars (Text.bytes s))

example : encode "" = "" := by decide +kernel
example : encode "user:pass" = "dXNlcjpwYXNz" := by decide +kernel
example : encode "a:" = "YTo=" := by decide +kernel

theorem length_chars : ∀ bs : Bytes, (chars bs).length = (bs.length + 2) / 3 * 4
  | [] | [_] | [_, _] => by simp [chars]
  | _ :: _ :: _ :: r => by simp only [chars, List.length_cons, length_chars r]; omega

end RestShell.Base64
