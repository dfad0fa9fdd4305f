import WebCitation.Text.Plain

/-! Texts quoted inside messages: quotes around them, and escapes for what would not show. -/
namespace WebCitation.Text

def hexadecimal (n : Nat) : List Char := Nat.toDigits 16 n

def quoteChar (c : Char) : List Char :=
  match c with
  | '"' => ['\\', '"']
  | '\\' => ['\\', '\\']
  | '\n' => ['\\', 'n']
  | '\r' => ['\\', 'r']
  | '\t' => ['\\', 't']
  | '\x00' => ['\\', '0']
  | c => if isPlain c then [c] else '\\' :: 'u' :: '\x7b' :: hexadecimal c.toNat ++ ['\x7d']

def quoteChars (s : List Char) : List Char := '"' :: s.flatMap quoteChar ++ ['"']

end WebCitation.Text

namespace String

/-- The text in double quotes, as messages show it. -/
def quoted (s : String) : String := String.ofList (WebCitation.Text.quoteChars s.toList)

end String
