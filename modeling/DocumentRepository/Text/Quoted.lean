import DocumentRepository.Text.Category
import DocumentRepository.Text.Property

/-! # Texts in quotation marks

A text as a debugging text shows it: quotation marks and backslashes are escaped, and characters
that do not show are written by their numbers. -/
namespace DocumentRepository.Text

/-- The characters that do not show, or only on the one before them. -/
def hidden : Ranges :=
  ["cc", "cf", "co", "cn", "zl", "zp", "zs"].flatMap (fun name => (category? name).getD [])
    ++ (property? "graphemeextend").getD []

def hexDigits (n : Nat) : String := String.ofList (Nat.toDigits 16 n)

def quotedChar (c : Char) : String :=
  if c = '"' then "\\\""
  else if c = '\\' then "\\\\"
  else if c = '\t' then "\\t"
  else if c = '\r' then "\\r"
  else if c = '\n' then "\\n"
  else if c = '\x00' then "\\0"
  else if c != ' ' && hidden.contains c then "\\u\x7b" ++ hexDigits c.toNat ++ "\x7d"
  else c.toString

def quoted (s : String) : String := "\"" ++ String.join (s.toList.map quotedChar) ++ "\""

end DocumentRepository.Text
