import Accounts.Text.Unseen
/-! Texts between quotes, with every character to be seen: those without a mark of their own are written by
their number. -/
namespace Accounts.Visible

def isHidden (c : Char) : Bool := isUnseen c || isExtender c

def hexDigits (n : Nat) : String := String.ofList (Nat.toDigits 16 n)

def escapeChar (c : Char) : String :=
  if c = '"' then "\\\"" else if c = '\\' then "\\\\"
  else if c = '\n' then "\\n" else if c = '\r' then "\\r" else if c = '\t' then "\\t"
  else if c = '\x00' then "\\0"
  else if isHidden c then "\\u\x7b" ++ hexDigits c.toNat ++ "\x7d"
  else String.singleton c

def quoted (s : String) : String := "\"" ++ String.join (s.toList.map escapeChar) ++ "\""

end Accounts.Visible
