import RequestGate.Unicode.Property

/-!
# Texts shown for inspection

A text in quotes in which quotes, backslashes and everything that does not show are escaped: the
common control characters by a letter, and other characters that do not print, or that extend the one
before them, by their code in braces.
-/

namespace RequestGate
namespace Inspect

/-- Whether a character shows on its own. -/
def isPrinted (c : Char) : Bool :=
  if c.toNat < 0x80 then ' ' ≤ c && c < '\x7f'
  else
    let hidden := (Unicode.categories fun category =>
      ["cc", "cf", "co", "zl", "zp", "zs"].contains category).contains c.toNat
    let assigned := (Unicode.category? "assigned").any fun set => set.contains c.toNat
    let extends_ := (Unicode.named? "grapheme_extend").any fun set => set.contains c.toNat
    assigned && !hidden && !extends_

/-- A character inside quotes. -/
def escapeChar (c : Char) : List Char :=
  match c with
  | '"' => ['\\', '"']
  | '\\' => ['\\', '\\']
  | '\t' => ['\\', 't']
  | '\n' => ['\\', 'n']
  | '\r' => ['\\', 'r']
  | '\x00' => ['\\', '0']
  | c =>
    if isPrinted c then [c]
    else ['\\', 'u', '\x7b'] ++ Nat.toDigits 16 c.toNat ++ ['\x7d']

/-- A text in quotes. -/
def quote (s : String) : String :=
  String.ofList ('"' :: s.toList.flatMap escapeChar ++ ['"'])

end Inspect
end RequestGate
