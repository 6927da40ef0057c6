import RouteAudit.Text.Numeral
import RouteAudit.Unicode.Naming

/-!
# Quoted texts in log lines

Where a log line shows a list of texts, each stands in double quotes.  Quotes, backslashes
and characters that do not print are escaped, so the texts can be told apart.
-/

namespace RouteAudit
namespace Quoted

/-- Characters of no shape of their own: controls, formats, separators other than the
blank, unassigned characters, and marks that extend the character before them. -/
def unprintable : CharSet :=
  (Unicode.categoryUnion ["Cc", "Cf", "Co", "Zs", "Zl", "Zp", "Mn", "Me"]).union
    Unicode.assigned.complement

def prints (c : Char) : Bool :=
  if c.toNat < 128 then 0x20 ≤ c.toNat && c.toNat ≠ 0x7F else !unprintable.contains c

def escapeChar (c : Char) : List Char :=
  match c with
  | '"' => ['\\', '"']
  | '\\' => ['\\', '\\']
  | '\n' => ['\\', 'n']
  | '\r' => ['\\', 'r']
  | '\t' => ['\\', 't']
  | '\x00' => ['\\', '0']
  | _ =>
      if prints c then [c]
      else '\\' :: 'u' :: '\x7b' :: Numeral.digits 16 c.toNat ++ ['\x7d']

def quote (text : String) : String :=
  String.ofList ('"' :: text.toList.flatMap escapeChar ++ ['"'])

/-- A list of quoted texts in brackets. -/
def list (texts : List String) : String :=
  "[" ++ String.intercalate ", " (texts.map quote) ++ "]"

end Quoted
end RouteAudit
