import NestShell.Text.Quoted
/-!
Texts in the quotes of JSON. Characters beyond ASCII stand for themselves.
-/
namespace NestShell.Text

def jsonChar (c : Char) : List Char :=
  match c with
  | '\x22' => ['\\', '\x22']
  | '\\' => ['\\', '\\']
  | '\n' => ['\\', 'n']
  | '\r' => ['\\', 'r']
  | '\t' => ['\\', 't']
  | '\x08' => ['\\', 'b']
  | '\x0c' => ['\\', 'f']
  | _ => if c.toNat < 32 then ['\\', 'u'] ++ hexDigits 4 c.toNat else [c]

def jsonQuoted (s : String) : String :=
  String.ofList (['\x22'] ++ s.toList.flatMap jsonChar ++ ['\x22'])

end NestShell.Text
