import NestShell.Text.Blank
import NestShell.Text.LetterCase
/-!
The language of a file, told by the end of its name.
-/
namespace NestShell.Render

open NestShell.Text

/-- File name extensions and languages. -/
def extensions : List (String × String) :=
  [("py", "python"), ("pyw", "python"), ("pyi", "python"), ("json", "json"), ("md", "markdown"),
    ("markdown", "markdown"), ("txt", "text"), ("js", "javascript"), ("mjs", "javascript"),
    ("ts", "typescript"), ("html", "html"), ("htm", "html"), ("css", "css"), ("c", "c"),
    ("h", "c"), ("cpp", "cpp"), ("hpp", "cpp"), ("cc", "cpp"), ("java", "java"), ("go", "go"),
    ("rs", "rust"), ("rb", "ruby"), ("sh", "bash"), ("bash", "bash"), ("zsh", "bash"),
    ("yml", "yaml"), ("yaml", "yaml"), ("toml", "toml"), ("ini", "ini"), ("cfg", "ini"),
    ("sql", "sql"), ("xml", "xml"), ("lua", "lua"), ("php", "php"), ("pl", "perl"),
    ("rst", "restructuredtext"), ("tex", "tex"), ("diff", "diff"), ("patch", "diff")]

/-- The part of a file name after its last point. -/
def extension? (path : String) : Option String :=
  let name := path.toList.reverse.takeWhile (· != '/')
  match name.span (· != '.') with
  | (end_, '.' :: front) =>
    if front.all (· == '.') then none else some (String.ofList end_.reverse)
  | _ => none

def fileLanguage (path : String) : String :=
  ((extension? path).bind fun e => extensions.lookup (lower e)).getD "default"

end NestShell.Render
