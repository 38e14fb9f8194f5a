import EnclosingScope.Decimal.Digits
import EnclosingScope.Text.Bytes
import EnclosingScope.Toml.Document

namespace EnclosingScope.Toml

-- What is said of a text that is no document. The words are those of the library that reads
-- documents, so they are handed in by whoever asks for a configuration.
abbrev Refusal := String → String

def Refusal.silent : Refusal := fun _ => ""

structure Site where
  line : Nat
  column : Nat
  content : List Char

def siteFrom (line : Nat) (back : List Char) (offset : Nat) : List Char → Site
  | [] => ⟨line, back.length + 1, back.reverse⟩
  | c :: cs =>
      if offset = 0 then ⟨line, back.length + 1, back.reverse ++ (c :: cs).takeWhile (· ≠ '\n')⟩
      else if c = '\n' then siteFrom (line + 1) [] (offset - 1) cs
      else siteFrom line (c :: back) (offset - c.utf8Size) cs

def spaces (n : Nat) : String :=
  String.ofList (List.replicate n ' ')

def Span.report (span : Span) (text why : String) : String :=
  let site := siteFrom 1 [] span.start text.toList
  let number := Decimal.text site.line
  let rest := Text.byteCount site.content - (site.column - 1)
  let marks := max 1 (min (span.stop - span.start) rest)
  let gutter := spaces (number.length + 1)
  "TOML parse error at line " ++ number ++ ", column " ++ Decimal.text site.column ++ "\n"
    ++ gutter ++ "|\n"
    ++ number ++ " | " ++ String.ofList site.content ++ "\n"
    ++ gutter ++ "|" ++ spaces site.column ++ String.ofList (List.replicate marks '^') ++ "\n"
    ++ why ++ "\n"

end EnclosingScope.Toml
