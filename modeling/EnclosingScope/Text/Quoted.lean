import EnclosingScope.Decimal.Digits
import EnclosingScope.Text.Printable

namespace EnclosingScope.Text

def quoteChar (c : Char) : List Char :=
  match c with
  | '\x00' => ['\\', '0']
  | '\t' => ['\\', 't']
  | '\n' => ['\\', 'n']
  | '\r' => ['\\', 'r']
  | '"' => ['\\', '"']
  | '\\' => ['\\', '\\']
  | c =>
      if isPlain c then [c]
      else '\\' :: 'u' :: '\x7b' :: Decimal.hexDigits c.toNat ++ ['\x7d']

def quoted (text : String) : String :=
  String.ofList ('"' :: text.toList.flatMap quoteChar ++ ['"'])

end EnclosingScope.Text
