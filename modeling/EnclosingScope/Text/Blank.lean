import EnclosingScope.Text.Ranges

namespace EnclosingScope.Text

def blanks : Ranges :=
  #[(9, 13), (32, 32), (133, 133), (160, 160), (5760, 5760), (8192, 8202), (8232, 8233),
    (8239, 8239), (8287, 8287), (12288, 12288)]

def isBlank (c : Char) : Bool :=
  blanks.holds c.toNat

def trimStart (cs : List Char) : List Char :=
  cs.dropWhile isBlank

def trim (text : String) : String :=
  String.ofList (trimStart (trimStart text.toList).reverse).reverse

end EnclosingScope.Text
