namespace EnclosingScope.Grammar

inductive Token where
  | endOfSource
  | literal (text : String)
  | identifier
  | integer
  | float
  | comment
  | lineContinuation
  | escapeSequence
  | loneBackslash
  | typeConversion
  | formatText
  | newline
  | indent
  | dedent
  | stringStart
  | stringText
  | doubledBrace
  | stringEnd
  deriving DecidableEq, Hashable, Repr

inductive Side where
  | left
  | right
  deriving DecidableEq, Hashable, Repr

structure Label where
  name : String
  named : Bool
  deriving DecidableEq, Hashable, Repr

inductive Rule where
  | empty
  | token (token : Token)
  | ref (name : String)
  | seq (rules : List Rule)
  | choice (rules : List Rule)
  | many1 (rule : Rule)
  | prec (level : Int) (side : Option Side) (rule : Rule)
  | dynamic (level : Int) (rule : Rule)
  | labelled (label : Label) (rule : Rule)
  deriving BEq, Hashable

namespace Rule

instance : Coe String Rule := ⟨fun text => .token (.literal text)⟩

def optional (rule : Rule) : Rule :=
  match rule with
  | .choice rules => .choice (rules ++ [.empty])
  | rule => .choice [rule, .empty]

def many (rule : Rule) : Rule :=
  .choice [.many1 rule, .empty]

def sep1 (rule separator : Rule) : Rule :=
  .seq [rule, many (.seq [separator, rule])]

def commaSep1 (rule : Rule) : Rule :=
  sep1 rule ","

def left (level : Int) (rule : Rule) : Rule :=
  .prec level (some .left) rule

def right (level : Int) (rule : Rule) : Rule :=
  .prec level (some .right) rule

def level (level : Int) (rule : Rule) : Rule :=
  .prec level none rule

def shownAs (rule : Rule) (name : String) : Rule :=
  .labelled ⟨name, true⟩ rule

def writtenAs (rule : Rule) (text : String) : Rule :=
  .labelled ⟨text, false⟩ rule

end Rule

structure Language where
  rules : List (String × Rule)
  extras : List String
  layout : List (String × Token)
  watched : List Token
  inlined : List String
  grouping : List String
  reserved : List String

end EnclosingScope.Grammar
