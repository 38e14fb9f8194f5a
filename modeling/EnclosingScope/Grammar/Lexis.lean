import EnclosingScope.Grammar.Item

namespace EnclosingScope.Grammar

inductive CharClass where
  | only (c : Char)
  | letter
  | wordCharacter
  | digit
  | nearlyAny
  deriving DecidableEq

namespace CharClass

def isLetter (c : Char) : Bool :=
  c.isAlpha || c == '_'

def meets : CharClass → CharClass → Bool
  | .only a, .only b => a == b
  | .only a, .letter => isLetter a
  | .only a, .wordCharacter => isLetter a || a.isDigit
  | .only a, .digit => a.isDigit
  | .only a, .nearlyAny => !(a == '\n' || a == '\x7b' || a == '\x7d')
  | .letter, .only a => isLetter a
  | .wordCharacter, .only a => isLetter a || a.isDigit
  | .digit, .only a => a.isDigit
  | .nearlyAny, .only a => !(a == '\n' || a == '\x7b' || a == '\x7d')
  | .letter, .digit => false
  | .digit, .letter => false
  | _, _ => true

end CharClass

namespace Token

def isKeywordText (text : String) : Bool :=
  match text.toList with
  | [] => false
  | c :: cs => CharClass.isLetter c && cs.all fun c => CharClass.isLetter c || c.isDigit

def isKeyword : Token → Bool
  | .literal text => isKeywordText text
  | _ => false

def isLayout : Token → Bool
  | .newline | .indent | .dedent | .stringStart | .stringText | .doubledBrace | .stringEnd => true
  | _ => false

def firstChars : Token → List CharClass
  | .literal text =>
      match text.toList with
      | [] => []
      | c :: _ => [.only c]
  | .identifier => [.letter]
  | .integer => [.digit]
  | .float => [.digit, .only '.']
  | .comment => [.only '#']
  | .lineContinuation | .escapeSequence | .loneBackslash => [.only '\\']
  | .typeConversion => [.only '!']
  | .formatText => [.nearlyAny]
  | _ => []

def continuations (long short : Token) : List CharClass :=
  match long, short with
  | .literal a, .literal b =>
      if a != b && a.startsWith b then
        match (a.toList.drop b.length) with
        | [] => []
        | c :: _ => [.only c]
      else []
  | .identifier, .literal text => if isKeywordText text then [.wordCharacter] else []
  | .float, .integer => [.only '.', .only 'e', .only 'E']
  | .float, .literal "." => [.digit]
  | .lineContinuation, .loneBackslash | .escapeSequence, .loneBackslash =>
      [.only '\n', .only '\r', .only '\\', .only '\'', .only '\"', .letter, .digit]
  | .formatText, .literal text => if text == "\x7b" || text == "\x7d" then [] else [.nearlyAny]
  | .formatText, .identifier | .formatText, .integer | .formatText, .float
  | .formatText, .typeConversion | .formatText, .loneBackslash | .formatText, .escapeSequence =>
      [.nearlyAny]
  | _, _ => []

def outranks (token other : Token) : Bool :=
  match token, other with
  | .literal text, .identifier => isKeywordText text
  | .formatText, .literal text => text != "\x7b" && text != "\x7d"
  | .formatText, .identifier | .formatText, .integer | .formatText, .float
  | .formatText, .typeConversion | .formatText, .comment => true
  | .escapeSequence, .lineContinuation => true
  | _, _ => false

end Token

def lastTokens (g : Productions) : Array TokenSet :=
  firstTokens { g with
    productions := g.productions.map fun production =>
      { production with steps := production.steps.reverse } }

def followingTokens (g : Productions) (firsts : Array TokenSet) : Array TokenSet :=
  let lasts := lastTokens g
  let all := TokenSet.ofList (List.range g.tokens.size)
  let pairs := g.productions.foldl (fun (acc : Array TokenSet) production =>
    (production.steps.zip production.steps.tail).foldl (fun acc (a, b) =>
      (lasts.getD a.symbol .empty).toList.foldl (fun acc token =>
        acc.modify token (·.union (firsts.getD b.symbol .empty))) acc) acc)
    (Array.replicate g.tokens.size TokenSet.empty)
  g.extras.foldl (fun acc extra =>
    (acc.map (·.insert extra)).setIfInBounds extra all) pairs

structure Lexis where
  clashes : Array TokenSet
  equals : Array TokenSet
  overlaps : Array TokenSet

namespace Lexis

def ofProductions (g : Productions) (firsts : Array TokenSet) : Lexis :=
  let following := followingTokens g firsts
  let followChars := following.map fun set =>
    (set.toList.flatMap fun token =>
      match g.tokens[token]? with
      | some token => token.firstChars
      | none => []).eraseDups
  let relation (holds : Nat → Token → Nat → Token → Bool) : Array TokenSet :=
    (g.tokens.toList.zipIdx.map fun (token, i) =>
      TokenSet.ofList ((g.tokens.toList.zipIdx.filter fun (other, j) =>
        i != j && holds i token j other).map (·.2))).toArray
  { clashes := relation fun _ token j other =>
      token.outranks other || (token.continuations other).any fun c =>
        (followChars.getD j []).any c.meets
    equals := relation fun _ token _ other => token.outranks other
    overlaps := relation fun _ token _ other =>
      token.outranks other || other.outranks token || !(token.continuations other).isEmpty
        || !(other.continuations token).isEmpty }

end Lexis

end EnclosingScope.Grammar
