import EnclosingScope.Decimal.Style
import EnclosingScope.KindSet
import EnclosingScope.Mismatch
import EnclosingScope.Toml.Reader
import EnclosingScope.Toml.Report

namespace EnclosingScope

structure Config where
  extraKinds : List String := []
  excludeKinds : List String := []
  deriving DecidableEq, Repr

inductive KindList where
  | extra
  | exclude
  deriving DecidableEq, Repr

namespace KindList

def name : KindList → String
  | extra => "extra_kinds"
  | exclude => "exclude_kinds"

def ofName? (name : String) : Option KindList :=
  if name = extra.name then some extra
  else if name = exclude.name then some exclude
  else none

end KindList

inductive Issue where
  | invalidKind (list : KindList) (kind : String)
  | emptyAllowList
  deriving DecidableEq, Repr

namespace Issue

def message : Issue → String
  | invalidKind list kind =>
      "'" ++ kind ++ "' in " ++ list.name ++ " is not a valid node kind name"
  | emptyAllowList => "configuration leaves no node kinds to search for"

def messages (issues : List Issue) : String :=
  String.intercalate "\n" (issues.map message)

end Issue

def isValidKind (name : String) : Bool :=
  let cs := name.toList
  !cs.isEmpty && cs.all fun c => ('a' ≤ c && c ≤ 'z') || c = '_'

namespace Config

def kinds (c : Config) : KindSet :=
  let extended := c.extraKinds.foldl (fun set kind => (set.insert kind).1) KindSet.scopes
  c.excludeKinds.foldl (fun set kind => (set.erase kind).1) extended

def invalidKinds (list : KindList) (kinds : List String) : List Issue :=
  (kinds.filter fun kind => !isValidKind kind).map (.invalidKind list)

-- Whether any kind is left is asked only of good names.
def issues (c : Config) : List Issue :=
  let invalid := invalidKinds .extra c.extraKinds ++ invalidKinds .exclude c.excludeKinds
  if invalid.isEmpty && c.kinds.isEmpty then [.emptyAllowList] else invalid

def setKinds (c : Config) (kinds : List String) : KindList → Config
  | .extra => { c with extraKinds := kinds }
  | .exclude => { c with excludeKinds := kinds }

end Config

structure SchemaError where
  span : Toml.Span
  mismatch : Mismatch
  deriving DecidableEq, Repr

namespace Config

def floatText (bits : UInt64) : String :=
  if Decimal.isFinite bits then Decimal.Style.plain.write bits
  else if Decimal.fractionOf bits ≠ 0 then "NaN"
  else if Decimal.isNegative bits then "-inf"
  else "inf"

def found : Toml.Item → Found
  | .string value => .text value
  | .integer value => .integer value
  | .float bits => .float (floatText bits)
  | .boolean value => .boolean value
  | .moment => .table
  | .array _ _ => .sequence
  | .table _ _ => .table

def decodeName : Toml.Span × Toml.Item → Except SchemaError String
  | (_, .string value) => .ok value
  | (span, item) => .error ⟨span, .kind (found item) "a string"⟩

def decodeNames : Toml.Span × Toml.Item → Except SchemaError (List String)
  | (_, .array _ items) => items.mapM decodeName
  | (span, item) => .error ⟨span, .kind (found item) "a sequence"⟩

def decodeMember (c : Config) (member : Toml.Key × Toml.Span × Toml.Item) :
    Except SchemaError Config :=
  let (key, value) := member
  match KindList.ofName? key.name with
  | none =>
      .error ⟨key.span, .unknown key.name [KindList.extra.name, KindList.exclude.name]⟩
  | some list => return c.setKinds (← decodeNames value) list

def ofMembers (members : Toml.Members) : Except SchemaError Config :=
  members.foldlM decodeMember {}

end Config

structure Unfit extends SchemaError where
  text : String
  deriving DecidableEq, Repr

def Unfit.message (u : Unfit) : String :=
  u.span.report u.text u.mismatch.message

inductive ConfigFault where
  | syntaxError {report : String}
  | schema (unfit : Unfit)
  | invalid (issues : List Issue)
  deriving DecidableEq, Repr

def ConfigFault.message : ConfigFault → String
  | @syntaxError report => report
  | schema unfit => unfit.message
  | invalid issues => Issue.messages issues

namespace Config

def ofText (refuse : Toml.Refusal) (text : String) : Except ConfigFault Config :=
  match Toml.parse text with
  | none => .error (@ConfigFault.syntaxError (refuse text))
  | some members =>
      match ofMembers members with
      | .error e => .error (.schema ⟨e, text⟩)
      | .ok config =>
          match config.issues with
          | [] => .ok config
          | issues => .error (.invalid issues)

end Config

end EnclosingScope
