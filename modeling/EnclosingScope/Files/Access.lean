import EnclosingScope.Files.Path

namespace EnclosingScope.Files

inductive AccessError where
  | notFound
  | notDirectory
  | isDirectory
  | nameTooLong
  | linkLoop
  | nullInName
  | notText
  | other (message : String)
  deriving DecidableEq, Repr

def AccessError.message : AccessError → String
  | notFound => "No such file or directory (os error 2)"
  | notDirectory => "Not a directory (os error 20)"
  | isDirectory => "Is a directory (os error 21)"
  | nameTooLong => "File name too long (os error 36)"
  | linkLoop => "Too many levels of symbolic links (os error 40)"
  | nullInName => "file name contained an unexpected NUL byte"
  | notText => "stream did not contain valid UTF-8"
  | other message => message

structure WalkError where
  place : Option Path
  error : AccessError
  deriving DecidableEq, Repr

def WalkError.message (e : WalkError) : String :=
  match e.place with
  | some place => "IO error for operation on " ++ place.shown ++ ": " ++ e.error.message
  | none => e.error.message

structure Access where
  read : Path → Except AccessError ByteArray
  -- For a path that leads to a directory, the first error of a walk over what lies below it, or
  -- else the regular files there by the names that lead to them, in any order.
  below : Path → Option (Except WalkError (List (List Path)))

def Access.readText (files : Access) (path : Path) : Except AccessError String :=
  match files.read path with
  | .error e => .error e
  | .ok bytes =>
      match String.fromUTF8? bytes with
      | some text => .ok text
      | none => .error .notText

end EnclosingScope.Files
