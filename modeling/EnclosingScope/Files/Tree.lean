import EnclosingScope.Files.Access

namespace EnclosingScope.Files

-- A special file is a pipe, a socket or a device; what reading it gives is its own affair.
inductive Entry where
  | file (bytes : ByteArray)
  | directory (entries : List (Path × Entry))
  | link (target : Path)
  | special (content : Except AccessError ByteArray)

def nameLimit : Nat := 255

def pathLimit : Nat := 4096

def linkLimit : Nat := 40

namespace Entry

def find? (name : Path) : List (Path × Entry) → Option Entry
  | [] => none
  | (other, entry) :: rest => if other = name then some entry else find? name rest

def get? (entry : Entry) : List Path → Option Entry
  | [] => some entry
  | name :: names =>
      match entry with
      | directory entries =>
          match find? name entries with
          | some entry => entry.get? names
          | none => none
      | _ => none

def replace (name : Path) (entry : Entry) : List (Path × Entry) → List (Path × Entry)
  | [] => [(name, entry)]
  | (other, old) :: rest =>
      if other = name then (name, entry) :: rest else (other, old) :: replace name entry rest

-- A directory that is there already stays as it is.
def put (new : Entry) : List Path → Entry → Entry
  | [], old =>
      match new, old with
      | directory [], directory entries => directory entries
      | _, _ => new
  | name :: names, old =>
      let entries := match old with | directory entries => entries | _ => []
      let child := (find? name entries).getD (directory [])
      directory (replace name (put new names child) entries)

mutual

-- A directory is opened by its path, so one that lies too deep ends the walk.
def walk (path : Path) : Entry → Except WalkError (List (List Path))
  | file _ => .ok [[]]
  | link _ => .ok []
  | special _ => .ok []
  | directory entries =>
      if pathLimit ≤ path.bytes.length then .error ⟨some path, .nameTooLong⟩
      else walkIn path entries

def walkIn (path : Path) : List (Path × Entry) → Except WalkError (List (List Path))
  | [] => .ok []
  | (name, entry) :: rest =>
      match walk (path.join [name]) entry with
      | .error e => .error e
      | .ok here =>
          match walkIn path rest with
          | .error e => .error e
          | .ok later => .ok (here.map (name :: ·) ++ later)

end

end Entry

inductive Turn where
  | place (here : List Path)
  | link (here : List Path) (target : Path)

-- A place is given by the names that lead to it from the top, last first.
def turn (top : Entry) (here : List Path) (name : Path) : Except AccessError Turn :=
  match top.get? here.reverse with
  | some (.directory entries) =>
      if name.bytes = [dot] then .ok (.place here)
      else if name.bytes = [dot, dot] then .ok (.place here.tail)
      else if nameLimit < name.bytes.length then .error .nameTooLong
      else
        match Entry.find? name entries with
        | none => .error .notFound
        | some (.link target) => .ok (.link (if target.isAbsolute then [] else here) target)
        | some _ => .ok (.place (name :: here))
  | _ => .error .notDirectory

def resolveWith (top : Entry)
    (through : List Path → List Path → Except AccessError (List Path)) (here : List Path) :
    List Path → Except AccessError (List Path)
  | [] => .ok here
  | name :: rest =>
      match turn top here name with
      | .error e => .error e
      | .ok (.place here) => resolveWith top through here rest
      | .ok (.link here target) => through here (splitPath target ++ rest)

-- Goes through links at most as often as the number says.
def resolve (top : Entry) : Nat → List Path → List Path → Except AccessError (List Path)
  | 0 => resolveWith top fun _ _ => .error .linkLoop
  | links + 1 => resolveWith top (resolve top links)

def lookup (top : Entry) (home : List Path) (path : Path) : Except AccessError Entry :=
  if path.bytes.contains 0 then .error .nullInName
  else if path.bytes.isEmpty then .error .notFound
  else if pathLimit ≤ path.bytes.length then .error .nameTooLong
  else
    match resolve top linkLimit (if path.isAbsolute then [] else home.reverse)
      (splitPath path) with
    | .error e => .error e
    | .ok here =>
        match top.get? here.reverse with
        | some entry => .ok entry
        | none => .error .notFound

def Access.ofTree (top : Entry) (home : List Path) : Access where
  read path :=
    match lookup top home path with
    | .ok (.file bytes) => .ok bytes
    | .ok (.special content) => content
    | .ok _ => .error .isDirectory
    | .error e => .error e
  below path :=
    match lookup top home path with
    | .ok (.directory entries) => some (Entry.walkIn path entries)
    | _ => none

end EnclosingScope.Files
