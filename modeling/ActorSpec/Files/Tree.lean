import ActorSpec.Files.Path
import ActorSpec.Text.Quoted
import ActorSpec.Text.Utf8

/-!
# File trees

Directories and files with their contents, seen from a working directory. A place in the tree is the
list of its steps from the root. A path is followed step by step: every step has to be taken in a
directory, with a name that is not too long, and two dots lead back to the directory above. Everything
in a tree may be read and written.
-/

namespace ActorSpec

/-- The steps from the root. -/
abbrev Place := List String

inductive FileNode where
  | file (content : ByteArray)
  | directory

structure FileTree where
  cwd : Place
  nodes : List (Place × FileNode)

inductive FileCause where
  | notFound
  | exists
  | notADirectory
  | isADirectory
  | nameTooLong
  | nullCharacter
  /-- The text of the path has no bytes. -/
  | unencodable (fault : Text.EncodeFault)
deriving DecidableEq

/-- Why an operation on a path failed. -/
structure FileFault where
  cause : FileCause
  path : FilePath
deriving DecidableEq

def FileFault.message (f : FileFault) : String :=
  let about := fun (text : String) => text ++ ": " ++ Text.quoted f.path.text
  match f.cause with
  | .notFound => about "[Errno 2] No such file or directory"
  | .exists => about "[Errno 17] File exists"
  | .notADirectory => about "[Errno 20] Not a directory"
  | .isADirectory => about "[Errno 21] Is a directory"
  | .nameTooLong => about "[Errno 36] File name too long"
  | .nullCharacter => "embedded null byte"
  | .unencodable fault => fault.message

namespace FileTree

/-- What is at a place; the root is always a directory. -/
def node? (t : FileTree) (place : Place) : Option FileNode :=
  if place = [] then some .directory else t.nodes.lookup place

/-- Enters a node at a place, instead of what is entered there. -/
def enter (place : Place) (node : FileNode) : List (Place × FileNode) → List (Place × FileNode)
  | [] => [(place, node)]
  | e :: rest => if e.1 = place then (place, node) :: rest else e :: enter place node rest

/-- Puts a node at a place. -/
def put (t : FileTree) (place : Place) (node : FileNode) : FileTree :=
  { t with nodes := enter place node t.nodes }

/-- Takes a place and everything below it away. -/
def remove (t : FileTree) (place : Place) : FileTree :=
  { t with nodes := t.nodes.filter fun e => !place.isPrefixOf e.1 }

/-! ## Following paths -/

/-- The greatest number of bytes in one step. -/
def maxName : Nat := 255

/-- The greatest number of bytes in the text of a path. -/
def maxPath : Nat := 4095

/-- The place that steps lead to; what is there does not matter. -/
def follow (t : FileTree) : Place → List String → Except FileCause Place
  | place, [] => .ok place
  | place, step :: rest =>
    match t.node? place with
    | none => .error .notFound
    | some (.file _) => .error .notADirectory
    | some .directory =>
      if maxName < Text.nameLength step then .error .nameTooLong
      else t.follow (if step = ".." then place.dropLast else place ++ [step]) rest

/-- What is wrong with a path, whatever is in the tree. -/
def pathFault? (p : FilePath) : Option FileCause :=
  match Text.encodeFault? .utf8 Text.isNameByte p.text with
  | some fault => some (.unencodable fault)
  | none =>
    if p.steps.any (·.toList.contains '\x00') then some .nullCharacter
    else if maxPath < Text.nameLength p.text then some .nameTooLong
    else none

def placeOf (t : FileTree) (p : FilePath) : Except FileCause Place :=
  match pathFault? p with
  | some cause => .error cause
  | none => t.follow (if p.root.absolute then [] else t.cwd) p.steps

/-- What a path leads to, if it leads to anything. -/
def at? (t : FileTree) (p : FilePath) : Option FileNode :=
  match t.placeOf p with
  | .ok place => t.node? place
  | .error _ => none

/-- What a path leads to, for those who ask whether it leads to anything. A path with a name that is too
long has no answer; anything else that is wrong with a path means that it leads to nothing. -/
def ask (t : FileTree) (p : FilePath) : Except FileFault (Option FileNode) :=
  match t.placeOf p with
  | .ok place => .ok (t.node? place)
  | .error .nameTooLong => .error ⟨.nameTooLong, p⟩
  | .error _ => .ok none

def «exists» (t : FileTree) (p : FilePath) : Bool := (t.at? p).isSome

def isFile (t : FileTree) (p : FilePath) : Bool :=
  match t.at? p with
  | some (.file _) => true
  | _ => false

def isDirectory (t : FileTree) (p : FilePath) : Bool :=
  match t.at? p with
  | some .directory => true
  | _ => false

/-! ## Reading and writing -/

def read (t : FileTree) (p : FilePath) : Except FileFault ByteArray :=
  match t.placeOf p with
  | .error cause => .error ⟨cause, p⟩
  | .ok place =>
    match t.node? place with
    | none => .error ⟨.notFound, p⟩
    | some .directory => .error ⟨.isADirectory, p⟩
    | some (.file content) => .ok content

/-- Gives a file a new content, or makes a new one in a directory that is there. -/
def write (t : FileTree) (p : FilePath) (content : ByteArray) : Except FileFault FileTree :=
  match t.placeOf p with
  | .error cause => .error ⟨cause, p⟩
  | .ok place =>
    match t.node? place with
    | some .directory => .error ⟨.isADirectory, p⟩
    | _ => .ok (t.put place (.file content))

/-- Makes one directory in another that is there. -/
def makeDirectory (t : FileTree) (p : FilePath) : Except FileFault FileTree :=
  match t.placeOf p with
  | .error cause => .error ⟨cause, p⟩
  | .ok place =>
    if (t.node? place).isSome then .error ⟨.exists, p⟩ else .ok (t.put place .directory)

/-- Makes a directory; one that is there already is as good. -/
def makeDirectoryAnyway (t : FileTree) (p : FilePath) : Except FileFault FileTree :=
  match t.makeDirectory p with
  | .ok t => .ok t
  | .error fault =>
    if fault.cause ≠ .notFound ∧ t.isDirectory p then .ok t else .error fault

/-- Makes the directory at the end of so many steps, and those on the way that are missing. What has
been made when it fails stays. -/
def makeDirectories : Nat → FileTree → FilePath → FileTree × Option FileFault
  | depth, t, p =>
    match t.makeDirectoryAnyway p, depth with
    | .ok t, _ => (t, none)
    | .error fault, 0 => (t, some fault)
    | .error fault, depth + 1 =>
      if fault.cause ≠ .notFound then (t, some fault)
      else
        match makeDirectories depth t p.parent with
        | (t, some fault) => (t, some fault)
        | (t, none) =>
          match t.makeDirectoryAnyway p with
          | .ok t => (t, none)
          | .error fault => (t, some fault)

end FileTree

/-- The text that bytes stand for, with every kind of line break as a line feed. -/
def decodeText? (content : ByteArray) : Option String :=
  (Text.decode? content).map fun s => String.ofList (lineFeeds s.toList)
where
  lineFeeds : List Char → List Char
    | '\r' :: '\n' :: rest => '\n' :: lineFeeds rest
    | '\r' :: rest => '\n' :: lineFeeds rest
    | c :: rest => c :: lineFeeds rest
    | [] => []

end ActorSpec
