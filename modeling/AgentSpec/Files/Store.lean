import AgentSpec.Files.Basic
import AgentSpec.Text.Cut

/-! Files and directories that are kept in a value. -/
namespace AgentSpec

inductive FileEntry where
  | text (content : String)
  | binary
  | directory
deriving DecidableEq

/-- The names on the way from the root to a file or directory. -/
abbrev Location := List String

/-- The entries by their locations. The root itself is always a directory. -/
structure FileStore where
  entries : List (Location × FileEntry) := []
deriving DecidableEq

namespace FileStore

def entry? (store : FileStore) (location : Location) : Option FileEntry :=
  if location.isEmpty then some .directory else store.entries.lookup location

def put (store : FileStore) (location : Location) (entry : FileEntry) : FileStore :=
  ⟨(location, entry) :: store.entries.filter (·.1 != location)⟩

/-- The longest name of a file or directory, in octets. -/
def nameLimit : Nat := 255

/-- The number of octets that a path has to stay below. -/
def pathLimit : Nat := 4096

/-- A way through directories: the names on it, and the number of octets that spell it. -/
structure Route where
  names : List String := []
  size : Nat := 0

namespace Route

/-- One more piece of a path. Empty pieces and dots add no name. -/
def add (route : Route) (piece : String) : Route where
  names := if piece == "" || piece == "." then route.names else route.names ++ [piece]
  size := route.size + piece.utf8ByteSize

/-- Paths with a zero or too many octets lead nowhere, nor does the empty path. -/
def check (route : Route) : Except FileError Unit :=
  if route.names.any (·.contains '\x00') then .error .zeroInName
  else if pathLimit ≤ route.size then .error .nameTooLong
  else if route.size = 0 then .error .notFound
  else .ok ()

end Route

def pieces (path : String) : List String := (Text.cutAt '/' path.toList).map String.ofList

/-- The routes to the directories that a path leads through, the farthest first. -/
def routesAlong (path : String) : List Route :=
  let step (state : Route × List Route) (piece : String) : Route × List Route :=
    let route := state.1.add piece
    let routes := if route.names.length = state.1.names.length then state.2 else route :: state.2
    ({ route with size := route.size + 1 }, routes)
  ((pieces path).foldl step ({}, [])).2

def wholeRoute (path : String) : Route :=
  ⟨(pieces path).filter fun name => name != "" && name != ".", path.utf8ByteSize⟩

/-- The routes to the directories above what a path leads to, the farthest first. -/
def routesAbove (path : String) : List Route := (routesAlong path).drop 1

def endsInSlash (path : String) : Bool := path.endsWith "/"

/-- Whether the last piece of a path is a dot, so that it leads into a directory. -/
def endsInDot (path : String) : Bool :=
  ((pieces path).filter (· != "")).getLast? == some "."

/-- One name further; two dots lead back. -/
def step (location : Location) (name : String) : Except FileError Location :=
  if name == ".." then .ok location.dropLast
  else if nameLimit < name.utf8ByteSize then .error .nameTooLong
  else .ok (location ++ [name])

/-- The location at the end of some names, all of which have to lead to directories. -/
def descend (store : FileStore) (location : Location) : List String → Except FileError Location
  | [] => .ok location
  | name :: rest => do
    let next ← step location name
    match store.entry? next with
    | some .directory => store.descend next rest
    | some _ => .error .notDirectory
    | none => .error .notFound

/-- The directory above the end of a route, and the last name on it. -/
def approach (store : FileStore) (route : Route) : Except FileError (Location × String) := do
  route.check
  let location ← store.descend [] route.names.dropLast
  pure (location, route.names.getLast?.getD "..")

def find (store : FileStore) (path : String) : Except FileError FileEntry := do
  let (above, name) ← store.approach (wholeRoute path)
  match store.entry? (← step above name) with
  | none => throw .notFound
  | some .directory => pure .directory
  | some entry =>
    if endsInSlash path || endsInDot path then throw .notDirectory else pure entry

def read (store : FileStore) (path : String) : Except FileError String := do
  match ← store.find path with
  | .text content => pure content
  | .binary => throw .notText
  | .directory => throw .isDirectory

/-- The store with a directory at the end of a route, where nothing may be yet. -/
def makeDirectory (store : FileStore) (route : Route) : Except FileError FileStore := do
  let (above, name) ← store.approach route
  if name == ".." then throw .alreadyThere
  let location ← step above name
  if (store.entry? location).isSome then throw .alreadyThere
  pure (store.put location .directory)

def leadsToDirectory (store : FileStore) (route : Route) : Bool :=
  (do route.check; store.descend [] route.names).isOk

/-- Makes a directory. An error does not count if the directory is there already. -/
def ensureDirectory (store : FileStore) (route : Route) : Except FileError Unit × FileStore :=
  match store.makeDirectory route with
  | .ok made => (.ok (), made)
  | .error error => (if store.leadsToDirectory route then .ok () else .error error, store)

/-- Makes a directory, and where something above it is missing those above it first. What has been
made stays even if a later directory cannot be made. -/
def ensureDirectories (store : FileStore) : List Route → Except FileError Unit × FileStore
  | [] => (.ok (), store)
  | route :: above =>
    match store.makeDirectory route with
    | .error .notFound =>
      match store.ensureDirectories above with
      | (.error error, made) => (.error error, made)
      | (.ok (), made) => made.ensureDirectory route
    | _ => store.ensureDirectory route

/-- Sets the entry that a path leads to, unless it is a directory. -/
def place (store : FileStore) (path : String) (entry : FileEntry) : Except FileError FileStore := do
  let route := wholeRoute path
  let (above, name) ← store.approach route
  if endsInDot path || name == ".." then
    let _ ← store.descend [] route.names
    throw .isDirectory
  if endsInSlash path then throw .isDirectory
  let location ← step above name
  if store.entry? location == some .directory then throw .isDirectory
  pure (store.put location entry)

/-- Writes a file. Directories that were made for it stay even if it cannot be written. -/
def write (store : FileStore) (path : String) (entry : FileEntry) :
    Except FileError Unit × FileStore :=
  match store.ensureDirectories (routesAbove path) with
  | (.error error, made) => (.error error, made)
  | (.ok (), made) =>
    match made.place path entry with
    | .error error => (.error error, made)
    | .ok written => (.ok (), written)

end FileStore

instance : Files (StateM FileStore) where
  read path := do return (← get).read path
  write path content := modifyGet fun store => store.write path (.text content)

end AgentSpec
