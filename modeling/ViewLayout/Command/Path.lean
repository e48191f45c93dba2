import ViewLayout.Text.Quoted

/-!
# Paths of files

How a path is written, the folders that it goes through, and why a path may be of no use.
`plainPath` is a path without the parts that lead nowhere, and `foldersAbove` are the folders that a
file at a path needs, the nearest first.
-/

namespace ViewLayout.Command

/-- Why a file cannot be used. -/
inductive FileError
  | missing (path : String)
  | isDirectory (path : String)
  | notDirectory (path : String)
  | occupied (path : String)
  | nameTooLong (path : String)
  | nullInPath
  /-- Surrogates stand in the path, at the positions from the first to the last. -/
  | notEncodable (first last surrogate : Nat)
deriving DecidableEq

/-- What is said of a path with lone surrogates, by the positions of the first and the last one. -/
def notEncodableMessage (first last surrogate : Nat) : String :=
  let digits := String.ofList (Text.hexDigits 4 surrogate)
  let place :=
    if first = last then s!"character '\\u" ++ digits ++ s!"' in position {first}"
    else s!"characters in position {first}-{last}"
  s!"'utf-8' codec can't encode " ++ place ++ ": surrogates not allowed"

/-- What the system says when it cannot use a file. -/
def FileError.message : FileError → String
  | missing path => s!"[Errno 2] No such file or directory: {Text.quote path}"
  | isDirectory path => s!"[Errno 21] Is a directory: {Text.quote path}"
  | notDirectory path => s!"[Errno 20] Not a directory: {Text.quote path}"
  | occupied path => s!"[Errno 17] File exists: {Text.quote path}"
  | nameTooLong path => s!"[Errno 36] File name too long: {Text.quote path}"
  | nullInPath => "embedded null byte"
  | notEncodable first last surrogate => notEncodableMessage first last surrogate

/-- The parts of a path between its slashes. -/
def pathParts (path : List Char) : List (List Char) :=
  match path with
  | [] => [[]]
  | c :: rest =>
    match c == '/', pathParts rest with
    | true, parts => [] :: parts
    | false, part :: parts => (c :: part) :: parts
    | false, [] => [[c]]

/-- The parts of a path that are neither empty nor stay where they are. -/
def pathNames (path : String) : List String :=
  ((pathParts path.toList).filter fun part => !part.isEmpty && part != ['.']).map String.ofList

/-- The slashes with which a path starts; more than two are one. -/
def pathStart (path : String) : String :=
  match path.toList with
  | '/' :: '/' :: '/' :: _ => "/"
  | '/' :: '/' :: _ => "//"
  | '/' :: _ => "/"
  | _ => ""

/-- A path from its start and its names; an empty one is the folder in use. -/
def joinPath (start : String) (names : List String) : String :=
  let joined := start ++ "/".intercalate names
  if joined.isEmpty then "." else joined

/-- A path without empty parts and parts that stay where they are. -/
def plainPath (path : String) : String :=
  joinPath (pathStart path) (pathNames path)

/-- The folders that a file at a path is in, the nearest first. -/
def foldersAbove (path : String) : List String :=
  let names := pathNames path
  (List.range (max names.length 1)).reverse.map fun kept =>
    joinPath (pathStart path) (names.take kept)

/-- Whether a code point stands for an octet that belongs to no character. -/
def isOctetStandIn (point : Nat) : Bool :=
  0xdc80 ≤ point && point < 0xdd00

/-- How many octets a code point takes in a path. -/
def octetCount (point : Nat) : Nat :=
  if point < 0x80 ∨ isOctetStandIn point then 1
  else if point < 0x800 then 2
  else if point < 0x10000 then 3
  else 4

/-- How many octets a path takes. -/
def pathSize (text : List Char) : Nat :=
  (Text.codePoints text).foldl (fun size code => size + octetCount code) 0

/-- The octets of a path with the one that ends it are at most these. -/
def pathSizeLimit : Nat := 4096

/-- The most octets that a name has. -/
def nameSizeLimit : Nat := 255

/-- The fault of the first surrogate that no path can hold, and of those that follow it, from a
position on. -/
def surrogateFault? : Nat → List Nat → Option FileError
  | _, [] => none
  | position, point :: rest =>
    if Text.isSurrogate point && !isOctetStandIn point then
      some (.notEncodable position (position + (rest.takeWhile Text.isSurrogate).length) point)
    else surrogateFault? (position + 1) rest

/-- What is wrong with a path before it is followed. -/
def pathFault? (path : String) : Option FileError :=
  match surrogateFault? 0 (Text.codePoints path.toList) with
  | some fault => some fault
  | none =>
    if path.toList.contains '\x00' then some .nullInPath
    else if pathSizeLimit ≤ pathSize path.toList then some (.nameTooLong path)
    else none

end ViewLayout.Command
