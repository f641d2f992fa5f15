import Mathlib.Data.List.Infix
import Rossoctl.Bundle.Policies

/-!
# The archive of a client

`internal/bundleservice/bundle`: the content hash of a list of policies, which is
the ETag of the bundle (`Rossoctl.Bundle.Tooling.contentHash`), and the archive
itself (`Rossoctl.Bundle.Tooling.build`), whose paths are checked first
(`Rossoctl.Bundle.validatePath`).

Sorting by a comparison of paths, hashing, and the tar and gzip formats are
parameters (`Rossoctl.Bundle.Tooling`), with what their documentation says of them:
the sort permutes, and leaves no later path smaller than an earlier one, but does
not say in which order policies of one path come out.
-/

namespace Rossoctl.Bundle

/-- A policy in a bundle, under its path in the archive. -/
structure Policy where
  path : String
  content : String
  deriving DecidableEq

/-- Bytes. -/
abbrev Data := List UInt8

/-! ### Paths -/

/-- The elements of a path with `.` and empty ones left out and `..` resolved; the
accumulator is in reverse. Above a root there is nothing, above a relative path
there is `..` again. -/
def cleanElements (rooted : Bool) : List String → List String → List String
  | acc, [] => acc.reverse
  | acc, e :: es =>
    if e = "" ∨ e = "." then cleanElements rooted acc es
    else if e = ".." then
      match acc with
      | [] => cleanElements rooted (if rooted then [] else [".."]) es
      | a :: acc =>
        if a = ".." then cleanElements rooted (".." :: a :: acc) es
        else cleanElements rooted acc es
    else cleanElements rooted (e :: acc) es

/-- `filepath.Clean`, for paths with slashes. -/
def clean (path : String) : String :=
  let rooted := Kube.hasPrefix path "/"
  let elements := cleanElements rooted [] ((path.toList.splitOn '/').map String.ofList)
  let out := (if rooted then "/" else "") ++ "/".intercalate elements
  if out = "" then "." else out

/-- `validatePath`: what is wrong with the path of a policy, if anything. -/
def validatePath (path : String) : Option String :=
  if path = "" then some "empty policy path"
  else if Kube.hasPrefix path "/" then some ("absolute path not allowed: " ++ path)
  else if ['.', '.'] <:+: path.toList then some ("path traversal not allowed: " ++ path)
  else if Kube.hasPrefix (clean path) ".." then some ("path escapes bundle root: " ++ path)
  else none

example : clean "a//b/./../c/" = "a/c" := by decide +kernel

/-! ### Hash and archive -/

/-- The parts of the standard library that an archive is made with. -/
structure Tooling where
  /-- `sort.Slice` by the path. -/
  sortByPath : List Policy → List Policy
  sortByPath_perm : ∀ l, (sortByPath l).Perm l
  sortByPath_pairwise : ∀ l, (sortByPath l).Pairwise fun p q => ¬ q.path < p.path
  /-- SHA-256, in hexadecimal. -/
  sha256 : Data → String
  /-- The tar writer's error about the header of an entry with this name. -/
  writeHeader : String → Option String
  /-- The tar writer's error about the content of an entry. -/
  write : Policy → Option String
  /-- What has come out of the gzip writer when the policies have been written to it
  and it has been neither flushed nor closed. -/
  emitted : List Policy → Data
  /-- The closed archive of the policies and the text of the manifest. -/
  archive : List Policy → String → Data

namespace Tooling

variable (tools : Tooling)

/-- A hash with the name of its algorithm. -/
def digest (bytes : Data) : String := "sha256:" ++ tools.sha256 bytes

/-- What a policy contributes to the content hash. -/
def preimage (p : Policy) : Data :=
  (p.path ++ "\x00" ++ p.content ++ "\x00").toUTF8.toList

/-- `ContentHash`: the order of the policies does not matter. -/
def contentHash (policies : List Policy) : String :=
  if policies.isEmpty then "sha256:empty"
  else tools.digest ((tools.sortByPath policies).flatMap preimage)

/-- The manifest, as `json.Marshal` writes it. -/
def manifest (revision : String) : String :=
  "\x7b\"revision\":\"" ++ revision ++ "\",\"roots\":[\"authbridge\"]\x7d"

/-- The error of the tar writer about an entry: its header comes first. -/
def entryError (header content : String) (p : Policy) : Option String :=
  (tools.writeHeader p.path).map (header ++ ·) <|> (tools.write p).map (content ++ ·)

/-- The error about the entry of a policy. -/
def policyError (p : Policy) : Option String :=
  tools.entryError ("writing tar header for " ++ p.path ++ ": ")
    ("writing tar content for " ++ p.path ++ ": ") p

/-- **`Build`**: the archive of a list of policies, and its hash. -/
def build (policies : List Policy) : Except String (Data × String) :=
  match policies.findSome? fun p => validatePath p.path with
  | some err => .error err
  | none =>
    let sorted := tools.sortByPath policies
    match sorted.findSome? tools.policyError with
    | some err => .error err
    | none =>
      -- The revision is taken from what the compressor has let go of so far.
      let revision := tools.digest (tools.emitted sorted)
      match tools.entryError "writing manifest header: " "writing manifest content: "
          ⟨".manifest", manifest revision⟩ with
      | some err => .error err
      | none =>
        let data := tools.archive sorted (manifest revision)
        .ok (data, tools.digest data)

end Tooling

end Rossoctl.Bundle
