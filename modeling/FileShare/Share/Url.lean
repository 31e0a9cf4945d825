import FileShare.Host.Errno
import FileShare.Host.Path

/-!
# Share URLs

A share URL names a server, a share of it, and a path in the share: `server/share/path`, with an
optional scheme in front. A URL without a slash names the server alone. Slashes around a URL mean
nothing; empty segments inside it mean nothing to the file system, but they do count for
`Url.parent?` and `Url.lastSegment`, which work on the text.

`Url.names?` turns a URL into names below the root of all servers. It refuses the empty URL and any
segment that is a dot or two dots, so what it returns never leaves the root.

All functions come twice: on `List Char`, where they are defined, and on `String`.
-/

namespace FileShare.Url

/-! ### On characters -/

/-- The scheme, which is accepted and ignored. -/
def scheme : List Char := ['s', 'm', 'b', ':', '/', '/']

/-- Drop slashes from both ends. -/
def trimSlashes (url : List Char) : List Char :=
  ((url.dropWhile (· = '/')).reverse.dropWhile (· = '/')).reverse

/-- Drop one scheme, if there is one. -/
def dropScheme (url : List Char) : List Char :=
  if scheme.isPrefixOf url then url.drop scheme.length else url

/-- The normal form of a URL: without scheme and without slashes around it. -/
def normal (url : List Char) : List Char :=
  trimSlashes (dropScheme url)

/-- The pieces between slashes; there is always at least one. -/
def split : List Char → List (List Char)
  | [] => [[]]
  | c :: rest =>
    if c = '/' then [] :: split rest
    else
      match split rest with
      | [] => [[c]]
      | piece :: pieces => (c :: piece) :: pieces

/-- The names in a URL: its pieces that are not empty. -/
def segments (url : List Char) : List (List Char) :=
  (split (normal url)).filter (· ≠ [])

/-- What stands behind the last slash. -/
def afterLastSlash (url : List Char) : List Char :=
  (url.reverse.takeWhile (· ≠ '/')).reverse

/-- What stands before the last slash, if there is a slash. -/
def beforeLastSlash? (url : List Char) : Option (List Char) :=
  match url.reverse.dropWhile (· ≠ '/') with
  | [] => none
  | _ :: rest => some rest.reverse

/-- Whether a segment would stay where it is, or go up. -/
def isDots (segment : List Char) : Bool :=
  segment = ['.'] || segment = ['.', '.']

theorem length_trimSlashes_le (url : List Char) : (trimSlashes url).length ≤ url.length := by
  have inner := (List.dropWhile_sublist (· = '/') (l := url)).length_le
  have outer := (List.dropWhile_sublist (· = '/')
    (l := (url.dropWhile (· = '/')).reverse)).length_le
  simp only [trimSlashes, List.length_reverse] at outer ⊢
  omega

theorem length_normal_le (url : List Char) : (normal url).length ≤ url.length := by
  refine Nat.le_trans (length_trimSlashes_le _) ?_
  unfold dropScheme
  split <;> simp

theorem length_beforeLastSlash?_lt {url parent : List Char}
    (h : beforeLastSlash? url = some parent) : parent.length < url.length := by
  have sub := (List.dropWhile_sublist (· ≠ '/') (l := url.reverse)).length_le
  unfold beforeLastSlash? at h
  split at h
  · simp at h
  · rename_i c rest eq
    simp only [Option.some.injEq] at h
    simp only [eq, List.length_cons, List.length_reverse] at sub
    simp only [← h, List.length_reverse]
    omega

/-! ### On strings -/

/-- A URL without scheme and without slashes around it. -/
def normalize (url : String) : String :=
  String.ofList (normal url.toList)

/-- Whether a URL names a server, and no path on it. -/
def isServer (url : String) : Bool :=
  !(normal url.toList).contains '/'

/-- The last segment of a URL. -/
def lastSegment (url : String) : String :=
  String.ofList (afterLastSlash (normal url.toList))

/-- The URL one level up; a server has none. -/
def parent? (url : String) : Option String :=
  (beforeLastSlash? (normal url.toList)).map String.ofList

/-- **Going up makes a URL shorter,** which bounds every climb. -/
theorem length_parent?_lt {url parent : String} (h : parent? url = some parent) :
    parent.toList.length < url.toList.length := by
  obtain ⟨chars, eq, rfl⟩ := Option.map_eq_some_iff.1 h
  have := length_beforeLastSlash?_lt eq
  have := length_normal_le url.toList
  simp only [String.toList_ofList]
  omega

/-- The URL of an entry below a URL. -/
def join (url name : String) : String :=
  normalize url ++ "/" ++ name

/-- The names below the root of all servers that a URL stands for, from the top down. -/
def names? (url : String) : Except Errno (List Name) :=
  if normal url.toList = [] then
    .error .invalid
  else if (segments url.toList).any isDots then
    .error .accessDenied
  else
    .ok ((segments url.toList).map fun segment => (String.ofList segment).toUTF8)

end FileShare.Url
