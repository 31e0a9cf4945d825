import FileShare.Share.Store

/-!
# Whole branches of a share

A branch is made from the top down and removed from the bottom up, with the same calls that anybody
may make; there is no call for a whole branch.

`Share.makeBranch` learns from the error numbers how far up directories are missing. It never makes
a server. `Share.clear` removes what stands below a directory as far as it can: a failure keeps
what it concerns, and is told to nobody but the record of calls.
-/

namespace FileShare.Share

/-- Make a directory, and the directories above it that are missing. One that exists is as good as
one that was made. -/
def makeBranch (url : String) : ShareM Unit := do
  match ← outcome (makeDirectory url) with
  | .ok () => pure ()
  | .error error =>
    if error.errno = .exists_ then
      pure ()
    else if error.errno = .notFound then
      match _ : Url.parent? url with
      | none => throw error
      | some parent =>
        if Url.isServer parent then
          throw error
        else
          makeBranch parent
          match ← outcome (makeDirectory url) with
          | .ok () => pure ()
          | .error error => if error.errno = .exists_ then pure () else throw error
    else
      throw error
termination_by url.toList.length
decreasing_by exact Url.length_parent?_lt ‹_›

/-- Remove the entries of a directory, with all that stands below them. What is listed as a link is
removed and not followed. The bound is on the depth. -/
def clearEntries : Nat → String → List Entry → StateM Store Unit
  | depth, url, [] => do
    let _ := depth
    tolerate (nextEntry ⟨url, []⟩)
  | depth, url, entry :: rest => do
    match ← (nextEntry ⟨url, entry :: rest⟩).run with
    | .error _ => pure ()
    | .ok _ =>
      unless entry.name = "." || entry.name = ".." do
        let child := Url.join url entry.name
        if entry.stat.isDirectory && !entry.stat.isLink then
          match depth with
          | 0 => pure ()
          | depth + 1 =>
            match ← (openDirectory child).run with
            | .ok directory => clearEntries depth child directory.entries
            | .error _ => pure ()
          tolerate (removeDirectory child)
        else
          tolerate (unlink child)
      clearEntries depth url rest
termination_by depth _ entries => (depth, entries.length)

/-- Remove all that stands below a directory, as far as it can be removed. The bound is never met.
It is on URLs and not on directories, as links may lead to one directory over and over. With every
level, a URL gets one name more, and one that can be opened has fewer names than a route may have
bytes; or it gets none, and then it has one slash less. -/
def clear (url : String) (directory : Directory) : StateM Store Unit :=
  clearEntries (2 * maxRouteSize + url.length) url directory.entries

end FileShare.Share
