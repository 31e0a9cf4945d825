import FileShare.Exchange.World
import FileShare.Share.Branch

/-!
# Exchanges of one request and one response

Three families have nothing but an opening request and its answer: looking whether a URL can be
reached, making a folder, and deleting a file or a whole folder.
-/

namespace FileShare.Single

variable {ω : Type} [Outlet ω]

/-! ### Reaching a URL -/

/-- What is known about a URL that can be opened. That a directory can be opened counts, even if
nothing can be told about it. -/
def reach (url : String) : ShareM Stat := do
  match ← Share.outcome (Share.openDirectory url) with
  | .ok _ =>
    match ← Share.outcome (Share.stat url) with
    | .ok stat => pure stat
    | .error _ => pure Stat.bareDirectory
  | .error error =>
    if error.errno = .notDirectory then
      let file ← Share.openFile url .read
      let stat ← Share.fileStat file
      Share.close file
      pure stat
    else
      throw error

/-- Answer a request to reach a URL. -/
def testConnection (requestId : String) (message : Message) : StepM ω Unit := do
  let url ← World.connect message
  let stat ← World.share (reach url)
  World.send (.of requestId .testConnectionInitResp
    (.response (.connectionTested (stat.toFileInfo (Url.lastSegment url)))))

/-! ### Making a folder -/

/-- Make a folder, and look at it. -/
def make (url : String) : ShareM Stat := do
  Share.makeDirectory url
  Share.stat url

/-- Answer a request to make a folder. -/
def addFolder (requestId : String) (message : Message) : StepM ω Unit := do
  let url ← World.connect message
  let stat ← World.share (make url)
  World.send (.of requestId .addFolderInitResp
    (.response (.folderAdded (stat.toFileInfo (Url.lastSegment url)))))

/-! ### Deleting -/

/-- Open the directory that is to be deleted. A link is taken for what it is, never for what it
leads to. -/
def openDoomed (url : String) : ShareM Directory := do
  match ← Share.outcome (Share.linkStat url) with
  | .ok stat =>
    if stat.isLink then
      throw ⟨Operation.openDirectory.systemName, url, .notDirectory⟩
    else
      Share.openDirectory url
  | .error _ => Share.openDirectory url

/-- Delete what a URL addresses, and tell whether it was a directory. What stands below a directory
is removed as far as it can be; only the directory itself decides. -/
def remove (url : String) : ShareM Bool := do
  match ← Share.outcome (openDoomed url) with
  | .ok directory =>
    (Share.clear url directory : StateM Store Unit)
    Share.removeDirectory url
    pure true
  | .error _ =>
    Share.unlink url
    pure false

/-- What is told about something that has been deleted. -/
def deletedInfo (url : String) (isDirectory : Bool) : FileInfo :=
  ⟨Url.lastSegment url, isDirectory, 0, 0, 0,
    if isDirectory then Attribute.directory else Attribute.normal⟩

/-- Answer a request to delete. -/
def delete (requestId : String) (message : Message) : StepM ω Unit := do
  let url ← World.connect message
  let isDirectory ← World.share (remove url)
  World.send (.of requestId .deletionInitResp
    (.response (.deleted (deletedInfo url isDirectory))))

/-! ### The initiator -/

/-- The entries that an answer tells: at most one, and only if it is of the family that was asked
for. -/
def answeredEntries (family : Family) (message : Message) : List FileInfo :=
  match family, message.response? with
  | .testConnection, some (.connectionTested info) => [info]
  | .addFolder, some (.folderAdded info) => [info]
  | .deletion, some (.deleted info) => [info]
  | _, _ => []

end FileShare.Single
