import FileShare.Exchange.Job

/-!
# Listing a directory

The responder sends the entries of a directory in pages, out of a background job, and an end
message after the last page. What is no directory lists as itself, in one page and at once.

The initiator gathers the pages, and reports what it has gathered when the end comes.
-/

namespace FileShare

/-- What the handling of a message comes to, and the state after it. -/
abbrev Handled (σ : Type) := Except ExchangeError Unit × σ

namespace Listing

variable {ω : Type} [Outlet ω]

/-- How a listing is asked for. -/
def requestParameters (request : RequestSettings) : Parameters :=
  .listing ⟨request.pageSize, request.onlyFolders, request.showHidden⟩

/-! ### The responder -/

/-- Stop a job, if there is one. -/
def stopJob : Option Job → WorldM ω Unit
  | some job => job.stop
  | none => pure ()

/-- Send the only page of something that is no directory. -/
def sendItself (requestId url : String) : StepM ω Unit := do
  let file ← World.share (Share.openFile url .read)
  let stat ← World.share (Share.fileStat file)
  (World.onStore (Share.tolerate (Share.close file)) : WorldM ω Unit)
  World.send (Producer.pageMessage requestId [stat.toFileInfo (Url.lastSegment url)])
  World.send (.bare requestId .listingEndResp)

/-- Find the directory that a request asks for. What is no directory is dealt with at once. -/
def openListing (requestId : String) (message : Message) : StepM ω (Option ListingSource) := do
  match message.parameters? with
  | some (.listing options) =>
    if options.pageSize = 0 then
      throw (.invalidParameter "page_size")
    let url ← World.connect message
    match ← World.share (Share.outcome (Share.openDirectory url)) with
    | .ok directory => pure (some ⟨directory, options, []⟩)
    | .error error =>
      if error.errno = .notDirectory ∨ error.errno = .invalid then
        sendItself requestId url
        pure none
      else
        throw (.share error)
  | _ => throw (.missingBody .listingInitReq)

/-- Answer a request for a listing. -/
def answer (requestId : String) (message : Message) (job : Option Job) :
    WorldM ω (Handled (Option Job)) := do
  match ← (openListing requestId message).run with
  | .error error => pure (.error error, job)
  | .ok none => pure (.ok (), job)
  | .ok (some source) =>
    stopJob job
    pure (.ok (), some (.start .responder .listing requestId (.listing source) 0))

/-! ### The initiator -/

/-- The entries in a page; a message without a page has none. -/
def pageEntries (message : Message) : List FileInfo :=
  match message.response? with
  | some (.page entries) => entries
  | _ => []

end Listing

end FileShare
