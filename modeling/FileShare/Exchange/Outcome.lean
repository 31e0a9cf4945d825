import FileShare.Exchange.ExchangeError

/-!
# Outcomes

An initiator ends with an outcome: what it got, or why it failed. Only the first outcome of an
exchange counts.
-/

namespace FileShare

/-- How an exchange ended for its initiator. -/
inductive Outcome where
  /-- The entries that were told, and the bytes of files that were moved. -/
  | completed (entries : List FileInfo) (bytes : UInt64)
  | failed (code : Int32) (reason : String)
  deriving DecidableEq, Inhabited

namespace Outcome

/-- Whether an exchange ended well. -/
def isSuccess : Outcome → Bool
  | completed .. => true
  | failed .. => false

/-- The status code of an outcome. -/
def code : Outcome → Int32
  | completed .. => StatusCode.success
  | failed code _ => code

/-- The report of an outcome. -/
def message : Outcome → String
  | completed entries bytes => s!"completed ({entries.length} entries, {bytes.toNat} bytes)"
  | failed code reason => s!"failed with status {code.toInt}: {reason}"

/-- The outcome of a failed step. -/
def ofError (error : ExchangeError) : Outcome :=
  failed error.statusCode error.statusText

end Outcome

end FileShare
