import FileShare.Text.Hex

/-!
# Names of unfinished uploads

An upload is written under a temporary name next to its target. The name is hidden and has a suffix
of its own, by which listings recognise it and leave it out.

Between the dot and the suffix stands a token, which is drawn at random, so that two uploads will
not have the same one. There is no chance here: tokens are numbers that are given out in turn
(`Store.tokens`), and stand for random ones that have not been drawn before. That is all that is
used of them. Which number a token is, and that the next one is one more, means nothing.
-/

namespace FileShare

/-- What the names of unfinished uploads end in. -/
def temporarySuffix : String := ".connector-tmp"

/-- The temporary name of the upload with a token, which shows thirty-two digits of it. -/
def temporaryName (token : Nat) : String :=
  "." ++ String.ofList (Hex.digits 32 token) ++ temporarySuffix

/-- Whether a name is that of an unfinished upload: a dot, something, and the suffix. -/
def isTemporaryName (name : String) : Bool :=
  let chars := name.toList
  temporarySuffix.toList.length + 1 < chars.length && chars.head? == some '.' &&
    temporarySuffix.toList.isSuffixOf chars

end FileShare
