/-!
# Equality of bytes

Names of files, payloads and the contents of files are all arrays of bytes. They are compared in one
way throughout.
-/

namespace FileShare

/-- Whether two arrays hold the same bytes. -/
instance decidableEqBytes : DecidableEq ByteArray :=
  ByteArray.instDecidableEq

/-- The comparison that finds names in tables tells the same bytes. -/
instance lawfulBEqBytes : LawfulBEq ByteArray where
  eq_of_beq {a b} h := ByteArray.ext (eq_of_beq (a := a.data) (b := b.data) h)
  rfl {a} := beq_self_eq_true a.data

end FileShare
