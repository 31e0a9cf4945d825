/-!
# Values of TOML

TOML is the language of the settings file. A `Toml.Value` is what a text of it says. Numbers with a
fraction and points in time are of no use to settings; they are kept as they are spelled, so that a
reader of settings can tell that they are there.
-/

namespace FileShare.Toml

/-- A value of TOML. -/
inductive Value where
  | string (text : String)
  | integer (value : Int)
  /-- A number with a fraction or an exponent, an infinity or no number. -/
  | float (spelling : String)
  | boolean (value : Bool)
  /-- A date, a time, or both. -/
  | dateTime (spelling : String)
  | array (items : List Value)
  | table (entries : List (String × Value))
  deriving Inhabited

namespace Value

/-- The entry of a table under a key. -/
def entry? (key : String) : Value → Option Value
  | table entries => entries.lookup key
  | _ => none

end Value

/-- The smallest and the largest integer that a text of TOML may hold. -/
def minInteger : Int := -0x8000000000000000

@[inherit_doc minInteger]
def maxInteger : Int := 0x7fffffffffffffff

/-- How deep values may be nested, and how many parts a key may have, plus one. -/
def depthLimit : Nat := 80

end FileShare.Toml
