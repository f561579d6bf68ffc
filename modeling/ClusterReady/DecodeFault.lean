import ClusterReady.Decimal
import ClusterReady.Text.Quoted

/-!
# Faults of documents

Why a value that was read from a document is not of the expected form, whatever the format of the
document.
-/

namespace ClusterReady

/-- What a value is, as a fault calls it. -/
inductive Found where
  | unit
  | bool (b : Bool)
  | int (n : Int)
  /-- An integer that only a 128-bit number holds. -/
  | wideInt (n : Int)
  | float (bits : UInt64)
  | str (s : String)
  | sequence
  | map
deriving DecidableEq, Repr

/-- Why a value does not have the expected form. -/
inductive DecodeFault where
  /-- The text is not of its format. -/
  | malformed (reason : String)
  | invalidType (found : Found) (expected : String)
  | invalidValue (found : Found) (expected : String)
  | invalidLength (length : Nat) (expected : String)
  | missingField (name : String)
  | duplicateField (name : String)
  | unknownVariant (name : String) (variants : List String)
  /-- The value has the right form and breaks a rule of its type. -/
  | refused (reason : String)
deriving DecidableEq, Repr

/-- How the fault texts of a format name an absent value and a double. -/
structure FoundStyle where
  unit : String
  float : Decimal.FloatStyle

def Found.text (style : FoundStyle) : Found → String
  | unit => style.unit
  | bool b => if b then "boolean `true`" else "boolean `false`"
  | int n => s!"integer `{n}`"
  | wideInt n => s!"integer `{n}` as " ++ (if n < 0 then "i128" else "u128")
  | float bits => "floating point `" ++ style.float.text bits ++ "`"
  | str s => "string " ++ Text.quoted s
  | sequence => "sequence"
  | map => "map"

/-- Names between backquotes, the last one after `or`. -/
def listVariants : List String → String
  | [] => "there are no variants"
  | [a] => "expected `" ++ a ++ "`"
  | [a, b] => "expected `" ++ a ++ "` or `" ++ b ++ "`"
  | names => "expected one of " ++ ", ".intercalate (names.map fun n => "`" ++ n ++ "`")

def DecodeFault.text (style : FoundStyle) : DecodeFault → String
  | malformed reason => reason
  | invalidType found expected => "invalid type: " ++ found.text style ++ ", expected " ++ expected
  | invalidValue found expected =>
    "invalid value: " ++ found.text style ++ ", expected " ++ expected
  | invalidLength length expected => s!"invalid length {length}, expected " ++ expected
  | missingField name => "missing field `" ++ name ++ "`"
  | duplicateField name => "duplicate field `" ++ name ++ "`"
  | unknownVariant name variants => "unknown variant `" ++ name ++ "`, " ++ listVariants variants
  | refused reason => reason

end ClusterReady
