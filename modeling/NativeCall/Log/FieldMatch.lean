import NativeCall.Pattern.Branches
import NativeCall.Text.Decimal
import NativeCall.Word

/-!
# Fields that a filter asks for

A filter can ask that a span has some field, and that the field has some value.
-/

namespace NativeCall

inductive WantedValue where
  | truth (b : Bool)
  | unsigned (n : Nat)
  | signed (n : Int)
  /-- A number that is not whole, or that no word can hold. -/
  | real (text : String)
  | pattern (text : String)
  deriving DecidableEq, Repr

namespace WantedValue

def ofText? (text : List Char) : Option WantedValue :=
  let whole := match Decimal.unsigned? text, Decimal.signed? text with
    | some n, _ => if n < wordCount then some (unsigned n) else none
    | none, some n => if -n ≤ negativeWordCount then some (signed n) else none
    | none, none => none
  if text = "true".toList then some (.truth true)
  else if text = "false".toList then some (.truth false)
  else if whole.isSome then whole
  else if Decimal.isReal text then some (.real (String.ofList text))
  else if isPattern text then some (.pattern (String.ofList text))
  else none

/-- Whether a whole number meets a value. Patterns are for text alone. -/
def isMetBy (n : Int) : WantedValue -> Bool
  | .unsigned m => n == m
  | .signed m => n == m
  | .truth _ | .real _ | .pattern _ => false

end WantedValue

structure FieldMatch where
  name : String
  value : Option WantedValue
  deriving DecidableEq, Repr

namespace FieldMatch

/-- A field, with the value after its first equals sign. What stands after a second one
does not count. -/
def ofText? (text : List Char) : Option FieldMatch :=
  let name := String.ofList (text.takeWhile (· != '='))
  match text.dropWhile (· != '=') with
  | [] => some { name, value := none }
  | _ :: rest =>
      (WantedValue.ofText? (rest.takeWhile (· != '='))).map fun value =>
        { name, value := some value }

def isMetBy (field : FieldMatch) (fields : List (String × Int)) : Bool :=
  field.value.all fun value => fields.any fun (name, n) => name == field.name && value.isMetBy n

end FieldMatch
end NativeCall
