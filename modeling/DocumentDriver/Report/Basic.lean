/-
This file holds reports: trees of texts, numbers and truths that show a value to someone outside.
Numbers that may not fit what the reader counts with are shown as texts of their digits.
-/

import DocumentDriver.Document.ObjectId
import DocumentDriver.Number.Double
import DocumentDriver.Server.Address
import DocumentDriver.Time.Duration

namespace DocumentDriver

/-- What is shown of a value. -/
inductive Report where
  | nothing
  | truth (value : Bool)
  | number (value : Int)
  | text (content : String)
  | list (items : List Report)
  | record (fields : List (String × Report))

/-- Values that can be shown. -/
class Reported (Value : Type) where
  /-- What is shown of a value. -/
  report : Value → Report

export Reported (report)

namespace Report

/-- A named part of a record. -/
def field {Value : Type} [Reported Value] (name : String) (value : Value) : String × Report :=
  (name, report value)

/-- The digits of an integer. -/
def digits (number : Int) : Report := .text (toString number)

/-- The digits of a natural number. -/
def size (number : Nat) : Report := digits number

end Report

export Report (field)

/-! ### Plain values -/

instance : Reported Report := ⟨id⟩
instance : Reported Unit := ⟨fun _ => .text "ok"⟩
instance : Reported Bool := ⟨.truth⟩
instance : Reported String := ⟨.text⟩
instance : Reported Int := ⟨.number⟩
instance : Reported Nat := ⟨fun number => .number number⟩
instance : Reported UInt8 := ⟨fun number => report number.toNat⟩
instance : Reported UInt16 := ⟨fun number => report number.toNat⟩
instance : Reported UInt32 := ⟨fun number => report number.toNat⟩
instance : Reported Int32 := ⟨fun number => report number.toInt⟩
instance : Reported Int64 := ⟨fun number => .digits number.toInt⟩
instance : Reported ObjectId := ⟨fun id => .text id.hex⟩
instance : Reported Double :=
  ⟨fun number => .text (Hex.encode (littleEndian 8 number.bits.toNat).reverse)⟩
instance : Reported Duration := ⟨fun duration => .size duration.nanoseconds⟩
instance : Reported ServerAddress := ⟨fun address => .text address.display⟩

variable {Value Second : Type}

instance [Reported Value] : Reported (Option Value) :=
  ⟨fun value => (value.map report).getD .nothing⟩

instance [Reported Value] : Reported (List Value) := ⟨fun values => .list (values.map report)⟩

instance [Reported Value] [Reported Second] : Reported (Value × Second) :=
  ⟨fun pair => .list [report pair.1, report pair.2]⟩

instance (priority := high) : Reported Bytes := ⟨fun bytes => .text (Hex.encode bytes)⟩

/-! ### Errors -/

/-- Texts that are not worded by the driver itself are left out. -/
def Error.shownMessage? : Error → Option String
  | .serialization _ | .bson _ | .io _ => none
  | error => some error.message

instance : Reported Error where
  report error :=
    let message := (error.shownMessage?.map (field "message")).toList
    let details := match error with
      | .command code _ codeName =>
        [field "code" code, field "code_name" codeName]
      | _ => []
    .record (field "error" error.name :: message ++ details)

instance [Reported Value] : Reported (Except Error Value) where
  report
    | .ok value => report value
    | .error error => report error

end DocumentDriver
