/-
This file shows documents. Each value stands under the name of its type, so that a report keeps
apart what only looks the same.
-/

import DocumentDriver.Document.Basic
import DocumentDriver.Report.Basic

namespace DocumentDriver

/-- A value under the name of its type. -/
def Report.tagged {Value : Type} [Reported Value] (type : String) (value : Value) : Report :=
  .record [field type value]

mutual

/-- What is shown of a value. -/
def Value.shown : Value → Report
  | .double number => .tagged "double" number
  | .string text => .tagged "string" text
  | .code text => .tagged "code" text
  | .symbol text => .tagged "symbol" text
  | .document entries => .tagged "document" (Report.list (Value.shownEntries entries))
  | .array items => .tagged "array" (Report.list (Value.shownItems items))
  | .binary data =>
    .tagged "binary"
      (Report.record [field "subtype" data.subtype.byte, field "bytes" data.bytes])
  | .undefined => .tagged "undefined" true
  | .null => .tagged "null" true
  | .maxKey => .tagged "maxKey" true
  | .minKey => .tagged "minKey" true
  | .objectId id => .tagged "objectId" id
  | .boolean truth => .tagged "bool" truth
  | .dateTime milliseconds => .tagged "datetime" milliseconds
  | .regex expression =>
    .tagged "regex"
      (Report.record
        [field "pattern" expression.pattern, field "options" expression.options])
  | .dbPointer pointer =>
    .tagged "dbPointer"
      (Report.record [field "namespace" pointer.space, field "id" pointer.id])
  | .codeWithScope text scope =>
    .tagged "codeWithScope"
      (Report.record
        [field "code" text, field "scope" (Report.list (Value.shownEntries scope))])
  | .int32 number => .tagged "int32" number
  | .int64 number => .tagged "int64" number
  | .timestamp moment =>
    .tagged "timestamp"
      (Report.record [field "time" moment.time, field "increment" moment.increment])
  | .decimal128 number => .tagged "decimal128" number.bytes.toList

/-- What is shown of the items of an array. -/
def Value.shownItems : List Value → List Report
  | [] => []
  | item :: rest => item.shown :: Value.shownItems rest

/-- What is shown of the entries of a document, each a pair of its key and its value. -/
def Value.shownEntries : List (String × Value) → List Report
  | [] => []
  | (key, value) :: rest => .list [.text key, value.shown] :: Value.shownEntries rest

end

instance : Reported Value := ⟨Value.shown⟩

instance (priority := high) : Reported Document :=
  ⟨fun document => .list (Value.shownEntries document)⟩

end DocumentDriver
