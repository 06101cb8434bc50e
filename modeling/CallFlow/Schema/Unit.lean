import CallFlow.Schema.Reader
import CallFlow.Unit.Parse

/-!
# The records of a file as data
-/

namespace CallFlow

open Schema (Fields Reader)

/-- A list of texts, empty if absent. -/
def Schema.Fields.texts {β : Type} (fs : Fields (List String → β)) (name : String) : Fields β :=
  fs.default name (Schema.list Schema.text) []

/-- A text that may be absent. -/
def Schema.Fields.optionalText {β : Type} (fs : Fields (Option String → β)) (name : String) :
    Fields β :=
  fs.default name (Schema.nullable Schema.text) none

/-! ## Functions and calls -/

namespace FunctionKind

def read : Reader FunctionKind := Schema.choice all name

end FunctionKind

namespace CallKind

def read : Reader CallKind := Schema.choice all name

end CallKind

namespace FunctionKey

def toJson (k : FunctionKey) : Json :=
  .array [.string k.file, .string k.name, .nat k.line]

end FunctionKey

namespace FunctionRecord

def fields : Fields FunctionRecord :=
  Fields.start FunctionRecord.mk
    |>.required "name" Schema.text
    |>.required "file_path" Schema.text
    |>.required "module" Schema.text
    |>.texts "parameters"
    |>.texts "calls"
    |>.texts "direct_calls"
    |>.required "line" (Schema.atLeast 1)
    |>.required "end_line" (Schema.atLeast 1)
    |>.required "kind" FunctionKind.read

def read : Reader FunctionRecord := fields.strict

def toJson (f : FunctionRecord) : Json :=
  .object [("name", .string f.name), ("file_path", .string f.file),
    ("module", .string f.moduleName), ("parameters", .strings f.parameters),
    ("calls", .strings f.calls), ("direct_calls", .strings f.directCalls), ("line", .nat f.line),
    ("end_line", .nat f.endLine), ("kind", .string f.kind.name)]

end FunctionRecord

namespace CallRecord

def fields : Fields CallRecord :=
  Fields.start CallRecord.mk
    |>.required "source_file" Schema.text
    |>.optionalText "source_function"
    |>.required "target" Schema.text
    |>.required "line" (Schema.atLeast 1)
    |>.default "column" (Schema.atLeast 0) 0
    |>.required "kind" CallKind.read

def read : Reader CallRecord := fields.strict

def toJson (c : CallRecord) : Json :=
  .object [("source_file", .string c.file), ("source_function", .optional .string c.caller),
    ("target", .string c.target), ("line", .nat c.line), ("column", .nat c.column),
    ("kind", .string c.kind.name)]

end CallRecord

/-! ## Imports and exports -/

namespace ImportRecord

def fields : Fields ImportRecord :=
  Fields.start ImportRecord.mk
    |>.required "source" Schema.text
    |>.texts "local_names"
    |>.texts "imported_names"
    |>.default "is_require" Schema.truth false
    |>.required "line" (Schema.atLeast 1)

def read : Reader ImportRecord := fields.lax

def toJson (i : ImportRecord) : Json :=
  .object [("source", .string i.source), ("local_names", .strings i.localNames),
    ("imported_names", .strings i.importedNames), ("is_require", .bool i.isRequire),
    ("line", .nat i.line)]

end ImportRecord

namespace ExportRecord

def fields : Fields ExportRecord :=
  Fields.start ExportRecord.mk
    |>.texts "names"
    |>.default "is_default" Schema.truth false
    |>.optionalText "source"
    |>.required "line" (Schema.atLeast 1)

def read : Reader ExportRecord := fields.lax

def toJson (e : ExportRecord) : Json :=
  .object [("names", .strings e.names), ("is_default", .bool e.isDefault),
    ("source", .optional .string e.source), ("line", .nat e.line)]

end ExportRecord

/-! ## Files -/

namespace SourceUnit

def fields : Fields SourceUnit :=
  Fields.start SourceUnit.mk
    |>.required "path" Schema.text
    |>.required "module" Schema.text
    |>.default "functions" (Schema.list FunctionRecord.read) []
    |>.default "calls" (Schema.list CallRecord.read) []
    |>.default "imports" (Schema.list ImportRecord.read) []
    |>.default "exports" (Schema.list ExportRecord.read) []
    |>.texts "syntax_errors"

def read : Reader SourceUnit := fields.strict

def toJson (u : SourceUnit) : Json :=
  .object [("path", .string u.path), ("module", .string u.moduleName),
    ("functions", .array (u.functions.map (·.toJson))), ("calls", .array (u.calls.map (·.toJson))),
    ("imports", .array (u.imports.map (·.toJson))), ("exports", .array (u.exports.map (·.toJson))),
    ("syntax_errors", .strings u.syntaxErrors)]

end SourceUnit

namespace ParsedSource

def fields : Fields ParsedSource :=
  Fields.start ParsedSource.mk
    |>.required "unit" SourceUnit.read
    |>.required "file_path" Schema.text
    |>.required "language" Schema.text
    |>.texts "parse_errors"
    |>.default "success" Schema.truth true

def read : Reader ParsedSource := fields.lax

def toJson (p : ParsedSource) : Json :=
  .object [("unit", p.unit.toJson), ("file_path", .string p.file), ("language", .string p.language),
    ("parse_errors", .strings p.errors), ("success", .bool p.success)]

end ParsedSource

end CallFlow
