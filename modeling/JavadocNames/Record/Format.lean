import JavadocNames.Record.Json
import JavadocNames.Script

/-!
# Output formats

A run writes `attr` elements under a header of two comments, or JSON objects
without a header, one record a line.
-/

namespace JavadocNames

/-- How records are written. -/
inductive OutputFormat where
  | attr
  | json
  deriving DecidableEq

namespace OutputFormat

/-- The name of a format on the command line. -/
def name : OutputFormat → Text
  | attr => "attr".toList
  | json => "json".toList

/-- The format with a given name. -/
def ofName (text : Text) : Except Failure OutputFormat :=
  if text = attr.name then .ok attr
  else if text = json.name then .ok json
  else .error (.unknownFormat text)

/-- The lines that come before all records. -/
def header : OutputFormat → List Text
  | attr =>
      ["  <!-- This tool isn't aware of inherited methods, and the binding generator will complain that the xpath isn't found. -->".toList,
        "  <!-- These nodes will be ignored by the generator. -->".toList]
  | json => []

/-- A record in this format, without the line feed. -/
def render : OutputFormat → NamingRecord → Text
  | attr, r => r.attrElement
  | json, r => r.jsonObject

/-- Write the lines that come before all records. -/
def writeHeader (format : OutputFormat) : Script Unit :=
  format.header.forM Script.writeLine

/-- Write records, one a line. -/
def writeRecords (format : OutputFormat) (records : List NamingRecord) : Script Unit :=
  records.forM fun r => Script.writeLine (format.render r)

end OutputFormat

end JavadocNames
