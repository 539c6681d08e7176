import SiteScript.Decimal
import SiteScript.Script.Directive
import SiteScript.Text.Basic

/-!
# SiteScript.Script.Printer

The canonical text of a script.  Every directive has one way to be written: values stand between double
quotes, a block begins and ends on lines of its own and has one `"key": "value",` line for each entry,
and whether a command is waited for is always said.
-/

namespace SiteScript.Script

/-- Text between double quotes. -/
def quotedText (text : String) : String := "\"" ++ text ++ "\""

/-- A block: its opening line, its lines, its closing line. -/
def bracedLines (lines : List String) : List String := "\x7b" :: lines ++ ["\x7d"]

/-- The lines of a block of entries. -/
def entryLines (entries : List (String × String)) : List String :=
  bracedLines (entries.map fun (key, value) => quotedText key ++ ": " ++ quotedText value ++ ",")

/-- The lines of a keyword with a title and a block. -/
def titledLines (keyword title : String) (config : Block) : List String :=
  (keyword ++ ": " ++ quotedText title) :: entryLines config.entries

/-- The lines of an action. -/
def actionLines : Action → List String
  | .log message => ["console.log: " ++ quotedText message]
  | .copyFile source target => "copyFile" :: entryLines [("from", source), ("to", target)]
  | .moveFile source target => "moveFile" :: entryLines [("from", source), ("to", target)]
  | .deleteFile path => ["deleteFile: " ++ quotedText path]
  | .deleteFolder path => ["deleteFolder: " ++ quotedText path]
  | .addFolder path => ["addFolder: " ++ quotedText path]
  | .addFile path => ["addFile: " ++ quotedText path]
  | .editFile path content => "editFile" :: entryLines [("file", path), ("content", content)]
  | .run command wait =>
    ["run: " ++ quotedText command, "\"wait\": " ++ quotedText (if wait then "true" else "false")]
  | .call name => [":start: " ++ quotedText name]
  | .schedule seconds function =>
    ["schedule: " ++ Decimal.text seconds ++ " " ++ quotedText function]
  | .connect id config => titledLines "mysql" id config
  | .query connection config => titledLines "query" connection config
  | .declareApi name config => titledLines "webAPI" name config
  | .startWeb path config => titledLines "startWEB" path config

/-- The lines of a directive. -/
def directiveLines : Directive → List String
  | .assign key value => ["VB: " ++ key ++ ": " ++ quotedText value]
  | .beginFunction name => [":start: " ++ name]
  | .endFunction => [":end:"]
  | .load modules => "load:" :: bracedLines modules
  | .act action => actionLines action

/-- The text of a script. -/
def render (directives : List Directive) : String :=
  String.ofList (Text.join '\n' ((directives.flatMap directiveLines).map String.toList))

end SiteScript.Script
