/-
  The data views of a document as JSON.

  Every object opens with the common fields.  Lists without items and texts without characters are
  left out after them, while a flag is always there.
-/
import DocComments.Document.View
import DocComments.Json

namespace DocComments.View

/-- A list of strings. -/
def stringItems (items : List String) : Json := .array (items.map .string)

/-- A field with a list, left out when the list is empty. -/
def listField (key : String) (items : List Json) : List (String × Json) :=
  if items.isEmpty then [] else [(key, .array items)]

/-- A field with a text, left out when the text is empty. -/
def textField (key text : String) : List (String × Json) :=
  if text = "" then [] else [(key, .string text)]

/-- The fields that every view has. -/
def commonFields (name subtitle : String) (body : List String) (origin : Origin) :
    List (String × Json) :=
  [("name", .string name), ("subtitle", .string subtitle), ("body", stringItems body),
   ("file", .string origin.file), ("line", .number origin.line)]

/-- The fields that a view has by the kind of its node. -/
def detailFields : ViewDetails → List (String × Json)
  | .plain => []
  | .file info =>
    textField "summary" info.summary ++ textField "group" info.group
      ++ listField "footnotes" (info.footnotes.map fun (mark, note) => stringItems [mark, note])
      ++ listField "includes" (info.includes.map .string)
      ++ listField "commoncode" (info.commonCode.map .string)
  | .item info gathered =>
    [("deprecated", .boolean info.deprecated)]
      ++ listField "topics" (info.topics.map .string)
      ++ listField "aliases" (info.aliases.map .string)
      ++ listField "see_also" (info.seeAlso.map .string)
      ++ listField "usages" (gathered.usages.map fun (subtitle, body) =>
          .object [("subtitle", .string subtitle), ("body", stringItems body)])
      ++ listField "description" (gathered.description.map .string)
      ++ listField "arguments" (gathered.arguments.map .string)
      ++ listField "examples" (gathered.examples.map stringItems)

mutual

/-- A view as an object. -/
def toJson : View → Json
  | .mk name subtitle body origin details children =>
    .object (commonFields name subtitle body origin ++ detailFields details
      ++ listField "children" (toJsons children))

/-- Views as objects. -/
def toJsons : List View → List Json
  | [] => []
  | view :: views => toJson view :: toJsons views

end

end DocComments.View
