/-
  Categories: the folders that fixtures lie in, named by their path below the searched folder.  The
  fixtures right in the searched folder have the empty category.

  Asking for a category asks for everything below it too.  What is below is decided by whole path
  components: asking for `item` does not bring `items`.
-/
import DocComments.Text.Split

namespace DocComments.Category

/-- A category as it is shown. -/
def label (category : String) : String := if category = "" then "(root)" else category

/-- A category is the folder asked for, or lies below it. -/
def isWithin (category folder : String) : Bool :=
  category = folder || Text.startsWith (folder.toList ++ ['/']) category.toList

/-- A request without the slashes around it. -/
def ofRequest (request : String) : String :=
  String.ofList
    ((request.toList.dropWhile (· = '/')).reverse.dropWhile (· = '/')).reverse

/-- Values grouped by category: the categories in order, each once, and in each group the values in
    the order they had. -/
def grouped {α : Type} (found : List (String × α)) : List (String × List α) :=
  let categories := (found.map (·.1)).eraseDups.mergeSort fun a b => decide (a ≤ b)
  categories.map fun category => (category, (found.filter (·.1 = category)).map (·.2))

/-- The categories that were asked for; all of them if none was. -/
def select {α : Type} (requests : List String) (categories : List (String × α)) :
    List (String × α) :=
  if requests.isEmpty then categories
  else categories.filter fun (category, _) =>
    requests.any fun request => isWithin category (ofRequest request)

/-- The requests that no category answers. -/
def unanswered {α : Type} (requests : List String) (categories : List (String × α)) :
    List String :=
  (requests.map ofRequest).filter fun folder =>
    !categories.any fun (category, _) => isWithin category folder

end DocComments.Category
