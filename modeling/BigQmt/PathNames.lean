import Mathlib.Data.List.Basic
set_option autoImplicit false

/-!
File names as `pathlib` takes them apart.
-/

namespace BigQmt

/-- `Path(text).name`. -/
def pathName (text : String) : String :=
  let parts := (text.toList.splitOn '/').map String.ofList
  (parts.filter (fun part => part ∉ ["","."])).getLast?.getD ""

/-- How many characters of a file name are its stem; a dot at an end divides nothing. -/
def stemLength (name : List Char) : Nat :=
  let extension := name.reverse.takeWhile (· ≠ '.')
  if 0 < extension.length && extension.length + 1 < name.length then
    name.length - (extension.length + 1)
  else name.length

/-- `path.stem`. -/
def pathStem (name : String) : String := String.ofList (name.toList.take (stemLength name.toList))

/-- `path.suffix`. -/
def pathSuffix (name : String) : String := String.ofList (name.toList.drop (stemLength name.toList))

example : pathStem "a.b.json" = "a.b" ∧ pathSuffix "a.b.json" = ".json" := by decide

example : pathStem ".json" = ".json" ∧ pathSuffix ".json" = "" := by decide

/-- `text.removesuffix(ending)`. -/
def withoutEnding (ending text : String) : String :=
  if ending.toList <:+ text.toList then
    String.ofList (text.toList.take (text.toList.length - ending.toList.length))
  else text

/-- What `glob("*.json")` lists. -/
def isJsonName (name : String) : Bool := ".json".toList.isSuffixOf name.toList

theorem stem_suffix (name : String) : pathStem name ++ pathSuffix name = name := by
  rw [← String.toList_inj]
  simp [pathStem,pathSuffix]

end BigQmt
