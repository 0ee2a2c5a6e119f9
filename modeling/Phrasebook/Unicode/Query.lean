import Phrasebook.Unicode.Age
import Phrasebook.Unicode.Category
import Phrasebook.Unicode.Property
import Phrasebook.Unicode.Script
import Phrasebook.Unicode.ScriptExtension
import Phrasebook.Unicode.Segment

/-!
Sets of characters asked for by the name of a property, or by a property and a value. A bare
name is looked for among the binary properties, the categories and the scripts, in this order.
-/

namespace Phrasebook.Unicode

open Text

/-- Categories that are unions of leaves: their names and the leaves. -/
def categoryFamilies : List (List String × List String) := [
  (["c", "other"], ["cc", "cf", "cn", "co", "cs"]),
  (["l", "letter"], ["ll", "lm", "lo", "lt", "lu"]),
  (["lc", "casedletter"], ["ll", "lt", "lu"]),
  (["m", "mark", "combiningmark"], ["mc", "me", "mn"]),
  (["n", "number"], ["nd", "nl", "no"]),
  (["p", "punctuation", "punct"], ["pc", "pd", "pe", "pf", "pi", "po", "ps"]),
  (["s", "symbol"], ["sc", "sk", "sm", "so"]),
  (["z", "separator"], ["zl", "zp", "zs"])]

def categoryUnion (leaves : List String) : CharSet :=
  CharSet.unions (leaves.filterMap fun leaf => named? categories leaf.toList)

def category? (loose : Text) : Option CharSet :=
  let name := String.ofList loose
  if name = "any" then some .full
  else if name = "ascii" then some ⟨[⟨0, 0x7F⟩]⟩
  else if name = "assigned" then some (categoryUnion ["cn"]).complement
  else
    match categoryFamilies.find? fun family => family.1.contains name with
    | some family => some (categoryUnion family.2)
    | none => named? categories loose

/-- Characters of a version of Unicode, the earlier ones included. -/
def age? (loose : Text) : Option CharSet :=
  let name := String.ofList loose
  if ages.any fun s => s.names.contains name then
    some (.unions
      ((ages.takeWhile fun s => !s.names.contains name).map NamedSet.set
        ++ (named? ages loose).toList))
  else none

/-- Category names that are at the same time short names of properties which are not sets. -/
def shadowedNames : List Text := ["cf".toList, "sc".toList, "lc".toList]

def bare? (name : Text) : Option CharSet :=
  let loose := looseName name
  let property := if shadowedNames.contains loose then none else named? properties loose
  property.or ((category? loose).or (named? scripts loose))

def valued? (property value : Text) : Option CharSet :=
  let name := String.ofList (looseName property)
  let loose := looseName value
  if name = "gc" ∨ name = "generalcategory" then category? loose
  else if name = "sc" ∨ name = "script" then named? scripts loose
  else if name = "scx" ∨ name = "scriptextensions" then named? scriptExtensions loose
  else if name = "age" then age? loose
  else if name = "gcb" ∨ name = "graphemeclusterbreak" then named? graphemeBreaks loose
  else if name = "wb" ∨ name = "wordbreak" then named? wordBreaks loose
  else if name = "sb" ∨ name = "sentencebreak" then named? sentenceBreaks loose
  else none

def property (loose : String) : CharSet := (named? properties loose.toList).getD .empty

def wordSet : CharSet :=
  .unions [property "alpha", categoryUnion ["mc", "me", "mn", "nd", "pc"], property "joinc"]

def digitSet : CharSet := categoryUnion ["nd"]

def spaceSet : CharSet := property "space"

end Phrasebook.Unicode
