import FleetSelect.Regex.Syntax
import FleetSelect.Unicode.Age
import FleetSelect.Unicode.Property
import FleetSelect.Unicode.Script
import FleetSelect.Unicode.Segmentation

namespace FleetSelect.Regex

open FleetSelect.Unicode

/-- A name in the form in which tables write it. The short name `isc` is a name of its own and not
that of the category `c`. -/
def looseName (s : String) : String :=
  let (cs, stripped) := match s.toList with
    | i :: c :: r => if i.toLower == 'i' && c.toLower == 's' then (r, true) else (i :: c :: r, false)
    | cs => (cs, false)
  let kept := cs.filter fun c => c.toNat < 128 && c != ' ' && c != '_' && c != '-'
  let name := String.ofList (kept.map Char.toLower)
  if stripped && name == "c" then "isc" else name

/-- A property, general category or script by its name alone. Three short names are those of
categories although properties bear them too. -/
def setOfName? (name : String) : Option CodeSet :=
  let property := if ["cf", "sc", "lc"].contains name then none else Property.ofName? name
  (property.or (GeneralCategory.ofName? name)).or (Script.ofName? name)

def setOfValue? (property value : String) : Option CodeSet :=
  match property with
  | "gc" | "generalcategory" => GeneralCategory.ofName? value
  | "sc" | "script" => Script.ofName? value
  | "scx" | "scriptextensions" => Script.extended? value
  | "age" => Age.upTo? value
  | "gcb" | "graphemeclusterbreak" => Segmentation.grapheme? value
  | "wb" | "wordbreak" => Segmentation.word? value
  | "sb" | "sentencebreak" => Segmentation.sentence? value
  | _ => none

namespace Query

def set? : Query → Option CodeSet
  | .name n => setOfName? (looseName n)
  | .value p v => setOfValue? (looseName p) (looseName v)

end Query

end FleetSelect.Regex
