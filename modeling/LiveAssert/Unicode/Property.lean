import LiveAssert.Text.CharSet
import LiveAssert.Unicode.Age
import LiveAssert.Unicode.Category
import LiveAssert.Unicode.Script
import LiveAssert.Unicode.Segment

namespace LiveAssert.Unicode

def category (name : String) : CharSet := ((categoryTable.lookup name).map CharSet.read).getD []

def categories (names : List String) : CharSet := CharSet.ofRanges (names.flatMap category)

def unassigned : CharSet :=
  (CharSet.ofRanges ((0xD800, 0xDFFF) :: categoryTable.flatMap fun row => CharSet.read row.2)).compl

def BinaryProperty.set (p : BinaryProperty) : CharSet :=
  let set := CharSet.ofRanges (p.categories.flatMap category ++ CharSet.read p.plus)
  if p.minus.isEmpty then set else set.diff (CharSet.read p.minus)

def findSet (table : List BinaryProperty) (name : String) : Option CharSet :=
  (table.find? (·.names.contains name)).map BinaryProperty.set

def binaryProperty? (name : String) : Option CharSet := findSet binaryProperties name

def category? (name : String) : Option CharSet :=
  if name = "any" then some .full
  else if name = "assigned" then some unassigned.compl
  else if name = "ascii" then some [(0, 0x7F)]
  else if ["cn", "unassigned"].contains name then some unassigned
  else if ["c", "other"].contains name then
    some (CharSet.ofRanges (unassigned ++ categories ["Cc", "Cf", "Co"]))
  else (categoryNames.find? (·.1.contains name)).map fun row => categories row.2

def findScript (name : String) : Option Script := scripts.find? (·.names.contains name)

def script? (name : String) : Option CharSet := (findScript name).map fun s => CharSet.read s.own

def scriptExtension? (name : String) : Option CharSet :=
  (findScript name).map fun s =>
    ((CharSet.read s.own).union (CharSet.read s.shared)).diff (CharSet.read s.elsewhere)

def age? (name : String) : Option CharSet :=
  match ages.span (fun row => !row.1.contains name) with
  | (_, []) => none
  | (before, row :: _) =>
    some (CharSet.ofRanges ((before ++ [row]).flatMap fun r => CharSet.read r.2))

def otherProperties : List String := [
  "age", "bc", "bidiclass", "bidimirroringglyph", "bidipairedbracket", "bidipairedbrackettype",
  "blk", "block", "bmg", "bpb", "bpt", "canonicalcombiningclass", "casefolding", "ccc", "ce",
  "changeswhennfkccasefolded", "compex", "compositionexclusion", "cwkcf", "decompositionmapping",
  "decompositiontype", "dm", "dt", "ea", "eastasianwidth", "equideo", "equivalentunifiedideograph",
  "expandsonnfc", "expandsonnfd", "expandsonnfkc", "expandsonnfkd", "fcnfkc", "fcnfkcclosure",
  "fullcompositionexclusion", "gc", "gcb", "generalcategory", "graphemeclusterbreak",
  "hangulsyllabletype", "hst", "incb", "indicconjunctbreak", "indicpositionalcategory",
  "indicsyllabiccategory", "inpc", "insc", "isc", "isocomment", "jamoshortname", "jg",
  "joininggroup", "joiningtype", "jsn", "jt", "lb", "linebreak", "lowercasemapping", "na", "na1",
  "name", "namealias", "nfcqc", "nfcquickcheck", "nfdqc", "nfdquickcheck", "nfkccasefold",
  "nfkccf", "nfkcqc", "nfkcquickcheck", "nfkcscf", "nfkcsimplecasefold", "nfkdqc",
  "nfkdquickcheck", "nt", "numerictype", "numericvalue", "nv", "sb", "scf", "script",
  "scriptextensions", "scx", "sentencebreak", "sfc", "simplecasefolding",
  "simplelowercasemapping", "simpletitlecasemapping", "simpleuppercasemapping", "slc", "stc",
  "suc", "tc", "titlecasemapping", "uc", "unicode1name", "uppercasemapping", "verticalorientation",
  "vo", "wb", "wordbreak"]

/-- The form in which names are compared. The general category `c` has `isc` for a name of its
own. -/
def normalName (name : List Char) : String :=
  let skipped := ['i', 's'].isPrefixOf ((name.take 2).map Char.toLower)
  let rest := (if skipped then name.drop 2 else name).filter fun c =>
    c.toNat < 0x80 && c != ' ' && c != '_' && c != '-'
  let rest := rest.map Char.toLower
  if skipped && rest == ['c'] then "isc" else String.ofList rest

/-- The set that a name alone denotes. Three names of categories hide properties. -/
def named? (name : List Char) : Option CharSet :=
  let name := normalName name
  let hidden := ["cf", "sc", "lc"].contains name
  if !hidden && otherProperties.contains name then none
  else
    ((if hidden then none else binaryProperty? name).or (category? name)).or (script? name)

def valued? (name value : List Char) : Option CharSet :=
  let value := normalName value
  match normalName name with
  | "gc" | "generalcategory" => category? value
  | "sc" | "script" => script? value
  | "scx" | "scriptextensions" => scriptExtension? value
  | "age" => age? value
  | "gcb" | "graphemeclusterbreak" => findSet graphemeClusterBreaks value
  | "wb" | "wordbreak" => findSet wordBreaks value
  | "sb" | "sentencebreak" => findSet sentenceBreaks value
  | _ => none

def wordChars : CharSet :=
  CharSet.ofRanges ((binaryProperty? "alphabetic").getD [] ++ (binaryProperty? "joincontrol").getD []
    ++ categories ["Mn", "Mc", "Me", "Nd", "Pc"])

end LiveAssert.Unicode
