/-!
Tags of nodes: the standard ones by name, all others by their text.
-/

namespace HatReel.Yaml

inductive Tag where
  | null
  | bool
  | int
  | float
  | str
  | binary
  | timestamp
  | merge
  | value
  | indicator
  | seq
  | map
  | set
  | omap
  | pairs
  | other (uri : String)
  deriving DecidableEq, Repr

namespace Tag

def standardStem : String := "tag:yaml.org,2002:"

def standard : List (String × Tag) := [
  ("null", .null), ("bool", .bool), ("int", .int), ("float", .float), ("str", .str),
  ("binary", .binary), ("timestamp", .timestamp), ("merge", .merge), ("value", .value),
  ("yaml", .indicator), ("seq", .seq), ("map", .map), ("set", .set), ("omap", .omap),
  ("pairs", .pairs)]

def ofUri (uri : String) : Tag :=
  match standard.find? fun e => standardStem ++ e.1 == uri with
  | some (_, tag) => tag
  | none => .other uri

def uri (t : Tag) : String :=
  match t with
  | .other uri => uri
  | t => standardStem ++ ((standard.find? fun e => e.2 == t).map (·.1)).getD ""

end Tag

end HatReel.Yaml
