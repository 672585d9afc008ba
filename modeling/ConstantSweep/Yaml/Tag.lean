import ConstantSweep.Regex.Reader
import ConstantSweep.Regex.Search

set_option autoImplicit false

namespace ConstantSweep.Yaml

open ConstantSweep.Regex

inductive Tag where
  | text
  | null
  | bool
  | int
  | float
  | binary
  | timestamp
  | merge
  | value
  | sequence
  | mapping
  | set
  | orderedMap
  | pairs
  | unknown (name : String)
  deriving DecidableEq, Repr

namespace Tag

def common : String := "tag:yaml.org,2002:"

def ofName (name : String) : Tag :=
  let table : List (String × Tag) :=
    [("str", .text), ("null", .null), ("bool", .bool), ("int", .int), ("float", .float),
     ("binary", .binary), ("timestamp", .timestamp), ("merge", .merge), ("value", .value),
     ("seq", .sequence), ("map", .mapping), ("set", .set), ("omap", .orderedMap), ("pairs", .pairs)]
  if common.isPrefixOf name then
    (table.lookup (String.ofList (name.toList.drop common.length))).getD (.unknown name)
  else .unknown name

-- The forms of plain scalars that are no texts, in the order in which they are tried. A form applies to
-- scalars that begin with one of its characters; `none` stands for the empty scalar.
structure Form where
  tag : Tag
  starts : List (Option Letter)
  pattern : Option Pattern

def form (tag : Tag) (starts pattern : Text) : Form :=
  ⟨tag, starts.toList.map some, (Pattern.ofText pattern).toOption⟩

def boolPattern : String :=
  "^(?:yes|Yes|YES|no|No|NO|true|True|TRUE|false|False|FALSE|on|On|ON|off|Off|OFF)$"

def floatPattern : String :=
  "^(?:[-+]?(?:[0-9][0-9_]*)\\.[0-9_]*(?:[eE][-+][0-9]+)?" ++
  "|\\.[0-9][0-9_]*(?:[eE][-+][0-9]+)?" ++
  "|[-+]?[0-9][0-9_]*(?::[0-5]?[0-9])+\\.[0-9_]*" ++
  "|[-+]?\\.(?:inf|Inf|INF)" ++
  "|\\.(?:nan|NaN|NAN))$"

def intPattern : String :=
  "^(?:[-+]?0b[0-1_]+" ++
  "|[-+]?0[0-7_]+" ++
  "|[-+]?(?:0|[1-9][0-9_]*)" ++
  "|[-+]?0x[0-9a-fA-F_]+" ++
  "|[-+]?[1-9][0-9_]*(?::[0-5]?[0-9])+)$"

def timestampPattern : String :=
  "^(?:[0-9][0-9][0-9][0-9]-[0-9][0-9]-[0-9][0-9]" ++
  "|[0-9][0-9][0-9][0-9]-[0-9][0-9]?-[0-9][0-9]?" ++
  "(?:[Tt]|[ \\t]+)[0-9][0-9]?" ++
  ":[0-9][0-9]:[0-9][0-9](?:\\.[0-9]*)?" ++
  "(?:[ \\t]*(?:Z|[-+][0-9][0-9]?(?::[0-9][0-9])?))?)$"

def forms : List Form :=
  [form .bool "yYnNtTfFoO" boolPattern,
   form .float "-+0123456789." floatPattern,
   form .int "-+0123456789" intPattern,
   form .merge "<" "^(?:<<)$",
   ⟨.null, none :: (Text.ofString "~nN").toList.map some, (Pattern.ofText "^(?:~|null|Null|NULL|)$").toOption⟩,
   form .timestamp "0123456789" timestampPattern,
   form .value "=" "^(?:=)$",
   form (.unknown (common ++ "yaml")) "!&*" "^(?:!|&|\\*)$"]

def ofPlain (text : Text) : Tag :=
  let letters := text.toList
  let applies (form : Form) : Bool :=
    form.starts.contains letters.head? && form.pattern.any fun pattern => pattern.search letters
  match forms.find? applies with
  | some form => form.tag
  | none => .text

end Tag

end ConstantSweep.Yaml
