import ConstantSweep.Text.Basic

set_option autoImplicit false

namespace ConstantSweep.Template

-- The text with every occurrence of a pattern replaced, from left to right. An empty pattern does not
-- occur. `skip` counts the letters of an occurrence that are still to be passed over.
def replaceFrom (pattern replacement : List Letter) : Nat → List Letter → List Letter
  | _, [] => []
  | 0, c :: rest =>
      if !pattern.isEmpty && pattern.isPrefixOf (c :: rest) then
        replacement ++ replaceFrom pattern replacement (pattern.length - 1) rest
      else c :: replaceFrom pattern replacement 0 rest
  | skip + 1, _ :: rest => replaceFrom pattern replacement skip rest

def replaceAll (pattern replacement text : List Letter) : List Letter :=
  replaceFrom pattern replacement 0 text

def placeholders : List Text := ["\x7bv\x7d", "\x7bvalue\x7d"]

def fill (template value : Text) : Text :=
  ⟨placeholders.foldl (fun text placeholder => replaceAll placeholder.toList value.toList text)
    template.toList⟩

-- The template with a value in place of its placeholders; without a value it stays as it is.
def render (template : Text) : Option Int → Text
  | none => template
  | some value => fill template (toString value)

end ConstantSweep.Template
