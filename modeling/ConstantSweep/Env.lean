import ConstantSweep.Fault

set_option autoImplicit false

namespace ConstantSweep

open ConstantSweep.Text

abbrev Env := List (Text × Text)

namespace Env

def set (env : Env) (name value : Text) : Env :=
  match env with
  | [] => [(name, value)]
  | (other, old) :: rest =>
      if other == name then (name, value) :: rest else (other, old) :: set rest name value

def update (env : Env) (changes : Env) : Env :=
  changes.foldl (fun env entry => env.set entry.1 entry.2) env

def ofEntries (entries : List (Text × Text)) : Env := update [] entries

def get? (env : Env) (name : Text) : Option Text :=
  match env with
  | [] => none
  | (other, value) :: rest => if other == name then some value else get? rest name

theorem get_set_same (env : Env) (name value : Text) : (env.set name value).get? name = some value := by
  induction env with
  | nil => simp [set, get?]
  | cons entry rest ih =>
      obtain ⟨other, old⟩ := entry
      by_cases same : other = name
      · subst same; simp [set, get?]
      · simpa [set, get?, same] using ih

theorem get_set_other (env : Env) (name other value : Text) (differs : other ≠ name) :
    (env.set name value).get? other = env.get? other := by
  induction env with
  | nil => simpa [set, get?] using differs.symm
  | cons entry rest ih =>
      obtain ⟨first, old⟩ := entry
      by_cases same : first = name
      · subst same; simp [set, get?, differs.symm]
      · by_cases here : first = other
        · subst here; simp [set, get?, same]
        · simpa [set, get?, same, here] using ih

-- One override: a name that is not empty, an equals sign, and the value after the first one.
def splitOverride (item : Text) : Except Fault (Text × Text) :=
  let name := item.toList.takeWhile (· != .char '=')
  match item.toList.dropWhile (· != .char '=') with
  | _ :: value =>
      if name.isEmpty then .error (.notAnOverride item)
      else .ok (⟨name⟩, ⟨value⟩)
  | [] => .error (.notAnOverride item)

def ofOverrides (items : List Text) : Except Fault Env :=
  (items.mapM splitOverride).map ofEntries

def held (value : Text) : Except Fault Text :=
  match Utf8.encodeName? value with
  | .error fault => .error (.encoding fault)
  | .ok bytes => if bytes.contains 0 then .error .nullByte else .ok (Utf8.canonicalName value)

end Env

end ConstantSweep
