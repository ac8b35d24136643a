import SelectQuery.Value.Display

/-!
# Entries

A configuration is built from entries: names, aliases, paths, values. In a configuration
made by a program every entry is text. In one that was read from a document an entry is
whatever value stood there, and nothing is checked until it is used.

`Entry` is what the two have in common. Configurations are parameterised by their type of
entries, so that `Configuration String` has entries of text only and `Configuration Value`
has entries as they were read.
-/

namespace SelectQuery

/-- A type of entries. -/
class Entry (ν : Type) where
  /-- The value of an entry. -/
  toValue : ν → Value
  /-- The entry with this text. -/
  ofText : String → ν

instance : Entry String := ⟨.text, id⟩

instance : Entry Value := ⟨id, .text⟩

namespace Entry

variable {ν : Type} [Entry ν]

def text (v : ν) : String := (toValue v).display

/-- The characters of an entry as it reads inside a query. -/
def chars (v : ν) : List Char := (text v).toList

/-- An entry that counts. -/
def isPresent (v : ν) : Bool := (toValue v).isPresent

def isText (v : ν) : Bool := (toValue v).isText

/-- An entry that can be looked up in a set. -/
def isAtomic (v : ν) : Bool := (toValue v).isAtomic

def same (v w : ν) : Bool := (toValue v).same (toValue w)

/-- The entry if it counts. -/
def present? (v : Option ν) : Option ν := v.filter isPresent

/-- Nothing entered. -/
def blank : ν := ofText ""

@[simp] theorem toValue_string (s : String) : toValue s = .text s := rfl
@[simp] theorem ofText_string (s : String) : (ofText s : String) = s := rfl
@[simp] theorem text_string (s : String) : text s = s := rfl
@[simp] theorem isPresent_string (s : String) : isPresent s = (s != "") := rfl
@[simp] theorem isText_string (s : String) : isText s = true := rfl
@[simp] theorem isAtomic_string (s : String) : isAtomic s = true := rfl

@[simp] theorem same_string (s t : String) : same s t = (s == t) := by
  simp [same, Value.same]

end Entry
end SelectQuery
