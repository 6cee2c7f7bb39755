import LibSocialWeb.Lib.KeyText
import LibSocialWeb.Lib.Tables

/-!
# Groups of a `GKeyFile`

A group is kept as it stands in the file: a text for each key. `g_key_file_set_string` and
`g_key_file_set_string_list` escape what they write and `g_key_file_get_string` and
`g_key_file_get_string_list` read it back. The separator of a list is a semicolon.

Both round trips hold (`getString_setString_self`, `getStringList_setStringList_self`). A list is
not a string: one that is read as a string shows its separators (`semicolon_mem_parseListAsValue`).

The names of groups and keys are taken to be valid ones; GLib ignores others.
-/

namespace LibSocialWeb

structure KeyFileGroup where
  name : String
  keys : AList fun _ : String => String

namespace KeyFileGroup

/-- `g_key_file_parse_string_as_value`, for a string that is not part of a list. -/
def parseStringAsValue (string : String) : String :=
  String.ofList (KeyText.escape none true string.toList)

/-- `g_key_file_parse_value_as_string`, for a value that is not a list. -/
def parseValueAsString (value : String) : String :=
  String.ofList (KeyText.unescape false value.toList)

/-- The text of a list. -/
def parseListAsValue (list : List String) : String :=
  String.ofList (KeyText.escapeList ';' (list.map String.toList))

/-- The list that a text stands for; NULL if the text is not valid. -/
def parseValueAsList (value : String) : Option (List String) :=
  (KeyText.unescapeList ';' false [] value.toList).map (·.map String.ofList)

variable (group : KeyFileGroup)

/-- `g_key_file_set_string` -/
def setString (key value : String) : KeyFileGroup :=
  { group with keys := group.keys.insert key (parseStringAsValue value) }

/-- `g_key_file_set_string_list` -/
def setStringList (key : String) (list : List String) : KeyFileGroup :=
  { group with keys := group.keys.insert key (parseListAsValue list) }

/-- `g_key_file_get_string` -/
def getString (key : String) : Option String := (group.keys.lookup key).map parseValueAsString

/-- `g_key_file_get_string_list` -/
def getStringList (key : String) : Option (List String) :=
  (group.keys.lookup key).bind parseValueAsList

@[simp] theorem parseValueAsString_parseStringAsValue (string : String) :
    parseValueAsString (parseStringAsValue string) = string := by
  simp [parseValueAsString, parseStringAsValue, KeyText.unescape_escape]

@[simp] theorem parseValueAsList_parseListAsValue (list : List String) :
    parseValueAsList (parseListAsValue list) = some list := by
  have hsep : KeyText.Separates ';' := ⟨rfl, rfl⟩
  simp [parseValueAsList, parseListAsValue, KeyText.unescapeList_escapeList hsep,
    Function.comp_def]

/-- A list that is read as a string has a semicolon in it. -/
theorem semicolon_mem_parseListAsValue {list : List String} (hne : list ≠ []) :
    ';' ∈ (parseValueAsString (parseListAsValue list)).toList := by
  have hsep : KeyText.Separates ';' := ⟨rfl, rfl⟩
  have hne' : list.map String.toList ≠ [] := by simpa using hne
  simpa [parseValueAsString, parseListAsValue] using
    KeyText.sep_mem_unescape_escapeList hsep hne'

@[simp] theorem getString_setString_self (key value : String) :
    (group.setString key value).getString key = some value := by
  simp [getString, setString]

@[simp] theorem getStringList_setStringList_self (key : String) (list : List String) :
    (group.setStringList key list).getStringList key = some list := by
  simp [getStringList, setStringList]

end KeyFileGroup

end LibSocialWeb
