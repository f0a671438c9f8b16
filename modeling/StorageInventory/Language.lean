import StorageInventory.Sorting
import StorageInventory.Telling

/-!
# Languages

Messages are looked up in the catalogue of the selected language.  No catalogues are installed, so
by its own a message stands for itself, and of a message with a plural the form follows English: the
singular for one.  What remains of the look-up is which languages have been asked for.

A configured language can be the path of a catalogue elsewhere, so what looking there gives is the
host's to say.  A value that names no language makes every look-up fail.
-/

namespace StorageInventory

/-- The language when none is selected. -/
def defaultLanguage : Text := "en".toList

/-- The selected language, and the languages whose catalogs have been looked for. -/
structure Languages where
  selected : Text := defaultLanguage
  loaded : List Text := []

namespace Languages

/-- Select a language; an empty one selects the default. -/
def select (l : Languages) (language : Text) : Languages :=
  { l with selected := if language = [] then defaultLanguage else language }

/-- Look for the catalog of a language, or of the selected one. -/
def load (l : Languages) (language : Option Text) : Languages :=
  let language := language.getD l.selected
  if l.loaded.elem language then l
  else { l with loaded := sortBy Text.le (language :: l.loaded) }

/-- Translate a message. -/
def translate (l : Languages) (message : Text) (language : Option Text) : Languages × Text :=
  (l.load language, message)

/-- Translate a message with a plural. -/
def translateCount (l : Languages) (singular plural : Text) (count : Int)
    (language : Option Text) : Languages × Text :=
  (l.load language, if count = 1 then singular else plural)

end Languages

/-- How messages are looked up in a configured language, given what its catalogue says.  The
messages are written in the default language. -/
def translationInto (catalogue : Text → Translation) (language : Settings.Value) : Translation :=
  if !language.isTruthy then .ok
  else match language.toLanguage with
    | .error fault => fun _ => .error fault
    | .ok name => if name = defaultLanguage then .ok else catalogue name

end StorageInventory
