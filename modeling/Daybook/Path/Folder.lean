import Daybook.Text.Basic

/-!
Contract: the folders and the extension of note paths, as texts.

Owns:
- the normal form of a base folder;
- joining a base folder and a path inside it, and taking it off again;
- the extension of notes and the folder of a path.

Does not own: the part of a path that shows a date.
-/

namespace Daybook.Path

def isSeparator (c : Char) : Bool :=
  c == '/'

def extension : Text := ['.', 'm', 'd']

/-- The normal form of a base folder: without the blanks around it, and then without the separators
around it. -/
def cleanBase (base : Text) : Text :=
  Text.strip isSeparator (Text.trim base)

/-- Puts a base folder in normal form, which may be empty, in front of a path. -/
def inFolder (base path : Text) : Text :=
  if base = [] then path else base ++ '/' :: path

/-- Ends a path in the extension of notes, unless it does so already. -/
def withExtension (path : Text) : Text :=
  if extension.isSuffixOf path then path else path ++ extension

/-- Takes one extension of notes off a path that has it. -/
def withoutExtension (path : Text) : Text :=
  if extension.isSuffixOf path then path.take (path.length - extension.length) else path

/-- Takes a base folder in normal form off a path, if the path lies in it. -/
def outOfFolder? (base path : Text) : Option Text :=
  if base = [] then some path
  else
    let opening := base ++ ['/']
    if opening.isPrefixOf path then some (path.drop opening.length) else none

/-- What is left of a note's path without its base folder and its extension, if the note lies in
that folder. -/
def insideBase? (base path : Text) : Option Text :=
  (outOfFolder? (cleanBase base) path).map withoutExtension

/-- The folder of a path: all before the last separator, or nothing if there is none. -/
def folder (path : Text) : Text :=
  ((path.reverse.dropWhile fun c => !isSeparator c).drop 1).reverse

/-- A path is found again in the folder that it was put in. -/
theorem outOfFolder?_inFolder
    (base path : Text) :
    outOfFolder? base (inFolder base path) = some path := by
  unfold outOfFolder? inFolder
  split
  · rfl
  · have split : base ++ '/' :: path = (base ++ ['/']) ++ path := by simp
    rw [split]
    have opens : (base ++ ['/']).isPrefixOf ((base ++ ['/']) ++ path) = true :=
      List.isPrefixOf_iff_prefix.2 (List.prefix_append _ _)
    rw [if_pos opens, List.drop_left]

end Daybook.Path
