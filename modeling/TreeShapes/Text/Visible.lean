namespace TreeShapes
namespace Text

/-!
# The visible part of a text

A text may hold characters that steer a terminal and show nothing themselves.
An escape character opens a sequence of them, and the character after it tells
how the sequence ends.  The visible part of a text leaves out these sequences
and every control character but the four that move to another place: tab, line
feed, form feed and carriage return.
-/

/-- What a character of a text belongs to. -/
inductive Mode where
  /-- Text that is shown. -/
  | shown
  /-- An escape character came right before. -/
  | escape
  /-- An escape sequence that ends with a digit, a letter or a later mark. -/
  | selection
  /-- A control sequence; it ends with a letter or one of the marks around the letters. -/
  | control
  /-- A command to the system; it ends with the bell. -/
  | command
  /-- A string for a device or an application; it ends with the byte `9C`. -/
  | string
deriving DecidableEq

/-- The control characters that only move to another place. -/
def isMove (char : Char) : Bool :=
  char == '\x09' || char == '\x0a' || char == '\x0c' || char == '\x0d'

/-- Characters beyond the control characters of ASCII. -/
def isGraphic (char : Char) : Bool :=
  '\x20' <= char && char != '\x7f'

/-- A string ends at the byte `9C`, which may also belong to a longer character. -/
def endsString (char : Char) : Bool :=
  (String.utf8EncodeChar char).contains 0x9c

namespace Mode

/-- Whether a character is shown.  A character that moves is shown also inside an escape or a
control sequence, which it breaks off. -/
def shows (mode : Mode) (char : Char) : Bool :=
  match mode with
  | shown => isMove char || isGraphic char
  | escape => isMove char
  | selection => isMove char
  | control => isMove char
  | command => false
  | string => false

/-- What the character after an escape character opens. -/
def opened (char : Char) : Mode :=
  if char == '[' then control
  else if char == ']' then command
  else if ['P', 'X', '^', '_'].contains char then string
  else if '\x20' <= char && char <= '/' then selection
  else if '0' <= char && char <= '~' then shown
  else escape

/-- What the character after this one belongs to.  An escape character begins anew anywhere, and
two control characters cancel whatever is open. -/
def next (mode : Mode) (char : Char) : Mode :=
  if char == '\x1b' then escape
  else if char == '\x18' || char == '\x1a' || mode.shows char then shown
  else
    match mode with
    | shown => shown
    | escape => opened char
    | selection => if '0' <= char && char <= '~' then shown else selection
    | control => if '@' <= char && char <= '~' then shown else control
    | command => if char == '\x07' then shown else command
    | string => if endsString char then shown else string

end Mode

/-- The characters that are shown, where the first one stands in the given mode. -/
def visibleFrom : Mode -> List Char -> List Char
  | _, [] => []
  | mode, char :: rest =>
      if mode.shows char then char :: visibleFrom (mode.next char) rest
      else visibleFrom (mode.next char) rest

def visible (text : String) : String :=
  String.ofList (visibleFrom .shown text.toList)

end Text
end TreeShapes
