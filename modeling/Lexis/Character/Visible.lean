import Lexis.Character.DefaultIgnorable
import Lexis.Character.GraphemeExtend
import Lexis.Character.Unprintable

/-!
# Visible characters

A character is visible if it can be told by its looks wherever it stands: its category has a form,
it is not ignorable, and it is not drawn onto the character before it. The two halfwidth sound marks
of katakana extend the character before them, but they are letters that stand beside it.
-/

namespace Lexis.Character

/-- The halfwidth voiced and semi-voiced sound marks. -/
def isSoundMark (c : Char) : Bool := c == '\uff9e' || c == '\uff9f'

/-- Whether a character is drawn onto the one before it. -/
def isAttached (c : Char) : Bool := isGraphemeExtend c && !isSoundMark c

/-- Whether a character shows as itself wherever it stands. -/
def isVisible (c : Char) : Bool := isPrintable c && !isDefaultIgnorable c && !isAttached c

end Lexis.Character
