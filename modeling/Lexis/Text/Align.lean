/-!
# Aligned text

Columns of a report: a text is filled up to a width in front (`alignRight`) or behind (`alignLeft`).
A text that is already as long as the width stays as it is.
-/

namespace Lexis.Text

/-- The text at the right end of a column of the given width. -/
def alignRight (width : Nat) (fill : Char) (text : String) : String :=
  String.ofList (text.toList.leftpad width fill)

/-- The text at the left end of a column of the given width, with blanks behind it. -/
def alignLeft (width : Nat) (text : String) : String :=
  String.ofList (text.toList.rightpad width ' ')

@[simp] theorem toList_alignRight (width : Nat) (fill : Char) (text : String) :
    (alignRight width fill text).toList =
      List.replicate (width - text.length) fill ++ text.toList := by
  simp [alignRight, List.leftpad, String.length_toList]

@[simp] theorem toList_alignLeft (width : Nat) (text : String) :
    (alignLeft width text).toList = text.toList ++ List.replicate (width - text.length) ' ' := by
  simp [alignLeft, List.rightpad, String.length_toList]

end Lexis.Text
