import Daybook.Calendar.Date
import Daybook.Pattern.Piece
import Daybook.Text.Numeral

/-!
Contract: the text of a date in a prepared pattern.

Owns: what each token is replaced by, and the text of a whole pattern.

Does not own: the preparation of generic patterns, or the choice of the date.
-/

namespace Daybook

namespace Pattern.Field

/-- The text of a field: years have four digits at least, padded months and days two. -/
def text (locale : Locale) (date : Date) : Field → Except Fault Text
  | .year => do pure (date.digits locale (Text.padded 4 (← date.fields).year))
  | .monthName => date.monthName locale
  | .paddedMonth => do pure (date.digits locale (Text.padded 2 (← date.fields).month))
  | .month => do pure (date.digits locale (Text.ofNat (← date.fields).month))
  | .paddedDay => do pure (date.digits locale (Text.padded 2 (← date.fields).day))
  | .day => do pure (date.digits locale (Text.ofNat (← date.fields).day))

end Pattern.Field

namespace Date

/-- The text of a token.  A field is read in the calendar that its token names; week and quarter are
those of the date's own calendar. -/
def tokenText (locale : Locale) (date : Date) : Pattern.Token → Except Fault Text
  | .field system field => field.text locale ⟨system, date.day⟩
  | .week => do pure (date.digits locale (Text.padded 2 (← date.week)))
  | .quarter => do pure (date.digits locale (Text.ofNat (← date.quarter)))

/-- The text of a piece: literals lose their brackets, plain characters stay. -/
def pieceText (locale : Locale) (date : Date) : Pattern.Piece → Except Fault Text
  | .literal text => .ok text
  | .token token => date.tokenText locale token
  | .plain character => .ok [character]

/-- The texts of pieces, one after the other; the first that fails decides. -/
def piecesText (locale : Locale) (date : Date) : List Pattern.Piece → Except Fault Text
  | [] => .ok []
  | piece :: rest => do
    let text ← date.pieceText locale piece
    let following ← date.piecesText locale rest
    pure (text ++ following)

/-- The text of a date in a prepared pattern. -/
def render (locale : Locale) (date : Date) (pattern : Text) : Except Fault Text :=
  date.piecesText locale (Pattern.pieces date.system pattern)

end Date

end Daybook
