import Clubzey.Dart.Text
import Clubzey.Dart.TimeZone
import Clubzey.Utils.ClockText

/-! The labels with days and times: on the form for a club, on ClubItemCard and on
TransactionCard. -/

namespace Clubzey.Views
open Dart Utils

/-- `_drawDate.toString().substring(0, 10)`, where a date has been picked. -/
def CreateClub.drawDateLabel (zone : TimeZone) : Option DateTime → Except Thrown String
  | none => .ok "Select Draw Date"
  | some drawDate => substring (drawDate.text (zone.offsetOf drawDate)) 10

/-- `getCreatedAt.toString().substring(0,11)`. -/
def ClubItemCard.day (zone : TimeZone) (createdAt : DateTime) : Except Thrown String :=
  substring (createdAt.text (zone.offsetOf createdAt)) 11

/-- `"${getFormattedTime}  |  ${getFormattedDateTime}"`. -/
def TransactionCard.stamp (zone : TimeZone) (createdAt : DateTime) : Except Thrown String := do
  let time := getFormattedTime (zone.fields createdAt)
  let date ← getFormattedDateTime (zone.fields createdAt)
  return time ++ "  |  " ++ date

end Clubzey.Views
