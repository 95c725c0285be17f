import Greetup.Matching.Host

/-!
The columns of a room row.
-/

namespace Greetup.Rooms

open Matching (Text)

abbrev UserId := Text
abbrev RoomId := Text

/-- `room_status` -/
inductive RoomStatus
  | scheduled
  | live
  | ended
  | cancelled
  deriving DecidableEq

/-- `direct` = 1:1-style; `space` = group space call. -/
inductive RoomType
  | direct
  | space
  deriving DecidableEq

end Greetup.Rooms
