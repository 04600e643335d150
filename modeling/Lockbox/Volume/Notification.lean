import Lockbox.Volume

/-!
# Notifications

What a volume tells about changes under a directory, and what a change of a secrets file means to
the store: being read or merely looked at means nothing.
-/

namespace Lockbox

/-- What was done to an entry of a directory. -/
inductive Notification where
  | any
  | created
  | removed
  | renamed
  | modified
  | accessed
  | other
  deriving DecidableEq

/-- What a notification says about a file. -/
inductive ChangeKind where
  | created
  | changed
  | deleted
  | renamed
  deriving DecidableEq

def ChangeKind.message : ChangeKind → String
  | .created => "Created"
  | .changed => "Changed"
  | .deleted => "Deleted"
  | .renamed => "Renamed"

/-- The change that a notification tells of, if it tells of one. -/
def Notification.kind? : Notification → Option ChangeKind
  | .any => some .changed
  | .created => some .created
  | .removed => some .deleted
  | .renamed => some .renamed
  | .modified => some .changed
  | .accessed => none
  | .other => none

/-- Something done to the file `number`, which has or had a name in a directory. -/
structure Touch where
  directory : FileNumber
  name : FileName
  number : FileNumber
  notification : Notification

end Lockbox
