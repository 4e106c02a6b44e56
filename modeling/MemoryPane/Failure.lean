/-!
What can go wrong: memory that cannot be read, a configuration that cannot be used, a rendering that
does not exist. A failure is a value that says the cause; `Failure.message` is its wording.
-/

namespace MemoryPane

/-- Why a configuration cannot be used. -/
inductive Fault where
  | emptyLine
  | emptyUnit
  /-- Lines of `width` bytes would not hold whole units of `unit` bytes. -/
  | unevenLine (width unit : Nat)
  /-- Line addresses would be multiples of zero. -/
  | emptyAlignment
  /-- A window of `lines` lines would hold more than `limit` bytes. -/
  | oversizedWindow (lines limit : Nat)
  /-- The columns of the rendering `id` would hold no bytes. -/
  | emptyColumn (id : String)
  | duplicateRendering (id : String)
  /-- Any other reason, in words. -/
  | other (reason : String)
  deriving DecidableEq

def Fault.message : Fault → String
  | emptyLine => "bytes_per_line must be non-zero"
  | emptyUnit => "addressable_size must be non-zero"
  | unevenLine width unit =>
    "bytes_per_line (" ++ toString width ++ ") must be a multiple of addressable_size (" ++
      toString unit ++ ")"
  | emptyAlignment => "alignment must be non-zero"
  | oversizedWindow lines limit =>
    "a window of " ++ toString lines ++ " lines exceeds " ++ toString limit ++ " bytes"
  | emptyColumn id => "rendering " ++ id ++ " has a zero column size"
  | duplicateRendering id => "rendering " ++ id ++ " is registered twice"
  | other reason => reason

/-- Why an operation failed. -/
inductive Failure where
  /-- The source answered a read with no content at all. -/
  | noContent
  /-- The source answered a read with an error. -/
  | readFailed (reason : String)
  | badConfig (fault : Fault)
  | unknownRendering (id : String)
  /-- There is no way to make renderings of this kind. -/
  | unknownKind (kind : String)
  deriving DecidableEq

namespace Failure

def message : Failure → String
  | noContent => "unable to retrieve content: the byte source returned nothing"
  | readFailed reason => "unable to retrieve content: " ++ reason
  | badConfig fault => "invalid configuration: " ++ fault.message
  | unknownRendering id => "unknown rendering: " ++ id
  | unknownKind kind => "no factory registered for rendering kind: " ++ kind

/-- The failure came from reading target memory. -/
def isFromSource : Failure → Bool
  | noContent | readFailed _ => true
  | _ => false

end Failure

end MemoryPane
