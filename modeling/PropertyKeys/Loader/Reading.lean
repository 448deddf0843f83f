import PropertyKeys.Cancellation
import PropertyKeys.Settings.Basic
import PropertyKeys.Source

/-!
# Reading documents

The text of a document is read from its source, unless it is too large. A file is not even looked at
if the token is raised, while a text at hand is always there.

## Main definitions

* `ReadFailure`: why there is no text, and the wording.
* `Source.read`: the text of a document.
-/

namespace PropertyKeys

/-- Why there is no text of a document. -/
inductive ReadFailure where
  /-- The token was raised. -/
  | cancelled
  /-- The document has more bytes than the settings allow. -/
  | tooLarge (path : Text) (size limit : Nat)
  /-- The file cannot be read. -/
  | unreadable (path : Text) (fault : FileFault)
  deriving DecidableEq, Repr

/-- The wording of giving up. -/
def Cancelled.message (_ : Cancelled) : Text :=
  "metadata loading cancelled".toList

/-- The wording of a failure. -/
def ReadFailure.message : ReadFailure → Text
  | .cancelled => Cancelled.cancelled.message
  | .tooLarge path size limit =>
    "document too large: ".toList ++ path ++ " is ".toList ++ Text.ofNat size ++
      " bytes (max: ".toList ++ Text.ofNat limit ++ ")".toList
  | .unreadable path fault => "io error reading ".toList ++ path ++ ": ".toList ++ fault.message

namespace Source

/-- The text of a document. The size of a file is looked at before its bytes are decoded. -/
def read (settings : Settings) (files : FileReader) (token : CancelToken) (source : Source) :
    Except ReadFailure Text :=
  match source.location with
  | .inline text =>
    let size := Text.byteSize text
    if settings.maxDocumentSize < size then
      .error (.tooLarge source.id size settings.maxDocumentSize)
    else .ok text
  | .path path =>
    if token.raised then .error .cancelled
    else
      match files path with
      | .error fault => .error (.unreadable path fault)
      | .ok content =>
        if settings.maxDocumentSize < content.length then
          .error (.tooLarge path content.length settings.maxDocumentSize)
        else (Utf8.decode content).mapError fun fault => .unreadable path (.notText fault)

end Source

end PropertyKeys
