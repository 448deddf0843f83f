import PropertyKeys.Key.Basic
import PropertyKeys.KeyPath

/-!
# Parts of a raw key

A raw key of a property file such as `app.servers[1].url` or `app.labels.prod` is cut into the
portion that names a declared key, the index or map key that selects a value, and the bean property
that is reached in that value. The cut follows the shape of the text alone; whether the portion
names the key is for the naming dialect to say.

## Main definitions

* `KeyParts`: the three parts.
* `KeyParts.split?`: the parts of a raw key, cut for a declared key.
* `KeyParts.index?If`: the index under conditions on the other parts.
-/

namespace PropertyKeys

/-- The parts of a raw key. -/
structure KeyParts where
  portion : Text
  index? : Option Text := none
  property? : Option Text := none
  deriving DecidableEq, Repr

namespace KeyParts

open Text

/-- The text before the first opening bracket, without one dot at its end, or the whole text if it
has no bracket. -/
def bracketBase (raw : Text) : Text :=
  if raw.contains '[' then dropFinal '.' (before '[' raw) else raw

/-- The index in brackets and what follows it, given the text after the opening bracket. An empty
index and one that is not closed are none. -/
def closeBracket? (afterOpening : Text) : Option (Text × Text) :=
  match fromFirst ']' afterOpening with
  | [] => none
  | _ :: rest =>
    let index := before ']' afterOpening
    if index.isEmpty then none else some (index, rest)

/-- The bean property that follows the closing bracket after a dot, up to the next dot or opening
bracket. -/
def propertyAfter? (key : Key) : Text → Option Text
  | '.' :: rest => key.property? (rest.takeWhile fun c => c != '.' && c != '[')
  | _ => none

/-- The parts of a raw key whose portion ends at an opening bracket. -/
def ofBracket? (key : Key) (portion afterOpening : Text) : Option KeyParts :=
  (closeBracket? afterOpening).map fun (index, rest) =>
    { portion, index? := some index, property? := propertyAfter? key rest }

/-- The parts of a raw key whose portion ends at a dot. The text after the dot is the map key, but
without its last segment if that names a bean property. -/
def ofDotted (key : Key) (portion suffix : Text) : KeyParts :=
  if suffix.isEmpty then { portion }
  else
    let reached? := (splitLast? '.' suffix).bind fun (head, last) =>
      (key.property? last).map fun property => (head, property)
    match reached? with
    | some (head, property) => { portion, index? := some head, property? := some property }
    | none => { portion, index? := some suffix }

/-- The parts of a raw key for a list. -/
def splitIndexed? (key : Key) (raw : Text) : Option KeyParts :=
  match fromFirst '[' raw with
  | [] => some { portion := raw }
  | _ :: afterOpening => ofBracket? key (bracketBase raw) afterOpening

/-- The parts of a raw key for a map. The portion has as many segments as the name of the key. -/
def splitMap? (key : Key) (raw : Text) : Option KeyParts :=
  (KeyPath.boundary? (KeyPath.segmentCount key.name) raw).bind fun boundary =>
    match boundary.mark with
    | .ending => some { portion := boundary.portion }
    | .dot => some (ofDotted key boundary.portion boundary.rest)
    | .bracket => ofBracket? key boundary.portion boundary.rest

/-- The parts of a raw key, cut according to how the values of the key are reached. -/
def shape? (key : Key) (raw : Text) : Option KeyParts :=
  match key.access with
  | .normal => some { portion := raw }
  | .indexed => splitIndexed? key raw
  | .map | .enumMap => splitMap? key raw

/-- The parts of a raw key for a declared key. With `caseSensitive` the portion has to be the very
name of the key. -/
def split? (key : Key) (raw : Text) (caseSensitive : Bool) : Option KeyParts :=
  (shape? key raw).filter fun parts => !caseSensitive || parts.portion == key.name

/-- Whether the portion names a key. The comparison takes the name first. -/
def names (parts : KeyParts) (same : Text → Text → Bool) (name : Text) : Bool :=
  same name parts.portion

/-- The index, if the portion names the key and, where a property is asked for, the property that is
reached is that one. -/
def index?If (parts : KeyParts) (same : Text → Text → Bool) (name : Text)
    (asked? : Option Text) : Option Text :=
  if !parts.names same name then none
  else
    match asked? with
    | none => parts.index?
    | some asked => if parts.property?.any (same asked) then parts.index? else none

end KeyParts

end PropertyKeys
