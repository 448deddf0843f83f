import PropertyKeys.Cancellation
import PropertyKeys.Json.Lenient
import PropertyKeys.Json.Reader
import PropertyKeys.Metadata.Declaration

/-!
# Metadata documents

A metadata document is a JSON object with a list of the keys that a library declares and a list of
hints. Reading it never fails: what is wrong is reported, and the rest is kept. It can be cancelled
between two entries.

## Main definitions

* `Metadata.readDocument`: the object that a text holds.
* `Metadata.declareAll`: the keys that entries declare, in order.
* `Metadata.parse`: the keys and the diagnostics of a document.
-/

namespace PropertyKeys.Metadata

/-- What a document yields. -/
structure Contents where
  keys : List Key := []
  diagnostics : List Diagnostic := []

/-- The outcome of work that can be cancelled, with its token. -/
abbrev Cancellable (α : Type) := Except Cancelled α × CancelToken

/-- A text without the mark that some editors put in front of it. -/
def dropByteOrderMark : Text → Text
  | '\ufeff' :: text => text
  | text => text

/-- The object that a text holds, or why it holds none. What follows the object is ignored. -/
def readDocument (text : Text) : Except Diagnostic (OrderedMap Text Json) :=
  match Json.readFirst? (Lenient.strip (dropByteOrderMark text)) with
  | none => .error (.malformed .empty)
  | some (.error refusal) => .error (.malformed (.unreadable refusal))
  | some (.ok (.object members)) => .ok members
  | some (.ok _) => .error .notAnObject

/-- What a declaration adds in front of the contents of later entries. -/
def Contents.addFirst (declared : Declared) (later : Contents) : Contents :=
  { keys := declared.key?.toList ++ later.keys
    diagnostics := declared.diagnostics ++ later.diagnostics }

/-- What an entry at a place of the list of keys declares. -/
def declareAt (context : Context) (memo : TypeMemo) (place : Nat) : Json → Declared × TypeMemo
  | .object entry => declare context memo entry
  | _ => ({ diagnostics := [.invalidEntry .properties place] }, memo)

/-- The keys that entries declare, in order. Before each of them the token is looked at. -/
def declareAll (context : Context) (memo : TypeMemo) (token : CancelToken) :
    List (Json × Nat) → Cancellable Contents
  | [] => (.ok {}, token)
  | (entry, place) :: entries =>
    if token.raised then (.error .cancelled, token)
    else
      let (declared, memo) := declareAt context memo place entry
      let (later, token) := declareAll context memo (token.afterLookups declared.lookups) entries
      (later.map (Contents.addFirst declared), token)

/-- What a document yields whose object has been read. The hints count only if there are keys. -/
def parseMembers (known : KnownTypes) (provenance : Provenance) (token : CancelToken)
    (document : OrderedMap Text Json) : Cancellable Contents :=
  match document.get? Section.properties.member with
  | none => (.ok {}, token)
  | some (.array entries) =>
    let (hints, diagnostics) := hintIndex document
    let (contents, token) := declareAll { known, provenance, hints } [] token entries.zipIdx
    (contents.map fun contents =>
      { contents with diagnostics := diagnostics ++ contents.diagnostics }, token)
  | some _ => (.ok { diagnostics := [.notAnArray .properties] }, token)

/-- What a document yields. It is not read at all if the token is raised. -/
def parse (known : KnownTypes) (provenance : Provenance) (token : CancelToken) (text : Text) :
    Cancellable Contents :=
  if token.raised then (.error .cancelled, token)
  else
    match readDocument text with
    | .error diagnostic => (.ok { diagnostics := [diagnostic] }, token)
    | .ok document => parseMembers known provenance token document

end PropertyKeys.Metadata
