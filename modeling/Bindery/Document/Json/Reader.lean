import Bindery.Document.Fault
import Bindery.Document.Json.Token

/-!
# Reading JSON

Tokens are put together into a document by keeping the containers whose ends have not come yet, each
as a `Frame`, and the `Stage` that says what may come next.  Where a token does not fit, all open
containers are cut there by `assemble`, so that the document still shows what stands before the
first fault.

Containers may be nested only so deeply.  A deeper one can be passed over but has no value.
-/

namespace Bindery.Json

/-- A container in which a value is being read. -/
inductive Frame where
  /-- A list with the items read before. -/
  | list (before : Array Document)
  /-- A record with the members read before and the key whose value is being read. -/
  | record (before : Array (String × Document)) (key : String)
  /-- A record with the members before a key that could not be made out. -/
  | obscured (before : Array (String × Document))

/-- What may come next. -/
inductive Stage where
  /-- A value, inside the innermost frame. -/
  | value
  /-- A value or the end of a list that has no items yet. -/
  | firstItem
  /-- A comma or the end of a list with these items. -/
  | afterItem (items : Array Document)
  /-- A key or the end of a record that has no members yet. -/
  | firstKey
  /-- A key of a record with these members, all keys of which could be made out if `clear`. -/
  | key (members : Array (String × Document)) (clear : Bool)
  /-- The colon behind a key, which the frame holds. -/
  | colon (frame : Frame)
  /-- A comma or the end of a record with these members. -/
  | afterMember (members : Array (String × Document)) (clear : Bool)

/-- What is open deeper than this has no value. -/
def depthLimit : Nat := 127

/-- A container that has come to its end, inside the given frames. -/
def closed (frames : List Frame) (container : Document) : Document :=
  if frames.length < depthLimit then container else .unusable

/-- A record that has come to its end. -/
def closedRecord (members : Array (String × Document)) (clear : Bool) : Document :=
  if clear then .record members.toList else .cutRecord members.toList true

/-- The stage behind a value in a frame. -/
def Frame.supply (document : Document) : Frame → Stage
  | .list before => .afterItem (before.push document)
  | .record before key => .afterMember (before.push (key, document)) true
  | .obscured before => .afterMember before false

/-- The container that is cut while a value in it is being read. -/
def Frame.cut (document : Document) : Frame → Document
  | .list before => .list (before.push document).toList
  | .record before key => .cutRecord (before.push (key, document)).toList false
  | .obscured before => .cutRecord before.toList false

/-- What has been read of the innermost container when the text breaks off. -/
def Stage.cut : Stage → Document
  | .value | .firstItem => .torn
  | .afterItem items => .list (items.push .torn).toList
  | .firstKey => .cutRecord [] false
  | .key members _ | .afterMember members _ => .cutRecord members.toList false
  | .colon frame => frame.cut .torn

/-- The whole document when the text breaks off: every frame is cut. -/
def cut (frames : List Frame) (stage : Stage) : Document :=
  frames.foldl (fun document frame => frame.cut document) stage.cut

/-- What a token does where it fits: it opens or fills containers, or completes the outermost value. -/
inductive Step where
  | next (frames : List Frame) (stage : Stage)
  | complete (document : Document)
  | misfit

/-- A value that has been read, inside the given frames. -/
def supply (document : Document) : List Frame → Step
  | [] => .complete document
  | frame :: frames => .next frames (frame.supply document)

/-- What the first token of a value does. -/
def begin (frames : List Frame) : Token → Step
  | .value document => supply document frames
  | .text (some content) => supply (.str content) frames
  | .text none => supply .unusable frames
  | .openList => .next (.list #[] :: frames) .firstItem
  | .openRecord => .next frames .firstKey
  | _ => .misfit

/-- What a token does as a key. -/
def beginMember (frames : List Frame) (members : Array (String × Document)) (clear : Bool) :
    Token → Step
  | .text (some key) =>
    .next frames (.colon (if clear then .record members key else .obscured members))
  | .text none => .next frames (.colon (.obscured members))
  | _ => .misfit

/-- What a token does at a stage. -/
def step (frames : List Frame) : Stage → Token → Step
  | .value, token => begin frames token
  | .firstItem, .closeList =>
    match frames with
    | _ :: outer => supply (closed outer (.list [])) outer
    | [] => .misfit
  | .firstItem, token => begin frames token
  | .afterItem items, .comma => .next (.list items :: frames) .value
  | .afterItem items, .closeList => supply (closed frames (.list items.toList)) frames
  | .firstKey, .closeRecord => supply (closed frames (.record [])) frames
  | .firstKey, token => beginMember frames #[] true token
  | .key members clear, token => beginMember frames members clear token
  | .colon frame, .colon => .next (frame :: frames) .value
  | .afterMember members clear, .comma => .next frames (.key members clear)
  | .afterMember members clear, .closeRecord =>
    supply (closed frames (closedRecord members clear)) frames
  | _, _ => .misfit

/-- The document that tokens begin with.  The tokens behind it are given only if it is complete. -/
def assemble (frames : List Frame) (stage : Stage) : List Token → Document × Option (List Token)
  | [] => (cut frames stage, none)
  | token :: rest =>
    match step frames stage token with
    | .next frames stage => assemble frames stage rest
    | .complete document => (document, some rest)
    | .misfit => (cut frames stage, none)

/-- A value decoded from a text, behind which nothing may stand. -/
def decodeText {α : Type} (decode : Document → Except Fault α) (text : String) : Except Fault α := do
  let (document, rest) := assemble [] .value (tokens text.toList)
  let value ← decode document
  match rest with
  | some [] => return value
  | _ => throw .unreadable

/-- The document of a text, if all of it has a value. -/
def readText? (text : String) : Option Document :=
  match assemble [] .value (tokens text.toList) with
  | (document, some []) => if document.isUsable then some document else none
  | _ => none

end Bindery.Json
