/-
Module: MultisigQueue.Rpc.Headers
Purpose: The headers of requests: the usual ones, and others given for them.
Main exports:
  Rpc.Headers, Rpc.Headers.usual, Rpc.Headers.ofValues, Rpc.Headers.value?, Rpc.Headers.ofTransport
-/
import MultisigQueue.Settings

namespace MultisigQueue.Rpc

/-!
A header that is given replaces the usual one of exactly its name, and is otherwise added to them.
Names and texts are in ASCII. A name is looked up in any case, so that it may have several values.
The transport adds headers of its own where none of their names are given.
-/

/-- Names with their values. -/
abbrev Headers : Type := List (String × String)

namespace Headers

/-- The headers of every request. -/
def usual : Headers :=
  [("Content-Type", "application/json"), ("Accept", "application/json"),
   ("User-Agent", "harbour-sdk-python/" ++ Settings.version)]

/-- A text in ASCII. -/
def plainText (s : String) : Except InputError String :=
  match Charset.ascii.refusal? (s.toList.map Char.toNat) with
  | none => .ok s
  | some e => .error e

/-- Octets as a text: what they encode, or else a character for each. -/
def textOf (b : Bytes) : String :=
  (Utf8.decodeStrict? b).getD (String.ofList (b.map fun x => Char.ofNat x.toNat))

/-- The text of a header, which may be given in octets. -/
def headerText : Value → Except InputError String
  | .text s => plainText s
  | .unpaired codePoints =>
    match Charset.ascii.refusal? codePoints with
    | none => .ok (Text.lossy codePoints)
    | some e => .error e
  | .bytes b => .ok (textOf b)
  | other => .error (.headerKind other.kindName)

/-- The usual headers, changed and added to by those that are given. -/
def ofValues (given : List (String × Value)) : Except InputError Headers :=
  let usual := usual.map fun (name, value) => (name, Value.text value)
  let all := given.foldl (fun before (name, value) => Value.setField before name value) usual
  all.mapM fun (name, value) => do
    let name ← plainText name
    let value ← headerText value
    return (name, value)

/-- A name in small letters. -/
def folded (name : String) : List Char := name.toList.map Char.toLower

/-- All values of a header in one text. -/
def value? (headers : Headers) (name : String) : Option String :=
  match headers.filter fun entry => folded entry.1 == folded name with
  | [] => none
  | found => some (String.intercalate ", " (found.map Prod.snd))

/-- The characters of a web address behind its scheme. -/
def behindScheme : List Char → List Char
  | ':' :: '/' :: '/' :: rest => rest
  | _ :: rest => behindScheme rest
  | [] => []

/-- The host in a web address, with the number behind its colon if it has one. -/
def hostOf (url : String) : String :=
  let authority := (behindScheme url.toList).takeWhile fun c => c != '/' && c != '?' && c != '#'
  String.ofList (authority.reverse.takeWhile (· != '@')).reverse

/-- The headers that the transport gives a body of so many octets for a web address. -/
def ofTransport (url : String) (length : Nat) : Headers :=
  [("Host", hostOf url), ("Accept-Encoding", "gzip, deflate"), ("Connection", "keep-alive"),
   ("Content-Length", Numeral.decimal length)]

end Headers

end MultisigQueue.Rpc
