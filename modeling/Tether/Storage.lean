import Tether.Model
import Tether.Json.Write
/-!
# Storage — named JSON documents kept by the host

The host keeps small JSON documents under string keys: the last session it was connected
to, and settings of plugins.  Two stores exist.  The memory store keeps each key apart.
The file store keeps a document in a file named after its key, every character other than
an ASCII letter, digit, `-` or `_` replaced by `_`, and `.json` appended; keys with the same
file name share one document.  `ConfigStore` holds both: it maps each key to its *slot* (the
key itself, or its file name) and keeps one document per slot.

Typed documents are written in the indented layout (`Json.renderPretty`) and read back with
the field-by-field decoders of the model; a document that does not decode is invalid data.
Loading a key that has no document is `notFound`, except for the last session, which is then
simply absent.  Deleting a missing key succeeds.  A file name longer than 255 bytes is
refused by the file system: such a key is never found, and writing, reading or removing it
fails (a document is written to `NAME.json.tmp` first and then renamed, so writing already
fails when that name is too long).
-/

namespace Tether

open Tether.Json

set_option autoImplicit false

/-- Why a stored document could not be used. -/
inductive ConfigError where
  | notFound (key : String)
  | readError (message : String)
  | writeError (message : String)
  | invalidData (message : String)
  deriving DecidableEq, Repr

namespace ConfigError

/-- The text of a storage error. -/
def message : ConfigError → String
  | .notFound key => "Configuration not found: " ++ key
  | .readError m => "Read error: " ++ m
  | .writeError m => "Write error: " ++ m
  | .invalidData m => "Invalid data: " ++ m

/-- The variant name of a storage error. -/
def kind : ConfigError → String
  | .notFound _ => "ConfigError::NotFound"
  | .readError _ => "ConfigError::ReadError"
  | .writeError _ => "ConfigError::WriteError"
  | .invalidData _ => "ConfigError::InvalidData"

end ConfigError

/-- What a path of the file system holds. -/
inductive PathContent where
  | missing
  | directory
  | file (text : String)

/-- The reason the system gives for reading a directory as a file. -/
def isDirectoryReason : String := "Is a directory (os error 21)"

/-- The key under which the last session is kept. -/
def lastSessionKey : String := "last_session"

/-- The longest file name the file system takes, in bytes. -/
def maxFileNameBytes : Nat := 255

/-- The reason the system gives for a file name that is too long. -/
def nameTooLongReason : String := "File name too long (os error 36)"

/-- Where documents are kept: in memory, or in files of a directory. -/
inductive StoreKind where
  | memory
  | files (dir : String)
  deriving DecidableEq, Repr

/-- Whether a character may stand in a file name as it is. -/
def isFileNameChar (c : Char) : Bool := c.isAlphanum || c == '-' || c == '_'

/-- The file name of a key. -/
def fileNameOf (key : String) : String :=
  String.ofList (key.toList.map fun c => if isFileNameChar c then c else '_') ++ ".json"

/-- The name of the file a document is written to before it is renamed to its own name:
the extension `.json` becomes `.json.tmp`.  The file name of the empty key, `.json`, is all
stem, so the extension is added to it. -/
def stagingNameOf (name : String) : String :=
  if name == ".json" then ".json.json.tmp" else name ++ ".tmp"

/-- The path of a file of a directory. -/
def pathIn (dir name : String) : String :=
  if dir.isEmpty then name else if dir.endsWith "/" then dir ++ name else dir ++ "/" ++ name

/-- Whether the file system refuses a file name as too long. -/
def nameTooLong (name : String) : Bool := maxFileNameBytes < name.utf8ByteSize

/-- The slot of a key in a store of this kind. -/
def StoreKind.slot : StoreKind → String → String
  | .memory, key => key
  | .files _, key => fileNameOf key

/-- A store of documents: one text per slot, in the order the slots were first written. -/
structure ConfigStore where
  kind : StoreKind := .memory
  docs : List (String × String) := []

namespace ConfigStore

/-- The text of a key's document.  In files, a file name that is too long cannot be
read. -/
def loadRaw (s : ConfigStore) (key : String) : Except ConfigError String :=
  match s.kind with
  | .files dir =>
    let name := fileNameOf key
    if nameTooLong name then .error (.readError (pathIn dir name ++ ": " ++ nameTooLongReason))
    else match s.docs.lookup name with
      | some text => .ok text
      | none => .error (.notFound key)
  | .memory =>
    match s.docs.lookup key with
    | some text => .ok text
    | none => .error (.notFound key)

/-- Puts a text in a key's slot, replacing what it held; for documents that are there
already, such as the files found when the store is opened. -/
def insert (s : ConfigStore) (key text : String) : ConfigStore :=
  let slot := s.kind.slot key
  if s.docs.any (·.1 == slot) then
    { s with docs := s.docs.map fun (k, t) => if k == slot then (k, text) else (k, t) }
  else { s with docs := s.docs ++ [(slot, text)] }

/-- Stores a text under a key, replacing what its slot held.  In files the text is first
written to the staging file, whose name must not be too long. -/
def saveRaw (s : ConfigStore) (key text : String) : Except ConfigError ConfigStore :=
  match s.kind with
  | .files dir =>
    let staging := stagingNameOf (fileNameOf key)
    if nameTooLong staging then .error (.writeError (pathIn dir staging ++ ": " ++ nameTooLongReason))
    else .ok (s.insert key text)
  | .memory => .ok (s.insert key text)

/-- Whether a key has a document. -/
def hasKey (s : ConfigStore) (key : String) : Bool := s.docs.any (·.1 == s.kind.slot key)

/-- Removes a key's document, if any.  In files, a file name that is too long cannot be
removed. -/
def deleteKey (s : ConfigStore) (key : String) : Except ConfigError ConfigStore :=
  match s.kind with
  | .files _ =>
    if nameTooLong (fileNameOf key) then .error (.writeError nameTooLongReason)
    else .ok { s with docs := s.docs.filter (·.1 != fileNameOf key) }
  | .memory => .ok { s with docs := s.docs.filter (·.1 != key) }

/-- Reads a typed document. -/
def loadValue {α : Type} (s : ConfigStore) (key : String) (d : Decoder α) : Except ConfigError α := do
  let text ← s.loadRaw key
  (decodeText d text).mapError fun e => .invalidData e.render

/-- Stores a document in the indented layout. -/
def saveValue (s : ConfigStore) (key : String) (doc : Json) : Except ConfigError ConfigStore :=
  s.saveRaw key (renderPretty doc)

/-- The last session, if one is kept. -/
def loadLastSession (s : ConfigStore) : Except ConfigError (Option LastSession) :=
  match s.loadValue lastSessionKey LastSession.decode with
  | .ok v => .ok (some v)
  | .error (.notFound _) => .ok none
  | .error e => .error e

/-- Keeps a last session. -/
def saveLastSession (s : ConfigStore) (ls : LastSession) : Except ConfigError ConfigStore :=
  s.saveValue lastSessionKey ls.written

/-- Forgets the last session. -/
def clearLastSession (s : ConfigStore) : Except ConfigError ConfigStore :=
  s.deleteKey lastSessionKey

end ConfigStore

end Tether
