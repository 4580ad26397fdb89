import Samaktha.Foundation.Regex

/-!
# Requests to remember and requests to write a file

The grammars that decide, before a goal is parsed, whether a request asks to store a memory
(`storePayload`, `ambiguousStore`) or to write a file (`parseResourceWrite`).  A request is its
list of characters.
-/

namespace Samaktha

namespace ResourceParser

open Regex

/-! ## Text methods on characters -/

/-- `text.lstrip(chars)`. -/
def lstripOf (drop : Char → Bool) (text : List Char) : List Char := text.dropWhile drop

/-- `text.rstrip(chars)`. -/
def rstripOf (drop : Char → Bool) (text : List Char) : List Char := text.rdropWhile drop

/-- `text.strip(chars)`. -/
def stripOf (drop : Char → Bool) (text : List Char) : List Char :=
    rstripOf drop (lstripOf drop text)

def isQuote (c : Char) : Bool := c = '"' || c = '\''

/-! ## Memory requests -/

def storeRe : Regex := inOrder [textStart, many space, option (inOrder [word "please", plus space]),
  oneOf [
    inOrder [word "remember", plus space, oneOf [
      inOrder [word "that", wordEdge, many space],
      inOrder [word "this", option (inOrder [plus space, word "for", plus space, word "later"]),
        many space, word ":", many space]]],
    inOrder [words ["save", "store", "keep"], plus space, word "this", plus space, oneOf [
        inOrder [word "in", plus space, option (inOrder [word "your", plus space]), word "memory"],
        inOrder [word "for", plus space, word "later"]],
      many space, word ":", many space],
    inOrder [word "don't", plus space, word "forget", plus space, word "that", wordEdge,
      many space],
    inOrder [word "make", plus space, word "a", plus space, word "note", plus space, word "in",
      plus space, word "your", plus space, word "memory", plus space, word "that", wordEdge,
      many space]]]

def storePayload (w : WordChars) (request : List Char) : Option (List Char) :=
  (matchStart w storeRe request).map fun stop => stop.rest

/-- The pattern of `ambiguous_store`. -/
def rememberRe : Regex := inOrder [textStart, many space,
  option (inOrder [word "please", plus space]), word "remember", plus space,
  words ["my", "this", "that"], wordEdge]

def ambiguousStore (w : WordChars) (request : List Char) : Bool :=
  (matchStart w rememberRe request).isSome && (storePayload w request).isNone
    && (rstripOf Text.isSpace request).getLast? ≠ some '?'

/-! ## Requests to write -/

inductive ResourceOperation where
  | fileCreate
  | fileWrite
  | fileUpdate
  | directoryCreate
  deriving Repr, DecidableEq, Inhabited

structure ResourceWrite where
  paths : List (List Char)
  content : Option (List Char)
  operation : ResourceOperation
  location : Option (List Char) := none
  overwrite : Bool := false
  deriving Repr, DecidableEq

def verbRe : Regex := inOrder [textStart, many space, option (inOrder [word "please", plus space]),
  group 1 (words ["create", "make", "write", "save", "generate", "update", "overwrite"]), wordEdge]

/-- What a request after its verb is for another tool. -/
def otherRecordRe : Regex := inOrder [many space,
  option (inOrder [word "a", option (word "n"), plus space]),
  words ["note", "task", "contact", "calendar", "event", "reminder", "email", "message"],
  wordEdge, ahead false (word ".")]

def blanks : Regex := many (among [' ', '\t'])

def bodyRe : Regex := oneOf [
  inOrder [wordEdge, oneOf [
      inOrder [word "with", plus space, option (inOrder [word "the", plus space]),
        words ["content", "text"]],
      word "containing", word "saying", word "content", word "text"],
    wordEdge, blanks,
    option (oneOf [inOrder [words ["of", "is"], wordEdge, blanks],
      inOrder [word ":", blanks]])],
  inOrder [wordEdge, word "and", plus space, words ["write", "put"], plus space]]

/-- A word that describes a format and does not begin the content. -/
def textFileRe : Regex :=
  inOrder [words ["text", "content"], plus space, word "file", wordEdge]

/-- An ASCII letter or digit. -/
def isAlphanumeric (c : Char) : Bool := c.toNat < 128 && c.isAlphanum

def pathRe : Regex := oneOf [
  inOrder [among ['"'], group 1 (plus (notAmong ['"', '\n'])), among ['"']],
  inOrder [among ['\''], group 2 (plus (notAmong ['\'', '\n'])), among ['\'']],
  inOrder [
    group 3 (inOrder [
      plus (.char fun c => !Text.isSpace c && !(c = ',' || isQuote c)), among ['.'],
      plus (.char isAlphanumeric)]),
    ahead true (oneOf [textEnd, .char fun c => Text.isSpace c || c = ','])]]

def locationRe : Regex := oneOf [
  inOrder [wordEdge, words ["on", "in"], plus space,
    option (inOrder [words ["my", "the"], plus space]),
    group 1 (words ["Desktop", "Documents", "workspace"]), wordEdge],
  inOrder [wordEdge, word "in", plus space,
    group 2 (oneOf [
      inOrder [among ['"'], plus (notAmong ['"', '\n']), among ['"']],
      inOrder [among ['\''], plus (notAmong ['\'', '\n']), among ['\'']],
      inOrder [.char fun c => 97 ≤ foldCase c && foldCase c ≤ 122, word ":", among ['\\', '/'],
        notAmong ['\n'], star false (notAmong ['\n'])]]),
    ahead true (oneOf [
      inOrder [plus space, words ["with", "called", "named"], wordEdge], textEnd])]]

/-- The pattern of a path that is named in words. -/
def lexicalRe : Regex := inOrder [wordEdge, words ["called", "named", "as"], plus space,
  group 1 (plus (.char fun c => !Text.isSpace c)), many space, textEnd]

/-- The pattern of a request that is about a file. -/
def explicitRe : Regex := inOrder [wordEdge, oneOf [
  word "file", word "document", word "csv", word "markdown",
  inOrder [word "save", plus space, option (inOrder [word "this", plus space]), word "as"]],
  wordEdge]

/-- The pattern of a body that is put in a file. -/
def andPutRe : Regex := inOrder [word "and", plus space, word "put", wordEdge]

/-- The pattern of what follows such a body. -/
def inItRe : Regex := inOrder [plus space, word "in", plus space, word "it", many space, textEnd]

/-- The pattern of a request for a directory. -/
def directoryRe : Regex := inOrder [many space,
  option (inOrder [word "a", option (word "n"), plus space]),
  option (inOrder [word "empty", plus space]), words ["folder", "directory"], wordEdge]

variable (w : WordChars)

def writtenPaths (header : List Char) : List (List Char) :=
  (findIter w pathRe (header.length + 1) [] header).map fun found =>
    let stop := found.2
    let given := ((stop.group? 1).orElse fun _ => stop.group? 2).orElse fun _ => stop.group? 3
    rstripOf (fun c => c = ',') (given.getD [])

/-- The paths of a header without its location. -/
def pathsOf (header : List Char) : List (List Char) :=
  let paths := writtenPaths w header
  if paths = [] then
    match search w lexicalRe header with
    | some (_, stop) => [stripOf isQuote ((stop.group? 1).getD [])]
    | none => []
  else paths

/-- The location a header names, and the header without it. -/
def locationOf (header : List Char) : Option (List Char) × List Char :=
  match search w locationRe header with
  | none => (none, header)
  | some (start, stop) =>
      let given := (stop.group? 1).orElse fun _ => stop.group? 2
      (some (stripOf isQuote (stripOf Text.isSpace (given.getD []))),
        start.back.reverse ++ stop.rest)

/-- The content after a body, from the body itself and what follows it. -/
def contentAfter (body rest : List Char) : List Char :=
  let content :=
    match rest with
    | '\r' :: '\n' :: content => content
    | '\n' :: content => content
    | content => content
  let content :=
    if (matchStart w andPutRe body).isSome then subAll w inItRe [] (content.length + 1) [] content
    else content
  if 2 ≤ content.length ∧ content.head?.any isQuote ∧ content.getLast? = content.head? then
    (content.drop 1).dropLast
  else content

/-- The first body from a position on; a word that describes a format is passed over. -/
def findBody (verb : Cursor) : Option (Cursor × Cursor) :=
  match searchFrom w bodyRe verb.back verb.rest with
  | none => none
  | some (start, stop) =>
      if (matchStart w textFileRe start.rest).isSome then
        let next := stop.advance 4
        searchFrom w bodyRe next.back next.rest
      else some (start, stop)

/-- The operation a verb stands for. -/
def operationOf (verb : List Char) : ResourceOperation :=
  if verb = "create".toList ∨ verb = "make".toList then .fileCreate
  else if verb = "update".toList then .fileUpdate
  else .fileWrite

def parseResourceWrite (request : List Char) : Option ResourceWrite :=
  match search w verbRe request with
  | none => none
  | some (_, verb) =>
      if (matchStart w otherRecordRe verb.rest).isSome then none
      else
        let name := Text.lowerChars ((verb.group? 1).getD [])
        let body := findBody w verb
        let header :=
          match body with
          | some (start, _) => start.back.reverse
          | none => request
        let (location, pathHeader) := locationOf w header
        let paths := pathsOf w pathHeader
        if paths = [] ∧ !found w explicitRe pathHeader then none
        else
          let content :=
            match body with
            | some (start, stop) => some (contentAfter w (between start stop) stop.rest)
            | none =>
                if name = "create".toList ∨ name = "make".toList
                    ∨ found w (inOrder [wordEdge, word "empty", wordEdge]) header then some []
                else none
          let operation :=
            if (matchStart w directoryRe
              (pathHeader.drop (request.length - verb.rest.length))).isSome
            then .directoryCreate
            else operationOf name
          some { paths, content, operation, location, overwrite := name = "overwrite".toList }

end ResourceParser

end Samaktha
