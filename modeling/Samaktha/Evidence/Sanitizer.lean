import Samaktha.Evidence.Metadata
import Samaktha.Foundation.Text

/-!
# The evidence sanitizer

`sanitizeForEvidence` walks the metadata of an event: a value under a secret key becomes a
redaction mark, a value under a content key a note, and what is below any other key is walked in
its turn, ten levels deep.  Then a pass over the top-level fields leaves out what does not fit.

The walk raises where it meets a key that is no string, and it returns tuples as they are.

`isLetter` stands for the Unicode tables behind the word boundaries of a regular expression: the
letters and digits outside ASCII.
-/

namespace Samaktha

namespace Evidence

/-! ## Keys -/

def secretKeyPatterns : List String := [
  "api_key", "apikey", "authorization", "auth_token", "access_token", "refresh_token", "secret",
  "password", "credential", "token", "cookie", "session_id", "bearer", "x-api-key",
  "x-subscription-token", "x-brave-api-key", "x-goog-api-key", "jwt", "hmac", "signing_key",
  "private_key", "client_secret", "client_id"]

def contentKeyPatterns : List String := [
  "prompt", "response", "content", "body", "message", "text", "output", "input", "stdout",
  "stderr", "clipboard", "file_content", "memory_content", "web_body", "html", "markdown"]

def safeMetadataKeys : List String := [
  "execution_id", "sequence_number", "request_id", "trace_id", "session_id", "principal_id",
  "task_id", "action_id", "permit_id", "approval_id", "operation_digest", "retry_attempt",
  "provider", "model", "tool_name", "tool_action", "status", "failure_type", "decision",
  "reason_code", "duration_ms", "input_chars", "output_chars", "input_bytes", "output_bytes",
  "content_type", "mime_type", "target_category", "sanitized_target", "result_status",
  "event_type", "severity", "schema_version", "event_version", "source", "streaming",
  "generation", "completed_tasks", "failed_tasks", "total_steps", "retry_count",
  "approval_count", "security_denial_count", "recovery_count"]

def isSecretKey (key : String) : Bool :=
  secretKeyPatterns.any fun pattern => Text.contains (Text.lower key) pattern

def isContentKey (key : String) : Bool :=
  contentKeyPatterns.any fun pattern => Text.contains (Text.lower key) pattern

def isSafeKey (key : String) : Bool := safeMetadataKeys.contains key

/-! ## Marks -/

def redactValue : Datum → Datum
  | .str value =>
      if value.toList.length ≤ 8 then .str "***"
      else .str (String.ofList (value.toList.take 8) ++ "***")
  | _ => .str "***"

/-- The note that stands for a value under a content key. -/
def contentNote : Datum → Datum
  | .str value => .str ("[content:" ++ toString value.toList.length ++ " chars]")
  | .bytes length => .str ("[content:" ++ toString length ++ " bytes]")
  | .list _ => .str "[content:list]"
  | .dict _ => .str "[content:dict]"
  | _ => .str "[content]"

/-- The note that stands for a long text. -/
def truncatedNote (length : ℕ) : Datum := .str ("[truncated:" ++ toString length ++ " chars]")

/-- The mark that stands for a value because of the key it is under, where there is one. -/
def fieldMark (key : String) (value : Datum) : Option Datum :=
  if isSecretKey key then some (redactValue value)
  else if isContentKey key then some (contentNote value)
  else if isSafeKey key then none
  else
    match value with
    | .str text =>
        if 500 < text.toList.length then some (truncatedNote text.toList.length) else none
    | _ => none

/-! ## Texts -/

section Texts

variable (isLetter : Char → Bool)

/-- The words of `_INLINE_SECRET`, with the separators a word can have. -/
def inlineSecretWords : List String := [
  "api_key", "api-key", "apikey", "authorization", "access_token", "access-token", "accesstoken",
  "refresh_token", "refresh-token", "refreshtoken", "password", "secret", "credential", "cookie",
  "bearer"]

/-- The lower case letter that a character matches where case is ignored. -/
def foldCase (c : Char) : Char :=
  if c.toNat = 0x130 || c.toNat = 0x131 then 'i'
  else if c.toNat = 0x17F then 's'
  else if c.toNat = 0x212A then 'k'
  else c.toLower

def isWord (c : Char) : Bool := c.isAlphanum || c = '_' || (0x80 ≤ c.toNat && isLetter c)

/-- What follows a word that a text begins with, the case ignored. -/
def afterWord : List Char → List Char → Option (List Char)
  | [], cs => some cs
  | _ :: _, [] => none
  | w :: ws, c :: cs => if foldCase c = w then afterWord ws cs else none

def inValue (c : Char) : Bool := !(Text.isSpace c) && !([',', ';', '&'].contains c)

/-- What follows `([^\s,;&]+)`. -/
def afterValue (cs : List Char) : Option (List Char) :=
  match cs with
  | [] => none
  | c :: rest => if inValue c then some (rest.dropWhile inValue) else none

/-- What follows `(\s*[:=]\s*|\s+)([^\s,;&]+)`.  Where the separator is followed by no value, the
spaces before it are tried alone, with the separator in the value. -/
def afterSecret (cs : List Char) : Option (List Char) :=
  let spaced := cs.dropWhile Text.isSpace
  let separated :=
    match spaced with
    | c :: rest =>
        if c = ':' || c = '=' then afterValue (rest.dropWhile Text.isSpace) else none
    | [] => none
  match separated with
  | some rest => some rest
  | none => if spaced.length < cs.length then afterValue spaced else none

/-- A match of `_INLINE_SECRET` at the beginning of a text that follows `before`: the characters
of the word, and what follows the match. -/
def inlineSecret (before : Option Char) (cs : List Char) : Option (List Char × List Char) :=
  if before.any (isWord isLetter) then none
  else
    inlineSecretWords.findSome? fun word =>
      match afterWord word.toList cs with
      | none => none
      | some rest =>
          if rest.head?.any (isWord isLetter) then none
          else (afterSecret rest).map fun after => (cs.take word.toList.length, after)

/-- `_INLINE_SECRET.sub`, on a text that follows `before`; `fuel` is the number of characters. -/
def redactInline : ℕ → Option Char → List Char → List Char
  | _, _, [] => []
  | 0, _, cs => cs
  | fuel + 1, before, c :: cs =>
      match inlineSecret isLetter before (c :: cs) with
      | some (word, rest) =>
          -- the value is not empty, and the character after it is none of a word
          word ++ "=[REDACTED]".toList ++ redactInline fuel none rest
      | none => c :: redactInline fuel (some c) cs

def sanitizeString (value : String) : String :=
  String.ofList (redactInline isLetter value.toList.length none value.toList)

/-! ## The walk -/

/-- The parameter `max_depth` of the walk. -/
def maxDepth : ℕ := 10

/-- The items of a list that are kept. -/
def maxItems : ℕ := 100

/-- What the walk makes of a value that holds no other. -/
def sanitizeLeaf : Datum → Datum
  | .str value =>
      let value := sanitizeString isLetter value
      if 10000 < value.toList.length then truncatedNote value.toList.length else .str value
  | .bytes length => .str ("[binary:" ++ toString length ++ " bytes]")
  | value => value

mutual

/-- `_sanitize_recursive`; `none` where it raises `AttributeError`. -/
def sanitizeRecursive (depth : ℕ) : Datum → Option Datum
  | .dict kvs =>
      if maxDepth < depth then some (.str "[max_depth_exceeded]")
      else (sanitizeFields depth kvs).map .dict
  | .list xs =>
      if maxDepth < depth then some (.str "[max_depth_exceeded]")
      else (sanitizeItems depth maxItems xs).map fun ys =>
        .list (if maxItems < xs.length then ys ++ [.str "[list_truncated]"] else ys)
  | value =>
      if maxDepth < depth then some (.str "[max_depth_exceeded]")
      else some (sanitizeLeaf isLetter value)

/-- The first items of a list. -/
def sanitizeItems (depth : ℕ) : ℕ → List Datum → Option (List Datum)
  | _, [] => some []
  | 0, _ :: _ => some []
  | room + 1, x :: xs =>
      match sanitizeRecursive (depth + 1) x, sanitizeItems depth room xs with
      | some y, some ys => some (y :: ys)
      | _, _ => none

def sanitizeFields (depth : ℕ) : List (Key × Datum) → Option (List (Key × Datum))
  | [] => some []
  -- `key.lower()` of a key that is no string
  | (.other _ _, _) :: _ => none
  | (.str key, value) :: kvs =>
      match (fieldMark key value).or (sanitizeRecursive (depth + 1) value),
          sanitizeFields depth kvs with
      | some sanitized, some rest => some ((.str key, sanitized) :: rest)
      | _, _ => none

end

/-! ## The size -/

/-- The value of a field that does not fit. -/
def omitted : Datum := .str "[omitted:size_limit]"

/-- The fields that stay whatever their size. -/
def alwaysKept : Key → Bool
  | .str key => isSafeKey key || key.toList.head? = some '_'
  | .other _ _ => false

/-- The other fields are added one by one, or their marks where they do not fit. -/
def addFields (maxPayloadBytes : ℕ) (kept : Dict Key Datum) : Dict Key Datum → Dict Key Datum
  | [] => kept
  | (k, v) :: rest =>
      if (Datum.dict (kept.set k v)).size ≤ maxPayloadBytes then
        addFields maxPayloadBytes (kept.set k v) rest
      else addFields maxPayloadBytes (kept.set k omitted) rest

/-- The pass over the fields of a dictionary that is too large. -/
def limitSize (maxPayloadBytes : ℕ) (sanitized : Dict Key Datum) : Dict Key Datum :=
  addFields maxPayloadBytes (sanitized.filter fun kv => alwaysKept kv.1)
    (sanitized.filter fun kv => !alwaysKept kv.1)

/-- The fields after the walk, with the two marker fields. -/
def markFields (allowContent : Bool) (fields : Dict Key Datum) : Dict Key Datum :=
  (fields.set (.str "_sanitized") (.bool true)).set (.str "_content_allowed") (.bool allowContent)

/-- `sanitize_for_evidence` of a dictionary; `none` where it raises.  A `TypeError` or `ValueError`
of `json.dumps` ends the pass over the sizes at its first call: the later calls are on parts of
what the first one wrote. -/
def sanitizeForEvidence (metadata : Dict Key Datum) (allowContent : Bool := false)
    (maxPayloadBytes : ℕ := 64000) : Option (Dict Key Datum) :=
  if !(Datum.dict metadata).copies then none
  else
    (sanitizeFields isLetter 0 metadata).map fun fields =>
      let sanitized := markFields allowContent fields
      if (Datum.dict sanitized).encodable &&
          decide (maxPayloadBytes < (Datum.dict sanitized).size) then
        limitSize maxPayloadBytes sanitized
      else sanitized

end Texts

end Evidence

end Samaktha
