import Samaktha.Foundation.Json
import Samaktha.Foundation.Machine
import Samaktha.Gambit.ResourceParser

/-!
# Conversational references

`ReferenceResolver.resolve` rewrites a request by what the conversation is about.  `outcomeOf`
follows its branches and says what is to be done with the request: answered as it is or with a text
of its own (`Outcome.done`), a file written with the content above (`Outcome.compose`), or a
resource put in the place of a phrase (`Outcome.substitute`); `resolve` carries it out.

A phrase is looked for as a part of the request in lower case, and replaced where its letters stand
first in the request with case ignored.  `keepsWords_iff` says when the two agree on whole words.
-/

namespace Samaktha

namespace References

open Regex ResourceParser

inductive ReferenceKind where
  | document
  | codeFile
  | project
  | directory
  | repository
  | searchResult
  | generatedText
  | runtimeOutput
  | command
  | resource
  | unknown
  deriving Repr, DecidableEq, Inhabited

/-- The fields of the conversation state that references are resolved by. -/
structure ConversationState where
  activeDocument : Option (List Char) := none
  activeProject : Option (List Char) := none
  activeDirectory : Option (List Char) := none
  activeRepository : Option (List Char) := none
  activeCodeFile : Option (List Char) := none
  lastGeneratedText : Option (List Char) := none
  lastSearchResult : Option Json := none
  lastToolResultText : Option (List Char) := none
  lastSearchResults : List (List Char) := []
  lastSearchQuery : Option (List Char) := none
  lastSearchEntities : List (List Char) := []
  lastSearchRequestedCount : Option ℤ := none
  lastCommand : Option (List Char) := none
  lastResource : Option (List Char) := none
  lastGoal : Option (List Char) := none

structure ReferenceResolution where
  resolved : Bool := false
  kind : Option ReferenceKind := none
  resource : Option (List Char) := none
  display : Option (List Char) := none
  originalRequest : List Char := []
  request : List Char := []
  deriving Repr, DecidableEq

/-! ## The phrases -/

def selfReferencePhrases : List String := [
  "this conversation", "that conversation", "the conversation", "this session", "that session",
  "the session", "this discussion", "that discussion", "this chat", "this thread", "my memory",
  "my memories", "all memories", "my data", "my history", "my preferences"]

def answerReferencePhrases : List String := [
  "previous answer", "earlier answer", "previous response", "earlier response", "first answer",
  "second answer", "third answer", "the first answer", "the second answer", "your first answer",
  "your second answer"]

def searchPhrases : List String := [
  "the first result", "first result", "the top result", "top result", "the first file",
  "first file", "the first match", "first match", "the results", "these results", "the matches",
  "these files"]

def aboveContentPhrases : List String := [
  "the above content", "above content", "the above text", "above text", "the content above",
  "those findings", "the findings above"]

def documentPhrases : List String := [
  "the previous document", "the same document", "this document", "that document",
  "the document", "the previous file", "the same file", "this file", "that file", "the file",
  "the previous pdf", "this pdf", "that pdf", "the pdf"]

def projectPhrases : List String := [
  "the whole project", "this project", "that project", "the project", "this workspace",
  "the workspace"]

def directoryPhrases : List String := [
  "the current directory", "the current folder", "this directory", "that directory",
  "the directory", "this folder", "that folder", "the folder"]

def repositoryPhrases : List String := [
  "the repository", "this repository", "that repository", "the repo", "this repo", "that repo",
  "the codebase"]

def saveVerbs : List String := ["save", "export", "store", "keep", "persist", "record", "write"]

def runVerbs : List String := ["run", "execute", "rerun", "replay", "compile", "test"]

def readVerbs : List String := [
  "read", "open", "show", "view", "examine", "inspect", "summarize", "explain", "translate",
  "extract", "analyze", "parse", "list", "describe", "outline", "convert", "delete", "remove",
  "copy", "move", "rename"]

def pronouns : List String := ["it", "this", "that"]

/-! ## The patterns -/

def anyText : Regex := many (notAmong ['\n'])

def continueRe : Regex := inOrder [textStart, group 1 (words ["continue", "keep going", "go on"]),
  wordEdge, group 2 anyText, textEnd]

def continueFromRe : Regex := inOrder [textStart,
  group 1 (oneOf [word "continue from here",
    inOrder [word "pick up where ", words ["i", "we"], word " left off"], word "resume"]),
  wordEdge, group 2 anyText, textEnd]

def pronounRe : Regex := inOrder [wordEdge, group 1 (words pronouns), wordEdge]

/-- A standalone request, which may be asked politely and end in marks. -/
def standalone (polite : Bool) (request : List Regex) : Regex :=
  inOrder ([textStart] ++ (if polite then [option (group 1 (inOrder [word "please", plus space]))]
    else []) ++ request ++ [many (among ['!', '?', '.']), textEnd])

/-- `(?:\s+on\s+that)?`. -/
def onThat : Regex := option (inOrder [plus space, word "on", plus space, word "that"])

/-- `(?:\s+about\s+that)?`. -/
def aboutThat : Regex := option (inOrder [plus space, word "about", plus space, word "that"])

/-- `_ELABORATION_PATTERNS`, with what stands before and after the target in each template. -/
def elaborationPatterns : List (Regex × String × String) := [
  (standalone true [word "explain", plus space, word "more"], "Explain more about ", "."),
  (standalone true [word "explain", plus space, word "further"], "Explain more about ", "."),
  (standalone false [word "explain", plus space, words ["that", "this", "it"]], "Explain ", "."),
  (standalone true [word "go", plus space, word "deeper"], "Go deeper into ", "."),
  (standalone true [word "give", plus space, word "more", plus space, word "detail",
    option (word "s")], "Give more details about ", "."),
  (standalone true [word "more", plus space, word "detail", option (word "s")],
    "Give more details about ", "."),
  (standalone true [words ["can", "could"], plus space, word "you", plus space, word "elaborate",
    onThat], "Elaborate on ", "."),
  (standalone true [word "elaborate", onThat], "Elaborate on ", "."),
  (standalone true [word "tell", plus space, word "me", plus space, word "more", aboutThat],
    "Tell me more about ", "."),
  (standalone true [word "expand", option (inOrder [plus space, word "on", plus space]),
    option (words ["that", "this", "it"])], "Expand on ", ".")]

def bareWhyRe : Regex := standalone false [word "why",
  option (group 1 (inOrder [plus space, word "is", plus space, word "that"]))]

def bareHowRe : Regex := standalone false [word "how",
  option (group 1 (inOrder [plus space, words ["so", "come"]]))]

/-- A noun in one of its two numbers. -/
def plural (noun : String) : Regex := inOrder [word noun, option (word "s")]

def entityReferencePatterns : List Regex := [
  standalone false [word "give me the ", plural "name"],
  standalone false [word "give me the ",
    oneOf (["model", "llm", "agent", "result"].map plural)],
  standalone false [word "show me the ",
    oneOf (["name", "model", "llm", "agent", "result"].map plural)],
  standalone false [word "list the ",
    oneOf (["name", "model", "llm", "agent", "result"].map plural)],
  standalone false [word "the ",
    oneOf (["name", "model", "llm", "agent", "entitie"].map plural)],
  standalone false [word "just the ", oneOf (["name", "model"].map plural)],
  standalone false [word "only the ", oneOf (["name", "model"].map plural)],
  standalone false [word "what are the ", oneOf (["name", "model", "llm", "agent"].map plural)]]

/-- The pattern of a request to save what was generated under a name. -/
def saveAsRe : Regex := inOrder [textStart, many space, word "save", plus space,
  words ["this", "it", "that"], plus space, word "as", wordEdge]

/-- The pattern of a request to write something. -/
def writeRequestRe : Regex := inOrder [textStart, many space,
  option (inOrder [word "now", plus space]), words ["create", "make", "write", "save"], wordEdge]

/-! ## What a reference stands for -/

/-- A text that is there and not empty. -/
def given (text : Option (List Char)) : Option (List Char) := text.filter (· ≠ [])

def orText (a b : Option (List Char)) : Option (List Char) := (given a).orElse fun _ => given b

def maxFollowupTextLength : ℕ := 200

/-- `_phrase_match`: the first phrase of a table that is a part of the text. -/
def phraseMatch (lowered : List Char) (phrases : List String) : Option String :=
  phrases.find? fun phrase => Text.occursIn phrase.toList lowered

/-- `str(value or "").strip()`. -/
def stripped (ofContainer : Json → String) : Option Json → List Char
  | some j => if j.truthy then stripOf Text.isSpace (j.text ofContainer).toList else []
  | none => []

/-- One line of `_search_text`, the number of which is one more than the lines before it. -/
def searchLine (ofContainer : Json → String) (lines : List (List Char)) :
    Json → List (List Char)
  | .obj item =>
      let title := stripped ofContainer (Dict.get? item "title")
      let url := stripped ofContainer (Dict.get? item "url")
      let description := stripped ofContainer (Dict.get? item "description")
      if title = [] then lines
      else lines ++ [(toString (lines.length + 1)).toList ++ ". ".toList ++ title ++
        (if url = [] then [] else " — ".toList ++ url) ++
        (if description = [] then [] else '\n' :: description)]
  | _ => lines

/-- `_search_text`; a number or a truth value cannot be iterated. -/
def searchText (ofContainer : Json → String) (state : ConversationState) :
    Except String (Option (List Char)) :=
  match state.lastSearchResult with
  | some (.obj result) =>
      let render (items : List Json) : Option (List Char) :=
        let lines := items.foldl (searchLine ofContainer) []
        if lines = [] then none else some ("\n\n".toList.intercalate lines)
      match Dict.get? result "results" with
      | none => .ok none
      | some (.arr items) => .ok (render items)
      | some (.str _) => .ok none
      | some (.obj _) => .ok none
      | some _ => .error "TypeError"
  | _ => .ok none

def followupTarget (state : ConversationState) : Option (List Char × ReferenceKind) :=
  let short := (given state.lastGeneratedText).filter (·.length ≤ maxFollowupTextLength)
  [(given state.activeDocument, ReferenceKind.document),
    (given state.activeCodeFile, .codeFile), (given state.lastResource, .resource),
    (short, .generatedText), (given state.lastCommand, .command),
    (given state.lastGoal, .unknown)].findSome? fun (value, kind) => value.map (·, kind)

/-- `_pronoun_target`: the kind, the resource and what is displayed for it. -/
def pronounTarget (state : ConversationState) (request : List Char) :
    Option (ReferenceKind × List Char × List Char) :=
  let first := rstripOf (fun c => ".,!?;:".toList.contains c)
    (Text.lowerChars ((Text.wordsFrom [] request).headD []))
  let isVerb (verbs : List String) : Bool := verbs.any fun verb => verb.toList = first
  let shown (text : Option (List Char)) (kind : ReferenceKind) (display : Option String) :
      Option (ReferenceKind × List Char × List Char) :=
    (given text).map fun value => (kind, value, (display.map String.toList).getD value)
  let choices :=
    (if isVerb saveVerbs then
      [shown state.lastGeneratedText .generatedText (some "the generated text")] else []) ++
    (if isVerb runVerbs then
      [shown state.lastGeneratedText .generatedText (some "the generated script"),
        shown state.lastCommand .command (some "the previous command")] else []) ++
    (if isVerb readVerbs then
      [shown state.activeDocument .document none, shown state.activeCodeFile .codeFile none]
      else []) ++
    [shown state.activeDocument .document none, shown state.activeCodeFile .codeFile none,
      shown state.lastGeneratedText .generatedText none, shown state.lastCommand .command none,
      shown state.lastResource .resource none]
  choices.findSome? id

/-! ## The resolver -/

/-- The stages that put a resource in the place of a phrase. -/
inductive Stage where
  | searchResult
  | aboveContent
  | document
  | project
  | directory
  | repository
  | pronoun
  deriving Repr, DecidableEq

def Stage.phrases : Stage → List String
  | searchResult => searchPhrases
  | aboveContent => aboveContentPhrases
  | document => documentPhrases
  | project => projectPhrases
  | directory => directoryPhrases
  | repository => repositoryPhrases
  | pronoun => pronouns

/-- The replacement of a phrase. -/
structure Substitution where
  stage : Stage
  phrase : List Char
  display : List Char
  kind : ReferenceKind
  resource : List Char
  deriving Repr, DecidableEq

/-- What is to be done with a request. -/
inductive Outcome where
  | done (resolution : ReferenceResolution)
  | compose (phrase : List Char) (rewritten target : List Char)
  | substitute (s : Substitution)
  deriving Repr, DecidableEq

def resolvedAs (original rewritten : List Char) (kind : ReferenceKind) (resource : List Char) :
    ReferenceResolution where
  resolved := true
  kind := some kind
  resource := some resource
  display := some resource
  originalRequest := original
  request := rewritten

/-- The resolution that leaves a request as it is. -/
def unresolved (original : List Char) : ReferenceResolution where
  originalRequest := original
  request := original

/-- The text before the first place of a phrase, what stands there, and the text after it. -/
def splitFirst (w : WordChars) (phrase text : List Char) :
    Option (List Char × List Char × List Char) :=
  (search w (literal phrase) text).map fun (start, stop) =>
    (start.back.reverse, between start stop, stop.rest)

def replaceFirst (w : WordChars) (text phrase replacement : List Char) : List Char :=
  match splitFirst w phrase text with
  | some (before, _, after) => before ++ replacement ++ after
  | none => text

/-- The name of a file for a search query. -/
def slugOf (w : WordChars) (query : Option (List Char)) : List Char :=
  let lowered := Text.lowerChars ((given query).getD "search-results".toList)
  let other : Regex := plus (.char fun c => !('a' ≤ c && c ≤ 'z' || '0' ≤ c && c ≤ '9'))
  let slug := stripOf (· = '-') (subAll w other ['-'] (lowered.length + 1) [] lowered)
  rstripOf (· = '-') ((if slug = [] then "search-results".toList else slug).take 60)

/-- The request to create a file for a query with a content. -/
def createFileRequest (w : WordChars) (query : Option (List Char)) (target : List Char) :
    List Char :=
  "create file ".toList ++ slugOf w query ++ ".txt with content:\n".toList ++ target

/-- `match.group(2).strip()` after a command that is continued. -/
def continued (command resource rest : List Char) : List Char :=
  command ++ [' '] ++ resource ++ (if rest = [] then [] else ' ' :: rest)

/-- The lines of the entities a search has found; the format that is asked for makes no
difference. -/
def entityLines (state : ConversationState) : List Char :=
  let entities := state.lastSearchEntities
  let count := (state.lastSearchRequestedCount.filter (· ≠ 0)).getD entities.length
  let shown := if 0 ≤ count then entities.take count.toNat
    else entities.take (entities.length - (-count).toNat)
  ['\n'].intercalate ((shown.zipIdx 1).map fun (entity, i) =>
    (toString i).toList ++ ". ".toList ++ entity)

/-- What the resolver relies on: the table of word characters and `str` of a container. -/
structure Setting where
  wordChars : WordChars
  ofContainer : Json → String

variable (E : Setting)

/-- The outcome of a stage for named things. -/
def namedOutcome (lowered : List Char) (stage : Stage) (value : Option (List Char))
    (kind : ReferenceKind) : Option Outcome :=
  match phraseMatch lowered stage.phrases, given value with
  | some phrase, some value => some (.substitute ⟨stage, phrase.toList, value, kind, value⟩)
  | _, _ => none

def pronounOutcome (original : List Char) (state : ConversationState) : Option Outcome :=
  match search E.wordChars pronounRe original with
  | some (start, stop) =>
      (pronounTarget state original).map fun (kind, resource, display) =>
        .substitute ⟨.pronoun, between start stop, display, kind, resource⟩
  | none => none

/-- The stages for named things and for pronouns, from the documents on. -/
def decideNamed (original lowered : List Char) (state : ConversationState) : Outcome :=
  ([namedOutcome lowered .document state.activeDocument .document,
    namedOutcome lowered .document state.activeCodeFile .codeFile,
    namedOutcome lowered .project state.activeProject .project,
    namedOutcome lowered .directory state.activeDirectory .directory,
    namedOutcome lowered .repository state.activeRepository .repository,
    pronounOutcome E original state].findSome? id).getD
      (.done (unresolved original))

/-- The text that is taken for the content above. -/
def aboveReference (state : ConversationState) : Except String (Option (List Char)) := do
  let found ← searchText E.ofContainer state
  return (given found).orElse fun _ => orText state.lastToolResultText state.lastGeneratedText

/-- What is done with a request that names the content above by a phrase. -/
def aboveOutcome (original : List Char) (state : ConversationState) (phrase target : List Char) :
    Outcome :=
  if (matchStart E.wordChars writeRequestRe original).isSome then
    match parseResourceWrite E.wordChars original with
    | some ⟨_ :: _, _, _, _, _⟩ =>
        .substitute ⟨.aboveContent, phrase, target, .generatedText, target⟩
    | _ => .compose phrase (createFileRequest E.wordChars state.lastSearchQuery target) target
  else
    let shown := target.take maxFollowupTextLength
    .substitute ⟨.aboveContent, phrase, shown, .generatedText, shown⟩

/-- The stage for the content above, and what follows it. -/
def decideAbove (original lowered : List Char) (state : ConversationState) :
    Except String Outcome := do
  let reference ← aboveReference E state
  match phraseMatch lowered aboveContentPhrases, reference with
  | some phrase, some target => return aboveOutcome E original state phrase.toList target
  | _, _ => return decideNamed E original lowered state

/-- The stages for search results, and what follows them. -/
def decideSearch (original lowered : List Char) (state : ConversationState) :
    Except String Outcome :=
  match phraseMatch lowered searchPhrases, state.lastSearchResults with
  | some phrase, target :: _ =>
      .ok (.substitute ⟨.searchResult, phrase.toList, target, .searchResult, target⟩)
  | _, _ =>
      if entityReferencePatterns.any (fun pattern =>
          (matchStart E.wordChars pattern original).isSome) ∧ state.lastSearchEntities ≠ [] then
        let target := entityLines state
        .ok (.done (resolvedAs original target .searchResult target))
      else decideAbove E original lowered state

/-- A request to go on with the last command. -/
def goOn (original : List Char) (state : ConversationState) (pattern : Regex)
    (verb : Cursor → List Char) : Option ReferenceResolution :=
  match matchStart E.wordChars pattern original, orText state.lastCommand state.lastResource with
  | some stop, some resource =>
      let rest := stripOf Text.isSpace ((stop.group? 2).getD [])
      some (resolvedAs original (continued (verb stop) resource rest) .command resource)
  | _, _ => none

/-- A request to say more about what was talked about. -/
def elaborated (original : List Char) (state : ConversationState) : Option ReferenceResolution :=
  (elaborationPatterns.find? fun pattern =>
    (matchStart E.wordChars pattern.1 original).isSome).map fun (_, before, after) =>
      match followupTarget state with
      | none => unresolved original
      | some (target, kind) =>
          resolvedAs original (before.toList ++ target ++ after.toList) kind target

def bareQuestion (original : List Char) (state : ConversationState) : Option ReferenceResolution :=
  if (matchStart E.wordChars bareWhyRe original).isSome
      ∨ (matchStart E.wordChars bareHowRe original).isSome then
    (followupTarget state).map fun (target, kind) =>
      resolvedAs original ("Explain ".toList ++ target ++ ".".toList) kind target
  else none

/-- The stages for requests to go on or to say more. -/
def followup (original : List Char) (state : ConversationState) : Option ReferenceResolution :=
  [goOn E original state continueFromRe fun _ => "continue".toList,
    goOn E original state continueRe fun stop => (stop.group? 1).getD [],
    elaborated E original state, bareQuestion E original state].findSome? id

/-- Whether a request in lower case speaks of the conversation or of an answer in it. -/
def isConversational (lowered : List Char) : Bool :=
  (selfReferencePhrases ++ answerReferencePhrases).any fun phrase =>
    Text.occursIn phrase.toList lowered

/-- The stages after the requests to write. -/
def decideFollowup (original : List Char) (state : ConversationState) : Except String Outcome :=
  if isConversational (Text.lowerChars original) then .ok (.done (unresolved original))
  else
    match followup E original state with
    | some resolution => .ok (.done resolution)
    | none => decideSearch E original (Text.lowerChars original) state

/-- The branches of `resolve`, for a request without leading spaces. -/
def outcomeOf (original : List Char) (state : ConversationState) : Except String Outcome :=
  if (storePayload E.wordChars original).isSome ∨ ambiguousStore E.wordChars original then
    .ok (.done { request := original })
  else if original = [] then .ok (.done (unresolved original))
  else
    match parseResourceWrite E.wordChars original with
    | some ⟨_, some _, _, _, _⟩ => .ok (.done (unresolved original))
    | some ⟨_ :: _, none, _, _, _⟩ =>
        match given state.lastGeneratedText,
            matchStart E.wordChars saveAsRe original with
        | some text, some _ =>
            .ok (.done (resolvedAs original (original ++ " with content:\n".toList ++ text)
              .generatedText text))
        | _, _ => decideFollowup E original state
    | _ => decideFollowup E original state

/-- `ReferenceResolver.resolve`. -/
def resolve (request : List Char) (state : ConversationState) :
    Except String ReferenceResolution := do
  let original := lstripOf Text.isSpace request
  match ← outcomeOf E original state with
  | .done resolution => return resolution
  | .compose _ rewritten target =>
      return resolvedAs original rewritten .generatedText target
  | .substitute s =>
      return resolvedAs original (replaceFirst E.wordChars original s.phrase s.display) s.kind
        s.resource

/-! ## Where a substitution comes from -/

variable {E}

/-- The phrase of a substitution is one of its stage's, or the pronoun that was recognized. -/
def Known (E : Setting) (original : List Char) (s : Substitution) : Prop :=
  (s.stage ≠ .pronoun ∧ ∃ phrase ∈ s.stage.phrases, s.phrase = phrase.toList) ∨
    (s.stage = .pronoun ∧ ∃ start stop, search E.wordChars pronounRe original = some (start, stop) ∧
      s.phrase = between start stop)

lemma mem_of_phraseMatch {lowered : List Char} {phrases : List String} {phrase : String}
    (h : phraseMatch lowered phrases = some phrase) : phrase ∈ phrases :=
  List.mem_of_find?_eq_some h

lemma known_of_namedOutcome {original lowered : List Char} {stage : Stage}
    {value : Option (List Char)} {kind : ReferenceKind} {s : Substitution}
    (hstage : stage ≠ .pronoun) (h : namedOutcome lowered stage value kind = some (.substitute s)) :
    Known E original s := by
  unfold namedOutcome at h
  split at h
  · rename_i hphrase _
    simp only [Option.some.injEq, Outcome.substitute.injEq] at h
    subst h
    exact .inl ⟨hstage, _, mem_of_phraseMatch hphrase, rfl⟩
  · simp at h

lemma known_of_pronounOutcome {original : List Char} {state : ConversationState}
    {s : Substitution} (h : pronounOutcome E original state = some (.substitute s)) :
    Known E original s := by
  unfold pronounOutcome at h
  split at h
  · rename_i start stop hsearch
    obtain ⟨⟨kind, resource, display⟩, -, heq⟩ := Option.map_eq_some_iff.mp h
    simp only [Outcome.substitute.injEq] at heq
    subst heq
    exact .inr ⟨rfl, start, stop, hsearch, rfl⟩
  · simp at h

lemma known_of_named {original lowered : List Char} {state : ConversationState} {s : Substitution}
    (h : decideNamed E original lowered state = .substitute s) : Known E original s := by
  unfold decideNamed at h
  rcases hfound : List.findSome? id _ with _ | outcome
  · rw [hfound] at h
    simp at h
  · rw [hfound, Option.getD_some] at h
    subst h
    obtain ⟨o, hmem, ho⟩ := List.exists_of_findSome?_eq_some hfound
    simp only [List.mem_cons, List.not_mem_nil, or_false] at hmem
    rcases hmem with rfl | rfl | rfl | rfl | rfl | rfl
    · exact known_of_namedOutcome (by decide) ho
    · exact known_of_namedOutcome (by decide) ho
    · exact known_of_namedOutcome (by decide) ho
    · exact known_of_namedOutcome (by decide) ho
    · exact known_of_namedOutcome (by decide) ho
    · exact known_of_pronounOutcome ho

lemma known_of_aboveOutcome {original phrase target : List Char} {state : ConversationState}
    {s : Substitution} (hphrase : ∃ p ∈ aboveContentPhrases, phrase = p.toList)
    (h : aboveOutcome E original state phrase target = .substitute s) : Known E original s := by
  have hknown : ∀ display kind resource,
      Known E original ⟨.aboveContent, phrase, display, kind, resource⟩ :=
    fun _ _ _ => .inl ⟨by simp, hphrase⟩
  unfold aboveOutcome at h
  split at h
  · split at h
    · cases h
      exact hknown _ _ _
    · cases h
  · cases h
    exact hknown _ _ _

lemma known_of_above {original lowered : List Char} {state : ConversationState} {s : Substitution}
    (h : decideAbove E original lowered state = .ok (.substitute s)) : Known E original s := by
  obtain ⟨reference, -, h⟩ := bind_eq_ok h
  split at h
  · rename_i phrase target hphrase
    exact known_of_aboveOutcome ⟨phrase, mem_of_phraseMatch hphrase, rfl⟩ (Except.ok.inj h)
  · exact known_of_named (Except.ok.inj h)

lemma known_of_search {original lowered : List Char} {state : ConversationState}
    {s : Substitution} (h : decideSearch E original lowered state = .ok (.substitute s)) :
    Known E original s := by
  unfold decideSearch at h
  split at h
  · rename_i hphrase _
    cases h
    exact .inl ⟨by simp, _, mem_of_phraseMatch hphrase, rfl⟩
  · split at h
    · cases h
    · exact known_of_above h

lemma known_of_followup {original : List Char} {state : ConversationState} {s : Substitution}
    (h : decideFollowup E original state = .ok (.substitute s)) : Known E original s := by
  unfold decideFollowup at h
  split at h
  · cases h
  · split at h
    · cases h
    · exact known_of_search h

lemma known_of_outcome {original : List Char} {state : ConversationState} {s : Substitution}
    (h : outcomeOf E original state = .ok (.substitute s)) : Known E original s := by
  unfold outcomeOf at h
  split at h
  · cases h
  · split at h
    · cases h
    · split at h
      · cases h
      · split at h
        · cases h
        · exact known_of_followup h
      · exact known_of_followup h

/-! ## Whole words -/

/-- A part of a text that has the letters of a phrase and is no part of a longer word. -/
structure WholePhrase (w : WordChars) (phrase text a m b : List Char) : Prop where
  split : text = a ++ m ++ b
  letters : m.map foldCase = phrase.map foldCase
  before : atWord w a.reverse = false
  after : atWord w b = false

/-- A phrase stands in a text as whole words, and its letters stand nowhere further left. -/
def LeadsWhole (w : WordChars) (phrase text : List Char) : Prop :=
  ∃ a m b, WholePhrase w phrase text a m b ∧
    ∀ x y z, text = x ++ y ++ z → y.map foldCase = phrase.map foldCase → a.length ≤ x.length

/-- Some phrase of the stages stands in the text as whole words. -/
def NamesWhole (w : WordChars) (text : List Char) : Prop :=
  ∃ stage : Stage, ∃ phrase ∈ stage.phrases, ∃ a m b, WholePhrase w phrase.toList text a m b

/-- The text before the pronoun that is recognized, the pronoun, and the text after it. -/
def recognized (w : WordChars) (text : List Char) : Option (List Char × List Char × List Char) :=
  (search w pronounRe text).map fun (start, stop) =>
    (start.back.reverse, between start stop, stop.rest)

/-- The promise about whole words, for the request without leading spaces: what is replaced is a
phrase that stands there as whole words, and the recognized pronoun where it is a pronoun; and
the stages leave a request alone in which none of their phrases stands as whole words. -/
structure KeepsWords (E : Setting) (request : List Char) (state : ConversationState) : Prop where
  replaced : ∀ s, outcomeOf E (lstripOf Text.isSpace request) state = .ok (.substitute s) →
    ∃ a m b, splitFirst E.wordChars s.phrase (lstripOf Text.isSpace request) = some (a, m, b) ∧
      WholePhrase E.wordChars s.phrase (lstripOf Text.isSpace request) a m b ∧
      (s.stage = .pronoun →
        recognized E.wordChars (lstripOf Text.isSpace request) = some (a, m, b)) ∧
      ∃ resolution, resolve E request state = .ok resolution ∧
        resolution.request = a ++ s.display ++ b
  untouched : ¬ NamesWhole E.wordChars (lstripOf Text.isSpace request) →
    ∀ outcome, outcomeOf E (lstripOf Text.isSpace request) state = .ok outcome →
      ∃ resolution, outcome = .done resolution

section Words

variable {w : WordChars} {phrase text a m b : List Char}

lemma firstMatch_of_splitFirst (h : splitFirst w phrase text = some (a, m, b)) :
    FirstMatch w (literal phrase) text a m b := by
  obtain ⟨⟨start, stop⟩, hsearch, heq⟩ := Option.map_eq_some_iff.mp h
  obtain ⟨u, n, hfirst, hback, hrest⟩ := firstMatch_of_search hsearch
  simp only [Prod.mk.injEq, hback, List.reverse_reverse, between_eq hrest] at heq
  obtain ⟨rfl, rfl, rfl⟩ := heq
  exact hfirst

lemma firstMatch_of_recognized (h : recognized w text = some (a, m, b)) :
    FirstMatch w pronounRe text a m b := by
  obtain ⟨⟨start, stop⟩, hsearch, heq⟩ := Option.map_eq_some_iff.mp h
  obtain ⟨u, n, hfirst, hback, hrest⟩ := firstMatch_of_search hsearch
  simp only [Prod.mk.injEq, hback, List.reverse_reverse, between_eq hrest] at heq
  obtain ⟨rfl, rfl, rfl⟩ := heq
  exact hfirst

lemma split_unique {x y z : List Char} (h : text = a ++ m ++ b) (h' : text = x ++ y ++ z)
    (hlength : a.length = x.length) (hletters : m.map foldCase = y.map foldCase) :
    a = x ∧ m = y ∧ b = z := by
  rw [List.append_assoc] at h h'
  obtain ⟨rfl, hrest⟩ := List.append_inj (h.symm.trans h') hlength
  have hsame : m.length = y.length := by
    simpa using congrArg List.length hletters
  obtain ⟨rfl, rfl⟩ := List.append_inj hrest hsame
  exact ⟨rfl, rfl, rfl⟩

lemma splitFirst_of_leadsWhole (h : LeadsWhole w phrase text) :
    ∃ a m b, splitFirst w phrase text = some (a, m, b) ∧ WholePhrase w phrase text a m b := by
  obtain ⟨a, m, b, hwhole, hleast⟩ := h
  have hmatch : Matches w (literal phrase) a.reverse m b := matches_literal_iff.mpr hwhole.letters
  obtain ⟨start, stop, hsearch⟩ := exists_search ⟨a, m, b, hwhole.split, hmatch⟩
  have hsome : splitFirst w phrase text =
      some (start.back.reverse, between start stop, stop.rest) := by
    rw [splitFirst, hsearch]
    rfl
  have hfirst := firstMatch_of_splitFirst hsome
  have hletters := matches_literal_iff.mp hfirst.fits
  have hlength : a.length = start.back.reverse.length := by
    refine Nat.le_antisymm ?_ ?_
    · exact hleast _ _ _ hfirst.split hletters
    · exact hfirst.first a m b hwhole.split hmatch
  obtain ⟨ha, hm, hb⟩ := split_unique hwhole.split hfirst.split hlength
    (hwhole.letters.trans hletters.symm)
  refine ⟨a, m, b, ?_, hwhole⟩
  rw [hsome, ← ha, ← hm, ← hb]

lemma leadsWhole_of_splitFirst (h : splitFirst w phrase text = some (a, m, b))
    (hwhole : WholePhrase w phrase text a m b) : LeadsWhole w phrase text := by
  have hfirst := firstMatch_of_splitFirst h
  refine ⟨a, m, b, hwhole, fun x y z hsplit hletters => ?_⟩
  exact hfirst.first x y z hsplit (matches_literal_iff.mpr hletters)

lemma letters_of_pronoun {pronoun : String} (hpronoun : pronoun ∈ pronouns) :
    pronoun.toList ≠ [] ∧ ∀ n ∈ pronoun.toList.map foldCase, 97 ≤ n ∧ n ≤ 122 := by
  simp only [pronouns, List.mem_cons, List.not_mem_nil, or_false] at hpronoun
  rcases hpronoun with rfl | rfl | rfl <;> simp [foldCase]

lemma atWord_of_letters {pronoun : String} (hpronoun : pronoun ∈ pronouns)
    (hletters : m.map foldCase = pronoun.toList.map foldCase) (rest : List Char) :
    atWord w (m ++ rest) = true ∧ atWord w (m.reverse ++ rest) = true := by
  obtain ⟨hne, hrange⟩ := letters_of_pronoun hpronoun
  have hword : ∀ c ∈ m, w.isWord c = true := by
    intro c hc
    have hmem : foldCase c ∈ pronoun.toList.map foldCase :=
      hletters ▸ List.mem_map_of_mem hc
    exact w.letter c (hrange _ hmem).1 (hrange _ hmem).2
  have hhead : ∀ {n : List Char}, n ≠ [] → (∀ c ∈ n, w.isWord c = true) →
      atWord w (n ++ rest) = true := by
    intro n hn hall
    obtain ⟨c, n, rfl⟩ := List.exists_cons_of_ne_nil hn
    exact hall c List.mem_cons_self
  have hm : m ≠ [] := by
    rintro rfl
    exact hne (by simpa using hletters.symm)
  exact ⟨hhead hm hword, hhead (by simpa using hm) fun c hc => hword c (by simpa using hc)⟩

lemma matches_pronounRe {pronoun : String} (hpronoun : pronoun ∈ pronouns)
    (h : WholePhrase w pronoun.toList text a m b) : Matches w pronounRe a.reverse m b := by
  have hwords : Matches w (words pronouns) a.reverse m b :=
    matches_oneOf_iff.mpr ⟨word pronoun, List.mem_map_of_mem hpronoun,
      matches_literal_iff.mpr h.letters⟩
  refine ⟨[], m, rfl, ⟨rfl, ?_⟩, m, [], (List.append_nil m).symm, hwords, rfl, ?_⟩
  · rw [h.before, (atWord_of_letters hpronoun h.letters b).1]
    exact Bool.false_ne_true
  · rw [h.after]
    simp [(atWord_of_letters (w := w) hpronoun h.letters a.reverse).2]

lemma exists_pronoun_of_matches {back : List Char} (h : Matches w pronounRe back m b) :
    ∃ pronoun ∈ pronouns, m.map foldCase = pronoun.toList.map foldCase := by
  obtain ⟨x, n, rfl, ⟨rfl, -⟩, y, z, rfl, hwords, rfl, -⟩ := h
  obtain ⟨r, hr, hmatch⟩ := matches_oneOf_iff.mp hwords
  obtain ⟨pronoun, hpronoun, rfl⟩ := List.mem_map.mp hr
  refine ⟨pronoun, hpronoun, ?_⟩
  simpa using matches_literal_iff.mp hmatch

/-- Where the letters of the recognized pronoun lead whole, their first place is that of the
recognized pronoun. -/
lemma recognized_of_whole {u n v : List Char} (hrecognized : recognized w text = some (u, n, v))
    (hsplit : splitFirst w n text = some (a, m, b)) (hwhole : WholePhrase w n text a m b) :
    recognized w text = some (a, m, b) := by
  have hfirst := firstMatch_of_recognized hrecognized
  obtain ⟨pronoun, hpronoun, hletters⟩ := exists_pronoun_of_matches hfirst.fits
  have hpronounWhole : WholePhrase w pronoun.toList text a m b :=
    ⟨hwhole.split, hwhole.letters.trans hletters, hwhole.before, hwhole.after⟩
  have hlength : a.length = u.length := by
    refine Nat.le_antisymm ?_ ?_
    · exact (firstMatch_of_splitFirst hsplit).first u n v hfirst.split (matches_literal_iff.mpr rfl)
    · exact hfirst.first a m b hwhole.split (matches_pronounRe hpronoun hpronounWhole)
  obtain ⟨rfl, rfl, rfl⟩ := split_unique hwhole.split hfirst.split hlength hwhole.letters
  exact hrecognized

end Words

lemma Known.exists_phrase {original : List Char} {s : Substitution} (h : Known E original s) :
    ∃ phrase ∈ s.stage.phrases, s.phrase.map foldCase = phrase.toList.map foldCase := by
  rcases h with ⟨-, phrase, hmem, hphrase⟩ | ⟨hstage, start, stop, hsearch, hphrase⟩
  · exact ⟨phrase, hmem, by rw [hphrase]⟩
  · have hrecognized : recognized E.wordChars original =
        some (start.back.reverse, between start stop, stop.rest) := by
      rw [recognized, hsearch]
      rfl
    rw [hstage, hphrase]
    exact exists_pronoun_of_matches (firstMatch_of_recognized hrecognized).fits

lemma namesWhole_of_leadsWhole {original : List Char} {s : Substitution}
    (hknown : Known E original s) (h : LeadsWhole E.wordChars s.phrase original) :
    NamesWhole E.wordChars original := by
  obtain ⟨a, m, b, hwhole, -⟩ := h
  obtain ⟨phrase, hmem, hletters⟩ := hknown.exists_phrase
  exact ⟨s.stage, phrase, hmem, a, m, b, hwhole.split, hwhole.letters.trans hletters,
    hwhole.before, hwhole.after⟩

lemma resolve_of_substitute {request : List Char} {state : ConversationState} {s : Substitution}
    (h : outcomeOf E (lstripOf Text.isSpace request) state = .ok (.substitute s)) :
    resolve E request state = .ok (resolvedAs (lstripOf Text.isSpace request)
      (replaceFirst E.wordChars (lstripOf Text.isSpace request) s.phrase s.display) s.kind
      s.resource) := by
  rw [resolve, h]
  rfl

/-- The promise about whole words is kept for a request and a state exactly if the phrase that is
substituted leads the request as whole words, and a file is composed only for a request in which
some phrase stands as whole words. -/
theorem keepsWords_iff (E : Setting) (request : List Char) (state : ConversationState) :
    KeepsWords E request state ↔
      (∀ s, outcomeOf E (lstripOf Text.isSpace request) state = .ok (.substitute s) →
        LeadsWhole E.wordChars s.phrase (lstripOf Text.isSpace request)) ∧
      (∀ phrase rewritten target, outcomeOf E (lstripOf Text.isSpace request) state =
        .ok (.compose phrase rewritten target) →
          NamesWhole E.wordChars (lstripOf Text.isSpace request)) := by
  constructor
  · intro h
    refine ⟨fun s houtcome => ?_, fun phrase rewritten target houtcome => ?_⟩
    · obtain ⟨a, m, b, hsplit, hwhole, -⟩ := h.replaced s houtcome
      exact leadsWhole_of_splitFirst hsplit hwhole
    · by_contra hnone
      obtain ⟨resolution, hdone⟩ := h.untouched hnone _ houtcome
      simp at hdone
  · rintro ⟨hsubstitute, hcompose⟩
    constructor
    · intro s houtcome
      obtain ⟨a, m, b, hsplit, hwhole⟩ := splitFirst_of_leadsWhole (hsubstitute s houtcome)
      refine ⟨a, m, b, hsplit, hwhole, ?_, ?_⟩
      · intro hstage
        rcases known_of_outcome houtcome with ⟨hne, -⟩ | ⟨-, start, stop, hsearch, hphrase⟩
        · exact absurd hstage hne
        · have hrecognized : recognized E.wordChars (lstripOf Text.isSpace request) =
              some (start.back.reverse, between start stop, stop.rest) := by
            rw [recognized, hsearch]
            rfl
          rw [hphrase] at hsplit hwhole
          exact recognized_of_whole hrecognized hsplit hwhole
      · refine ⟨_, resolve_of_substitute houtcome, ?_⟩
        rw [resolvedAs, replaceFirst, hsplit]
    · intro hnone outcome houtcome
      cases outcome with
      | done resolution => exact ⟨resolution, rfl⟩
      | compose phrase rewritten target =>
          exact absurd (hcompose phrase rewritten target houtcome) hnone
      | substitute s =>
          have hnames := namesWhole_of_leadsWhole (known_of_outcome houtcome)
            (hsubstitute s houtcome)
          exact absurd hnames hnone

/-- The setting with the least table of word characters. -/
def leastSetting : Setting where
  wordChars := .least
  ofContainer := fun _ => ""

/-- The repository takes the place of a part of a longer word, and the pronoun that is replaced
is a part of the verb before the one that was recognized. -/
theorem words_are_cut :
    ¬ KeepsWords leastSetting "summarize the report".toList
        { activeRepository := some "acme".toList } ∧
      resolve leastSetting "write it down".toList { lastGeneratedText := some "draft".toList } =
        .ok (resolvedAs "write it down".toList "wrthe generated texte it down".toList
          .generatedText "draft".toList) := by
  constructor
  · intro h
    have houtcome : outcomeOf leastSetting (lstripOf Text.isSpace "summarize the report".toList)
        { activeRepository := some "acme".toList } =
          .ok (.substitute ⟨.repository, "the repo".toList, "acme".toList, .repository,
            "acme".toList⟩) := by
      decide +kernel
    have hfirst : splitFirst leastSetting.wordChars "the repo".toList
        (lstripOf Text.isSpace "summarize the report".toList) =
          some ("summarize ".toList, "the repo".toList, "rt".toList) := by
      decide +kernel
    obtain ⟨a, m, b, hsplit, hwhole, -⟩ := h.replaced _ houtcome
    rw [hfirst, Option.some.injEq, Prod.mk.injEq, Prod.mk.injEq] at hsplit
    obtain ⟨rfl, rfl, rfl⟩ := hsplit
    exact absurd hwhole.after (by decide +kernel)
  · decide +kernel

end References

end Samaktha
