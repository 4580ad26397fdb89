import Samaktha.Foundation.Regex

/-!
# Claims of completion

The patterns of the execution truth gate, with case ignored, and the texts it answers with where
it quotes nothing.  No pattern matches such a text (`silent_fixedReply`), and the words around
the texts that are quoted elsewhere neither have a match nor let one in (`Framed`).
-/

namespace Samaktha

namespace ExecutionTruth

open Regex

/-! ## The patterns -/

def completionVerbs : Regex := words [
  "created", "deleted", "removed", "modified", "updated", "installed", "sent", "pushed",
  "committed", "executed", "wrote", "written", "saved", "moved", "copied", "completed",
  "deployed", "done"]

def completionRe : Regex := oneOf [
  inOrder [wordEdge, words ["I", "We"], many space,
    many (oneOf [inOrder [word "'ve", plus space], inOrder [word "have", plus space],
      inOrder [word "just", plus space]]), completionVerbs, wordEdge],
  inOrder [wordEdge, words ["has", "have", "was", "were"], plus space, word "been", plus space,
    completionVerbs, wordEdge],
  inOrder [wordEdge, words ["was", "were"], plus space, completionVerbs, wordEdge],
  inOrder [wordEdge, option (inOrder [word "the", plus space]), word "task", plus space,
    words ["completed", "finished"], plus space, word "successfully", wordEdge],
  inOrder [wordEdge, oneOf [inOrder [word "did", plus space, word "it"],
    inOrder [word "is", plus space, option (inOrder [word "now", plus space]),
      words ["running", "deployed"]],
    inOrder [word "is", plus space, word "done"]], wordEdge]]

def artifactClaimRe : Regex := oneOf [
  inOrder [wordEdge, words ["pdf", "attachment"], wordEdge, upTo (.char fun _ => true) 80,
    wordEdge, words ["created", "generated", "saved", "available", "attached"], wordEdge],
  inOrder [wordEdge, words ["created", "generated", "saved", "attached"], wordEdge,
    upTo (.char fun _ => true) 80, wordEdge, words ["pdf", "attachment"], wordEdge],
  inOrder [wordEdge, word "data:application/pdf;base64,"]]

/-- The pattern that makes the gate look for memory evidence. -/
def storedRe : Regex := inOrder [wordEdge,
  words ["I'll remember", "I will remember", "I've remembered", "saved to memory", "stored"],
  wordEdge]

/-- The first alternative of the pattern of a memory claim. -/
def memoryPhraseRe : Regex := inOrder [wordEdge,
  words ["I'll remember", "I will remember", "I've remembered", "saved to memory"], wordEdge]

def memoryClaimRe : Regex := alt memoryPhraseRe (seq textStart (word "Stored."))

/-! ## The replies -/

/-- The replies that quote nothing. -/
inductive FixedReply where
  | noMemory
  | noArtifact
  | noEvidence
  | executing
  | cancelled
  | denied
  | timedOut
  | planned
  | unreported
  deriving Repr, DecidableEq

def FixedReply.text : FixedReply → String
  | noMemory => "No durable memory-write evidence exists, so I cannot confirm storage."
  | noArtifact => "No artifact is available. Samaktha has no runtime evidence for a completed file or PDF at the requested destination."
  | noEvidence =>
      "I have prepared a plan. No execution evidence exists yet, so I cannot claim the action completed."
  | executing => "I'm executing the approved task."
  | cancelled => "The task was cancelled."
  | denied => "The action was denied and was not executed."
  | timedOut => "The execution timed out. Completion was not confirmed."
  | planned => "I have prepared the execution plan. No runtime completion evidence exists yet."
  | unreported => "The runtime has not reported a completed action, so I cannot claim it succeeded."

lemma silent_fixedReply (reply : FixedReply) :
    silent storedRe reply.text.toList = true ∧ silent artifactClaimRe reply.text.toList = true ∧
      silent completionRe reply.text.toList = true := by
  cases reply <;>
    exact ⟨check_of_chars rfl (by decide +kernel), check_of_chars rfl (by decide +kernel),
      check_of_chars rfl (by decide +kernel)⟩

/-- What stands around the texts a reply quotes: it has no match of the expression, and no
match reaches from a quoted text into it or from it into one. -/
structure Framed (r : Regex) : Prop where
  isLocal : r.isLocal = true
  approval : blocks r "Approval Required\nReason: ".toList = true
  action : blocks r "\nRequested action: ".toList = true
  failure : blocks r "The runtime reported a failure.\nReason: ".toList = true
  shutAction : shuts r "\nRequested action: ".toList = true
  shutRisk : shuts r
    "\nRisk: execution changes are blocked until approval is granted.\nAwaiting approval.".toList =
      true
  risk : silent r
    "\nRisk: execution changes are blocked until approval is granted.\nAwaiting approval.".toList =
      true

lemma framed_completionRe : Framed completionRe := by
  constructor
  · rfl
  all_goals exact check_of_chars rfl (by decide +kernel)

lemma framed_storedRe : Framed storedRe := by
  constructor
  · rfl
  all_goals exact check_of_chars rfl (by decide +kernel)

lemma framed_memoryPhraseRe : Framed memoryPhraseRe := by
  constructor
  · rfl
  all_goals exact check_of_chars rfl (by decide +kernel)

lemma found_storedRe_of_memoryPhrase {w : WordChars} {text : List Char}
    (h : found w memoryPhraseRe text = true) : found w storedRe text = true :=
  found_words_mono (by decide) h

end ExecutionTruth

end Samaktha
