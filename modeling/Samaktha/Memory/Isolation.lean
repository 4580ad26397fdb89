import Samaktha.Memory.Consistency

/-!
# Scope isolation of retrievals

Whatever is computed for a call is readable under its access context; so what a call is served
from the retrieval cache is readable under the context of the call that stored it.  The two
contexts are the same unless their joined keys collide (`readable_of_guarded`).  The key joins
free texts with colons and stands a dash for what is absent, so calls under different contexts do
collide (`isolation_fails`); calls whose ids have neither colons nor are a dash do not
(`cacheKey_injective`).
-/

namespace Samaktha

namespace MemoryRetriever

/-! ## Keys of plain ids -/

lemma append_colon_inj {a b x y : List Char} (ha : ':' ∉ a) (hb : ':' ∉ b)
    (h : a ++ ':' :: x = b ++ ':' :: y) : a = b ∧ x = y := by
  induction a generalizing b with
  | nil =>
      cases b with
      | nil => exact ⟨rfl, (List.cons.inj h).2⟩
      | cons d b => exact absurd (List.cons.inj h).1 fun heq => hb (heq ▸ List.mem_cons_self)
  | cons c a ih =>
      cases b with
      | nil => exact absurd (List.cons.inj h).1.symm fun heq => ha (heq ▸ List.mem_cons_self)
      | cons d b =>
          obtain ⟨rfl, hrest⟩ := List.cons.inj h
          obtain ⟨rfl, rfl⟩ := ih (fun hmem => ha (List.mem_cons_of_mem _ hmem))
            (fun hmem => hb (List.mem_cons_of_mem _ hmem)) hrest
          exact ⟨rfl, rfl⟩

lemma colon_append_inj {a b x y : List Char} (ha : ':' ∉ a) (hb : ':' ∉ b)
    (h : x ++ ':' :: a = y ++ ':' :: b) : x = y ∧ a = b := by
  have hreverse := congrArg List.reverse h
  simp only [List.reverse_append, List.reverse_cons, List.append_assoc, List.cons_append,
    List.nil_append] at hreverse
  obtain ⟨hparts, hrest⟩ := append_colon_inj (by simpa using ha) (by simpa using hb) hreverse
  exact ⟨List.reverse_injective hrest, List.reverse_injective hparts⟩

lemma toDigits_injective {m n : ℕ} (h : Nat.toDigits 10 m = Nat.toDigits 10 n) : m = n := by
  rw [← Nat.ofDigitChars_ten_toDigits (n := m), h, Nat.ofDigitChars_ten_toDigits]

lemma isDigit_of_mem_repr {n : ℕ} {c : Char} (h : c ∈ (Nat.repr n).toList) : c.isDigit = true := by
  rw [Nat.toList_repr] at h
  exact Nat.isDigit_of_mem_toDigits (by decide) (by decide) h

lemma toList_toString_negSucc (n : ℕ) :
    (toString (Int.negSucc n)).toList = '-' :: (Nat.repr (n + 1)).toList := by
  show ("-" ++ Nat.repr (n + 1)).toList = _
  rw [String.toList_append]
  rfl

lemma colon_notMem_toString (k : ℤ) : ':' ∉ (toString k).toList := by
  intro h
  have hcolon : Char.isDigit ':' ≠ true := by decide
  cases k with
  | ofNat n => exact hcolon (isDigit_of_mem_repr h)
  | negSucc n =>
      rw [toList_toString_negSucc] at h
      rcases List.mem_cons.mp h with heq | hmem
      · exact absurd heq (by decide)
      · exact hcolon (isDigit_of_mem_repr hmem)

lemma toString_injective {j k : ℤ} (h : toString j = toString k) : j = k := by
  have hrepr : ∀ {m n : ℕ}, (Nat.repr m).toList = (Nat.repr n).toList → m = n := by
    intro m n heq
    rw [Nat.toList_repr, Nat.toList_repr] at heq
    exact toDigits_injective heq
  have hdash : ∀ {m n : ℕ}, (Nat.repr m).toList ≠ '-' :: (Nat.repr n).toList := by
    intro m n heq
    have hmem : '-' ∈ (Nat.repr m).toList := heq ▸ List.mem_cons_self
    exact absurd (isDigit_of_mem_repr hmem) (by decide)
  have hlist := congrArg String.toList h
  cases j with
  | ofNat m =>
      cases k with
      | ofNat n => exact congrArg Int.ofNat (hrepr hlist)
      | negSucc n =>
          rw [toList_toString_negSucc] at hlist
          exact absurd hlist hdash
  | negSucc m =>
      cases k with
      | ofNat n =>
          rw [toList_toString_negSucc] at hlist
          exact absurd hlist.symm hdash
      | negSucc n =>
          rw [toList_toString_negSucc, toList_toString_negSucc] at hlist
          have hsucc := hrepr (List.cons.inj hlist).2
          exact congrArg Int.negSucc (Nat.succ.inj hsucc)

lemma colon_notMem_flagsText (flags : IncludeFlags) : ':' ∉ (flagsText flags).toList := by
  obtain ⟨a, b, c, d, e, f⟩ := flags
  cases a <;> cases b <;> cases c <;> cases d <;> cases e <;> cases f <;> decide

lemma flagsText_injective {flags flags' : IncludeFlags} (h : flagsText flags = flagsText flags') :
    flags = flags' := by
  have hdigit : ∀ a b : Bool, (if a then '1' else '0') = (if b then '1' else '0') → a = b := by
    decide
  have hlist := congrArg String.toList h
  simp only [flagsText, String.toList_ofList, List.cons.injEq] at hlist
  obtain ⟨h1, h2, h3, h4, h5, h6, -⟩ := hlist
  obtain ⟨a, b, c, d, e, f⟩ := flags
  obtain ⟨a', b', c', d', e', f'⟩ := flags'
  obtain rfl := hdigit a a' h1
  obtain rfl := hdigit b b' h2
  obtain rfl := hdigit c c' h3
  obtain rfl := hdigit d d' h4
  obtain rfl := hdigit e e' h5
  obtain rfl := hdigit f f' h6
  rfl

/-- An optional id that is not empty, has no colon, and is not a dash. -/
def PlainId (id : Option String) : Prop :=
  ∀ text, id = some text → text ≠ "" ∧ text ≠ "-" ∧ ':' ∉ text.toList

/-- A context whose ids have no colon, the optional ones not being empty or a dash. -/
structure PlainIds (access : MemoryAccessContext) : Prop where
  principal : ':' ∉ access.principalId.toList
  session : PlainId access.sessionId
  workspace : PlainId access.workspaceId
  profile : PlainId access.profileId

lemma PlainId.colon_notMem {id : Option String} (h : PlainId id) : ':' ∉ (orDash id).toList := by
  cases id with
  | none => decide
  | some text =>
      obtain ⟨hne, -, hcolon⟩ := h text rfl
      rwa [orDash, if_neg hne]

lemma PlainId.orDash_injective {id id' : Option String} (h : PlainId id) (h' : PlainId id')
    (heq : orDash id = orDash id') : id = id' := by
  cases id with
  | none =>
      cases id' with
      | none => rfl
      | some text' =>
          obtain ⟨hne, hdash, -⟩ := h' text' rfl
          rw [orDash, orDash, if_neg hne] at heq
          exact absurd heq.symm hdash
  | some text =>
      obtain ⟨hne, hdash, -⟩ := h text rfl
      rw [orDash, if_neg hne] at heq
      cases id' with
      | none => exact absurd heq hdash
      | some text' =>
          obtain ⟨hne', -, -⟩ := h' text' rfl
          rw [orDash, if_neg hne'] at heq
          rw [heq]

lemma colon_notMem_value (level : SecurityLevel) : ':' ∉ level.value.toList := by
  cases level <;> decide

/-- Between calls under plain ids, the key determines the call. -/
theorem cacheKey_injective {call call' : RetrieveCall} (h : PlainIds call.access)
    (h' : PlainIds call'.access) (hkey : cacheKey call = cacheKey call') : call = call' := by
  have hlist := congrArg String.toList hkey
  simp only [cacheKey, keyParts, joinColon, String.toList_ofList] at hlist
  obtain ⟨hprincipal, hlist⟩ := append_colon_inj h.principal h'.principal hlist
  obtain ⟨hsession, hlist⟩ := append_colon_inj h.session.colon_notMem h'.session.colon_notMem hlist
  obtain ⟨hworkspace, hlist⟩ :=
    append_colon_inj h.workspace.colon_notMem h'.workspace.colon_notMem hlist
  obtain ⟨hprofile, hlist⟩ := append_colon_inj h.profile.colon_notMem h'.profile.colon_notMem hlist
  obtain ⟨hlevel, hlist⟩ := append_colon_inj (colon_notMem_value _) (colon_notMem_value _) hlist
  -- the query may have colons, what follows it has none
  have hassoc : ∀ a b c : List Char, a ++ ':' :: (b ++ ':' :: c) = (a ++ ':' :: b) ++ ':' :: c :=
    fun a b c => by rw [List.append_assoc, List.cons_append]
  rw [hassoc, hassoc] at hlist
  obtain ⟨hlist, hflags⟩ :=
    colon_append_inj (colon_notMem_flagsText _) (colon_notMem_flagsText _) hlist
  obtain ⟨hquery, htopK⟩ :=
    colon_append_inj (colon_notMem_toString _) (colon_notMem_toString _) hlist
  obtain ⟨access, query, topK, flags⟩ := call
  obtain ⟨access', query', topK', flags'⟩ := call'
  obtain ⟨principal, session, workspace, profile, level, named⟩ := access
  obtain ⟨principal', session', workspace', profile', level', named'⟩ := access'
  obtain rfl : principal = principal' := String.toList_inj.mp hprincipal
  obtain rfl : session = session' :=
    h.session.orDash_injective h'.session (String.toList_inj.mp hsession)
  obtain rfl : workspace = workspace' :=
    h.workspace.orDash_injective h'.workspace (String.toList_inj.mp hworkspace)
  obtain rfl : profile = profile' :=
    h.profile.orDash_injective h'.profile (String.toList_inj.mp hprofile)
  obtain rfl : level = level' := SecurityLevel.value_injective (String.toList_inj.mp hlevel)
  obtain rfl : query = query' := String.toList_inj.mp hquery
  obtain rfl : topK = topK' := toString_injective (String.toList_inj.mp htopK)
  obtain rfl : flags = flags' := flagsText_injective (String.toList_inj.mp hflags)
  rfl

end MemoryRetriever

namespace MemoryController

open SecurityManager MemoryRetriever

variable {Score : Type} [LinearOrder Score]

/-! ## Cached results -/

/-- The results cached under a key were stored under this key, and are readable under the
context of the call that stored them. -/
structure CachedReadable (cfg : MemoryConfig Score) (s : MemoryState Score) : Prop where
  consistent : Consistent s
  nodup : Dict.NodupKeys s.retrievals
  stored : ∀ key cached, Dict.get? s.retrievals key = some cached →
    cacheKey cached.call = key ∧
      ∀ entry ∈ cached.results, Readable cfg.accessRules cached.call.access entry.1

variable {cfg : MemoryConfig Score}

omit [LinearOrder Score] in
lemma cachedReadable_init : CachedReadable cfg ({} : MemoryState Score) where
  consistent := consistent_init
  nodup := List.nodup_nil
  stored key cached hget := by cases hget

lemma CachedReadable.after {s : MemoryState Score} (h : CachedReadable cfg s) (move : MemoryMove) :
    CachedReadable cfg (after cfg s move) := by
  have hconsistent : Consistent (MemoryController.after cfg s move) :=
    consistent_after h.consistent move
  by_cases hmove : ∀ now call, move ≠ .retrieve now call
  · rcases retrievals_after cfg s hmove with hsame | hnone
    · exact ⟨hconsistent, by rw [hsame]; exact h.nodup, by rw [hsame]; exact h.stored⟩
    · refine ⟨hconsistent, by rw [hnone]; exact List.nodup_nil, fun key cached hget => ?_⟩
      rw [hnone] at hget
      cases hget
  · push Not at hmove
    obtain ⟨now, call, rfl⟩ := hmove
    have hcases : (MemoryController.after cfg s (.retrieve now call)).retrievals = s.retrievals ∨
        (MemoryController.after cfg s (.retrieve now call)).retrievals =
          Dict.setBounded cfg.maxRetrievals s.retrievals (cacheKey call)
            ⟨(compute cfg s.manager now s.recent call).1, call⟩ := by
      simp only [MemoryController.after, retrieve]
      split
      · exact .inl rfl
      · exact .inr rfl
    rcases hcases with hsame | hnew
    · exact ⟨hconsistent, by rw [hsame]; exact h.nodup, by rw [hsame]; exact h.stored⟩
    · refine ⟨hconsistent, by rw [hnew]; exact h.nodup.setBounded _ _ _, fun key cached hget => ?_⟩
      rw [hnew] at hget
      rcases Dict.get?_setBounded h.nodup hget with ⟨rfl, rfl⟩ | hold
      · refine ⟨rfl, fun entry hentry => ?_⟩
        exact readable_of_eligible (candidate_of_mem_compute h.consistent.agrees hentry).eligible
      · exact h.stored key cached hold

/-! ## Answers -/

/-- The access context under which a retrieval is made. -/
def asker : MemoryMove → Option MemoryAccessContext
  | .retrieve _ call => some call.access
  | .retrieveRecent access _ => some access
  | .retrieveSemantic access _ _ => some access
  | _ => none

/-- What a call of `retrieve` is served from the cache was stored under its own context. -/
def OwnKey (s : MemoryState Score) : MemoryMove → Prop
  | .retrieve _ call => ∀ cached, Dict.get? s.retrievals (cacheKey call) = some cached →
      cached.call.access = call.access
  | _ => True

/-- Everything a move returns is readable under its context. -/
def AnswersReadable (cfg : MemoryConfig Score) (s : MemoryState Score) (move : MemoryMove) : Prop :=
  ∀ access, asker move = some access → ∀ item ∈ answer cfg s move,
    Readable cfg.accessRules access item

lemma CachedReadable.answers {s : MemoryState Score} (h : CachedReadable cfg s) {move : MemoryMove}
    (hown : OwnKey s move) : AnswersReadable cfg s move := by
  intro access hasker item hitem
  cases move with
  | retrieve now call =>
      obtain rfl : call.access = access := Option.some.inj hasker
      obtain ⟨entry, hentry, rfl⟩ := List.mem_map.mp hitem
      unfold retrieve at hentry
      split at hentry
      · rename_i cached hget
        rw [← hown cached hget]
        exact (h.stored _ cached hget).2 entry hentry
      · exact readable_of_eligible (candidate_of_mem_compute h.consistent.agrees hentry).eligible
  | retrieveRecent access' n =>
      obtain rfl : access' = access := Option.some.inj hasker
      exact readable_of_eligible (stored_of_mem_retrieveRecentOnly hitem).2
  | retrieveSemantic access' query topK =>
      obtain rfl : access' = access := Option.some.inj hasker
      have hstored := stored_of_mem_retrieveSemanticOnly h.consistent.agrees hitem
      exact readable_of_eligible hstored.2
  | _ => cases hasker

/-! ## Runs -/

/-- The retrievals that use the cache are made under contexts with plain ids. -/
def PlainMove : MemoryMove → Prop
  | .retrieve _ call => PlainIds call.access
  | _ => True

lemma ownKey_of_plain (moves : List MemoryMove) (hmoves : ∀ move ∈ moves, PlainMove move)
    {s : MemoryState Score} (h : CachedReadable cfg s)
    (hplain : ∀ key cached, Dict.get? s.retrievals key = some cached →
      PlainIds cached.call.access) :
    (machine cfg).Guarded OwnKey s moves := by
  induction moves generalizing s with
  | nil => trivial
  | cons move rest ih =>
      have hmove := hmoves move List.mem_cons_self
      constructor
      · cases move with
        | retrieve now call =>
            intro cached hget
            have hkey := (h.stored _ cached hget).1
            rw [cacheKey_injective (hplain _ cached hget) hmove hkey]
        | _ => trivial
      · intro t ht
        obtain rfl : after cfg s move = t := Option.some.inj ht
        refine ih (fun m hm => hmoves m (List.mem_cons_of_mem _ hm)) (h.after move) ?_
        intro key cached hget
        by_cases hkind : ∀ now call, move ≠ .retrieve now call
        · rcases retrievals_after cfg s hkind with hsame | hnone
          · rw [hsame] at hget
            exact hplain key cached hget
          · rw [hnone] at hget
            cases hget
        · push Not at hkind
          obtain ⟨now, call, rfl⟩ := hkind
          simp only [after, retrieve] at hget
          split at hget
          · exact hplain key cached hget
          · rcases Dict.get?_setBounded h.nodup hget with ⟨rfl, rfl⟩ | hold
            · exact hmove
            · exact hplain key cached hold

/-- In every run in which no retrieval is served what was cached under another context,
everything that is returned is readable under the context of the move; and a run whose
retrievals are made under contexts with plain ids is such a run. -/
theorem readable_of_guarded (cfg : MemoryConfig Score) (moves : List MemoryMove) :
    ((machine cfg).Guarded OwnKey {} moves → (machine cfg).Guarded (AnswersReadable cfg) {} moves) ∧
      ((∀ move ∈ moves, PlainMove move) → (machine cfg).Guarded OwnKey {} moves) := by
  constructor
  · intro hown
    have hstep : ∀ s move t, CachedReadable cfg s → OwnKey s move →
        (machine cfg).step s move = some t → CachedReadable cfg t := by
      intro s move t h _ ht
      obtain rfl : after cfg s move = t := Option.some.inj ht
      exact h.after move
    exact (machine cfg).guarded_of_invariant hstep (fun s move h hown => h.answers hown)
      cachedReadable_init hown
  · intro hmoves
    exact ownKey_of_plain moves hmoves cachedReadable_init fun key cached hget => by cases hget

/-! ### Two principals whose keys collide -/

/-- Every item matches every query and scores the same. -/
def sampleConfig : MemoryConfig ℕ where
  similarity := fun _ _ _ => some 1
  score := fun _ _ _ => 0
  instantText := fun _ => ""
  isDocumentHistoryQuery := fun _ => false
  classify := fun _ _ => none

/-- Principal `a` in session `b:c`. -/
def owner : MemoryAccessContext := { principalId := "a", sessionId := some "b:c" }

/-- Principal `a:b` in session `c`. -/
def stranger : MemoryAccessContext := { principalId := "a:b", sessionId := some "c" }

/-- The owner writes a memory and retrieves it, and then someone retrieves with the same query. -/
def ownerThen (access : MemoryAccessContext) : List MemoryMove := [
  .writePreference owner { id := "m", content := "secret", createdAt := 0 },
  .retrieve 1 { access := owner, query := "q" },
  .retrieve 2 { access := access, query := "q" }]

/-- The state before the last retrieval. -/
def beforeLast : MemoryState ℕ :=
  after sampleConfig (after sampleConfig {}
    (.writePreference owner { id := "m", content := "secret", createdAt := 0 }))
    (.retrieve 1 { access := owner, query := "q" })

/-- The owner itself is answered from the cache, with a memory that it may read. -/
theorem readable_of_guarded_sample :
    (answer sampleConfig beforeLast (.retrieve 2 { access := owner, query := "q" })).map
        MemoryItem.content = ["secret"] ∧
      (machine sampleConfig).Guarded (AnswersReadable sampleConfig) {} (ownerThen owner) := by
  refine ⟨by decide, (readable_of_guarded sampleConfig (ownerThen owner)).1 ?_⟩
  refine ⟨trivial, fun first hfirst => ?_⟩
  obtain rfl := Option.some.inj hfirst
  refine ⟨fun cached hget => (by cases hget), fun second hsecond => ?_⟩
  obtain rfl := Option.some.inj hsecond
  refine ⟨fun cached hget => ?_, fun _ _ => trivial⟩
  have hstored : (Dict.get? beforeLast.retrievals
      (cacheKey { access := owner, query := "q" })).map (fun c => c.call.access) = some owner := by
    decide
  rw [show Dict.get? beforeLast.retrievals _ = some cached from hget] at hstored
  exact Option.some.inj hstored

/-- The stranger is answered from the cache with the owner's memory, which is not in its
scope. -/
theorem isolation_fails :
    (machine sampleConfig).run {} ((ownerThen stranger).take 2) = some beforeLast ∧
      cacheKey { access := owner, query := "q" } = cacheKey { access := stranger, query := "q" } ∧
      (answer sampleConfig beforeLast (.retrieve 2 { access := stranger, query := "q" })).map
        (fun item => (item.content, item.ownerId, isInScope item stranger)) =
          [("secret", "a", false)] := by
  refine ⟨rfl, by decide, by decide⟩

end MemoryController

end Samaktha
