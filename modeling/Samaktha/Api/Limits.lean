import Samaktha.Foundation.Dict
import Mathlib.Data.List.Induction
import Mathlib.Data.Rat.Floor
import Mathlib.Tactic.Linarith

/-!
# Request limits

`RateLimiter` and the middleware around it: a request that declares too large a body is refused, one
of a client whose window is used up is refused with a time to wait, and any other is passed on.

Each answer is the one that the requests of its window ask for; a client is passed on a bounded
number of times in sixty seconds, and one that waits as long as it was told is passed on.

Times are rational seconds.  The middleware does not await between the reading of the clock and the
end of `allow`, so requests come in the order of their times.
-/

namespace Samaktha

/-! ## The limiter -/

def rateLimitWindowS : ℚ := 60

/-- `now - (now % RATE_LIMIT_WINDOW_S)`. -/
def windowStart (now : ℚ) : ℚ := now - (now - rateLimitWindowS * ⌊now / rateLimitWindowS⌋)

structure RateLimiter where
  limit : ℤ
  windows : Dict String (ℚ × ℤ) := []

namespace RateLimiter

/-- `RateLimiter.__init__`. -/
def init (limitPerMinute : ℤ) : RateLimiter := { limit := max 1 limitPerMinute }

/-- `self._windows[key] = window`. -/
def put (r : RateLimiter) (key : String) (window : ℚ × ℤ) : RateLimiter :=
  { r with windows := r.windows.set key window }

@[simp] lemma limit_put (r : RateLimiter) (key : String) (window : ℚ × ℤ) :
    (r.put key window).limit = r.limit := rfl

/-- The window and the count that `allow` goes by. -/
def entry (r : RateLimiter) (key : String) (now : ℚ) : ℚ × ℤ :=
  let entry := (r.windows.get? key).getD (windowStart now, 0)
  if entry.1 ≠ windowStart now then (windowStart now, 0) else entry

/-- `allow`: whether the request is allowed, the time to wait, and the limiter after it. -/
def allow (r : RateLimiter) (key : String) (now : ℚ) : Bool × ℤ × RateLimiter :=
  let entry := r.entry key now
  if entry.2 ≥ r.limit then
    (false, max 1 (⌊entry.1 + rateLimitWindowS - now⌋ + 1), r)
  else (true, 0, r.put key (entry.1, entry.2 + 1))

end RateLimiter

/-! ## The middleware -/

/-- What the middleware reads of a request, and when it comes. -/
structure HttpRequest where
  /-- `request.client.host`. -/
  host : Option String
  /-- The header `content-length`. -/
  contentLength : Option String
  now : ℚ
  deriving Repr

def HttpRequest.clientKey (q : HttpRequest) : String :=
  match q.host with
  | none | some "" => "unknown"
  | some host => host

/-- What the middleware makes of a request. -/
inductive HttpAnswer where
  | tooLarge
  | rateLimited (retryAfter : ℤ)
  | passed
  deriving Repr, DecidableEq

/-- The settings; `toInt` is `int` of a text. -/
structure HttpSettings where
  apiMaxRequestBytes : ℤ := 256000
  apiRateLimitPerMinute : ℤ := 60
  toInt : String → Option ℤ

def contentLength (cfg : HttpSettings) (q : HttpRequest) : Option ℤ :=
  (q.contentLength.bind cfg.toInt).map (max 0)

/-- The declared length is over the limit; a limit of zero is none. -/
def oversized (cfg : HttpSettings) (q : HttpRequest) : Bool :=
  match contentLength cfg q with
  | none => false
  | some length => cfg.apiMaxRequestBytes ≠ 0 && length > cfg.apiMaxRequestBytes

/-- The limiter and the counters of `HttpMetricsCollector`. -/
structure HttpLimits where
  limiter : RateLimiter
  requestsTotal : ℕ := 0
  rateLimitedTotal : ℕ := 0
  tooLargeTotal : ℕ := 0

/-- `http_limits_middleware`, up to `call_next`. -/
def HttpLimits.answer (cfg : HttpSettings) (s : HttpLimits) (q : HttpRequest) :
    HttpAnswer × HttpLimits :=
  if oversized cfg q then (.tooLarge, { s with tooLargeTotal := s.tooLargeTotal + 1 })
  else
    match s.limiter.allow q.clientKey q.now with
    | (false, retryAfter, _) =>
        (.rateLimited retryAfter, { s with rateLimitedTotal := s.rateLimitedTotal + 1 })
    | (true, _, limiter) =>
        (.passed, { s with limiter := limiter, requestsTotal := s.requestsTotal + 1 })

/-- The answers to requests that come one after the other, and the state after them. -/
def serve (cfg : HttpSettings) (requests : List HttpRequest) : List HttpAnswer × HttpLimits :=
  requests.foldl (fun done q =>
    let next := done.2.answer cfg q
    (done.1 ++ [next.1], next.2)) ([], { limiter := .init cfg.apiRateLimitPerMinute })

lemma serve_append (cfg : HttpSettings) (requests : List HttpRequest) (q : HttpRequest) :
    serve cfg (requests ++ [q]) =
      ((serve cfg requests).1 ++ [((serve cfg requests).2.answer cfg q).1],
        ((serve cfg requests).2.answer cfg q).2) := by
  simp [serve, List.foldl_append]

/-! ## Windows -/

lemma windowStart_eq (now : ℚ) : windowStart now = 60 * ⌊now / 60⌋ := by
  simp [windowStart, rateLimitWindowS]

lemma windowStart_mono {t now : ℚ} (h : t ≤ now) : windowStart t ≤ windowStart now := by
  rw [windowStart_eq, windowStart_eq]
  have hfloor : ⌊t / 60⌋ ≤ ⌊now / 60⌋ := Int.floor_le_floor (by linarith)
  have hcast : (⌊t / 60⌋ : ℚ) ≤ ⌊now / 60⌋ := by exact_mod_cast hfloor
  linarith

lemma lt_windowStart_add (now : ℚ) : now < windowStart now + 60 := by
  rw [windowStart_eq]
  have := Int.lt_floor_add_one (now / 60)
  linarith

lemma windowStart_add_le {t now : ℚ} (h : windowStart t < windowStart now) :
    windowStart t + 60 ≤ windowStart now := by
  rw [windowStart_eq, windowStart_eq] at *
  have hfloor : ⌊t / 60⌋ < ⌊now / 60⌋ := by
    have : (⌊t / 60⌋ : ℚ) < ⌊now / 60⌋ := by linarith
    exact_mod_cast this
  have hcast : (⌊t / 60⌋ : ℚ) + 1 ≤ ⌊now / 60⌋ := by exact_mod_cast hfloor
  linarith

/-! ## What the limiter remembers -/

/-- A request that the limiter counts against the window of another one. -/
def rivals (cfg : HttpSettings) (key : String) (now : ℚ) (q : HttpRequest) : Bool :=
  !oversized cfg q && q.clientKey = key && windowStart q.now = windowStart now

/-- What is used of a client's window. -/
def used (cfg : HttpSettings) (past : List HttpRequest) (key : String) (now : ℚ) : ℕ :=
  past.countP (rivals cfg key now)

/-- The limiter remembers, of the window that a next request falls into, how much is used, up to
the limit. -/
structure Remembers (cfg : HttpSettings) (past : List HttpRequest) (r : RateLimiter) : Prop where
  limit : r.limit = max 1 cfg.apiRateLimitPerMinute
  entry : ∀ key now, (∀ q ∈ past, q.now ≤ now) →
    r.entry key now = (windowStart now, min r.limit (used cfg past key now))

variable {cfg : HttpSettings} {past : List HttpRequest} {r : RateLimiter} {q : HttpRequest}

lemma used_append (cfg : HttpSettings) (past : List HttpRequest) (q : HttpRequest) (key : String)
    (now : ℚ) : used cfg (past ++ [q]) key now =
      used cfg past key now + if rivals cfg key now q then 1 else 0 := by
  simp [used, List.countP_append, List.countP_singleton]

lemma used_eq_zero {key : String} {t now : ℚ} (hpast : ∀ q ∈ past, q.now ≤ t)
    (h : windowStart t < windowStart now) : used cfg past key now = 0 := by
  refine List.countP_eq_zero.mpr fun q hq hrivals => ?_
  simp only [rivals, Bool.and_eq_true, decide_eq_true_eq] at hrivals
  have := windowStart_mono (hpast q hq)
  linarith [hrivals.2]

lemma used_congr {key : String} {t now : ℚ} (h : windowStart t = windowStart now) :
    used cfg past key t = used cfg past key now := by
  unfold used
  exact List.countP_congr fun q _ => by simp only [rivals, h]

lemma entry_put (key key' : String) (t now : ℚ) (n : ℤ) :
    (r.put key (windowStart t, n)).entry key' now =
      if key = key' then (windowStart now, if windowStart t = windowStart now then n else 0)
      else r.entry key' now := by
  unfold RateLimiter.entry RateLimiter.put
  by_cases heq : key = key'
  · subst heq
    by_cases hsame : windowStart t = windowStart now
    · simp [hsame]
    · simp [hsame]
  · simp only [Dict.get?_set_of_ne heq, if_neg heq]

namespace Remembers

lemma init (cfg : HttpSettings) : Remembers cfg [] (.init cfg.apiRateLimitPerMinute) := by
  refine ⟨rfl, fun key now _ => ?_⟩
  have hlimit : (0 : ℤ) ≤ max 1 cfg.apiRateLimitPerMinute := by omega
  simp [RateLimiter.entry, RateLimiter.init, used, hlimit]

lemma allow_eq (h : Remembers cfg past r) (hpast : ∀ p ∈ past, p.now ≤ q.now) :
    r.allow q.clientKey q.now =
      if (used cfg past q.clientKey q.now : ℤ) < r.limit then
        (true, 0, r.put q.clientKey (windowStart q.now, used cfg past q.clientKey q.now + 1))
      else (false, ⌊windowStart q.now + 60 - q.now⌋ + 1, r) := by
  have hwait : 0 ≤ ⌊windowStart q.now + 60 - q.now⌋ :=
    Int.floor_nonneg.mpr (by linarith [lt_windowStart_add q.now])
  unfold RateLimiter.allow
  rw [h.entry _ _ hpast]
  simp only [rateLimitWindowS]
  by_cases hfull : (used cfg past q.clientKey q.now : ℤ) < r.limit
  · rw [if_pos hfull, if_neg (by omega), min_eq_right hfull.le]
  · rw [if_neg hfull, if_pos (by omega), max_eq_right (by omega)]

lemma skip (h : Remembers cfg past r) (hsize : oversized cfg q = true) :
    Remembers cfg (past ++ [q]) r := by
  refine ⟨h.limit, fun key now hnow => ?_⟩
  rw [used_append, if_neg (by simp [rivals, hsize])]
  exact h.entry key now fun p hp => hnow p (List.mem_append_left _ hp)

/-- What a later request finds: either it falls into the window of the one before it, or nothing is
used of its own. -/
lemma later (cfg : HttpSettings) (hpast : ∀ p ∈ past, p.now ≤ q.now) {now : ℚ}
    (hnow : ∀ p ∈ past ++ [q], p.now ≤ now) :
    windowStart q.now = windowStart now ∨ ∀ key, used cfg (past ++ [q]) key now = 0 := by
  rcases (windowStart_mono (hnow q (by simp))).eq_or_lt with heq | hlt
  · exact .inl heq
  · refine .inr fun key => used_eq_zero (fun p hp => ?_) hlt
    rcases List.mem_append.mp hp with hp | hp
    · exact hpast p hp
    · exact (List.mem_singleton.mp hp) ▸ le_rfl

lemma refuse (h : Remembers cfg past r) (hpast : ∀ p ∈ past, p.now ≤ q.now)
    (hfull : ¬(used cfg past q.clientKey q.now : ℤ) < r.limit) :
    Remembers cfg (past ++ [q]) r := by
  refine ⟨h.limit, fun key now hnow => ?_⟩
  rw [h.entry key now fun p hp => hnow p (List.mem_append_left _ hp)]
  have hadd := used_append cfg past q key now
  rcases later cfg hpast hnow with hsame | hzero
  · by_cases hmine : rivals cfg key now q = true
    · obtain rfl : q.clientKey = key := by
        simp only [rivals, Bool.and_eq_true, decide_eq_true_eq] at hmine
        exact hmine.1.2
      rw [if_pos hmine] at hadd
      rw [used_congr hsame] at hfull
      rw [min_eq_left (by omega), min_eq_left (by omega)]
    · rw [hadd, if_neg hmine, Nat.add_zero]
  · have hold : used cfg past key now = 0 := by
      have := hzero key
      omega
    rw [hzero, hold]

lemma store (h : Remembers cfg past r) (hpast : ∀ p ∈ past, p.now ≤ q.now)
    (hsize : ¬oversized cfg q = true) (hroom : (used cfg past q.clientKey q.now : ℤ) < r.limit) :
    Remembers cfg (past ++ [q])
      (r.put q.clientKey (windowStart q.now, used cfg past q.clientKey q.now + 1)) := by
  refine ⟨h.limit, fun key now hnow => ?_⟩
  rw [entry_put, RateLimiter.limit_put]
  have hadd := used_append cfg past q key now
  have hone : 1 ≤ r.limit := h.limit ▸ le_max_left _ _
  by_cases hkey : q.clientKey = key
  · subst hkey
    rw [if_pos rfl]
    rcases later cfg hpast hnow with hsame | hzero
    · have hmine : rivals cfg q.clientKey now q = true := by simp [rivals, hsize, hsame]
      rw [if_pos hmine] at hadd
      rw [if_pos hsame, hadd, ← used_congr hsame, Nat.cast_add, Nat.cast_one,
        min_eq_right (by omega)]
    · have hother : ¬rivals cfg q.clientKey now q = true := by
        intro hmine
        have := hzero q.clientKey
        rw [if_pos hmine] at hadd
        omega
      have hne : ¬windowStart q.now = windowStart now := by
        intro hsame
        exact hother (by simp [rivals, hsize, hsame])
      rw [if_neg hne, hzero]
      simp only [Nat.cast_zero]
      rw [min_eq_right (by omega)]
  · have hother : ¬rivals cfg key now q = true := by simp [rivals, hkey]
    rw [if_neg hkey, hadd, if_neg hother, Nat.add_zero]
    exact h.entry key now fun p hp => hnow p (List.mem_append_left _ hp)

end Remembers

/-! ## What is answered -/

/-- The answer by what is used of the client's window. -/
def expected (cfg : HttpSettings) (past : List HttpRequest) (q : HttpRequest) : HttpAnswer :=
  if oversized cfg q then .tooLarge
  else if (used cfg past q.clientKey q.now : ℤ) < max 1 cfg.apiRateLimitPerMinute then .passed
  else .rateLimited (⌊windowStart q.now + 60 - q.now⌋ + 1)

lemma Remembers.answer {s : HttpLimits} (h : Remembers cfg past s.limiter)
    (hpast : ∀ p ∈ past, p.now ≤ q.now) :
    (s.answer cfg q).1 = expected cfg past q ∧
      Remembers cfg (past ++ [q]) (s.answer cfg q).2.limiter := by
  have hallow := h.allow_eq hpast
  unfold HttpLimits.answer expected
  rw [← h.limit]
  by_cases hsize : oversized cfg q = true
  · rw [if_pos hsize, if_pos hsize]
    exact ⟨rfl, h.skip hsize⟩
  · rw [if_neg hsize, if_neg hsize]
    by_cases hroom : (used cfg past q.clientKey q.now : ℤ) < s.limiter.limit
    · rw [if_pos hroom] at hallow ⊢
      simp only [hallow]
      exact ⟨trivial, h.store hpast hsize hroom⟩
    · rw [if_neg hroom] at hallow ⊢
      simp only [hallow]
      exact ⟨trivial, h.refuse hpast hroom⟩

/-- What holds when some requests have been served. -/
structure Served (cfg : HttpSettings) (requests : List HttpRequest) : Prop where
  remembers : Remembers cfg requests (serve cfg requests).2.limiter
  answers : ∀ i (hi : i < requests.length),
    (serve cfg requests).1[i]? = some (expected cfg (requests.take i) requests[i])
  length : (serve cfg requests).1.length = requests.length

lemma served (cfg : HttpSettings) {requests : List HttpRequest}
    (hsorted : requests.Pairwise fun p q => p.now ≤ q.now) : Served cfg requests := by
  induction requests using List.reverseRecOn with
  | nil => exact ⟨.init cfg, fun i hi => absurd hi (Nat.not_lt_zero i), rfl⟩
  | append_singleton past q ih =>
      rw [List.pairwise_append] at hsorted
      have hdone := ih hsorted.1
      obtain ⟨hanswer, hremembers⟩ :=
        hdone.remembers.answer fun p hp => hsorted.2.2 p hp q (List.mem_singleton_self q)
      refine ⟨by rw [serve_append]; exact hremembers, fun i hi => ?_, ?_⟩
      · rw [serve_append]
        by_cases hlast : i = past.length
        · subst hlast
          simp [hanswer, hdone.length]
        · have hi : i < past.length := by
            rw [List.length_append, List.length_singleton] at hi
            omega
          rw [List.getElem?_append_left (hdone.length ▸ hi), hdone.answers i hi,
            List.getElem_append_left hi, List.take_append_of_le_length hi.le]
      · simp [serve_append, hdone.length]

/-- A request is refused for its size, or because its client has used up the window by the requests
before it; otherwise it is passed on. -/
theorem answers_spec (cfg : HttpSettings) {requests : List HttpRequest}
    (hsorted : requests.Pairwise fun p q => p.now ≤ q.now) {i : ℕ} (hi : i < requests.length) :
    (serve cfg requests).1[i]? = some (expected cfg (requests.take i) requests[i]) :=
  (served cfg hsorted).answers i hi

/-- One request a minute. -/
def sparing : HttpSettings where
  apiRateLimitPerMinute := 1
  toInt := Dict.get? [("12", 12), ("900000", 900000)]

/-- Two requests of a client in one window. -/
def hasty : List HttpRequest := [⟨some "a", none, 10⟩, ⟨some "a", some "12", 20⟩]

/-- Another client with a long body, and the first client in the next window. -/
def patient : List HttpRequest := [⟨some "b", some "900000", 30⟩, ⟨some "a", none, 61⟩]

lemma sorted_sparing : (hasty ++ patient).Pairwise fun p q => p.now ≤ q.now := by
  decide

theorem answers_spec_sparing : (serve sparing (hasty ++ patient)).1[1]? =
    some (expected sparing ((hasty ++ patient).take 1) (hasty ++ patient)[1]) :=
  answers_spec sparing sorted_sparing (by decide)

/-! ## How many are passed on -/

/-- The requests that were passed on. -/
def passedOn (cfg : HttpSettings) (requests : List HttpRequest) : List HttpRequest :=
  ((requests.zip (serve cfg requests).1).filter fun p => p.2 = .passed).map Prod.fst

lemma passedOn_append (hlength : (serve cfg past).1.length = past.length) (q : HttpRequest) :
    passedOn cfg (past ++ [q]) =
      passedOn cfg past ++ if ((serve cfg past).2.answer cfg q).1 = .passed then [q] else [] := by
  unfold passedOn
  rw [serve_append, List.zip_append hlength.symm, List.filter_append, List.map_append]
  congr 1
  split
  · rename_i h
    simp [h]
  · rename_i h
    simp [h]

lemma not_oversized_of_expected (h : expected cfg past q = .passed) : oversized cfg q = false := by
  unfold expected at h
  split at h
  · cases h
  · rename_i hsize
    exact Bool.eq_false_iff.mpr hsize

lemma used_lt_of_expected (h : expected cfg past q = .passed) :
    (used cfg past q.clientKey q.now : ℤ) < max 1 cfg.apiRateLimitPerMinute := by
  unfold expected at h
  split at h
  · cases h
  · split at h
    · assumption
    · cases h

/-- The requests that are passed on were not too large, and no window has more of them than the
limit. -/
lemma passedOn_spec (cfg : HttpSettings) {requests : List HttpRequest}
    (hsorted : requests.Pairwise fun p q => p.now ≤ q.now) :
    (passedOn cfg requests).Sublist requests ∧
      (∀ q ∈ passedOn cfg requests, oversized cfg q = false) ∧
      ∀ key now, (used cfg (passedOn cfg requests) key now : ℤ) ≤
        max 1 cfg.apiRateLimitPerMinute := by
  induction requests using List.reverseRecOn with
  | nil =>
      have hlimit : (0 : ℤ) ≤ max 1 cfg.apiRateLimitPerMinute := by omega
      exact ⟨List.Sublist.refl _, fun q hq => (by cases hq), fun _ _ => hlimit⟩
  | append_singleton past q ih =>
      rw [List.pairwise_append] at hsorted
      obtain ⟨hsublist, hsizes, hwindows⟩ := ih hsorted.1
      have hdone := served cfg hsorted.1
      obtain ⟨hanswer, -⟩ :=
        hdone.remembers.answer fun p hp => hsorted.2.2 p hp q (List.mem_singleton_self q)
      rw [passedOn_append hdone.length, hanswer]
      split
      · rename_i hpassed
        refine ⟨hsublist.append (List.Sublist.refl _), fun p hp => ?_, fun key now => ?_⟩
        · rcases List.mem_append.mp hp with hp | hp
          · exact hsizes p hp
          · exact List.mem_singleton.mp hp ▸ not_oversized_of_expected hpassed
        · rw [used_append]
          split
          · rename_i hmine
            simp only [rivals, Bool.and_eq_true, decide_eq_true_eq] at hmine
            obtain ⟨⟨-, rfl⟩, hsame⟩ := hmine
            have hroom := used_lt_of_expected hpassed
            have hle : used cfg (passedOn cfg past) q.clientKey now ≤
                used cfg past q.clientKey q.now := by
              rw [used_congr hsame]
              exact hsublist.countP_le
            push_cast
            omega
          · exact hwindows key now
      · rw [List.append_nil]
        exact ⟨hsublist.trans (List.sublist_append_left _ _), hsizes, hwindows⟩

lemma window_of_mem {t : ℚ} (hfrom : t ≤ q.now) (hto : q.now < t + 60) :
    windowStart q.now = windowStart t ∨ windowStart q.now = windowStart (t + 60) := by
  rcases (windowStart_mono hfrom).eq_or_lt with heq | hlt
  · exact .inl heq.symm
  · right
    have hnext := windowStart_add_le hlt
    have hend := windowStart_mono hto.le
    have hshift : windowStart (t + 60) = windowStart t + 60 := by
      have hdiv : (t + 60) / 60 = t / 60 + 1 := by ring
      rw [windowStart_eq, windowStart_eq, hdiv, Int.floor_add_one]
      push_cast
      ring
    linarith

lemma countP_le_add {α : Type} {p a b : α → Bool} {l : List α}
    (h : ∀ x ∈ l, p x = true → a x = true ∨ b x = true) :
    l.countP p ≤ l.countP a + l.countP b := by
  have hor : l.countP p ≤ l.countP fun x => a x || b x :=
    List.countP_mono_left fun x hx hpx => by simpa using h x hx hpx
  refine hor.trans ?_
  clear h hor
  induction l with
  | nil => exact Nat.zero_le _
  | cons x l ih =>
      simp only [List.countP_cons]
      cases a x <;> cases b x <;> simp <;> omega

/-- Of a client's requests in any sixty seconds, at most twice the limit are passed on. -/
theorem passed_le (cfg : HttpSettings) {requests : List HttpRequest}
    (hsorted : requests.Pairwise fun p q => p.now ≤ q.now) (key : String) (t : ℚ) :
    (((passedOn cfg requests).countP fun q =>
      q.clientKey = key && t ≤ q.now && q.now < t + rateLimitWindowS : ℕ) : ℤ) ≤
      2 * max 1 cfg.apiRateLimitPerMinute := by
  obtain ⟨-, hsizes, hwindows⟩ := passedOn_spec cfg hsorted
  have hfirst := hwindows key t
  have hsecond := hwindows key (t + 60)
  have hsplit : (passedOn cfg requests).countP (fun q =>
      q.clientKey = key && t ≤ q.now && q.now < t + rateLimitWindowS) ≤
      used cfg (passedOn cfg requests) key t + used cfg (passedOn cfg requests) key (t + 60) := by
    refine countP_le_add fun q hq hin => ?_
    simp only [Bool.and_eq_true, decide_eq_true_eq] at hin
    obtain ⟨⟨hkey, hfrom⟩, hto⟩ := hin
    simpa [rivals, hsizes q hq, hkey] using window_of_mem hfrom hto
  omega

theorem passed_le_sparing :
    (((passedOn sparing (hasty ++ patient)).countP fun q =>
      q.clientKey = "a" && 10 ≤ q.now && q.now < 10 + rateLimitWindowS : ℕ) : ℤ) ≤ 2 * 1 :=
  passed_le sparing sorted_sparing "a" 10

/-- A client that waits as long as it was told is passed on, unless other requests of the same
client use up the window meanwhile; and it is told to wait less than a second too long. -/
theorem wait_suffices {before between : List HttpRequest} {q next : HttpRequest} {r : ℤ}
    (hsorted : (before ++ q :: (between ++ [next])).Pairwise fun p q => p.now ≤ q.now)
    (hrefused : (serve cfg (before ++ [q])).1[before.length]? = some (.rateLimited r))
    (hclient : next.clientKey = q.clientKey) (hwait : q.now + r ≤ next.now)
    (hsize : oversized cfg next = false)
    (hroom : (used cfg between q.clientKey next.now : ℤ) < max 1 cfg.apiRateLimitPerMinute) :
    (serve cfg (before ++ q :: (between ++ [next]))).1[before.length + 1 + between.length]? =
        some .passed ∧
      q.now + r ≤ windowStart q.now + 60 + 1 := by
  have hfirst : (before ++ [q]).Pairwise fun p q => p.now ≤ q.now :=
    hsorted.sublist (List.append_sublist_append_left before |>.mpr (by simp))
  have hthen := (served cfg hfirst).answers before.length (by simp)
  rw [hrefused] at hthen
  have hr : r = ⌊windowStart q.now + 60 - q.now⌋ + 1 := by
    simp only [List.take_left', List.getElem_concat_length, Option.some.injEq] at hthen
    unfold expected at hthen
    split at hthen
    · cases hthen
    · split at hthen
      · cases hthen
      · exact HttpAnswer.rateLimited.inj hthen
  have hfloor := Int.floor_le (windowStart q.now + 60 - q.now)
  have hover := Int.lt_floor_add_one (windowStart q.now + 60 - q.now)
  have hcast : (r : ℚ) = ⌊windowStart q.now + 60 - q.now⌋ + 1 := by
    rw [hr]
    push_cast
    rfl
  have hlater : windowStart q.now < windowStart next.now := by
    by_contra hle
    linarith [lt_windowStart_add next.now]
  -- nothing of the later window was used before the client waited
  have hused : used cfg (before ++ q :: between) q.clientKey next.now =
      used cfg between q.clientKey next.now := by
    have hzero : used cfg (before ++ [q]) q.clientKey next.now = 0 := by
      refine used_eq_zero (fun p hp => ?_) hlater
      rcases List.mem_append.mp hp with hp | hp
      · exact (List.pairwise_append.mp hfirst).2.2 p hp q (List.mem_singleton_self q)
      · exact List.mem_singleton.mp hp ▸ le_rfl
    have hsplit : before ++ q :: between = (before ++ [q]) ++ between := by simp
    rw [hsplit, used, List.countP_append]
    exact (congrArg (· + _) hzero).trans (Nat.zero_add _)
  refine ⟨?_, by linarith⟩
  have hlist : before ++ q :: (between ++ [next]) = (before ++ q :: between) ++ [next] := by simp
  have hindex : before.length + 1 + between.length = (before ++ q :: between).length := by
    simp
    omega
  rw [hlist] at hsorted ⊢
  have hlast := (served cfg hsorted).answers (before ++ q :: between).length (by simp)
  rw [hindex, hlast, List.take_left', List.getElem_concat_length]
  · unfold expected
    rw [if_neg (by simp [hsize]), hclient, hused, if_pos hroom]
  · rfl
  · rfl

lemma refused_sparing :
    (serve sparing ([⟨some "a", none, 10⟩] ++ [⟨some "a", some "12", 20⟩])).1[1]? =
      some (.rateLimited 41) := by
  decide +kernel

theorem wait_suffices_sparing : (serve sparing (hasty ++ patient)).1[3]? = some .passed ∧
    (20 : ℚ) + (41 : ℤ) ≤ windowStart 20 + 60 + 1 :=
  @wait_suffices sparing [_] [_] _ _ _ sorted_sparing refused_sparing rfl (by norm_num)
    (by decide +kernel) (by decide +kernel)

end Samaktha
