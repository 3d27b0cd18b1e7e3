import Mathlib.Data.List.Nodup
import TreeQuery.Cache

/-!
# Queries from the cache

**A cache answers as reading does**: with the query that the text is read as, or with the error.
What it keeps shows in one thing only, whether two answers for a text come from one reading. They do
unless the cache was emptied between them, on request or because a further query was kept at the
limit.

The serial numbers tell readings apart. Those in a cache are smaller than the next one, so that
whatever is read after the cache was emptied has a larger number than all that was kept before.

## Main definitions and results

* `Cache.Request`, `Cache.afterAll` — what a cache is asked to do, and the cache behind.
* `Cache.Overflows`, `Cache.IsEmptiedBy` — when the queries kept are dropped.
* `Cache.IsSound` — what holds of every cache that is reached from an empty one.
* `Cache.answers_as_reading`: **the answers of a cache, and which of them come from one reading**.
-/

namespace TreeQuery.Cache

variable {cache : Cache} {text : String}

/-! ### Requests -/

/-- What a cache is asked to do. -/
inductive Request where
  /-- To answer with the query of a text. -/
  | get (text : String)
  /-- To answer with the query of a text, bound to the tree that it is to be run on. -/
  | bind (text : String)
  /-- To drop all queries. -/
  | clear

/-- The cache behind a request. -/
def after (cache : Cache) : Request → Cache
  | .get text => (cache.get text).2
  | .bind text => (cache.get text).2
  | .clear => cache.clear

/-- The cache behind several requests. -/
def afterAll (cache : Cache) (requests : List Request) : Cache := requests.foldl after cache

/-- A further text is read while the cache is at its limit. -/
def Overflows (cache : Cache) (text : String) : Prop :=
  cache.find? text = none ∧ (∃ query, Query.ofText text = .ok query) ∧ cache.size = capacity

/-- A request drops what the cache keeps. -/
def IsEmptiedBy (cache : Cache) : Request → Prop
  | .get text => cache.Overflows text
  | .bind text => cache.Overflows text
  | .clear => True

/-- One of several requests drops what the cache keeps by then. -/
def IsEmptiedDuring (cache : Cache) (requests : List Request) : Prop :=
  ∃ before request behind, requests = before ++ request :: behind ∧
    (cache.afterAll before).IsEmptiedBy request

/-- What every request preserves holds behind several ones. -/
theorem afterAll_of_after {p : Cache → Prop}
    (hafter : ∀ cache, p cache → ∀ request, p (cache.after request)) (h : p cache)
    (requests : List Request) : p (cache.afterAll requests) := by
  induction requests generalizing cache with
  | nil => exact h
  | cons request requests ih => exact ih (hafter cache h request)

/-- A cache is emptied during several requests by the first one or during the others. -/
theorem isEmptiedDuring_cons {request : Request} {requests : List Request} :
    cache.IsEmptiedDuring (request :: requests) ↔
      cache.IsEmptiedBy request ∨ (cache.after request).IsEmptiedDuring requests := by
  constructor
  · rintro ⟨before, emptying, behind, heq, hemptied⟩
    cases before with
    | nil =>
      obtain ⟨rfl, -⟩ := List.cons.inj heq
      exact .inl hemptied
    | cons first before =>
      obtain ⟨rfl, rfl⟩ := List.cons.inj heq
      exact .inr ⟨before, emptying, behind, rfl, hemptied⟩
  · rintro (hemptied | ⟨before, emptying, behind, rfl, hemptied⟩)
    · exact ⟨[], request, requests, rfl, hemptied⟩
    · exact ⟨request :: before, emptying, behind, rfl, hemptied⟩

/-! ### One lookup -/

/-- A query that is kept is answered, and the cache stays as it is. -/
theorem get_of_find? {found : KeptQuery} (h : cache.find? text = some found) :
    cache.get text = (.ok found, cache) := by
  rw [get, h]

/-- An error is answered and not kept. -/
theorem get_of_error (h : cache.find? text = none) {error : ParseError}
    (herror : Query.ofText text = .error error) : cache.get text = (.error error, cache) := by
  rw [get, h, herror]

/-- A query that is read is answered under the next serial number and kept. -/
theorem get_of_ok (h : cache.find? text = none) {query : Query}
    (hquery : Query.ofText text = .ok query) :
    cache.get text = (.ok ⟨cache.nextSerial, query⟩, cache.keep text query) := by
  rw [get, h, hquery]

/-- What a lookup leaves is the cache as it was, or the cache with the query of a text that was not
kept before. -/
theorem get_cases (cache : Cache) (text : String) :
    (cache.get text).2 = cache ∨
      cache.find? text = none ∧ ∃ query, Query.ofText text = .ok query ∧
        (cache.get text).2 = cache.keep text query := by
  cases hfind : cache.find? text with
  | some found => exact .inl (by rw [get_of_find? hfind])
  | none =>
    cases hread : Query.ofText text with
    | error error => exact .inl (by rw [get_of_error hfind hread])
    | ok query => exact .inr ⟨rfl, query, rfl, by rw [get_of_ok hfind hread]⟩

/-! ### Caches that are reached -/

/-- A cache is in order: it keeps no more queries than its limit, each under the text that it is
read from, and each reading has a number of its own. -/
structure IsSound (cache : Cache) : Prop where
  /-- The limit is kept. -/
  size_le : cache.size ≤ capacity
  /-- Texts are kept with their queries. -/
  ofText_eq : ∀ entry ∈ cache.kept, Query.ofText entry.1 = .ok entry.2.query
  /-- No text is kept twice. -/
  nodup : (cache.kept.map Prod.fst).Nodup
  /-- Further readings have larger numbers. -/
  serial_lt : ∀ entry ∈ cache.kept, entry.2.serial < cache.nextSerial

/-- What is looked up is kept under its text. -/
theorem mem_kept_of_find? {found : KeptQuery} (h : cache.find? text = some found) :
    (text, found) ∈ cache.kept := by
  obtain ⟨front, back, heq, -⟩ := List.lookup_eq_some_iff.mp h
  rw [heq]
  exact List.mem_append_right _ List.mem_cons_self

/-- A cache that keeps nothing is in order. -/
theorem isSound_of_kept_eq_nil (h : cache.kept = []) : cache.IsSound where
  size_le := by
    rw [size, h]
    exact Nat.zero_le _
  ofText_eq := h ▸ List.forall_mem_nil _
  nodup := h ▸ List.nodup_nil
  serial_lt := h ▸ List.forall_mem_nil _

/-- At the limit a further query drops all others. -/
theorem kept_keep_of_full (h : capacity ≤ cache.size) (text : String) (query : Query) :
    (cache.keep text query).kept = [(text, ⟨cache.nextSerial, query⟩)] := by
  rw [keep, if_pos h]

/-- Below the limit a further query is kept beside the others. -/
theorem kept_keep_of_room (h : cache.size < capacity) (text : String) (query : Query) :
    (cache.keep text query).kept = (text, ⟨cache.nextSerial, query⟩) :: cache.kept := by
  rw [keep, if_neg (Nat.not_le_of_lt h)]

/-- Keeping the query of a text that was not kept leaves a cache in order. -/
theorem IsSound.keep (h : cache.IsSound) (hfind : cache.find? text = none) {query : Query}
    (hquery : Query.ofText text = .ok query) : (cache.keep text query).IsSound := by
  rcases Nat.lt_or_ge cache.size capacity with hroom | hfull
  · have hkept := kept_keep_of_room hroom text query
    constructor
    · rw [size, hkept]
      exact hroom
    · rw [hkept, List.forall_mem_cons]
      exact ⟨hquery, h.ofText_eq⟩
    · rw [hkept, List.map_cons, List.nodup_cons]
      refine ⟨fun hmem => ?_, h.nodup⟩
      obtain ⟨entry, hentry, heq⟩ := List.mem_map.mp hmem
      simpa [heq] using List.lookup_eq_none_iff.mp hfind entry hentry
    · rw [hkept, List.forall_mem_cons]
      exact ⟨Nat.lt_succ_self _, fun entry hentry => Nat.lt_succ_of_lt (h.serial_lt entry hentry)⟩
  · have hkept := kept_keep_of_full hfull text query
    constructor
    · rw [size, hkept]
      exact Nat.one_le_of_lt (by decide : 0 < capacity)
    · rw [hkept, List.forall_mem_singleton]
      exact hquery
    · rw [hkept]
      exact List.nodup_singleton text
    · rw [hkept, List.forall_mem_singleton]
      exact Nat.lt_succ_self _

/-- A lookup leaves a cache in order. -/
theorem IsSound.get (h : cache.IsSound) (text : String) : (cache.get text).2.IsSound := by
  rcases cache.get_cases text with heq | ⟨hfind, query, hquery, heq⟩
  · rwa [heq]
  · rw [heq]
    exact h.keep hfind hquery

/-- Every request leaves a cache in order. -/
theorem IsSound.after (h : cache.IsSound) : ∀ request : Request, (cache.after request).IsSound
  | .get text => h.get text
  | .bind text => h.get text
  | .clear => isSound_of_kept_eq_nil rfl

/-- **Every cache that is reached from one in order is in order.** -/
theorem IsSound.afterAll (h : cache.IsSound) (requests : List Request) :
    (cache.afterAll requests).IsSound :=
  afterAll_of_after (fun _ => IsSound.after) h requests

/-- **A cache answers as reading does.** -/
theorem IsSound.map_query_get (h : cache.IsSound) (text : String) :
    (cache.get text).1.map KeptQuery.query = Query.ofText text := by
  cases hfind : cache.find? text with
  | some found =>
    rw [get_of_find? hfind]
    exact (h.ofText_eq _ (mem_kept_of_find? hfind)).symm
  | none =>
    cases hread : Query.ofText text with
    | error error =>
      rw [get_of_error hfind hread]
      rfl
    | ok query =>
      rw [get_of_ok hfind hread]
      rfl

/-! ### One reading or two -/

/-- A query that is answered is kept. -/
theorem find?_get {found : KeptQuery} (h : (cache.get text).1 = .ok found) :
    (cache.get text).2.find? text = some found := by
  cases hfind : cache.find? text with
  | some kept =>
    rw [get_of_find? hfind] at h ⊢
    rw [hfind, Except.ok.inj h]
  | none =>
    cases hread : Query.ofText text with
    | error error =>
      rw [get_of_error hfind hread] at h
      cases h
    | ok query =>
      rw [get_of_ok hfind hread] at h ⊢
      rw [← Except.ok.inj h]
      exact List.lookup_cons_self

/-- **A query stays where it is kept** until the cache is emptied. -/
theorem IsSound.find?_after (hsound : cache.IsSound) {found : KeptQuery}
    (h : cache.find? text = some found) {request : Request} (hkept : ¬ cache.IsEmptiedBy request) :
    (cache.after request).find? text = some found := by
  have hget : ∀ other, ¬ cache.Overflows other → (cache.get other).2.find? text = some found := by
    intro other hoverflow
    rcases cache.get_cases other with heq | ⟨hfind, query, hquery, heq⟩
    · rwa [heq]
    · have hroom : cache.size < capacity :=
        Nat.lt_of_le_of_ne hsound.size_le fun hfull => hoverflow ⟨hfind, ⟨query, hquery⟩, hfull⟩
      have hne : (text == other) = false := by
        refine beq_false_of_ne ?_
        rintro rfl
        cases h.symm.trans hfind
      rw [heq, find?, kept_keep_of_room hroom, List.lookup_cons, hne]
      exact h
  cases request with
  | get other => exact hget other hkept
  | bind other => exact hget other hkept
  | clear => exact absurd trivial hkept

/-- A query stays where it is kept through all requests that do not empty the cache. -/
theorem IsSound.find?_afterAll (hsound : cache.IsSound) {found : KeptQuery}
    (h : cache.find? text = some found) {requests : List Request}
    (hkept : ¬ cache.IsEmptiedDuring requests) :
    (cache.afterAll requests).find? text = some found := by
  induction requests generalizing cache with
  | nil => exact h
  | cons request requests ih =>
    rw [isEmptiedDuring_cons, not_or] at hkept
    exact ih (hsound.after request) (hsound.find?_after h hkept.1) hkept.2

/-- Every query that the cache keeps, now or later, comes from a reading of this number or a later
one. -/
structure ReadFrom (serial : Nat) (cache : Cache) : Prop where
  /-- The queries kept come from such readings. -/
  le_serial : ∀ entry ∈ cache.kept, serial ≤ entry.2.serial
  /-- Further readings are such readings. -/
  le_nextSerial : serial ≤ cache.nextSerial

variable {serial : Nat}

/-- A query kept now has the next serial number, which is late enough. -/
theorem ReadFrom.keep (h : cache.ReadFrom serial) (text : String) (query : Query) :
    (cache.keep text query).ReadFrom serial where
  le_serial := by
    rcases Nat.lt_or_ge cache.size capacity with hroom | hfull
    · rw [kept_keep_of_room hroom, List.forall_mem_cons]
      exact ⟨h.le_nextSerial, h.le_serial⟩
    · rw [kept_keep_of_full hfull, List.forall_mem_singleton]
      exact h.le_nextSerial
  le_nextSerial := Nat.le_succ_of_le h.le_nextSerial

/-- A lookup keeps nothing that was read earlier. -/
theorem ReadFrom.get (h : cache.ReadFrom serial) (text : String) :
    (cache.get text).2.ReadFrom serial := by
  rcases cache.get_cases text with heq | ⟨-, query, -, heq⟩
  · rwa [heq]
  · rw [heq]
    exact h.keep text query

/-- No request brings back what was read earlier. -/
theorem ReadFrom.after (h : cache.ReadFrom serial) :
    ∀ request : Request, (cache.after request).ReadFrom serial
  | .get text => h.get text
  | .bind text => h.get text
  | .clear => ⟨List.forall_mem_nil _, h.le_nextSerial⟩

/-- Several requests do not bring back what was read earlier. -/
theorem ReadFrom.afterAll (h : cache.ReadFrom serial) (requests : List Request) :
    (cache.afterAll requests).ReadFrom serial :=
  afterAll_of_after (fun _ => ReadFrom.after) h requests

/-- The answer of such a cache comes from such a reading, even where it is a new one. -/
theorem ReadFrom.le_serial_get (h : cache.ReadFrom serial) {found : KeptQuery}
    (hget : (cache.get text).1 = .ok found) : serial ≤ found.serial :=
  (h.get text).le_serial _ (mem_kept_of_find? (find?_get hget))

/-- A lookup takes no serial number back. -/
theorem nextSerial_le_get (cache : Cache) (text : String) :
    cache.nextSerial ≤ (cache.get text).2.nextSerial := by
  rcases cache.get_cases text with heq | ⟨-, query, -, heq⟩
  · exact Nat.le_of_eq (by rw [heq])
  · rw [heq]
    exact Nat.le_succ _

/-- No request takes serial numbers back. -/
theorem nextSerial_le_after (cache : Cache) :
    ∀ request : Request, cache.nextSerial ≤ (cache.after request).nextSerial
  | .get text => cache.nextSerial_le_get text
  | .bind text => cache.nextSerial_le_get text
  | .clear => Nat.le_refl _

/-- What is kept behind the reading that overflows a cache is that reading alone. -/
theorem Overflows.kept_get (h : cache.Overflows text) : ∃ query, Query.ofText text = .ok query ∧
    (cache.get text).2.kept = [(text, ⟨cache.nextSerial, query⟩)] := by
  obtain ⟨hfind, ⟨query, hquery⟩, hfull⟩ := h
  refine ⟨query, hquery, ?_⟩
  rw [get_of_ok hfind hquery]
  exact kept_keep_of_full (Nat.le_of_eq hfull.symm) text query

/-- **Where a cache is emptied, its readings start anew.** -/
theorem readFrom_of_isEmptiedBy (hserial : serial ≤ cache.nextSerial) {request : Request}
    (h : cache.IsEmptiedBy request) : (cache.after request).ReadFrom serial := by
  have hget : ∀ text, cache.Overflows text → (cache.get text).2.ReadFrom serial := by
    intro text hoverflow
    obtain ⟨query, -, hkept⟩ := hoverflow.kept_get
    refine ⟨?_, Nat.le_trans hserial (cache.nextSerial_le_get text)⟩
    rw [hkept, List.forall_mem_singleton]
    exact hserial
  cases request with
  | get text => exact hget text h
  | bind text => exact hget text h
  | clear => exact ⟨List.forall_mem_nil _, hserial⟩

/-- Once a cache was emptied, all that it keeps was read after the requests began. -/
theorem readFrom_of_isEmptiedDuring {requests : List Request} (hserial : serial ≤ cache.nextSerial)
    (h : cache.IsEmptiedDuring requests) : (cache.afterAll requests).ReadFrom serial := by
  induction requests generalizing cache with
  | nil =>
    obtain ⟨before, request, behind, heq, -⟩ := h
    simp at heq
  | cons request requests ih =>
    rcases isEmptiedDuring_cons.mp h with hemptied | hemptied
    · exact (readFrom_of_isEmptiedBy hserial hemptied).afterAll requests
    · exact ih (Nat.le_trans hserial (cache.nextSerial_le_after request)) hemptied

/-- **Two answers for a text come from one reading** if and only if the cache was not emptied
between them. -/
theorem IsSound.serial_eq_iff (h : cache.IsSound) {between : List Request}
    {first second : KeptQuery} (hfirst : (cache.get text).1 = .ok first)
    (hsecond : (((cache.get text).2.afterAll between).get text).1 = .ok second) :
    first.serial = second.serial ↔ ¬ (cache.get text).2.IsEmptiedDuring between := by
  have hkept := find?_get hfirst
  constructor
  · intro heq hemptied
    have hlt := (h.get text).serial_lt _ (mem_kept_of_find? hkept)
    have hle := (readFrom_of_isEmptiedDuring hlt hemptied).le_serial_get hsecond
    exact Nat.ne_of_lt hle heq
  · intro hstays
    have hfind := (h.get text).find?_afterAll hkept hstays
    rw [get_of_find? hfind] at hsecond
    rw [Except.ok.inj hsecond]

/-! ### Main theorem -/

/-- **A cache answers as reading does**, whatever it was asked before.

It stays within its limit and keeps texts with what they are read as. A lookup that finds its text
and one that fails leave it as it is. A text that is read anew is added, or is all that remains
where the cache was full. Two answers for a text come from the very same reading if and only if the
cache was neither cleared nor overflowed between them. -/
theorem answers_as_reading (requests : List Request) :
    let cache := afterAll {} requests
    (cache.size ≤ capacity ∧ (cache.kept.map Prod.fst).Nodup ∧
        ∀ entry ∈ cache.kept, Query.ofText entry.1 = .ok entry.2.query) ∧
      (∀ text, (cache.get text).1.map KeptQuery.query = Query.ofText text) ∧
      (∀ text, (cache.find? text).isSome ∨ (∃ error, (cache.get text).1 = .error error) →
        (cache.get text).2 = cache) ∧
      (∀ text, cache.find? text = none → ∀ query, Query.ofText text = .ok query →
        (cache.get text).2.kept = (text, ⟨cache.nextSerial, query⟩) ::
          if cache.size = capacity then [] else cache.kept) ∧
      ∀ text between first second, (cache.get text).1 = .ok first →
        (((cache.get text).2.afterAll between).get text).1 = .ok second →
        (first.serial = second.serial ↔ ¬ (cache.get text).2.IsEmptiedDuring between) := by
  intro cache
  have hsound : cache.IsSound := (isSound_of_kept_eq_nil rfl).afterAll requests
  refine ⟨⟨hsound.size_le, hsound.nodup, hsound.ofText_eq⟩, hsound.map_query_get, ?_, ?_,
    fun text between first second => hsound.serial_eq_iff⟩
  · intro text hleft
    rcases cache.get_cases text with heq | ⟨hfind, query, hquery, -⟩
    · exact heq
    · rcases hleft with hfound | ⟨error, herror⟩
      · simp [hfind] at hfound
      · rw [get_of_ok hfind hquery] at herror
        cases herror
  · intro text hfind query hquery
    rw [get_of_ok hfind hquery]
    rcases Nat.lt_or_eq_of_le hsound.size_le with hroom | hfull
    · rw [kept_keep_of_room hroom, if_neg (Nat.ne_of_lt hroom)]
    · rw [kept_keep_of_full (Nat.le_of_eq hfull.symm), if_pos hfull]

/-- The query of `.send`. -/
def sendQuery : Query := [.last { kindTest := some ⟨"send", []⟩ }]

/-- The query of `.arg`. -/
def argQuery : Query := [.last { kindTest := some ⟨"arg", []⟩ }]

/-- The first text is a query. -/
theorem ofText_send : Query.ofText ".send" = .ok sendQuery := by
  cbv

/-- The second text is a query. -/
theorem ofText_arg : Query.ofText ".arg" = .ok argQuery := by
  cbv

/-- The third text is no query. -/
theorem ofText_bracket : Query.ofText "[" = .error (.unexpectedEnd .attributeKey 1) := by
  cbv

/-- Reading further texts keeps `.send` where it is, and so does a text that is no query; clearing
the cache has it read again. -/
theorem answers_as_reading_send :
    ¬ (get {} ".send").2.IsEmptiedDuring [.get ".arg", .bind "["] ∧
      (get {} ".send").2.IsEmptiedDuring [.get ".arg", .clear] := by
  have hfirst : (get {} ".send").1 = .ok ⟨0, sendQuery⟩ := by
    rw [get_of_ok rfl ofText_send]
  have hkept : (((get {} ".send").2.afterAll [.get ".arg", .bind "["]).get ".send").1 =
      .ok ⟨0, sendQuery⟩ := by
    simp [afterAll, after, get, find?, keep, size, capacity, ofText_send, ofText_arg,
      ofText_bracket, List.lookup_cons]
  have hcleared : (((get {} ".send").2.afterAll [.get ".arg", .clear]).get ".send").1 =
      .ok ⟨2, sendQuery⟩ := by
    simp [afterAll, after, get, clear, find?, keep, size, capacity, ofText_send, ofText_arg,
      List.lookup_cons]
  have hreadings := (answers_as_reading []).2.2.2.2 ".send"
  exact ⟨(hreadings _ _ _ hfirst hkept).mp rfl,
    not_not.mp (mt (hreadings _ _ _ hfirst hcleared).mpr (by decide))⟩

end TreeQuery.Cache
