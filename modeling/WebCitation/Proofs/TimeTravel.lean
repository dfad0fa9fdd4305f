import WebCitation.Keyed
import WebCitation.Storage.Loader

/-!
Reading at a revision. Revisions are numbered over all pages, so the number of a revision stands for the moment at
which it was saved: what is read at it is what was the latest then. A store that keeps a history for every page, and
numbers revisions by the lengths of all histories, answers the same as one log.
-/
namespace WebCitation

/-- The answer to a query of which all revisions that it asks for were found. -/
def RevisionQuery.answer (q : RevisionQuery) (found : List SavedRevision) : List Revision :=
  ((q.limit.map found.take).getD found).map fun r => ⟨r.id, if q.withContent then some r.content else none⟩

namespace RevisionStore

theorem fetch_eq_answer (s : RevisionStore) (q : RevisionQuery) :
    s.fetch q = q.answer (s.revisions.reverse.filter (matchesQuery q)) := rfl

/-- The numbers that pages are given which are saved one after the other. -/
def savedIds (s : RevisionStore) : List (String × String) → List Nat
  | [] => []
  | (title, content) :: pages => s.nextId :: (s.save title content).savedIds pages

/-- The store after some more pages are saved. -/
def saveAll (s : RevisionStore) (pages : List (String × String)) : RevisionStore :=
  pages.foldl (fun s (title, content) => s.save title content) s

theorem ofPages_append (before after : List (String × String)) :
    ofPages (before ++ after) = (ofPages before).saveAll after := by
  simp only [ofPages, saveAll, List.foldl_append]

theorem nextId_save (s : RevisionStore) (title content : String) :
    (s.save title content).nextId = s.nextId + 1 := by
  simp [nextId, save]

theorem nextId_saveAll (s : RevisionStore) (pages : List (String × String)) :
    (s.saveAll pages).nextId = s.nextId + pages.length := by
  induction pages generalizing s with
  | nil => rfl
  | cons page pages ih =>
    have rest := ih (s.save page.1 page.2)
    rw [nextId_save] at rest
    rw [List.length_cons]
    exact rest.trans (by omega)

theorem savedIds_eq (s : RevisionStore) (pages : List (String × String)) :
    s.savedIds pages = List.range' s.nextId pages.length := by
  induction pages generalizing s with
  | nil => rfl
  | cons page pages ih => rw [savedIds, ih, nextId_save, List.length_cons, List.range'_succ]

theorem revisions_saveAll (s : RevisionStore) (pages : List (String × String)) :
    (s.saveAll pages).revisions =
      s.revisions ++ (pages.zipIdx s.nextId).map fun (page, id) => ⟨id, page.1, page.2⟩ := by
  induction pages generalizing s with
  | nil => exact (List.append_nil _).symm
  | cons page pages ih =>
    have rest := ih (s.save page.1 page.2)
    rw [nextId_save, save, List.append_assoc] at rest
    rw [List.zipIdx_cons, List.map_cons]
    exact rest

theorem revisions_ofPages (pages : List (String × String)) :
    (ofPages pages).revisions = (pages.zipIdx 1).map fun (page, id) => ⟨id, page.1, page.2⟩ :=
  revisions_saveAll empty pages

theorem map_id_ofPages (pages : List (String × String)) :
    (ofPages pages).revisions.map SavedRevision.id = List.range' 1 pages.length := by
  rw [revisions_ofPages, List.map_map, ← List.zipIdx_map_snd]
  rfl

/-- A revision that is saved later is not seen. -/
theorem fetch_save_of_lt {s : RevisionStore} {q : RevisionQuery} {k : Nat} (start : q.start = some k)
    (later : k < s.nextId) (title content : String) : (s.save title content).fetch q = s.fetch q := by
  have unseen : matchesQuery q ⟨s.nextId, title, content⟩ = false := by
    simp only [matchesQuery, start, Option.all_some, Bool.and_eq_false_iff, decide_eq_false_iff_not]
    exact .inr (Nat.not_le.2 later)
  rw [fetch_eq_answer, fetch_eq_answer, save, List.reverse_append, List.reverse_singleton, List.singleton_append,
    List.filter_cons_of_neg (by rw [unseen]; decide)]

theorem fetch_saveAll_of_lt {s : RevisionStore} {q : RevisionQuery} {k : Nat} (start : q.start = some k)
    (later : k < s.nextId) (pages : List (String × String)) : (s.saveAll pages).fetch q = s.fetch q := by
  induction pages generalizing s with
  | nil => rfl
  | cons page pages ih =>
    have still : k < (s.save page.1 page.2).nextId := by
      rw [nextId_save]
      omega
    exact (ih still).trans (fetch_save_of_lt start later page.1 page.2)

theorem fetch_of_forall_le {s : RevisionStore} {k : Nat} (all : ∀ r ∈ s.revisions, r.id ≤ k) (title : String)
    (withContent : Bool) (limit : Option Nat) :
    s.fetch ⟨title, withContent, some k, limit⟩ = s.fetch ⟨title, withContent, none, limit⟩ := by
  have same : s.revisions.reverse.filter (matchesQuery ⟨title, withContent, some k, limit⟩) =
      s.revisions.reverse.filter (matchesQuery ⟨title, withContent, none, limit⟩) := by
    refine List.filter_congr fun r member => ?_
    simp [matchesQuery, all r (List.mem_reverse.1 member)]
  rw [fetch_eq_answer, fetch_eq_answer, same]
  rfl

/-- What is read at a revision is what was the latest when it had been saved. -/
theorem fetch_at (pages : List (String × String)) (k : Nat) (title : String) (withContent : Bool)
    (limit : Option Nat) :
    (ofPages pages).fetch ⟨title, withContent, some k, limit⟩ =
      (ofPages (pages.take k)).fetch ⟨title, withContent, none, limit⟩ := by
  have length : (pages.take k).length = min k pages.length := List.length_take
  have next : (ofPages (pages.take k)).nextId = min k pages.length + 1 := by
    have counted := nextId_saveAll empty (pages.take k)
    rw [length] at counted
    exact counted.trans (Nat.add_comm _ _)
  have all : ∀ r ∈ (ofPages (pages.take k)).revisions, r.id ≤ k := by
    intro r member
    have numbered : r.id ∈ List.range' 1 (pages.take k).length :=
      map_id_ofPages (pages.take k) ▸ List.mem_map_of_mem member
    have bounds := List.mem_range'_1.1 numbered
    omega
  have split : ofPages pages = (ofPages (pages.take k)).saveAll (pages.drop k) := by
    rw [← ofPages_append, List.take_append_drop]
  have unseen : (ofPages pages).fetch ⟨title, withContent, some k, limit⟩ =
      (ofPages (pages.take k)).fetch ⟨title, withContent, some k, limit⟩ := by
    -- The pages after the first `k` have larger numbers; if there are no such pages, nothing was saved after.
    rw [split]
    by_cases inside : k ≤ pages.length
    · exact fetch_saveAll_of_lt rfl (by omega) _
    · rw [List.drop_of_length_le (by omega)]
      rfl
  exact unseen.trans (fetch_of_forall_le all title withContent limit)

/-- The revisions of a page are the places at which it was saved, the newest first. -/
theorem fetch_all (pages : List (String × String)) (title : String) (withContent : Bool) :
    (ofPages pages).fetch ⟨title, withContent, none, none⟩ =
      ((pages.zipIdx 1).filter fun (page, _) => page.1 == title).reverse.map fun (page, id) =>
        ⟨id, if withContent then some page.2 else none⟩ := by
  rw [fetch_eq_answer, revisions_ofPages, ← List.map_reverse, List.filter_map, ← List.filter_reverse,
    RevisionQuery.answer, Option.map_none, Option.getD_none, List.map_map]
  have asked : (matchesQuery ⟨title, withContent, none, none⟩ ∘ fun p : (String × String) × Nat =>
      (⟨p.2, p.1.1, p.1.2⟩ : SavedRevision)) = fun p => p.1.1 == title := by
    funext p
    simp [matchesQuery]
  rw [asked]
  rfl

theorem pairwise_fetch (pages : List (String × String)) (q : RevisionQuery) :
    ((ofPages pages).fetch q).Pairwise fun r r' => r'.id < r.id := by
  have upwards : (ofPages pages).revisions.Pairwise fun r r' => r.id < r'.id := by
    rw [← List.pairwise_map, map_id_ofPages]
    exact List.pairwise_lt_range'
  have found : ((ofPages pages).revisions.reverse.filter (matchesQuery q)).Pairwise fun r r' => r'.id < r.id :=
    (List.pairwise_reverse.2 upwards).filter _
  rw [fetch_eq_answer, RevisionQuery.answer, List.pairwise_map]
  cases q.limit with
  | none => exact found
  | some n => exact found.take

theorem fetch_limit (s : RevisionStore) (title : String) (withContent : Bool) (start : Option Nat) (n : Nat) :
    s.fetch ⟨title, withContent, start, some n⟩ = (s.fetch ⟨title, withContent, start, none⟩).take n := by
  rw [fetch_eq_answer, fetch_eq_answer, RevisionQuery.answer, RevisionQuery.answer, ← List.map_take]
  rfl

end RevisionStore

/-- A store that keeps the revisions of every page apart, oldest first. -/
structure PageHistories where
  pages : Keyed (Prod.fst : String × List SavedRevision → String)

namespace PageHistories

def empty : PageHistories := ⟨Keyed.empty⟩

/-- The revisions of a page; there are none of one that was never saved. -/
def history (h : PageHistories) (title : String) : List SavedRevision :=
  ((h.pages.get? title).map Prod.snd).getD []

def nextId (h : PageHistories) : Nat := Keyed.total (fun page => page.2.length) h.pages.items + 1

def save (h : PageHistories) (title content : String) : PageHistories :=
  ⟨h.pages.put (title, h.history title ++ [⟨h.nextId, title, content⟩])⟩

def ofPages (pages : List (String × String)) : PageHistories :=
  pages.foldl (fun h (title, content) => h.save title content) empty

def savedIds (h : PageHistories) : List (String × String) → List Nat
  | [] => []
  | (title, content) :: pages => h.nextId :: (h.save title content).savedIds pages

def fetch (h : PageHistories) (q : RevisionQuery) : List Revision :=
  match h.pages.get? q.title with
  | some page => q.answer (page.2.reverse.filter fun r => q.start.all (r.id ≤ ·))
  | none => []

/-- The histories are the parts of the log. -/
structure PartsOf (h : PageHistories) (s : RevisionStore) : Prop where
  total : Keyed.total (fun page => page.2.length) h.pages.items = s.revisions.length
  history : ∀ title, h.history title = s.revisions.filter (·.title == title)

variable {h : PageHistories} {s : RevisionStore}

theorem PartsOf.nextId (parts : h.PartsOf s) : h.nextId = s.nextId := congrArg (· + 1) parts.total

theorem PartsOf.save (parts : h.PartsOf s) (title content : String) :
    (h.save title content).PartsOf (s.save title content) where
  total := by
    -- One history grows by one revision, and the others weigh what they did.
    have sum := h.pages.total_put (title, h.history title ++ [⟨h.nextId, title, content⟩]) fun page => page.2.length
    have before : ((h.pages.get? title).map fun page => page.2.length).getD 0 = (h.history title).length := by
      unfold PageHistories.history
      cases h.pages.get? title <;> rfl
    simp only [before, parts.total, List.length_append, List.length_singleton] at sum
    simp only [PageHistories.save, RevisionStore.save, List.length_append, List.length_singleton]
    omega
  history other := by
    rw [PageHistories.history, PageHistories.save, Keyed.get?_put, RevisionStore.save, List.filter_append,
      ← parts.history other, ← parts.nextId]
    by_cases same : title = other
    · subst same
      simp
    · simp [same, PageHistories.history]

theorem partsOf_foldl_save (parts : h.PartsOf s) (pages : List (String × String)) :
    (pages.foldl (fun h (title, content) => h.save title content) h).PartsOf (s.saveAll pages) := by
  induction pages generalizing h s with
  | nil => exact parts
  | cons page pages ih => exact ih (parts.save page.1 page.2)

theorem partsOf_ofPages (pages : List (String × String)) : (ofPages pages).PartsOf (.ofPages pages) :=
  partsOf_foldl_save (h := empty) (s := .empty) ⟨rfl, fun _ => rfl⟩ pages

theorem PartsOf.savedIds (parts : h.PartsOf s) (pages : List (String × String)) :
    h.savedIds pages = s.savedIds pages := by
  induction pages generalizing h s with
  | nil => rfl
  | cons page pages ih =>
    rw [PageHistories.savedIds, RevisionStore.savedIds, parts.nextId, ih (parts.save page.1 page.2)]

theorem fetch_eq_answer (h : PageHistories) (q : RevisionQuery) :
    h.fetch q = q.answer ((h.history q.title).reverse.filter fun r => q.start.all (r.id ≤ ·)) := by
  unfold fetch history
  cases h.pages.get? q.title with
  | some page => rfl
  | none => cases limit : q.limit <;> simp [RevisionQuery.answer, limit]

theorem PartsOf.fetch (parts : h.PartsOf s) (q : RevisionQuery) : h.fetch q = s.fetch q := by
  rw [PageHistories.fetch_eq_answer, RevisionStore.fetch_eq_answer, parts.history, ← List.filter_reverse,
    List.filter_filter]
  refine congrArg q.answer (List.filter_congr fun r _ => ?_)
  rw [RevisionStore.matchesQuery, Bool.and_comm]

end PageHistories

theorem RuleStorage.fetch_at (storage : RuleStorage) (pages : List (String × String)) (k : Nat)
    (decode : Json → Option α) (domain : String) (kind : RuleKind) :
    storage.fetch (RevisionStore.ofPages pages).source decode domain kind (some k) =
      storage.fetch (RevisionStore.ofPages (pages.take k)).source decode domain kind none := by
  have same : (RevisionStore.ofPages pages).source (.latest (storage.title domain kind) (some k)) =
      (RevisionStore.ofPages (pages.take k)).source (.latest (storage.title domain kind) none) :=
    congrArg Except.ok (RevisionStore.fetch_at pages k (storage.title domain kind) true (some 1))
  rw [fetch, fetch, same]

/-- Let pages be saved in any sequence. Their revisions are numbered from one in that sequence, whether the store
keeps one log or a history for each page, and both answer the same. To start at revision `k` is to ask for the
latest when the first `k` pages had been saved, of a page as of the rules of a domain. All revisions of a page are
found, the newest first, and a limit cuts off the older ones. -/
theorem reading_at_revision_is_time_travel (pages : List (String × String)) :
    (RevisionStore.empty.savedIds pages = List.range' 1 pages.length ∧
      PageHistories.empty.savedIds pages = List.range' 1 pages.length ∧
      ∀ q, (PageHistories.ofPages pages).fetch q = (RevisionStore.ofPages pages).fetch q) ∧
    (∀ k title withContent limit,
      (RevisionStore.ofPages pages).fetch ⟨title, withContent, some k, limit⟩ =
        (RevisionStore.ofPages (pages.take k)).fetch ⟨title, withContent, none, limit⟩) ∧
    (∀ title withContent, (RevisionStore.ofPages pages).fetch ⟨title, withContent, none, none⟩ =
      ((pages.zipIdx 1).filter fun (page, _) => page.1 == title).reverse.map fun (page, id) =>
        ⟨id, if withContent then some page.2 else none⟩) ∧
    (∀ q, ((RevisionStore.ofPages pages).fetch q).Pairwise fun r r' => r'.id < r.id) ∧
    (∀ title withContent start n,
      (RevisionStore.ofPages pages).fetch ⟨title, withContent, start, some n⟩ =
        ((RevisionStore.ofPages pages).fetch ⟨title, withContent, start, none⟩).take n) ∧
    ∀ (storage : RuleStorage) (α : Type) (decode : Json → Option α) domain kind k,
      storage.fetch (RevisionStore.ofPages pages).source decode domain kind (some k) =
        storage.fetch (RevisionStore.ofPages (pages.take k)).source decode domain kind none := by
  have ids : RevisionStore.empty.savedIds pages = List.range' 1 pages.length := RevisionStore.empty.savedIds_eq pages
  have none : PageHistories.empty.PartsOf .empty := ⟨rfl, fun _ => rfl⟩
  refine ⟨⟨ids, (none.savedIds pages).trans ids, (PageHistories.partsOf_ofPages pages).fetch⟩, ?_, ?_, ?_, ?_, ?_⟩
  · intro k title withContent limit
    exact RevisionStore.fetch_at pages k title withContent limit
  · intro title withContent
    exact RevisionStore.fetch_all pages title withContent
  · intro q
    exact RevisionStore.pairwise_fetch pages q
  · intro title withContent start n
    exact RevisionStore.fetch_limit _ title withContent start n
  · intro storage α decode domain kind k
    exact storage.fetch_at pages k decode domain kind

-- A revision of another page is a moment like any other.
example : (RevisionStore.ofPages [("a", "1"), ("b", "2"), ("a", "3")]).fetch ⟨"a", true, some 2, none⟩ =
    [⟨1, some "1"⟩] := by decide

end WebCitation
