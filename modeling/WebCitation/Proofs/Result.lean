import Mathlib.Data.List.Forall2
import WebCitation.Webpage.Given

/-!
What readings come to. The result of a reading on sources that have answered is defined without polls and
without time. Every run comes to the same value, or fails where that result is a failure, whenever the answers
arrive and whatever was read before.
-/
namespace WebCitation

/-- What the sources answer in the end. -/
structure Served where
  page : Except FetchError FetchedPage
  citoid : Except FetchError SimpleCitation

/-- The sources have answered nothing else than what they answer in the end. -/
structure Answers.AreFrom (a : Answers) (s : Served) : Prop where
  page : ∀ x, a.page = some x → x = s.page
  citoid : ∀ x, a.citoid = some x → x = s.citoid

theorem toOption_bind (x : Except ε α) (f : α → Except ε β) :
    (x.bind f).toOption = x.toOption.bind fun y => (f y).toOption := by
  cases x <;> rfl

theorem toOption_map (x : Except ε α) (f : α → β) : (x.map f).toOption = x.toOption.map f := by
  cases x <;> rfl

theorem bind_eq_ok_iff {x : Except ε α} {f : α → Except ε β} {y : β} :
    x.bind f = .ok y ↔ ∃ a, x = .ok a ∧ f a = .ok y := by
  cases x <;> simp [Except.bind]

theorem bind_eq_error_iff {x : Except ε α} {f : α → Except ε β} {e : ε} :
    x.bind f = .error e ↔ x = .error e ∨ ∃ a, x = .ok a ∧ f a = .error e := by
  cases x <;> simp [Except.bind]

theorem map_eq_ok_iff {x : Except ε α} {f : α → β} {y : β} : x.map f = .ok y ↔ ∃ a, x = .ok a ∧ f a = y := by
  cases x <;> simp [Except.map]

theorem map_eq_error_iff {x : Except ε α} {f : α → β} {e : ε} : x.map f = .error e ↔ x = .error e := by
  cases x <;> simp [Except.map]

theorem exists_map_eq_ok_iff {x : Except ε α} {f : α → β} : (∃ y, x.map f = .ok y) ↔ ∃ a, x = .ok a := by
  cases x <;> simp [Except.map]

theorem mapM_eq_ok_iff {f : α → Except ε β} {xs : List α} {ys : List β} :
    xs.mapM f = .ok ys ↔ List.Forall₂ (fun x y => f x = .ok y) xs ys := by
  induction xs generalizing ys with
  | nil =>
    rw [List.mapM_nil, List.forall₂_nil_left_iff]
    exact ⟨fun h => (Except.ok.inj h).symm, fun h => congrArg Except.ok h.symm⟩
  | cons x xs ih =>
    rw [List.mapM_cons, List.forall₂_cons_left_iff]
    simp only [bind, bind_eq_ok_iff, ih]
    constructor
    · rintro ⟨y, hx, ys, hxs, made⟩
      exact ⟨y, ys, hx, hxs, (Except.ok.inj made).symm⟩
    · rintro ⟨y, ys, hx, hxs, made⟩
      exact ⟨y, hx, ys, hxs, congrArg Except.ok made.symm⟩

theorem mapM_eq_some_iff {f : α → Option β} {xs : List α} {ys : List β} :
    xs.mapM f = some ys ↔ List.Forall₂ (fun y x => f x = some y) ys xs := by
  induction xs generalizing ys with
  | nil => simp [eq_comm]
  | cons x xs ih =>
    rw [List.mapM_cons, List.forall₂_cons_right_iff]
    simp only [Option.bind_eq_bind, Option.bind_eq_some_iff, ih, Option.pure_def, Option.some.injEq]
    constructor
    · rintro ⟨y, hy, ys, hys, rfl⟩
      exact ⟨y, ys, hy, hys, rfl⟩
    · rintro ⟨y, ys, hy, hys, rfl⟩
      exact ⟨y, hy, ys, hys, rfl⟩

theorem exists_mem_of_forall₂ {R : α → β → Prop} {xs : List α} {ys : List β} (h : List.Forall₂ R xs ys) {y : β}
    (member : y ∈ ys) : ∃ x ∈ xs, R x y := by
  induction h with
  | nil => cases member
  | @cons x _ xs _ hx _ ih =>
    obtain rfl | later := List.mem_cons.1 member
    · exact ⟨x, List.mem_cons_self, hx⟩
    · obtain ⟨z, hz, related⟩ := ih later
      exact ⟨z, List.mem_cons_of_mem x hz, related⟩

theorem exists_forall₂_iff {R : α → β → Prop} {xs : List α} :
    (∃ ys, List.Forall₂ R xs ys) ↔ ∀ x ∈ xs, ∃ y, R x y := by
  induction xs with
  | nil => simp
  | cons x xs ih =>
    rw [List.forall_mem_cons, ← ih]
    simp only [List.forall₂_cons_left_iff]
    constructor
    · rintro ⟨_, y, ys, hx, hxs, rfl⟩
      exact ⟨⟨y, hx⟩, ys, hxs⟩
    · rintro ⟨⟨y, hx⟩, ys, hxs⟩
      exact ⟨_, y, ys, hx, hxs, rfl⟩

theorem exists_mapM_eq_ok_iff {f : α → Except ε β} {xs : List α} :
    (∃ ys, xs.mapM f = .ok ys) ↔ ∀ x ∈ xs, ∃ y, f x = .ok y := by
  simp only [mapM_eq_ok_iff, exists_forall₂_iff]

theorem exists_mem_of_mapM_eq_some {f : α → Option β} {xs : List α} {ys : List β} (h : xs.mapM f = some ys) {y : β}
    (member : y ∈ ys) : ∃ x ∈ xs, f x = some y :=
  exists_mem_of_forall₂ (mapM_eq_some_iff.1 h).flip member

theorem mapM_eq_none_of_mem {f : α → Option β} {xs : List α} {x : α} (member : x ∈ xs) (h : f x = none) :
    xs.mapM f = none := by
  rw [Option.eq_none_iff_forall_ne_some]
  intro ys made
  obtain ⟨y, _, known⟩ := exists_mem_of_forall₂ (mapM_eq_some_iff.1 made) member
  simp [h] at known

theorem filterMap_of_mapM {f : α → Option β} {g : β → Option γ} {k : α → Option γ}
    (agree : ∀ x y, f x = some y → g y = k x) {xs : List α} {ys : List β} (h : xs.mapM f = some ys) :
    ys.filterMap g = xs.filterMap k := by
  have related := mapM_eq_some_iff.1 h
  clear h
  induction related with
  | nil => rfl
  | @cons y x ys xs first _ ih => rw [List.filterMap_cons, List.filterMap_cons, agree x y first, ih]

theorem mapM_map_eq_ok_map {part : γ → α} {f : α → Except ε β} {g : γ → β} {xs : List γ}
    (h : ∀ x ∈ xs, f (part x) = .ok (g x)) : (xs.map part).mapM f = .ok (xs.map g) := by
  rw [mapM_eq_ok_iff, List.forall₂_map_left_iff, List.forall₂_map_right_iff, List.forall₂_same]
  exact h

theorem eq_ok_iff_toOption {x : Except ε α} {y : α} : x = .ok y ↔ x.toOption = some y := by
  cases x <;> simp [Except.toOption]

namespace Reading

/-- The result of a reading whose sources have answered. Its parts are read one after the other. -/
@[simp] def resultOn (s : Served) : Reading α → Except ReadingError α
  | done result => result
  | page => s.page.mapError .fetch
  | citoid => s.citoid.mapError .fetch
  | bind r f => (r.resultOn s).bind fun x => (f x).resultOn s
  | both r rs => consResult (r.resultOn s) (rs.resultOn s)
  | orFailure r rs => consResult (r.resultOn s) (rs.resultOn s)
  | ahead r rs _ => consResult (r.resultOn s) (rs.resultOn s)

theorem toOption_consResult (x : Except ReadingError α) (xs : Except ReadingError (List α)) :
    (consResult x xs).toOption = x.toOption.bind fun y => xs.toOption.map (y :: ·) := by
  cases x <;> cases xs <;> rfl

theorem eq_done_of_outcome? {r : Reading α} {result : Except ReadingError α}
    (h : r.outcome? = some result) : r = done result := by
  cases r <;> simp_all [outcome?]

theorem resultOn_of_outcome? {s : Served} {r : Reading α} {result : Except ReadingError α}
    (h : r.outcome? = some result) : r.resultOn s = result := by
  rw [eq_done_of_outcome? h, resultOn]

theorem resultOn_map (s : Served) (f : α → β) (r : Reading α) :
    (r.map f).resultOn s = (r.resultOn s).map f := by
  rw [map, resultOn]
  cases r.resultOn s <;> rfl

theorem toOption_of_outcome? {s : Served} {q r : Reading α} {result : Except ReadingError α}
    (same : (q.resultOn s).toOption = (r.resultOn s).toOption) (h : q.outcome? = some result) :
    result.toOption = (r.resultOn s).toOption := by
  rw [← same, eq_done_of_outcome? h, resultOn]

/-- An early outcome is that of the two results together, up to which failure it is. -/
theorem toOption_earlyOutcome {x : Except ReadingError α} {xs : Except ReadingError (List α)}
    {x? : Option (Except ReadingError α)} {xs? : Option (Except ReadingError (List α))}
    {result : Except ReadingError (List α)} (hx : ∀ y, x? = some y → y.toOption = x.toOption)
    (hxs : ∀ ys, xs? = some ys → ys.toOption = xs.toOption) (h : earlyOutcome x? xs? = some result) :
    result.toOption = (consResult x xs).toOption := by
  rw [toOption_consResult]
  match x?, xs? with
  | some (.error e), _ =>
    cases h
    rw [← hx _ rfl]
    rfl
  | some (.ok y), some (.error e) =>
    cases h
    rw [← hx _ rfl, ← hxs _ rfl]
    rfl
  | none, some (.error e) =>
    cases h
    rw [← hxs _ rfl]
    cases x <;> rfl
  | some (.ok y), some (.ok ys) =>
    cases h
    rw [← hx _ rfl, ← hxs _ rfl]
    rfl
  | some (.ok y), none => cases h
  | none, some (.ok ys) => cases h
  | none, none => cases h

theorem toOption_bothOutcome {x : Except ReadingError α} {xs : Except ReadingError (List α)}
    {x? : Option (Except ReadingError α)} {xs? : Option (Except ReadingError (List α))}
    {result : Except ReadingError (List α)} (hx : ∀ y, x? = some y → y.toOption = x.toOption)
    (hxs : ∀ ys, xs? = some ys → ys.toOption = xs.toOption) (h : bothOutcome x? xs? = some result) :
    result.toOption = (consResult x xs).toOption := by
  match x?, xs? with
  | some y, some ys =>
    cases h
    rw [toOption_consResult, toOption_consResult, hx _ rfl, hxs _ rfl]
  | some y, none => cases h
  | none, some ys => cases h
  | none, none => cases h

/-- A poll does not change what a reading comes to, up to which failure it is. -/
theorem toOption_resultOn_poll {s : Served} {a : Answers} (h : a.AreFrom s) (r : Reading α) :
    ((r.poll a).resultOn s).toOption = (r.resultOn s).toOption := by
  induction r with
  | done result => rfl
  | page =>
    cases hp : a.page with
    | none => simp [poll, hp]
    | some x => simp [poll, hp, h.page x hp]
  | citoid =>
    cases hc : a.citoid with
    | none => simp [poll, hc]
    | some x => simp [poll, hc, h.citoid x hc]
  | bind r f ihr ihf =>
    rw [resultOn, toOption_bind]
    obtain ⟨x, ends, left⟩ | ⟨e, ends, left⟩ | ⟨_, left⟩ := poll_bind_cases a r f <;> rw [left]
    · rw [← toOption_of_outcome? ihr ends, ihf x]
      rfl
    · rw [← toOption_of_outcome? ihr ends]
      rfl
    · rw [resultOn, toOption_bind, ihr]
  | both r rs ihr ihrs =>
    obtain ⟨result, ends, left⟩ | ⟨_, left⟩ := poll_both_cases a r rs <;> rw [left]
    · exact toOption_bothOutcome (fun _ => toOption_of_outcome? ihr) (fun _ => toOption_of_outcome? ihrs) ends
    · rw [resultOn, resultOn, toOption_consResult, toOption_consResult, ihr, ihrs]
  | orFailure r rs ihr ihrs =>
    -- The failure seen first may be the second in order, so only the values agree.
    obtain ⟨result, ends, left⟩ | ⟨_, left⟩ := poll_orFailure_cases a r rs <;> rw [left]
    · exact toOption_earlyOutcome (fun _ => toOption_of_outcome? ihr) (fun _ => toOption_of_outcome? ihrs) ends
    · rw [resultOn, resultOn, toOption_consResult, toOption_consResult, ihr, ihrs]
  | ahead r rs later ihr ihrs _ =>
    rw [resultOn, toOption_consResult]
    obtain ⟨x, result, ends, second, left⟩ | ⟨x, ends, _, left⟩ | ⟨e, ends, left⟩ | ⟨_, left⟩ :=
      poll_ahead_cases a r rs later <;> rw [left]
    · rw [← toOption_of_outcome? ihr ends, ← toOption_of_outcome? ihrs second, resultOn, toOption_map]
      rfl
    · rw [← toOption_of_outcome? ihr ends, ← ihrs, resultOn_map, toOption_map]
      rfl
    · rw [← toOption_of_outcome? ihr ends]
      rfl
    · rw [resultOn, toOption_consResult, ihr]

theorem resultOn_map_eq_ok_iff {s : Served} {f : α → β} {r : Reading α} {y : β} :
    (r.map f).resultOn s = .ok y ↔ ∃ x, r.resultOn s = .ok x ∧ f x = y := by
  rw [resultOn_map, map_eq_ok_iff]

theorem consResult_eq_do (x : Except ReadingError α) (xs : Except ReadingError (List α)) :
    consResult x xs = do return (← x) :: (← xs) := by
  cases x <;> cases xs <;> rfl

/-! Readings that go on at once come to what they come to one after the other. -/

theorem resultOn_all (s : Served) (rs : List (Reading α)) :
    (all rs).resultOn s = rs.mapM (resultOn s) := by
  induction rs with
  | nil => rfl
  | cons r rs ih => rw [all, resultOn, ih, consResult_eq_do, List.mapM_cons]

theorem resultOn_inTurn (s : Served) (rs : List (Reading α)) :
    (inTurn rs).resultOn s = rs.mapM (resultOn s) := by
  induction rs with
  | nil => rfl
  | cons r rs ih =>
    rw [inTurn, resultOn, List.mapM_cons]
    simp only [resultOn_map, ih]
    cases r.resultOn s <;> cases rs.mapM (resultOn s) <;> rfl

theorem resultOn_untilFailure (s : Served) (rs : List (Reading α)) :
    (untilFailure rs).resultOn s = rs.mapM (resultOn s) := by
  induction rs with
  | nil => rfl
  | cons r rs ih => rw [untilFailure, resultOn, ih, consResult_eq_do, List.mapM_cons]

theorem resultOn_untilFailureInOrder (s : Served) (rs : List (Reading α)) :
    (untilFailureInOrder rs).resultOn s = rs.mapM (resultOn s) := by
  induction rs with
  | nil => rfl
  | cons r rs ih => rw [untilFailureInOrder, resultOn, ih, consResult_eq_do, List.mapM_cons]

end Reading

namespace Lookup

/-- What the lookup answers in the end: what its settled fetch did, or else what its service does. -/
def eventual (l : Lookup α) : Except FetchError α := l.cache.latest?.getD l.served

theorem eventual_read (l : Lookup α) (now : Nat) : (l.read false now).eventual = l.eventual := by
  unfold read
  split
  · rename_i h
    have none : l.cache.shared = none := by simpa [ResponseCache.issues_false] using h
    simp [eventual, ResponseCache.read_of_issues h, ResponseCache.latest?, ResponseCache.answer?,
      ResponseCache.issue, ResponseCache.calls, none]
  · rfl

theorem eventual_settleBy {l : Lookup α} (h : l.Begun) (now : Nat) :
    (l.settleBy now).eventual = l.eventual := by
  have served : (l.settleBy now).served = l.served := by
    unfold settleBy
    split <;> rfl
  unfold eventual
  rw [latest?_settleBy h, served]
  split
  · rfl
  · rfl

@[simp] theorem eventual_poll (l : Lookup α) (now : Nat) : (l.poll now).eventual = l.eventual := by
  rw [poll, eventual_settleBy (begun_read l now), eventual_read]

theorem eq_eventual_of_answer? {l : Lookup α} {now : Nat} {x : Except FetchError α}
    (h : l.answer? now = some x) : x = l.eventual := by
  rw [← eventual_poll l now, eventual]
  unfold answer? at h
  rw [h]
  rfl

end Lookup

namespace Visit

/-- What the sources of a visit answer in the end. -/
def served (v : Visit) : Served := ⟨v.page.eventual, v.citoid.eventual⟩

theorem areFrom_served (v : Visit) : v.answers.AreFrom v.served where
  page _ h := Lookup.eq_eventual_of_answer? h
  citoid _ h := Lookup.eq_eventual_of_answer? h

@[simp] theorem served_poll (v : Visit) (asked : List Source) : (v.poll asked).served = v.served := by
  simp only [served, poll]
  congr 1 <;> split <;> simp

@[simp] theorem served_wait (v : Visit) (asked : List Source) : (v.wait asked).served = v.served := rfl

/-- A run comes to the value of the result on what its sources answer in the end, or fails where that result is
a failure. -/
theorem toOption_run (r : Reading α) (v : Visit) :
    (v.run r).1.toOption = (r.resultOn v.served).toOption := by
  fun_induction run r v with
  | case1 r v result h =>
    rw [← Reading.toOption_resultOn_poll v.areFrom_served r, Reading.eq_done_of_outcome? h]
    rfl
  | case2 r v h ih =>
    rw [ih, served_wait, served_poll, Reading.toOption_resultOn_poll v.areFrom_served r]

theorem run_eq_ok_iff (r : Reading α) (v : Visit) (x : α) :
    (v.run r).1 = .ok x ↔ r.resultOn v.served = .ok x := by
  rw [eq_ok_iff_toOption, eq_ok_iff_toOption, toOption_run]

/-- Two visits of one webpage whose sources answer the same in the end, whatever was read before and whenever
the answers come. -/
structure Alike (v w : Visit) : Prop where
  webpage : v.webpage = w.webpage
  served : v.served = w.served

theorem alike_start (w : Webpage) (page : Except FetchError FetchedPage)
    (citoid : Except FetchError SimpleCitation) (pageDelay citoidDelay pageDelay' citoidDelay' : Option Nat) :
    (start w page citoid pageDelay citoidDelay).Alike (start w page citoid pageDelay' citoidDelay') :=
  ⟨rfl, rfl⟩

end Visit
end WebCitation
