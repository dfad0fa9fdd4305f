import WebCitation.Html.Page
import WebCitation.Proofs.Failures
import WebCitation.Proofs.NormalForm

/-!
Which expressions never fail. The kind of value that an expression stands for does not depend on the page, unless a
part of it is at fault. A page without content leaves some parts alone: predicates, the right operands of `or` and
`and`, and tests with a qualifier. Where these are in order, an expression that is accepted fails on no page.
-/
namespace WebCitation
namespace XPath

inductive Kind where
  | nodes
  | number
  | text
  | truth
deriving DecidableEq, Repr

def Value.kind : Value → Kind
  | nodes _ => .nodes
  | number _ => .number
  | text _ => .text
  | truth _ => .truth

def answerKind? (function : String) (arguments : List Kind) : Option Kind :=
  match function, arguments with
  | "last", [] | "position", [] | "count", [.nodes] | "sum", [.nodes] => some .number
  | "local-name", [] | "local-name", [.nodes] | "name", [] | "name", [.nodes] => some .text
  | "namespace-uri", [] | "namespace-uri", [.nodes] => some .text
  | "string", [] | "string", [_] | "normalize-space", [] | "normalize-space", [_] => some .text
  | "concat", _ :: _ :: _ => some .text
  | "substring-before", [_, _] | "substring-after", [_, _] => some .text
  | "substring", [_, _] | "substring", [_, _, _] | "translate", [_, _, _] => some .text
  | "starts-with", [_, _] | "contains", [_, _] => some .truth
  | "boolean", [_] | "not", [_] | "true", [] | "false", [] => some .truth
  | "string-length", [] | "string-length", [_] | "number", [] | "number", [_] => some .number
  | "floor", [_] | "ceiling", [_] | "round", [_] => some .number
  | _, _ => none

def Operator.kind? (o : Operator) (left right : Kind) : Option Kind :=
  match o with
  | .union => if left = .nodes ∧ right = .nodes then some .nodes else none
  | .plus | .minus | .times | .divide | .remainder => some .number
  | _ => some .truth

/-- The operators whose left operand may settle the answer. -/
def Operator.mayStopEarly : Operator → Bool
  | .or | .and => true
  | _ => false

def NodeTest.isUnqualified : NodeTest → Bool
  | .qualified .. => false
  | _ => true

mutual

/-- The kind of an expression on every page, if all of its parts are in order. -/
def Expr.kind? : Expr → Option Kind
  | .root | .here => some .nodes
  | .number _ => some .number
  | .literal _ => some .text
  | .reference _ => none
  | .call function arguments =>
    if functionNames.contains function then (kindsOf? arguments).bind (answerKind? function) else none
  | .operation o left right => left.kind?.bind fun k => right.kind?.bind fun m => o.kind? k m
  | .negation operand => operand.kind?.map fun _ => .number
  | .filter base predicate =>
    if base.kind? = some .nodes ∧ predicate.kind?.isSome then some .nodes else none
  | .step start _ test predicates =>
    if start.kind? = some .nodes ∧ test.isUnqualified ∧ (kindsOf? predicates).isSome then some .nodes else none

def kindsOf? : List Expr → Option (List Kind)
  | [] => some []
  | e :: es => e.kind?.bind fun k => (kindsOf? es).map fun ks => k :: ks

end

mutual

/-- Whether the parts that an evaluation may leave alone are in order. -/
def Expr.hiddenPartsFit : Expr → Bool
  | .call _ arguments => allHiddenPartsFit arguments
  | .operation o left right =>
    left.hiddenPartsFit && right.hiddenPartsFit && (!o.mayStopEarly || right.kind?.isSome)
  | .negation operand => operand.hiddenPartsFit
  | .filter base predicate => base.hiddenPartsFit && predicate.kind?.isSome
  | .step start _ test predicates =>
    start.hiddenPartsFit && test.isUnqualified && (kindsOf? predicates).isSome
  | _ => true

def allHiddenPartsFit : List Expr → Bool
  | [] => true
  | e :: es => e.hiddenPartsFit && allHiddenPartsFit es

end

theorem isSome_kindsOf?_iff {es : List Expr} :
    (kindsOf? es).isSome = true ↔ ∀ e ∈ es, e.kind?.isSome = true := by
  induction es with
  | nil => simp [kindsOf?]
  | cons e es ih =>
    rw [List.forall_mem_cons, ← ih, kindsOf?]
    cases e.kind? <;> simp

theorem allHiddenPartsFit_iff {es : List Expr} :
    allHiddenPartsFit es = true ↔ ∀ e ∈ es, e.hiddenPartsFit = true := by
  induction es with
  | nil => simp [allHiddenPartsFit]
  | cons e es ih => rw [List.forall_mem_cons, ← ih, allHiddenPartsFit, Bool.and_eq_true]

/-- Induction on expressions; what holds of the arguments of a call, or of the predicates of a step, holds of each. -/
@[elab_as_elim]
theorem Expr.induction {motive : Expr → Prop} (root : motive .root) (here : motive .here)
    (number : ∀ x, motive (.number x)) (literal : ∀ s, motive (.literal s))
    (reference : ∀ name, motive (.reference name))
    (call : ∀ function arguments, (∀ e ∈ arguments, motive e) → motive (.call function arguments))
    (operation : ∀ o left right, motive left → motive right → motive (.operation o left right))
    (negation : ∀ operand, motive operand → motive (.negation operand))
    (filter : ∀ base predicate, motive base → motive predicate → motive (.filter base predicate))
    (step : ∀ start axis test predicates, motive start → (∀ e ∈ predicates, motive e) →
      motive (.step start axis test predicates))
    (e : Expr) : motive e := by
  induction e using Expr.rec (motive_2 := fun es => ∀ e ∈ es, motive e) with
  | root => exact root
  | here => exact here
  | number x => exact number x
  | literal s => exact literal s
  | reference name => exact reference name
  | call function arguments ih => exact call function arguments ih
  | operation o left right ihl ihr => exact operation o left right ihl ihr
  | negation operand ih => exact negation operand ih
  | filter base predicate ihb ihp => exact filter base predicate ihb ihp
  | step start axis test predicates ihs ihp => exact step start axis test predicates ihs ihp
  | nil =>
    rename_i e member
    cases member
  | cons head tail ihHead ihTail =>
    rename_i e member
    obtain rfl | later := List.mem_cons.1 member
    · exact ihHead
    · exact ihTail e later

theorem Expr.hiddenPartsFit_of_kind? (e : Expr) (kinded : e.kind?.isSome = true) : e.hiddenPartsFit = true := by
  induction e using Expr.induction with
  | root | here | number | literal | reference => rfl
  | call function arguments ih =>
    rw [Expr.kind?] at kinded
    split at kinded
    · obtain ⟨k, hk⟩ := Option.isSome_iff_exists.1 kinded
      obtain ⟨ks, hks, -⟩ := Option.bind_eq_some_iff.1 hk
      have each := isSome_kindsOf?_iff.1 (Option.isSome_of_eq_some hks)
      exact allHiddenPartsFit_iff.2 fun e member => ih e member (each e member)
    · cases kinded
  | operation o left right ihl ihr =>
    rw [Expr.kind?] at kinded
    obtain ⟨k, hk⟩ := Option.isSome_iff_exists.1 kinded
    obtain ⟨kl, hl, hk⟩ := Option.bind_eq_some_iff.1 hk
    obtain ⟨kr, hr, -⟩ := Option.bind_eq_some_iff.1 hk
    have fitLeft := ihl (Option.isSome_of_eq_some hl)
    have fitRight := ihr (Option.isSome_of_eq_some hr)
    simp [Expr.hiddenPartsFit, fitLeft, fitRight, hr]
  | negation operand ih =>
    rw [Expr.kind?, Option.isSome_map] at kinded
    exact ih kinded
  | filter base predicate ihb _ =>
    rw [Expr.kind?] at kinded
    split at kinded
    · rename_i fits
      have fitBase := ihb (Option.isSome_of_eq_some fits.1)
      simp [Expr.hiddenPartsFit, fitBase, fits.2]
    · cases kinded
  | step start axis test predicates ihs _ =>
    rw [Expr.kind?] at kinded
    split at kinded
    · rename_i fits
      have fitStart := ihs (Option.isSome_of_eq_some fits.1)
      simp [Expr.hiddenPartsFit, fitStart, fits.2.1, fits.2.2]
    · cases kinded

/-! Functions and operators, by the kinds of their operands alone. -/

theorem map_kind_answer? (d : Document) (c : Context) : ∀ function ∈ functionNames, ∀ vs : List Value,
    (answer? d c function vs).map Value.kind = answerKind? function (vs.map Value.kind) := by
  simp only [functionNames, List.forall_mem_cons, List.not_mem_nil, false_imp_iff, implies_true, and_true]
  and_intros
  all_goals
    rintro (_ | ⟨_ | _ | _ | _, _ | ⟨w, _ | ⟨x, _ | ⟨y, vs⟩⟩⟩⟩) <;> rfl

theorem map_kind_applyFunction (d : Document) (c : Context) {function : String}
    (known : functionNames.contains function = true) (vs : List Value) :
    (applyFunction d c function vs).toOption.map Value.kind = answerKind? function (vs.map Value.kind) := by
  rw [← map_kind_answer? d c function (List.contains_iff_mem.1 known), applyFunction, known]
  cases answer? d c function vs <;> rfl

theorem map_kind_applyOperator (d : Document) (o : Operator) (v w : Value) :
    (applyOperator d o v w).toOption.map Value.kind = o.kind? v.kind w.kind := by
  cases o with
  | union => cases v <;> cases w <;> rfl
  | _ => rfl

theorem kind_of_settledBy {o : Operator} {v answer : Value} (h : settledBy o v = some answer) :
    o.mayStopEarly = true ∧ answer.kind = .truth := by
  cases o with
  | or | and =>
    unfold settledBy at h
    cases truth : v.asTruth
    all_goals
      simp only [truth, if_true, Bool.false_eq_true, if_false, Option.some.injEq, reduceCtorEq] at h
      try exact ⟨rfl, h ▸ rfl⟩
  | _ => cases h

/-! Where no condition fails, lists of nodes are filtered without a failure. -/

theorem exists_filterAuxM {p : α → Except ε Bool} (total : ∀ x, ∃ b, p x = .ok b) (xs kept : List α) :
    ∃ ys, xs.filterAuxM p kept = .ok ys := by
  induction xs generalizing kept with
  | nil => exact ⟨kept, rfl⟩
  | cons x xs ih =>
    obtain ⟨b, hx⟩ := total x
    obtain ⟨ys, hxs⟩ := ih (cond b (x :: kept) kept)
    exact ⟨ys, by rw [List.filterAuxM, hx]; exact hxs⟩

theorem exists_filterM {p : α → Except ε Bool} (total : ∀ x, ∃ b, p x = .ok b) (xs : List α) :
    ∃ ys, xs.filterM p = .ok ys := by
  obtain ⟨ys, h⟩ := exists_filterAuxM total xs []
  exact ⟨ys.reverse, by rw [List.filterM, h]; rfl⟩

theorem exists_filterFrom {holds : Context → Except Fault Value} (total : ∀ c, ∃ v, holds c = .ok v)
    (size position : Nat) (ns : List Node) : ∃ kept, filterFrom holds size position ns = .ok kept := by
  induction ns generalizing position with
  | nil => exact ⟨[], rfl⟩
  | cons n ns ih =>
    obtain ⟨v, hv⟩ := total ⟨n, position, size⟩
    obtain ⟨rest, hrest⟩ := ih (position + 1)
    exact ⟨_, by rw [filterFrom, hv, hrest]; rfl⟩

theorem exists_filterByAll {d : Document} {es : List Expr}
    (total : ∀ e ∈ es, ∀ c, ∃ v, e.eval d c = .ok v) (ns : List Node) : ∃ kept, filterByAll d es ns = .ok kept := by
  induction es generalizing ns with
  | nil => exact ⟨ns, rfl⟩
  | cons e es ih =>
    rw [List.forall_mem_cons] at total
    obtain ⟨passed, hp⟩ := exists_filterFrom total.1 ns.length 1 ns
    obtain ⟨kept, hk⟩ := ih total.2 passed
    exact ⟨kept, by rw [filterByAll, filterNodes, hp]; exact hk⟩

theorem exists_passes {test : NodeTest} (unqualified : test.isUnqualified = true) (d : Document) (axis : Axis)
    (n : Node) : ∃ b, passes d axis test n = .ok b := by
  cases test with
  | qualified => cases unqualified
  | instruction target =>
    unfold passes
    dsimp only
    split <;> exact ⟨_, rfl⟩
  | _ => exact ⟨_, rfl⟩

theorem exists_stepFromAll {d : Document} {test : NodeTest} (unqualified : test.isUnqualified = true)
    {select : List Node → Except Fault (List Node)} (total : ∀ ns, ∃ kept, select ns = .ok kept) (axis : Axis)
    (starts : List Node) : ∃ ns, stepFromAll d axis test select starts = .ok ns := by
  have each : ∀ n ∈ starts, ∃ ns, stepFrom d axis test select n = .ok ns := by
    intro n _
    obtain ⟨candidates, hc⟩ := exists_filterM (exists_passes unqualified d axis) (d.along axis n)
    obtain ⟨kept, hk⟩ := total candidates
    exact ⟨_, by rw [stepFrom, hc]; simp only [bind, Except.bind, hk]; rfl⟩
  obtain ⟨reached, hr⟩ := exists_mapM_eq_ok_iff.2 each
  exact ⟨_, by rw [stepFromAll, hr]; rfl⟩

/-! Evaluation. -/

/-- Where it is evaluated, an expression has a value of its kind, or none if it has no kind. -/
def Expr.KeepsKind (d : Document) (c : Context) (e : Expr) : Prop :=
  (e.eval d c).toOption.map Value.kind = e.kind?

section

variable {d : Document} {c : Context}

theorem map_kind_evalAll {es : List Expr} (each : ∀ e ∈ es, e.KeepsKind d c) :
    (evalAll d es c).toOption.map (List.map Value.kind) = kindsOf? es := by
  induction es with
  | nil => rfl
  | cons e es ih =>
    rw [List.forall_mem_cons] at each
    rw [evalAll, kindsOf?, ← each.1, ← ih each.2]
    cases e.eval d c with
    | error => rfl
    | ok v => cases evalAll d es c <;> rfl

/-- A hidden part that has a kind has a value wherever it is evaluated. -/
theorem exists_eval_of_hidden {e : Expr} (kinded : e.kind?.isSome = true)
    (kept : e.hiddenPartsFit = true → ∀ c, e.KeepsKind d c) (c : Context) : ∃ v, e.eval d c = .ok v := by
  have same : (e.eval d c).toOption.map Value.kind = e.kind? := kept (e.hiddenPartsFit_of_kind? kinded) c
  cases h : e.eval d c with
  | ok v => exact ⟨v, rfl⟩
  | error =>
    rw [h] at same
    rw [← same] at kinded
    cases kinded

/-- Nodes are selected among the nodes of an expression; of any other kind there are none. -/
theorem map_kind_of_nodes {base : Expr} (kept : base.KeepsKind d c) {select : List Node → Except Fault (List Node)}
    (total : ∀ ns, ∃ selected, select ns = .ok selected) :
    (do
      let ns ← (← base.eval d c).nodes?
      return Value.nodes (← select ns) : Except Fault Value).toOption.map Value.kind =
        if base.kind? = some .nodes then some .nodes else none := by
  rw [← kept]
  cases base.eval d c with
  | error => rfl
  | ok v =>
    cases v with
    | nodes ns =>
      obtain ⟨selected, h⟩ := total ns
      simp only [bind, Except.bind, Value.nodes?, h]
      rfl
    | _ => rfl

namespace Expr.KeepsKind

theorem call {function : String} {arguments : List Expr} (each : ∀ e ∈ arguments, e.KeepsKind d c) :
    (Expr.call function arguments).KeepsKind d c := by
  rw [KeepsKind, Expr.eval, Expr.kind?, ← map_kind_evalAll each]
  cases known : functionNames.contains function with
  | false => rfl
  | true =>
    cases evalAll d arguments c with
    | error => rfl
    | ok vs => exact map_kind_applyFunction d c known vs

theorem operation {o : Operator} {left right : Expr} (hl : left.KeepsKind d c) (hr : right.KeepsKind d c)
    (early : o.mayStopEarly = true → right.kind?.isSome = true) : (Expr.operation o left right).KeepsKind d c := by
  rw [KeepsKind, Expr.eval, Expr.kind?, ← hl]
  cases left.eval d c with
  | error => rfl
  | ok v =>
    simp only [bind, Except.bind]
    cases settled : settledBy o v with
    | none =>
      rw [← hr]
      cases right.eval d c with
      | error => rfl
      | ok w => exact map_kind_applyOperator d o v w
    | some answer =>
      -- The right operand is left alone, so nothing but its kind says that it is in order.
      obtain ⟨stops, truth⟩ := kind_of_settledBy settled
      obtain ⟨m, hm⟩ := Option.isSome_iff_exists.1 (early stops)
      rw [hm]
      cases o with
      | or | and => exact congrArg some truth
      | _ => cases stops

theorem negation {operand : Expr} (kept : operand.KeepsKind d c) : (Expr.negation operand).KeepsKind d c := by
  rw [KeepsKind, Expr.eval, Expr.kind?, ← kept]
  cases operand.eval d c <;> rfl

theorem filter {base predicate : Expr} (kept : base.KeepsKind d c) (kinded : predicate.kind?.isSome = true)
    (total : ∀ c, ∃ v, predicate.eval d c = .ok v) : (Expr.filter base predicate).KeepsKind d c := by
  have nodes := map_kind_of_nodes kept fun ns => exists_filterFrom total ns.length 1 ns
  simp only [KeepsKind, Expr.eval, Expr.kind?, kinded, and_true]
  exact nodes

theorem step {start : Expr} {axis : Axis} {test : NodeTest} {predicates : List Expr} (kept : start.KeepsKind d c)
    (unqualified : test.isUnqualified = true) (kinded : (kindsOf? predicates).isSome = true)
    (total : ∀ e ∈ predicates, ∀ c, ∃ v, e.eval d c = .ok v) :
    (Expr.step start axis test predicates).KeepsKind d c := by
  have nodes := map_kind_of_nodes kept fun ns =>
    exists_stepFromAll (d := d) unqualified (exists_filterByAll total) axis ns
  simp only [KeepsKind, Expr.eval, Expr.kind?, unqualified, kinded, and_true]
  exact nodes

end Expr.KeepsKind

/-- Where the hidden parts fit, the page decides neither whether an expression has a value nor of which kind. -/
theorem Expr.keepsKind (e : Expr) (fit : e.hiddenPartsFit = true) (c : Context) : e.KeepsKind d c := by
  induction e using Expr.induction generalizing c with
  | root | here | number | literal | reference => rfl
  | call function arguments ih =>
    rw [Expr.hiddenPartsFit, allHiddenPartsFit_iff] at fit
    exact .call fun e member => ih e member (fit e member) c
  | operation o left right ihl ihr =>
    simp only [Expr.hiddenPartsFit, Bool.and_eq_true, Bool.or_eq_true, Bool.not_eq_true'] at fit
    obtain ⟨⟨fitLeft, fitRight⟩, early⟩ := fit
    exact .operation (ihl fitLeft c) (ihr fitRight c) fun stops => early.resolve_left (by simp [stops])
  | negation operand ih => exact .negation (ih fit c)
  | filter base predicate ihb ihp =>
    simp only [Expr.hiddenPartsFit, Bool.and_eq_true] at fit
    exact .filter (ihb fit.1 c) fit.2 (exists_eval_of_hidden fit.2 ihp)
  | step start axis test predicates ihs ihp =>
    simp only [Expr.hiddenPartsFit, Bool.and_eq_true] at fit
    obtain ⟨⟨fitStart, unqualified⟩, kinded⟩ := fit
    refine .step (ihs fitStart c) unqualified kinded fun e member => ?_
    exact exists_eval_of_hidden (isSome_kindsOf?_iff.1 kinded e member) (ihp e member)

end

theorem Expr.exists_eval_iff {d : Document} {e : Expr} (fit : e.hiddenPartsFit = true) (c : Context) :
    (∃ v, e.eval d c = .ok v) ↔ e.kind?.isSome = true := by
  have kept : (e.eval d c).toOption.map Value.kind = e.kind? := e.keepsKind fit c
  rw [← kept, Option.isSome_map]
  cases e.eval d c <;> simp [Except.toOption]

theorem filterByAll_nil (d : Document) (es : List Expr) : filterByAll d es [] = .ok [] := by
  induction es with
  | nil => rfl
  | cons e es ih =>
    rw [filterByAll, filterNodes, filterFrom]
    exact ih

theorem eval_empty_of_element (name : String) (predicates : List Expr) (c : Context) :
    (Expr.step (.step .root .descendantOrSelf .any []) .child (.name name) predicates).eval .empty c =
      .ok (.nodes []) := by
  have start : (Expr.step .root .descendantOrSelf .any []).eval .empty c = .ok (.nodes [.tree 0]) := rfl
  have candidates : (Document.empty.along .child (.tree 0)).filterM (passes .empty .child (.name name)) =
      .ok [] := rfl
  have reached : stepFrom .empty .child (.name name) (filterByAll .empty predicates) (.tree 0) = .ok [] := by
    simp only [stepFrom, candidates, bind, Except.bind, filterByAll_nil]
    rfl
  rw [Expr.eval, start]
  simp only [bind, Except.bind, Value.nodes?, stepFromAll, List.mapM_cons, List.mapM_nil, reached]
  rfl

theorem accepts_iff {text : String} : accepts text = true ↔ ∃ v, evaluate .empty text = .ok v := by
  unfold accepts
  cases evaluate .empty text <;> simp

theorem exists_select_iff {d : Document} {text : String} :
    (∃ texts, select d text = .ok texts) ↔ ∃ v, evaluate d text = .ok v := by
  unfold select
  cases evaluate d text <;> simp [Except.map]

theorem exists_evaluate_iff {d : Document} {text : String}
    (fit : ∀ e, Expr.parse? text = some e → e.hiddenPartsFit = true) :
    (∃ v, evaluate d text = .ok v) ↔ ∃ e, Expr.parse? text = some e ∧ e.kind?.isSome = true := by
  unfold evaluate
  cases parsed : Expr.parse? text with
  | none => simp
  | some e =>
    rw [Expr.exists_eval_iff (fit e parsed)]
    simp

end XPath

theorem Selection.accepted_of_ofDefinition {type text : String} {expression : AcceptedExpression}
    (made : ofDefinition ⟨type, text⟩ = .ok (xpath (some expression))) : expression.text = text := by
  obtain ⟨_, other, _⟩ | ⟨_, same, given⟩ := ofDefinition_cases made
  · cases other
  · cases same
    exact AcceptedExpression.text_of_ofText (config_of_unlessBlank given).1

/-- An expression whose hidden parts are in order is accepted if all its parts have kinds, and then it selects texts
on every page, so no selection of it ever blames it. -/
theorem accepted_expression_selects_on_every_page {text : String}
    (fit : ∀ e, XPath.Expr.parse? text = some e → e.hiddenPartsFit = true) :
    (XPath.accepts text = true ↔ ∃ e, XPath.Expr.parse? text = some e ∧ e.kind?.isSome = true) ∧
      (∀ d, XPath.accepts text = true ↔ ∃ texts, XPath.select d text = .ok texts) ∧
      ∀ type selection, Selection.ofDefinition ⟨type, text⟩ = .ok selection →
        ∀ (v : Visit) expression, (v.run selection.reading).1 ≠ .error (.xpath expression) := by
  have accepted_iff : XPath.accepts text = true ↔ ∃ e, XPath.Expr.parse? text = some e ∧ e.kind?.isSome = true :=
    XPath.accepts_iff.trans (XPath.exists_evaluate_iff fit)
  have selects_iff : ∀ d, XPath.accepts text = true ↔ ∃ texts, XPath.select d text = .ok texts := by
    intro d
    rw [accepted_iff, XPath.exists_select_iff, XPath.exists_evaluate_iff fit]
  refine ⟨accepted_iff, selects_iff, ?_⟩
  intro type selection made v expression failed
  rw [selection.run_reading] at failed
  obtain ⟨_, other⟩ | ⟨_, other⟩ | ⟨accepted, p, fault, rfl, hx, _⟩ := Selection.error_of_reading failed
  · cases other
  · cases other
  · have same : accepted.text = text := Selection.accepted_of_ofDefinition made
    obtain ⟨texts, selected⟩ := (selects_iff p.document).1 (same ▸ accepted.accepted)
    rw [same, selected] at hx
    cases hx

namespace HiddenPredicate

def bodies (predicate : XPath.Expr) : XPath.Expr :=
  .step (.step .root .descendantOrSelf .any []) .child (.name "body") [predicate]

def known : String := "//body[not(p)]"

def unknown : String := "//body[foo()]"

theorem parse?_known :
    XPath.Expr.parse? known = some (bodies (.call "not" [.step .here .child (.name "p") []])) := by
  have tokens : XPath.Token.ofText? known.toList =
      some [.slash, .axis .descendantOrSelf, .test .any, .slash, .test (.name "body"), .openBracket, .call "not",
        .openParen, .test (.name "p"), .closeParen, .closeBracket] := rfl
  rw [XPath.Expr.parse?, tokens]
  rfl

theorem parse?_unknown : XPath.Expr.parse? unknown = some (bodies (.call "foo" [])) := by
  have tokens : XPath.Token.ofText? unknown.toList =
      some [.slash, .axis .descendantOrSelf, .test .any, .slash, .test (.name "body"), .openBracket, .call "foo",
        .openParen, .closeParen, .closeBracket] := rfl
  rw [XPath.Expr.parse?, tokens]
  rfl

theorem known_selects_on_every_page :
    XPath.accepts known = true ∧ ∀ body, ∃ texts, XPath.select (.ofNodes (Html.parse body)) known = .ok texts := by
  have fit : ∀ e, XPath.Expr.parse? known = some e → e.hiddenPartsFit = true := by
    intro e parsed
    rw [parse?_known] at parsed
    cases parsed
    decide
  obtain ⟨accepted_iff, selects_iff, -⟩ := accepted_expression_selects_on_every_page fit
  have accepted : XPath.accepts known = true := accepted_iff.2 ⟨_, parse?_known, by decide⟩
  exact ⟨accepted, fun body => (selects_iff _).1 accepted⟩

def page : FetchedPage := .ofBody "https://q.r/" ""

def visit : Visit :=
  .start ⟨⟨.https, "", "", "q.r", none, "/", none, none⟩⟩ (.ok page) (.error .transport) none none

/-- No function is called `foo`, which shows on the first page that has a body: on any page. -/
theorem unknown_is_accepted_and_fails :
    XPath.accepts unknown = true ∧
      XPath.select (.ofNodes (Html.parse "")) unknown = .error (.unknownFunction "foo") ∧
      ∃ selection, Selection.ofDefinition ⟨"xpath", unknown⟩ = .ok selection ∧
        (visit.run selection.reading).1 = .error (.xpath unknown) := by
  have accepted : XPath.accepts unknown = true := by
    rw [XPath.accepts_iff, XPath.evaluate, parse?_unknown]
    exact ⟨_, XPath.eval_empty_of_element "body" _ _⟩
  have fails : XPath.select (.ofNodes (Html.parse "")) unknown = .error (.unknownFunction "foo") := by
    have tree : Html.parse "" =
        [.element (.plain "html") [] [.element (.plain "head") [] [], .element (.plain "body") [] []]] := rfl
    rw [XPath.select, XPath.evaluate, parse?_unknown, tree]
    rfl
  refine ⟨accepted, fails, .xpath (some ⟨unknown, accepted⟩), ?_, ?_⟩
  · have filled : unknown.trimmed ≠ "" := by decide
    have made : AcceptedExpression.ofText unknown = .ok ⟨unknown, accepted⟩ := dif_pos accepted
    rw [Selection.ofDefinition]
    simp only [Selection.unlessBlank, if_neg filled, made]
    rfl
  · have blamed : Selection.textsOf ⟨unknown, accepted⟩ page = .error (.xpath unknown) := by
      rw [Selection.textsOf, FetchedPage.document, page, FetchedPage.ofBody, fails]
      rfl
    have fetched : visit.served.page = .ok page := rfl
    rw [Selection.run_reading, Selection.reading, Reading.resultOn, Reading.resultOn, fetched]
    exact blamed

end HiddenPredicate
end WebCitation
