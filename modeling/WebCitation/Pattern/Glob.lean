import WebCitation.Error.Config
import WebCitation.Text.Split

/-! Globs over paths: one star stays within a segment, two stars span any number of segments. -/
namespace WebCitation

namespace Glob

inductive Member where
  | one (c : Char)
  | between (first last : Char)
deriving DecidableEq, Repr

def Member.holds (c : Char) : Member → Bool
  | one d => c == d
  | between first last => first ≤ c && c ≤ last

inductive Token where
  | char (c : Char)
  | anyChar
  | anyOf (members : List Member)
  | noneOf (members : List Member)
  /-- Any run of characters within a segment. -/
  | run
  /-- Any run of whole segments. -/
  | segments
deriving DecidableEq, Repr

def members : List Char → List Member
  | [] => []
  | first :: '-' :: last :: s => .between first last :: members s
  | c :: s => .one c :: members s

/-- A class after its opening bracket, and the text after the class. The first member may be a closing
bracket. -/
def class? : List Char → Option (Token × List Char)
  | '!' :: c :: s => (Text.cut? [']'] s).map fun (inside, s) => (.noneOf (members (c :: inside)), s)
  | ['!'] => none
  | c :: s => (Text.cut? [']'] s).map fun (inside, s) => (.anyOf (members (c :: inside)), s)
  | [] => none

theorem length_of_class? {s rest : List Char} {t : Token} (h : class? s = some (t, rest)) :
    rest.length < s.length := by
  unfold class? at h
  split at h
  · obtain ⟨⟨inside, after⟩, hc, he⟩ := Option.map_eq_some_iff.1 h
    have := Text.length_of_cut? hc
    cases he
    simp only [List.length_cons] at this ⊢
    omega
  · simp at h
  · obtain ⟨⟨inside, after⟩, hc, he⟩ := Option.map_eq_some_iff.1 h
    have := Text.length_of_cut? hc
    cases he
    simp only [List.length_cons] at this ⊢
    omega
  · simp at h

/-- The tokens of a glob. Two stars stand for whole segments only: `boundary` says that the text so far
is empty or ends with a slash, and the slash after them belongs to them. -/
def parse (boundary : Bool) (s : List Char) : Except GlobError (List Token) :=
  match s with
  | [] => .ok []
  | '*' :: '*' :: '*' :: _ => .error .wildcards
  | ['*', '*'] => if boundary then .ok [.segments] else .error .recursiveWildcards
  | '*' :: '*' :: '/' :: s =>
    if boundary then (parse true s).map (.segments :: ·) else .error .recursiveWildcards
  | '*' :: '*' :: _ => .error .recursiveWildcards
  | '*' :: s => (parse false s).map (.run :: ·)
  | '?' :: s => (parse false s).map (.anyChar :: ·)
  | '[' :: s =>
    match _h : class? s with
    | none => .error .range
    | some (token, rest) => (parse false rest).map (token :: ·)
  | c :: s => (parse (c == '/') s).map (.char c :: ·)
termination_by s.length
decreasing_by
  all_goals simp_wf
  all_goals try omega
  have h := length_of_class? _h
  omega

/-!
A text is matched by its ends: what some tokens accept is told for each end of the text at once, the whole text
first and the empty end last, so that no end is looked at twice.
-/

/-- The ends that begin with a character that satisfies `p`, after which an accepted end follows. -/
def afterChar (p : Char → Bool) : List Char → List Bool → List Bool
  | c :: s, _ :: accepted => (p c && accepted.headD false) :: afterChar p s accepted
  | _, _ => [false]

/-- The ends in which an accepted one follows some characters of one segment. -/
def withinSegment : List Char → List Bool → List Bool
  | c :: s, here :: accepted =>
    let later := withinSegment s accepted
    (here || (c != '/' && later.headD false)) :: later
  | _, accepted => accepted

/-- The ends in which an accepted one follows some slash, and all if the empty end is accepted. -/
def afterSlash : List Char → List Bool → List Bool
  | c :: s, _ :: accepted =>
    let later := afterSlash s accepted
    ((c == '/' && accepted.headD false) || later.headD false) :: later
  | _, accepted => accepted

/-- The ends of a text that begin with what a token stands for, where an accepted end follows. -/
def Token.before (t : Token) (s : List Char) (accepted : List Bool) : List Bool :=
  match t with
  | .char d => afterChar (· == d) s accepted
  | .anyChar => afterChar (· != '/') s accepted
  | .anyOf members => afterChar (fun c => c != '/' && members.any (·.holds c)) s accepted
  | .noneOf members => afterChar (fun c => c != '/' && !members.any (·.holds c)) s accepted
  | .run => withinSegment s accepted
  | .segments => List.zipWith (· || ·) accepted (afterSlash s accepted)

/-- The ends of a text that the tokens accept. -/
def acceptedEnds (ts : List Token) (s : List Char) : List Bool :=
  ts.foldr (fun t accepted => t.before s accepted) (s.map (fun _ => false) ++ [true])

def accepts (ts : List Token) (s : List Char) : Bool := (acceptedEnds ts s).headD false

theorem afterSlash_of_end (s : List Char) :
    afterSlash s (s.map (fun _ => false) ++ [true]) = List.replicate (s.length + 1) true := by
  induction s with
  | nil => rfl
  | cons c s ih =>
    simp only [List.map_cons, List.cons_append, afterSlash, ih]
    simp [List.replicate_succ]

theorem acceptedEnds_segments (s : List Char) :
    acceptedEnds [.segments] s = List.replicate (s.length + 1) true := by
  have joined : ∀ accepted : List Bool,
      List.zipWith (· || ·) accepted (List.replicate accepted.length true) = List.replicate accepted.length true := by
    intro accepted
    induction accepted with
    | nil => rfl
    | cons here accepted ih => simp [List.replicate_succ, ih]
  have length : (s.map (fun _ => false) ++ [true]).length = s.length + 1 := by simp
  rw [acceptedEnds, List.foldr_cons, List.foldr_nil, Token.before, afterSlash_of_end, ← length]
  exact joined _

/-- Two stars after the first slash accept every text that begins with a slash. -/
theorem accepts_slash_segments {s : List Char} (rooted : s.head? = some '/') :
    accepts [.char '/', .segments] s = true := by
  cases s with
  | nil => cases rooted
  | cons c s =>
    cases rooted
    have rest : acceptedEnds [.segments] ('/' :: s) = true :: List.replicate (s.length + 1) true :=
      acceptedEnds_segments ('/' :: s)
    have whole : acceptedEnds [.char '/', .segments] ('/' :: s) =
        Token.before (.char '/') ('/' :: s) (acceptedEnds [.segments] ('/' :: s)) := rfl
    rw [accepts, whole, rest]
    rfl

end Glob

/-- A glob that compiles. -/
structure Glob where
  text : String
  tokens : List Glob.Token
  compiled : Glob.parse true text.toList = .ok tokens
deriving DecidableEq, Repr

namespace Glob

def compile (text : String) : Except GlobError Glob :=
  match h : parse true text.toList with
  | .ok tokens => .ok ⟨text, tokens, h⟩
  | .error e => .error e

end Glob
end WebCitation
