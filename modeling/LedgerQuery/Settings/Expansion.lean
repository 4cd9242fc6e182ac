import LedgerQuery.Text.Alphanumeric

/-!
# Variables in texts

A text may refer to variables of the environment: `$` and a run of letters, numbers and
underscores is a reference to that run, and `$` with a name in braces is a reference to that name.
Every other character stands for itself, a dollar sign without a name too.

* `segments`: a text cut into characters and references, from left to right.
* `source_segments`: the segments put together again are the text.
* `expand`: the text with each reference replaced by its value, in one pass.
-/

namespace LedgerQuery

/-- The variables that are set, with their values. -/
abbrev Environment := List (String × String)

/-- The value of a variable. No variable has the empty name. -/
def Environment.get? (env : Environment) (name : String) : Option String :=
  if name = "" then none else env.lookup name

namespace Expansion

/-- A piece of a text with references. -/
inductive Segment where
  /-- A character that stands for itself. -/
  | literal (c : Char)
  /-- A name in braces. The closing one may be missing at the end of the text. -/
  | braced (name : List Char) (isClosed : Bool)
  /-- A name without braces. -/
  | bare (name : List Char)
  deriving DecidableEq, Repr

/-- The characters of a name without braces. -/
def isNameChar (c : Char) : Bool :=
  Text.isAlphanumeric c || c == '_'

/-- The characters of a name in braces. -/
def isInside (c : Char) : Bool := c != '\x7d'

/-- The rest behind the characters that a test accepts is not longer. -/
theorem length_dropWhile_le {α : Type} (p : α → Bool) (xs : List α) :
    (xs.dropWhile p).length ≤ xs.length := by
  induction xs with
  | nil => simp
  | cons x r ih =>
    by_cases h : p x = true
    · simp only [List.dropWhile_cons, h, if_true, List.length_cons]
      omega
    · simp [h]

/-- Cuts a text into its segments. -/
def segments : List Char → List Segment
  | [] => []
  | c :: r =>
    if c = '$' then
      match r with
      | [] => [.literal c]
      | d :: s =>
        if d = '\x7b' then
          .braced (s.takeWhile isInside) (!(s.dropWhile isInside).isEmpty) ::
            segments ((s.dropWhile isInside).drop 1)
        else if isNameChar d then
          .bare (d :: s.takeWhile isNameChar) :: segments (s.dropWhile isNameChar)
        else .literal c :: segments (d :: s)
    else .literal c :: segments r
termination_by cs => cs.length
decreasing_by
  all_goals simp_wf
  · have := length_dropWhile_le isInside s
    omega
  · have := length_dropWhile_le isNameChar s
    omega

namespace Segment

/-- The characters that a segment is written with. -/
def source : Segment → List Char
  | .literal c => [c]
  | .braced name isClosed => ['$', '\x7b'] ++ name ++ if isClosed then ['\x7d'] else []
  | .bare name => '$' :: name

/-- The name that a segment refers to. -/
def name? : Segment → Option String
  | .literal _ => none
  | .braced name _ => some (String.ofList name)
  | .bare name => some (String.ofList name)

end Segment

theorem takeWhile_append_closing (s : List Char) :
    s.takeWhile isInside ++ ((if (!(s.dropWhile isInside).isEmpty) = true then ['\x7d'] else []) ++
      (s.dropWhile isInside).drop 1) = s := by
  induction s with
  | nil => rfl
  | cons c r ih =>
    by_cases h : isInside c = true
    · simp only [List.takeWhile_cons, List.dropWhile_cons, h, if_true, List.cons_append]
      rw [ih]
    · have hc : c = '\x7d' := by simpa [isInside] using h
      subst hc
      simp [isInside]

/-- The segments put together again are the text. -/
theorem source_segments (cs : List Char) : (segments cs).flatMap Segment.source = cs := by
  fun_induction segments cs with
  | case1 => rfl
  | case2 => simp [Segment.source]
  | case3 s ih =>
    simp only [List.flatMap_cons, ih, Segment.source, List.append_assoc,
      takeWhile_append_closing, List.cons_append, List.nil_append]
  | case4 d s hd hn ih =>
    simp only [List.flatMap_cons, ih, Segment.source, List.cons_append,
      List.takeWhile_append_dropWhile]
  | case5 d s hd hn ih => simp [Segment.source, ih]
  | case6 c r h ih => simp [Segment.source, ih]

/-- A variable that is referred to and not set. -/
structure Missing where
  name : String
  deriving DecidableEq, Repr

/-- The message about a variable that is not set. -/
def Missing.message (e : Missing) : String :=
  "Missing environment variable: " ++ e.name

/-- What a segment stands for. -/
def value (env : Environment) (s : Segment) : Except Missing String :=
  match s with
  | .literal c => .ok (String.ofList [c])
  | .braced name _ | .bare name =>
    match env.get? (String.ofList name) with
    | some v => .ok v
    | none => .error ⟨String.ofList name⟩

/-- What segments stand for together. The first variable that is not set is reported. -/
def values (env : Environment) : List Segment → Except Missing String
  | [] => .ok ""
  | s :: r =>
    match value env s with
    | .error e => .error e
    | .ok v => (values env r).map (v ++ ·)

/-- The text with each reference replaced by its value. -/
def expand (env : Environment) (s : String) : Except Missing String :=
  values env (segments s.toList)

end Expansion

end LedgerQuery
