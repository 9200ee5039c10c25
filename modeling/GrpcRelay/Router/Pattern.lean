/-
  Path patterns — the paths that a route is mounted on.

  `{name}` stands for the rest of a segment, which in the last segment of a
  path must not be empty, and `{*name}` for the non-empty rest of the path;
  `{{` and `}}` stand for braces.  Nothing but a slash may follow a parameter
  and nothing at all a catch-all.  The names do not matter, so a pattern is a
  list of parts without them.
-/
import GrpcRelay.Text.Cut

namespace GrpcRelay

/-- One part of a pattern. -/
inductive PatternPart where
  | literal (c : Char)
  /-- The rest of a segment. -/
  | param
  /-- The rest of the path. -/
  | rest
  deriving DecidableEq, Repr

/-- Why a pattern is refused. -/
inductive PatternError where
  /-- The pattern does not begin with a slash. -/
  | noSlash
  /-- A segment begins with `:` or `*`. -/
  | oldSyntax
  /-- A brace without its partner, an empty name, or a name with a star or a slash. -/
  | badParameter
  /-- A parameter is followed by something other than a slash, or a catch-all by anything. -/
  | followed
  /-- There are more parameters than a route may have. -/
  | tooMany
  /-- The pattern cannot be told apart from one that is already mounted. -/
  | conflict
  deriving DecidableEq, Repr

/-- A pattern: what it matches, character by character. -/
abbrev Pattern := List PatternPart

namespace Pattern

/-- The characters with doubled braces taken together; the flag marks such a brace. -/
def unescape : List Char → List (Char × Bool)
  | [] => []
  | [c] => [(c, false)]
  | a :: b :: r =>
    if a = b ∧ (a = '\x7b' ∨ a = '\x7d') then (a, true) :: unescape r
    else (a, false) :: unescape (b :: r)

/-- What follows the closing brace of a name, if the name is well formed up to there. -/
def afterName : List (Char × Bool) → Option (List (Char × Bool))
  | [] => none
  | (c, escaped) :: r =>
    if c = '\x7d' then if escaped then afterName r else some r
    else if c = '*' ∨ c = '/' then none
    else afterName r

theorem afterName_length {s r : List (Char × Bool)} (h : afterName s = some r) :
    r.length < s.length := by
  induction s with
  | nil => simp [afterName] at h
  | cons x t ih =>
    obtain ⟨c, escaped⟩ := x
    simp only [afterName] at h
    simp only [List.length_cons]
    split at h
    · split at h
      · have := ih h; omega
      · obtain rfl := Option.some.inj h; omega
    · split at h
      · simp at h
      · have := ih h; omega

/-- The kind of the parameter after an opening brace, and what follows it. -/
def cutParam : List (Char × Bool) → Option (PatternPart × List (Char × Bool))
  | [] => none
  | (c, _) :: r =>
    if c = '\x7d' then none
    else if c = '*' then
      if r.head? = some ('\x7d', false) then none else (afterName r).map fun t => (.rest, t)
    else (afterName r).map fun t => (.param, t)

theorem cutParam_length {s t : List (Char × Bool)} {p : PatternPart}
    (h : cutParam s = some (p, t)) : t.length < s.length := by
  unfold cutParam at h
  split at h
  · simp at h
  · rename_i c _ r
    have key : ∀ (k : PatternPart), ((afterName r).map fun t => (k, t)) = some (p, t) →
        t.length < r.length := by
      intro k hk
      obtain ⟨u, hu, he⟩ := Option.map_eq_some_iff.1 hk
      obtain ⟨_, rfl⟩ := Prod.mk.inj he
      exact afterName_length hu
    simp only [List.length_cons]
    split at h
    · simp at h
    · split at h
      · split at h
        · simp at h
        · have := key _ h; omega
      · have := key _ h; omega

/-- Reads the parts of a pattern. -/
def readParts (s : List (Char × Bool)) : Except PatternError Pattern :=
  match s with
  | [] => .ok []
  | (c, escaped) :: r =>
    if escaped then (readParts r).map (.literal c :: ·)
    else if c = '\x7d' then .error .badParameter
    else if c = '\x7b' then
      match h : cutParam r with
      | none => .error .badParameter
      | some (part, t) =>
        have : t.length < r.length := cutParam_length h
        if t = [] then .ok [part]
        else if part = .rest ∨ t.head? ≠ some ('/', false) then .error .followed
        else (readParts t).map (part :: ·)
    else (readParts r).map (.literal c :: ·)
termination_by s.length

/-- Whether a segment begins with one of the marks that older patterns gave a meaning to. -/
def hasOldSyntax (s : List Char) : Bool :=
  (Text.pieces '/' s).any fun segment => segment.head? = some ':' || segment.head? = some '*'

/-- The number of parameters that a route stays below. -/
def maxParams : Nat := 26

/-- Reads a pattern. -/
def parse (s : String) : Except PatternError Pattern :=
  let cs := s.toList
  if cs.head? ≠ some '/' then .error .noSlash
  else if hasOldSyntax cs then .error .oldSyntax
  else
    match readParts (unescape cs) with
    | .error e => .error e
    | .ok p => if maxParams ≤ p.count .param then .error .tooMany else .ok p

/-- Whether two patterns cannot be mounted together: they are equal, or after a common start one
    goes on with a parameter and the other with a catch-all. -/
def conflicts : Pattern → Pattern → Bool
  | [], [] => true
  | .rest :: _, .rest :: _ => true
  | .rest :: _, .param :: _ => true
  | .param :: _, .rest :: _ => true
  | a :: p, b :: q => a == b && conflicts p q
  | _, _ => false

end Pattern

end GrpcRelay
