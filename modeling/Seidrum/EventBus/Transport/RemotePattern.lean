import Seidrum.EventBus.Dispatch.SubjectIndexSpec
import Seidrum.EventBus.Dispatch.Engine

/-!
# Patterns of remote callers

WebSocket and HTTP callers may register only on patterns whose first token is a literal other than
`_reply`, and their interceptors get a bounded priority and timeout.  The check reads the pattern as
a string; that no accepted pattern matches a reply subject is a fact about the tokens of both.
-/

namespace Seidrum.EventBus

/-- Minimum priority value a remote interceptor may use. -/
def minRemoteInterceptorPriority : ℕ := 100

/-- Maximum timeout of one call of a remote interceptor, in milliseconds. -/
def maxRemoteInterceptorTimeoutMs : ℕ := 2000

/-- Maximum length of a remote pattern in bytes. -/
def maxRemotePatternLength : ℕ := 256

inductive RemotePatternError
  | empty
  | tooLong (length maximum : ℕ)
  | unboundedPrefix (pattern : String)
  | reserved (pattern : String)
  | whitespace (pattern : String)
  | nulByte (pattern : String)
  | invalidToken (pattern reason : String)
  deriving DecidableEq, Repr

def RemotePatternError.message : RemotePatternError → String
  | empty => "pattern is empty"
  | tooLong length maximum =>
      "pattern length " ++ toString length ++ " exceeds maximum " ++ toString maximum
  | unboundedPrefix pattern => "pattern '" ++ pattern ++
      "' may not match the catch-all '>' / '*' wildcard at the first token " ++
      "(would match reserved '_reply.*' subjects)"
  | reserved pattern => "pattern '" ++ pattern ++
      "' targets a reserved internal subject ('_reply' / '_reply.*')"
  | whitespace pattern => "pattern '" ++ pattern ++ "' contains leading/trailing whitespace"
  | nulByte pattern => "pattern '" ++ pattern ++ "' contains a NUL byte"
  | invalidToken pattern reason =>
      "pattern '" ++ pattern ++ "' contains an invalid token: " ++ reason

/-- The characters with the Unicode property White_Space. -/
def isWhitespace (c : Char) : Bool :=
  (9 ≤ c.toNat && c.toNat ≤ 13) || (0x2000 ≤ c.toNat && c.toNat ≤ 0x200a) ||
    c.toNat ∈ [0x20, 0x85, 0xa0, 0x1680, 0x2028, 0x2029, 0x202f, 0x205f, 0x3000]

/-- Drop the whitespace at both ends. -/
def trim (text : String) : String :=
  String.ofList ((text.toList.dropWhile isWhitespace).reverse.dropWhile isWhitespace).reverse

/-- The checks of a pattern before a remote caller may register on it. -/
def validateRemotePattern (pattern : String) : Except RemotePatternError Unit :=
  let first := (tokens pattern).head (tokens_ne_nil pattern)
  if pattern = "" then .error .empty
  else if maxRemotePatternLength < pattern.utf8ByteSize then
    .error (.tooLong pattern.utf8ByteSize maxRemotePatternLength)
  else if '\x00' ∈ pattern.toList then .error (.nulByte pattern)
  else if pattern ≠ trim pattern then .error (.whitespace pattern)
  else if "" ∈ tokens pattern then
    .error (.invalidToken pattern "empty token (consecutive or leading dots)")
  else if first = "*" ∨ first = ">" then .error (.unboundedPrefix pattern)
  else if first = "_reply" then .error (.reserved pattern)
  else if isReplySubject pattern then .error (.reserved pattern)
  else .ok ()

/-- Raise the priority of a remote interceptor to the floor. -/
def clampRemoteInterceptorPriority (priority : ℕ) : ℕ := max priority minRemoteInterceptorPriority

/-- Lower the timeout of a remote interceptor to the ceiling. -/
def clampRemoteInterceptorTimeout (timeoutMs : Option ℕ) : Option ℕ :=
  timeoutMs.map (min · maxRemoteInterceptorTimeoutMs)

/-- The first token of an accepted pattern is a literal other than `_reply`. -/
theorem first_of_validateRemotePattern {pattern : String}
    (h : validateRemotePattern pattern = .ok ()) :
    ∃ first rest, tokens pattern = first :: rest ∧
      first ≠ "*" ∧ first ≠ ">" ∧ first ≠ "_reply" := by
  obtain ⟨first, rest, hfirst⟩ := List.exists_cons_of_ne_nil (tokens_ne_nil pattern)
  unfold validateRemotePattern at h
  simp only [hfirst, List.head_cons] at h
  split_ifs at h with _ _ _ _ _ hwildcard hreserved
  rw [not_or] at hwildcard
  exact ⟨first, rest, hfirst, hwildcard.1, hwildcard.2, hreserved⟩

theorem tokens_of_isReplySubject {subject : String} (h : isReplySubject subject = true) :
    ∃ rest, tokens subject = "_reply" :: rest := by
  obtain ⟨rest, hrest⟩ := of_decide_eq_true h
  have hprefix : "_reply.".toList = ['_', 'r', 'e', 'p', 'l', 'y', '.'] := by decide
  have hsplit : splitDot subject.toList = "_reply".toList :: splitDot rest := by
    rw [← hrest, hprefix]
    simp [splitDot]
  exact ⟨(splitDot rest).map String.ofList, by simp [tokens, hsplit]⟩

theorem not_patternMatches_of_first_ne {first token : String} {pattern subject : List String}
    (hliteral : first ≠ "*" ∧ first ≠ ">") (hne : first ≠ token) :
    patternMatches (first :: pattern) (token :: subject) = false := by
  simp [patternMatches, hliteral.1, hliteral.2, hne]

/-- Remote patterns never see replies: whatever was subscribed and unsubscribed before, a lookup of
a reply subject returns no entry with an accepted pattern. -/
theorem remote_patterns_never_see_replies (ops : List IndexOp) {pattern subject : String}
    (haccepted : validateRemotePattern pattern = .ok ()) (hreply : isReplySubject subject = true) :
    ∀ entry ∈ (SubjectIndex.machine.run SubjectIndex.new ops).lookup subject,
      entry.subjectPattern ≠ pattern := by
  rintro entry hmem rfl
  obtain ⟨_, hmatches⟩ := (SubjectIndex.represents_run ops).mem_lookup_iff.mp hmem
  obtain ⟨first, rest, hfirst, hany, hrest, hreserved⟩ := first_of_validateRemotePattern haccepted
  obtain ⟨others, hothers⟩ := tokens_of_isReplySubject hreply
  simp [hfirst, hothers, not_patternMatches_of_first_ne ⟨hany, hrest⟩ hreserved] at hmatches

/-- A subscription on everything below `a` does not see a reply. -/
theorem remote_patterns_never_see_replies_rest :
    let entry : SubscriptionEntry :=
      { id := "s", subjectPattern := "a.>", priority := 0, mode := .async, channel := .webSocket,
        timeout := 5000, filter := none }
    ∀ other ∈ (SubjectIndex.machine.run SubjectIndex.new [.subscribe entry]).lookup "_reply.0",
      other.subjectPattern ≠ "a.>" :=
  remote_patterns_never_see_replies _ (by decide) (by decide)

end Seidrum.EventBus
